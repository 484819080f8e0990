import Mathlib.Data.List.Basic

/-! # Logs

What holds of every entry of a log and the entries before it is kept by appending an entry of which it holds. -/

namespace AiTrader.Library

variable {α : Type} {log : List α} {entry : α} {holds other : List α → α → Prop}

/-- Every entry holds after the entries before it. -/
def Throughout (holds : List α → α → Prop) (log : List α) : Prop :=
  ∀ before entry after, log = before ++ entry :: after → holds before entry

theorem throughout_nil : Throughout holds [] := fun before _ after none => by
  cases before <;> cases none

theorem throughout_concat : Throughout holds (log ++ [entry]) ↔ Throughout holds log ∧ holds log entry := by
  constructor
  · intro throughout
    refine ⟨fun before found after same => ?_, throughout log entry [] rfl⟩
    exact throughout before found (after ++ [entry]) (by rw [same, List.append_assoc, List.cons_append])
  · rintro ⟨throughout, last⟩ before found after same
    rcases List.eq_nil_or_concat after with rfl | ⟨front, final, rfl⟩
    · obtain ⟨rfl, one⟩ := List.append_inj' same rfl
      obtain rfl := List.singleton_inj.mp one
      exact last
    · rw [List.concat_eq_append, ← List.cons_append, ← List.append_assoc] at same
      obtain ⟨rfl, _⟩ := List.append_inj' same rfl
      exact throughout before found front rfl

theorem Throughout.of_prefix {longer : List α} (throughout : Throughout holds longer) (earlier : log <+: longer) :
    Throughout holds log := by
  obtain ⟨added, rfl⟩ := earlier
  intro before entry after same
  exact throughout before entry (after ++ added) (by rw [same, List.append_assoc, List.cons_append])

/-- Nothing that is counted lies between two points with the same count. -/
theorem uncounted_of_countP_eq {counted : α → Bool} {early late : List α}
    (same : (early ++ late).countP counted = early.countP counted) : ∀ entry ∈ late, counted entry = false := by
  rw [List.countP_append] at same
  have none : late.countP counted = 0 := by omega
  intro entry member
  exact Bool.eq_false_iff.mpr (List.countP_eq_zero.mp none entry member)

end AiTrader.Library
