import Mathlib.Data.List.Sort
import Mathlib.Order.Basic

/-! # Covering a range by intervals

Intervals with both ends, taken in the order of their first points, cover a range when none of them begins past the first
point that is still open. -/

namespace AiTrader.Library

variable {R : Type} (first last : R → Int)

/-- Every point of a range is in an interval. -/
def Covers (rows : List R) (low high : Int) : Prop :=
  ∀ point, low ≤ point → point ≤ high → ∃ row ∈ rows, first row ≤ point ∧ point ≤ last row

/-- The first point from `next` on left open, or the first past `high`; `none` when an interval is not admitted or begins
past the open point. -/
def sweep (admits : R → Bool) (low high : Int) : Int → List R → Option Int
  | next, [] => some next
  | next, row :: rest =>
    if last row < low ∨ high < first row then sweep admits low high next rest
    else if admits row = false ∨ next < first row then none
    else
      let reached := if next ≤ last row then last row + 1 else next
      if high < reached then some reached else sweep admits low high reached rest

variable {first last} {admits : R → Bool} {low high next reached : Int} {rows : List R}

/-- What the sweep has passed is covered by admitted intervals. -/
theorem sweep_sound (swept : sweep first last admits low high next rows = some reached) {point : Int}
    (from_ : next ≤ point) (passed : point < reached) :
    ∃ row ∈ rows, admits row = true ∧ first row ≤ point ∧ point ≤ last row := by
  induction rows generalizing next with
  | nil =>
    cases swept
    omega
  | cons row rest ih =>
    have later (swept : sweep first last admits low high (if next ≤ last row then last row + 1 else next) rest = some reached)
        (from_ : (if next ≤ last row then last row + 1 else next) ≤ point) :
        ∃ other ∈ row :: rest, admits other = true ∧ first other ≤ point ∧ point ≤ last other := by
      obtain ⟨other, member, found⟩ := ih swept from_
      exact ⟨other, List.mem_cons_of_mem row member, found⟩
    unfold sweep at swept
    dsimp only at swept
    split_ifs at swept with outside refused ahead ended ended
    · obtain ⟨other, member, found⟩ := ih swept from_
      exact ⟨other, List.mem_cons_of_mem row member, found⟩
    all_goals rw [not_or, Bool.not_eq_false] at refused
    · cases swept
      exact ⟨row, List.mem_cons_self, refused.1, by omega, by omega⟩
    · by_cases within : point ≤ last row
      · exact ⟨row, List.mem_cons_self, refused.1, by omega, within⟩
      · exact later (by rwa [if_pos ahead]) (by omega)
    · cases swept
      omega
    · exact later (by rwa [if_neg ahead]) (by omega)

/-- The sweep gets past the range when its intervals are admitted, in order, and cover what is open. -/
theorem sweep_complete (admitted : ∀ row ∈ rows, low ≤ last row → first row ≤ high → admits row = true)
    (sorted : rows.Pairwise fun row other => first row ≤ first other) (start : low ≤ next) (open_ : next ≤ high)
    (covers : Covers first last rows next high) :
    ∃ reached, sweep first last admits low high next rows = some reached ∧ high < reached := by
  induction rows generalizing next with
  | nil =>
    obtain ⟨row, member, _⟩ := covers next le_rfl open_
    exact absurd member List.not_mem_nil
  | cons row rest ih =>
    obtain ⟨begins, sorted⟩ := List.pairwise_cons.mp sorted
    have admitted' : ∀ other ∈ rest, low ≤ last other → first other ≤ high → admits other = true :=
      fun other member => admitted other (List.mem_cons_of_mem row member)
    -- What the head does not reach, the rest has to cover.
    have covered {reached : Int} (from_ : next ≤ reached) (past : ∀ point, reached ≤ point → point ≤ high →
        ¬ (first row ≤ point ∧ point ≤ last row)) : Covers first last rest reached high := by
      intro point after before
      obtain ⟨other, member, found⟩ := covers point (by omega) before
      rcases List.mem_cons.mp member with rfl | member
      · exact absurd found (past point after before)
      · exact ⟨other, member, found⟩
    unfold sweep
    dsimp only
    split_ifs with outside refused ahead ended ended
    · exact ih admitted' sorted start open_ (covered le_rfl (by omega))
    · have taken := admitted row List.mem_cons_self (by omega) (by omega)
      have late : next < first row := refused.resolve_left (by rw [taken]; decide)
      obtain ⟨other, member, begun, _⟩ := covers next le_rfl open_
      rcases List.mem_cons.mp member with rfl | member
      · omega
      · have := begins other member
        omega
    · exact ⟨_, rfl, ended⟩
    · exact ih admitted' sorted (by omega) (by omega) (covered (by omega) (by omega))
    · omega
    · exact ih admitted' sorted start open_ (covered le_rfl (by omega))

end AiTrader.Library
