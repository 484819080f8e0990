import Mathlib.Algebra.BigOperators.Group.List.Basic
import Mathlib.Algebra.Order.Group.Defs
import Mathlib.Algebra.BigOperators.Group.List.Lemmas
import Mathlib.Algebra.Order.BigOperators.Group.List
import Mathlib.Algebra.Order.Group.Unbundled.Basic
import Mathlib.Data.Int.Cast.Defs
import Mathlib.Data.Nat.Cast.Basic

/-! # Two selections of one table

Two queries add up weights over different selections of a table, and are compared row by row. -/

namespace AiTrader.Library

namespace Selection

variable {Row Weight : Type} {rows : List Row} {first second : Row → Bool} {weight : Row → Weight}

section Monoid

variable [AddCommMonoid Weight]

/-- What the selected rows weigh together. -/
def weigh (weight : Row → Weight) (selected : Row → Bool) (rows : List Row) : Weight :=
  ((rows.filter selected).map weight).sum

/-- The rows of one selection that the other leaves out. -/
def only (first second : Row → Bool) (row : Row) : Bool := first row && !second row

/-- The rows of both selections. -/
def both (first second : Row → Bool) (row : Row) : Bool := first row && second row

theorem weigh_cons (row : Row) (rows : List Row) :
    weigh weight first (row :: rows) = (if first row then weight row else 0) + weigh weight first rows := by
  unfold weigh
  cases selected : first row with
  | true => simp [selected]
  | false => simp [selected]

/-- A selection whose rows all have one of the keys weighs what its parts by key weigh together. -/
theorem weigh_partition {Key : Type} [DecidableEq Key] (weight : Row → Weight) (selected : Row → Bool) (key : Row → Key)
    {keys : List Key} (distinct : keys.Nodup) (covered : ∀ row ∈ rows, selected row = true → key row ∈ keys) :
    weigh weight selected rows =
      (keys.map fun part => weigh weight (fun row => selected row && decide (key row = part)) rows).sum := by
  have indicator : ∀ (part : Key) (amount : Weight) (keys : List Key), keys.Nodup →
      (keys.map fun other => if part = other then amount else 0).sum = if part ∈ keys then amount else 0 := by
    intro part amount keys distinct
    induction keys with
    | nil => rfl
    | cons other rest ih =>
      obtain ⟨fresh, distinctRest⟩ := List.nodup_cons.mp distinct
      rw [List.map_cons, List.sum_cons, ih distinctRest]
      by_cases same : part = other
      · rw [if_pos same, if_neg (same ▸ fresh), if_pos (same ▸ List.mem_cons_self), add_zero]
      · simp [same]
  induction rows with
  | nil => simp [weigh]
  | cons row rest ih =>
    have split : (keys.map fun part => weigh weight (fun row => selected row && decide (key row = part)) (row :: rest)) =
        keys.map fun part => (if key row = part then if selected row then weight row else 0 else 0) +
          weigh weight (fun row => selected row && decide (key row = part)) rest := by
      apply List.map_congr_left
      intro part _
      rw [weigh_cons]
      by_cases same : key row = part
      · simp [same]
      · simp [same]
    rw [split, List.sum_map_add, weigh_cons, ih fun other member => covered other (List.mem_cons_of_mem _ member),
      indicator _ _ _ distinct]
    by_cases chosen : selected row = true
    · rw [if_pos (covered row List.mem_cons_self chosen)]
    · simp [chosen]

end Monoid

/-- A selection in which every row counts for no more weighs no more. -/
theorem weigh_mono [AddCommMonoid Weight] [PartialOrder Weight] [IsOrderedAddMonoid Weight] {other : Row → Weight}
    (below : ∀ row ∈ rows, (if first row then weight row else 0) ≤ if second row then other row else 0) :
    weigh weight first rows ≤ weigh other second rows := by
  induction rows with
  | nil => simp [weigh]
  | cons row rest ih =>
    rw [weigh_cons, weigh_cons]
    exact add_le_add (below row List.mem_cons_self) (ih fun later member => below later (List.mem_cons_of_mem _ member))

/-- Selections that differ on weightless rows only weigh the same. -/
theorem weigh_eq_of_agree [AddCommMonoid Weight] (agree : ∀ row ∈ rows, weight row ≠ 0 → first row = second row) :
    weigh weight first rows = weigh weight second rows := by
  induction rows with
  | nil => rfl
  | cons row rest ih =>
    rw [weigh_cons, weigh_cons, ih fun later member => agree later (List.mem_cons_of_mem _ member)]
    by_cases weightless : weight row = 0
    · simp [weightless]
    · rw [agree row List.mem_cons_self weightless]

/-- Two selections of the same weight do not differ in exactly one row that weighs something. -/
theorem length_ne_one_of_weigh_eq [AddCommGroup Weight] [DecidableEq Weight]
    (same : weigh weight first rows = weigh weight second rows) :
    (rows.filter fun row => first row != second row && decide (weight row ≠ 0)).length ≠ 1 := by
  have apart : ∀ row rest, first row ≠ second row → weight row ≠ 0 →
      (rest.filter fun row => first row != second row && decide (weight row ≠ 0)) = [] →
      weigh weight first (row :: rest) ≠ weigh weight second (row :: rest) := by
    intro row rest differ weighs empty equal
    have tail : weigh weight first rest = weigh weight second rest := by
      apply weigh_eq_of_agree
      intro later member laterWeighs
      have dropped := List.filter_eq_nil_iff.mp empty later member
      simpa [laterWeighs] using dropped
    rw [weigh_cons, weigh_cons, tail] at equal
    have heads := add_right_cancel equal
    cases chosen : first row <;> cases other : second row <;> simp_all
  induction rows with
  | nil => simp
  | cons row rest ih =>
    by_cases alone : first row ≠ second row ∧ weight row ≠ 0
    · rw [List.filter_cons_of_pos (by simpa using alone), List.length_cons]
      intro single
      exact apart row rest alone.1 alone.2 (List.length_eq_zero_iff.mp (by omega)) same
    · rw [List.filter_cons_of_neg (by simpa using alone)]
      apply ih
      rw [weigh_cons, weigh_cons] at same
      by_cases weightless : weight row = 0
      · simpa [weightless] using same
      · have equal : first row = second row := by
          by_contra differ
          exact alone ⟨differ, weightless⟩
        rw [equal] at same
        exact add_left_cancel same

/-- A selection inside another selects as many rows exactly when it misses none. -/
theorem length_filter_eq_iff (inside : ∀ row, second row = true → first row = true) :
    (rows.filter first).length = (rows.filter second).length ↔ ∀ row ∈ rows, first row = true → second row = true := by
  induction rows with
  | nil => simp
  | cons row rest ih =>
    have fewer : (rest.filter second).length ≤ (rest.filter first).length := by
      have sublist := List.monotone_filter_right rest inside
      exact sublist.length_le
    rw [List.forall_mem_cons, ← ih]
    cases covered : second row with
    | true => simp [covered, inside row covered]
    | false =>
      cases selected : first row with
      | true =>
        simp only [List.filter_cons, selected, covered, if_true, Bool.false_eq_true, if_false, List.length_cons]
        constructor
        · intro same
          omega
        · intro missed
          exact absurd (missed.1 trivial) id
      | false => simp [selected, covered]

end Selection

end AiTrader.Library
