import Mathlib.Algebra.BigOperators.Group.List.Basic
import Mathlib.Order.Bounds.Basic
import Mathlib.Order.MinMax
import Mathlib.Tactic.Abel

/-! # Extrema and sums of rows

A fold that keeps the better of two values finds the extremum. -/

namespace AiTrader.Library

section Extrema

variable {Row Value : Type} [LinearOrder Value]

/-- A fold of the greater value finds the greatest one. -/
theorem isGreatest_foldl_max (value : Row → Value) (rows : List Row) (first : Value) :
    IsGreatest {found | found = first ∨ ∃ row ∈ rows, found = value row}
      (rows.foldl (fun best row => max best (value row)) first) := by
  induction rows generalizing first with
  | nil => exact ⟨.inl rfl, by rintro _ (rfl | ⟨_, member, _⟩); exacts [le_rfl, absurd member List.not_mem_nil]⟩
  | cons row later ih =>
    obtain ⟨attained, bound⟩ := ih (max first (value row))
    constructor
    · rcases attained with head | ⟨other, member, tail⟩
      · rcases max_choice first (value row) with own | own
        · exact .inl (head.trans own)
        · exact .inr ⟨row, List.mem_cons_self, head.trans own⟩
      · exact .inr ⟨other, List.mem_cons_of_mem row member, tail⟩
    · have above : max first (value row) ≤ later.foldl (fun best row => max best (value row)) (max first (value row)) :=
        bound (.inl rfl)
      rintro _ (rfl | ⟨other, member, rfl⟩)
      · exact (le_max_left _ _).trans above
      · rcases List.mem_cons.mp member with rfl | member
        · exact (le_max_right _ _).trans above
        · exact bound (.inr ⟨other, member, rfl⟩)

/-- A fold of the lesser value finds the least one. -/
theorem isLeast_foldl_min (value : Row → Value) (rows : List Row) (first : Value) :
    IsLeast {found | found = first ∨ ∃ row ∈ rows, found = value row}
      (rows.foldl (fun best row => min best (value row)) first) :=
  @isGreatest_foldl_max Row (OrderDual Value) _ value rows first

end Extrema

section Cells

variable {Row Cell Weight : Type} [AddCommMonoid Weight] (within : Cell → Row → Bool) (weight : Row → Weight)

/-- The rows of two selections that share no row add up to the rows of either. -/
theorem sum_filter_or {first second : Row → Bool} {rows : List Row}
    (disjoint : ∀ row ∈ rows, first row = true → second row = false) :
    ((rows.filter fun row => first row || second row).map weight).sum =
      ((rows.filter first).map weight).sum + ((rows.filter second).map weight).sum := by
  induction rows with
  | nil => simp
  | cons row later ih =>
    have rest := ih fun other member => disjoint other (List.mem_cons_of_mem row member)
    have own := disjoint row List.mem_cons_self
    cases former : first row with
    | true => simp only [List.filter_cons, former, own former, Bool.true_or, if_true, Bool.false_eq_true, if_false,
        List.map_cons, List.sum_cons, rest, add_assoc]
    | false =>
      cases latter : second row with
      | true =>
        simp only [List.filter_cons, former, latter, Bool.or_true, if_true, Bool.false_eq_true, if_false, List.map_cons,
          List.sum_cons, rest]
        abel
      | false => simp only [List.filter_cons, former, latter, Bool.or_false, Bool.false_eq_true, if_false, rest]

/-- Cells that share no row add up to the rows that are in a cell. -/
theorem sum_cells {cells : List Cell} {rows : List Row}
    (disjoint : cells.Pairwise fun former latter => ∀ row ∈ rows, within former row = true → within latter row = false) :
    (cells.map fun cell => ((rows.filter (within cell)).map weight).sum).sum =
      ((rows.filter fun row => cells.any fun cell => within cell row).map weight).sum := by
  induction cells with
  | nil => simp
  | cons cell later ih =>
    obtain ⟨apart, rest⟩ := List.pairwise_cons.mp disjoint
    simp only [List.map_cons, List.sum_cons, List.any_cons]
    rw [ih rest, sum_filter_or weight]
    intro row member own
    rw [List.any_eq_false]
    intro other listed
    rw [apart other listed row member own]
    decide

end Cells

end AiTrader.Library
