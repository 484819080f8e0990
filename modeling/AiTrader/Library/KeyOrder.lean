import Mathlib.Data.List.Sort
import AiTrader.Library.Paging

/-! # Rows in the order of a key

A stable sort by a key that no two rows share depends on the rows alone, not on the order they came in. -/

namespace AiTrader.Library

section

variable {Row Key : Type} [LinearOrder Key] {key : Row → Key} {rows others : List Row}

/-- The rows in ascending order of their key. -/
def byKey (key : Row → Key) (rows : List Row) : List Row :=
  rows.insertionSort fun left right => key left ≤ key right

theorem mem_byKey {row : Row} : row ∈ byKey key rows ↔ row ∈ rows :=
  List.mem_insertionSort _

theorem perm_byKey (key : Row → Key) (rows : List Row) : (byKey key rows).Perm rows :=
  List.perm_insertionSort _ rows

theorem pairwise_byKey (key : Row → Key) (rows : List Row) :
    (byKey key rows).Pairwise fun left right => key left ≤ key right := by
  have : Std.Total fun left right : Row => key left ≤ key right := ⟨fun left right => le_total (key left) (key right)⟩
  have : IsTrans Row fun left right => key left ≤ key right := ⟨fun _ _ _ former latter => former.trans latter⟩
  exact List.pairwise_insertionSort _ rows

/-- Two lists of the same rows that ascend by a key without repetition are one list. -/
theorem eq_of_ascending (distinct : (rows.map key).Nodup) (perm : rows.Perm others)
    (ascends : rows.Pairwise fun left right => key left ≤ key right)
    (ascend : others.Pairwise fun left right => key left ≤ key right) : rows = others := by
  apply List.Perm.eq_of_pairwise _ ascends ascend perm
  intro left right former latter below above
  exact List.inj_on_of_nodup_map distinct former (perm.mem_iff.mpr latter) (below.antisymm above)

/-- What a sort keeps of the selected rows is fixed by these rows. -/
theorem filter_byKey_congr {keep : Row → Bool} (distinct : ((rows.filter keep).map key).Nodup)
    (same : (rows.filter keep).Perm (others.filter keep)) :
    (byKey key rows).filter keep = (byKey key others).filter keep := by
  have sorted : ((byKey key rows).filter keep).Perm (rows.filter keep) := (perm_byKey key rows).filter keep
  have sorted_other : ((byKey key others).filter keep).Perm (others.filter keep) := (perm_byKey key others).filter keep
  refine eq_of_ascending ((sorted.map key).nodup_iff.mpr distinct) ?_ ?_ ?_
  · exact (sorted.trans same).trans sorted_other.symm
  · exact (pairwise_byKey key rows).filter keep
  · exact (pairwise_byKey key others).filter keep

theorem strict_byKey (distinct : (rows.map key).Nodup) :
    (byKey key rows).Pairwise fun left right => key left < key right := by
  have distinct_sorted : ((byKey key rows).map key).Nodup := ((perm_byKey key rows).map key).nodup_iff.mpr distinct
  have unequal := List.pairwise_map.mp (List.nodup_iff_pairwise_ne.mp distinct_sorted)
  exact (pairwise_byKey key rows).imp₂ (fun _ _ below unequal => lt_of_le_of_ne below unequal) unequal

end

end AiTrader.Library
