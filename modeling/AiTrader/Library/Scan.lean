import Mathlib.Data.Int.Range
import Mathlib.Data.List.DropRight

/-! # Integers picked from a range

The integers of a half-open range that have a property, in increasing order. -/

namespace AiTrader.Library

variable {holds : Int → Bool} {lower middle upper : Int}

def picked (holds : Int → Bool) (lower upper : Int) : List Int := (Int.range lower upper).filter holds

theorem mem_picked {found : Int} : found ∈ picked holds lower upper ↔ lower ≤ found ∧ found < upper ∧ holds found = true := by
  unfold picked
  rw [List.mem_filter, Int.mem_range_iff, and_assoc]

theorem range_append (first : lower ≤ middle) (second : middle ≤ upper) :
    Int.range lower upper = Int.range lower middle ++ Int.range middle upper := by
  have lengths : (upper - lower).toNat = (middle - lower).toNat + (upper - middle).toNat := by omega
  unfold Int.range
  rw [lengths, List.range_add, List.map_append, List.map_map]
  congr 1
  apply List.map_congr_left
  intro index _
  simp only [Function.comp_apply]
  omega

theorem picked_append (holds : Int → Bool) (first : lower ≤ middle) (second : middle ≤ upper) :
    picked holds lower upper = picked holds lower middle ++ picked holds middle upper := by
  unfold picked
  rw [range_append first second, List.filter_append]

theorem picked_of_le (none : upper ≤ lower) : picked holds lower upper = [] := by
  unfold picked Int.range
  rw [Int.toNat_of_nonpos (by omega)]
  rfl

theorem picked_one (holds : Int → Bool) (found : Int) :
    picked holds found (found + 1) = if holds found then [found] else [] := by
  have single : Int.range found (found + 1) = [found] := by
    unfold Int.range
    rw [show found + 1 - found = 1 by omega]
    simp
  unfold picked
  rw [single]
  cases held : holds found <;> simp [held]

/-- A scan forwards finds the first integer first. -/
theorem picked_cons (held : holds lower = true) (between : ∀ other, lower < other → other < middle → holds other = false)
    (after : lower < middle) (within : middle ≤ upper) : picked holds lower upper = lower :: picked holds middle upper := by
  have none : picked holds (lower + 1) middle = [] := by
    refine List.eq_nil_iff_forall_not_mem.mpr fun other member => ?_
    obtain ⟨above, below, holding⟩ := mem_picked.mp member
    rw [between other (by omega) below] at holding
    cases holding
  rw [picked_append holds (show lower ≤ lower + 1 by omega) (by omega), picked_one,
    picked_append holds (show lower + 1 ≤ middle by omega) within, none, if_pos held]
  rfl

theorem picked_increasing (holds : Int → Bool) (lower upper : Int) : (picked holds lower upper).Pairwise (· < ·) := by
  refine List.Pairwise.filter _ (List.pairwise_map.mpr ?_)
  refine List.pairwise_lt_range.imp fun before => ?_
  omega

/-- What is last stays last when more comes before it. -/
theorem rtake_append_of_length {α : Type} {count : Nat} (earlier : List α) {later : List α} (full : later.length = count) :
    (earlier ++ later).rtake count = later := by
  unfold List.rtake
  rw [List.length_append, full, Nat.add_sub_cancel, List.drop_left]

theorem rtake_of_length_le {α : Type} {count : Nat} {all : List α} (few : all.length ≤ count) : all.rtake count = all := by
  unfold List.rtake
  rw [Nat.sub_eq_zero_of_le few, List.drop_zero]

/-- The last integers that are picked, as many as asked for if there are so many. -/
structure LastPicked (holds : Int → Bool) (lower upper : Int) (count : Nat) (chosen : List Int) : Prop where
  increasing : chosen.Pairwise (· < ·)
  picked : ∀ found ∈ chosen, lower ≤ found ∧ found < upper ∧ holds found = true
  last : ∀ other, other < upper → holds other = true → other ∉ chosen → ∀ found ∈ chosen, other < found
  atMost : chosen.length ≤ count
  fewer : chosen.length < count → ∀ other, lower ≤ other → other < upper → holds other = true → other ∈ chosen

theorem lastPicked_rtake (holds : Int → Bool) (lower upper : Int) (count : Nat) :
    LastPicked holds lower upper count ((picked holds lower upper).rtake count) := by
  have increasing := picked_increasing holds lower upper
  have length : ((picked holds lower upper).rtake count).length = min count (picked holds lower upper).length := by
    rw [List.rtake, List.length_drop]
    omega
  have split : (picked holds lower upper).take ((picked holds lower upper).length - count) ++
      (picked holds lower upper).rtake count = picked holds lower upper := List.take_append_drop _ _
  rw [← split] at increasing
  obtain ⟨_, later, across⟩ := List.pairwise_append.mp increasing
  have inside : ∀ found ∈ (picked holds lower upper).rtake count, found ∈ picked holds lower upper :=
    fun found member => List.mem_of_mem_drop member
  refine ⟨later, fun found member => mem_picked.mp (inside found member), ?_, ?_, ?_⟩
  · intro other below held out found member
    by_cases above : lower ≤ other
    · have known : other ∈ picked holds lower upper := mem_picked.mpr ⟨above, below, held⟩
      rw [← split, List.mem_append] at known
      exact across other (known.resolve_right out) found member
    · have := (mem_picked.mp (inside found member)).1
      omega
  · rw [length]
    exact Nat.min_le_left _ _
  · intro short other above below held
    rw [length] at short
    rw [rtake_of_length_le (by omega)]
    exact mem_picked.mpr ⟨above, below, held⟩

end AiTrader.Library
