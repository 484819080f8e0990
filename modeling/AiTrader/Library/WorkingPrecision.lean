import Mathlib.Algebra.BigOperators.Group.List.Basic
import Mathlib.Algebra.Order.Group.Nat
import Mathlib.Data.Nat.Digits.Defs

/-! # Addition with a working precision

A decimal arithmetic of a working precision rounds every sum to so many significant digits. -/

namespace AiTrader.Library

namespace WorkingPrecision

section Source

variable (precision : Nat)

/-- The digits of a coefficient that are over the precision. -/
def excess (coefficient : Nat) : Nat := (Nat.digits 10 coefficient).length - precision

/-- A coefficient rounded half up to the precision. -/
def keep (coefficient : Nat) : Nat :=
  (coefficient + 10 ^ excess precision coefficient / 2) / 10 ^ excess precision coefficient *
    10 ^ excess precision coefficient

def plus (sum coefficient : Nat) : Nat := keep precision (sum + coefficient)

def total (coefficients : List Nat) : Nat := coefficients.foldl (plus precision) 0

end Source

/-- The digits over the precision are zeros. -/
def Fits (precision coefficient : Nat) : Prop := 10 ^ excess precision coefficient ∣ coefficient

instance (precision coefficient : Nat) : Decidable (Fits precision coefficient) :=
  inferInstanceAs (Decidable (_ ∣ _))

/-- No partial sum has digits over the precision. -/
def SumsFit (precision : Nat) (coefficients : List Nat) : Prop :=
  ∀ count ≤ coefficients.length, Fits precision (coefficients.take count).sum

instance (precision : Nat) (coefficients : List Nat) : Decidable (SumsFit precision coefficients) :=
  inferInstanceAs (Decidable (∀ count ≤ coefficients.length, _))

section Lemmas

variable {precision coefficient : Nat} {coefficients : List Nat}

/-- The nearest multiple of a unit is the number itself for exactly the multiples. -/
theorem nearest_eq_iff {unit : Nat} (positive : 0 < unit) :
    (coefficient + unit / 2) / unit * unit = coefficient ↔ unit ∣ coefficient := by
  constructor
  · intro kept
    exact kept ▸ Dvd.intro_left _ rfl
  · rintro ⟨quotient, rfl⟩
    have half : unit / 2 < unit := Nat.div_lt_self positive (by decide)
    rw [Nat.mul_add_div positive, Nat.div_eq_of_lt half, Nat.add_zero, Nat.mul_comm]

theorem keep_eq_iff : keep precision coefficient = coefficient ↔ Fits precision coefficient :=
  nearest_eq_iff (Nat.pow_pos (by decide))

theorem foldl_plus_eq (sum : Nat) (fit : ∀ count ≤ coefficients.length, Fits precision (sum + (coefficients.take count).sum)) :
    coefficients.foldl (plus precision) sum = sum + coefficients.sum := by
  induction coefficients generalizing sum with
  | nil => rfl
  | cons first rest ih =>
    have added : plus precision sum first = sum + first := by
      apply keep_eq_iff.mpr
      simpa using fit 1 (by simp)
    rw [List.foldl_cons, added, ih, List.sum_cons, Nat.add_assoc]
    intro count within
    have later := fit (count + 1) (Nat.succ_le_succ within)
    rwa [List.take_succ_cons, List.sum_cons, ← Nat.add_assoc] at later

/-- A total whose partial sums fit is the sum. -/
theorem total_eq_sum (fit : SumsFit precision coefficients) : total precision coefficients = coefficients.sum := by
  unfold total
  rw [foldl_plus_eq 0, Nat.zero_add]
  intro count within
  rw [Nat.zero_add]
  exact fit count within

end Lemmas

end WorkingPrecision

end AiTrader.Library
