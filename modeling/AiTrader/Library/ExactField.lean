import Mathlib.Algebra.Order.Field.Basic
import Mathlib.Data.Rat.Cast.Order
import AiTrader.Library.JsNumber

/-! # Exact arithmetic

The calculations in an ordered field. -/

namespace AiTrader.Library

/-- `Math.sqrt` and `Math.log`, of which nothing is assumed. -/
class Transcendental (K : Type) where
  sqrt : K → K
  log : K → K

variable {K : Type} [Field K] [LinearOrder K] [Transcendental K]

/-- Exact numbers. -/
@[reducible] def exactField : JsLogarithm K where
  number := fun value => (value : K)
  square := fun x => x * x
  sqrt := Transcendental.sqrt
  abs := fun x => max x (-x)
  le := fun a b => decide (a ≤ b)
  isFinite := fun _ => true
  truthy := fun x => x != 0
  log := Transcendental.log

namespace ExactField

attribute [local instance] exactField

open JsNumber

@[simp] theorem isFinite_eq (x : K) : isFinite x = true := rfl

@[simp] theorem number_zero : (number 0 : K) = 0 := Rat.cast_zero

@[simp] theorem number_one : (number 1 : K) = 1 := Rat.cast_one

theorem le_iff {a b : K} : JsNumber.le a b = true ↔ a ≤ b := decide_eq_true_iff

theorem less_iff {a b : K} : less a b = true ↔ a < b := by
  simp only [less, Bool.and_eq_true, Bool.not_eq_true', Bool.eq_false_iff, ne_eq, le_iff, not_le]
  exact ⟨And.right, fun below => ⟨below.le, below⟩⟩

theorem finitePositive_iff {x : K} : finitePositive x = true ↔ 0 < x := by
  simp only [finitePositive, lt, isFinite_eq, Bool.true_and, Bool.not_eq_true', Bool.eq_false_iff, ne_eq, le_iff, not_le,
    number_zero]

variable [IsStrictOrderedRing K] {c : K}

section

variable (positive : 0 < c)
include positive

theorem le_scale (a b : K) : JsNumber.le (c * a) (c * b) = JsNumber.le a b := by
  rw [Bool.eq_iff_iff, le_iff, le_iff]
  exact mul_le_mul_iff_of_pos_left positive

theorem less_scale (a b : K) : less (c * a) (c * b) = less a b := by
  simp only [less, le_scale positive]

theorem finitePositive_scale (x : K) : finitePositive (c * x) = finitePositive x := by
  rw [Bool.eq_iff_iff, finitePositive_iff, finitePositive_iff]
  exact mul_pos_iff_of_pos_left positive

theorem less_zero_scale (x : K) : less (c * x) (number 0) = less x (number 0) := by
  rw [← less_scale positive x, number_zero, mul_zero]

theorem max_scale (a b : K) : max (c * a) (c * b) = c * max a b :=
  (mul_max_of_nonneg a b positive.le).symm

theorem min_scale (a b : K) : min (c * a) (c * b) = c * min a b :=
  (mul_min_of_nonneg a b positive.le).symm

theorem abs_scale (x : K) : JsNumber.abs (c * x) = c * JsNumber.abs x := by
  show max (c * x) (-(c * x)) = c * max x (-x)
  rw [← mul_neg, max_scale positive]

end

omit [IsStrictOrderedRing K] in
theorem foldl_scale (c : K) (values : List K) (start : K) :
    (values.map (c * ·)).foldl (· + ·) (c * start) = c * values.foldl (· + ·) start := by
  induction values generalizing start with
  | nil => rfl
  | cons value rest ih =>
    simp only [List.map_cons, List.foldl_cons]
    rw [← mul_add, ih]

omit [IsStrictOrderedRing K] in
theorem sum_scale (c : K) (values : List K) :
    (values.map (c * ·)).foldl (· + ·) (number 0) = c * values.foldl (· + ·) (number 0 : K) := by
  have scaled := foldl_scale c values 0
  rw [mul_zero] at scaled
  rw [number_zero]
  exact scaled

end ExactField

end AiTrader.Library
