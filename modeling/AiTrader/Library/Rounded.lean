import Mathlib.Algebra.BigOperators.Group.List.Basic
import Mathlib.Algebra.Order.Ring.Rat
import Mathlib.Data.List.Induction

/-! # Rounded arithmetic

A finite number is a rational, and an operation rounds its exact result, as double precision does unless it overflows. -/

namespace AiTrader.Library

structure Rounding where
  round : ℚ → ℚ
  monotone : Monotone round
  round_zero : round 0 = 0
  round_round : ∀ x, round (round x) = round x

namespace Rounding

/-- Every rational is a number. -/
def exact : Rounding := ⟨id, monotone_id, rfl, fun _ => rfl⟩

variable (rounding : Rounding)

section Operations

variable (x y : ℚ)

def add : ℚ := rounding.round (x + y)

def sub : ℚ := rounding.round (x - y)

def mul : ℚ := rounding.round (x * y)

def div : ℚ := rounding.round (x / y)

end Operations

/-- `values.reduce((total, value) => total + value, 0)` -/
def sum (values : List ℚ) : ℚ := values.foldl rounding.add 0

/-- No sum of some of the values has to be rounded. -/
def SumsFit (values : List ℚ) : Prop := ∀ part : List ℚ, part.Sublist values → rounding.round part.sum = part.sum

variable {rounding} {values order : List ℚ}

theorem sum_concat (front : List ℚ) (last : ℚ) : rounding.sum (front ++ [last]) = rounding.add (rounding.sum front) last := by
  unfold sum
  rw [List.foldl_append]
  rfl

theorem sum_singleton {value : ℚ} (stored : rounding.round value = value) : rounding.sum [value] = value :=
  (congrArg rounding.round (zero_add value)).trans stored

theorem sum_eq_of_subperm (fit : rounding.SumsFit values) (taken : order.Subperm values) : rounding.sum order = order.sum := by
  induction order using List.reverseRecOn with
  | nil => rfl
  | append_singleton front last hypothesis =>
    obtain ⟨part, same, inside⟩ := taken
    have earlier := hypothesis ((List.sublist_append_left front [last]).subperm.trans ⟨part, same, inside⟩)
    have stored := fit part inside
    rw [same.sum_eq, List.sum_append, List.sum_singleton] at stored
    rw [sum_concat, earlier, List.sum_append, List.sum_singleton]
    exact stored

/-- Where no sum has to be rounded, the total is exact in any order. -/
theorem sum_eq_of_perm (fit : rounding.SumsFit values) (same : order.Perm values) : rounding.sum order = values.sum :=
  (sum_eq_of_subperm fit same.subperm).trans same.sum_eq

/-- A total of positive numbers is positive, however it was rounded. -/
theorem sum_pos (positive : ∀ value ∈ values, 0 < value ∧ rounding.round value = value) (some_ : values ≠ []) :
    0 < rounding.sum values := by
  have nonneg (front : List ℚ) (inside : ∀ value ∈ front, 0 < value) : 0 ≤ rounding.sum front := by
    induction front using List.reverseRecOn with
    | nil => exact le_rfl
    | append_singleton front last hypothesis =>
      have earlier := hypothesis fun value member => inside value (List.mem_append_left _ member)
      have later := inside last (List.mem_concat_self)
      rw [sum_concat, ← rounding.round_zero]
      exact rounding.monotone (add_nonneg earlier later.le)
  induction values using List.reverseRecOn with
  | nil => exact absurd rfl some_
  | append_singleton front last _ =>
    obtain ⟨above, stored⟩ := positive last List.mem_concat_self
    have earlier := nonneg front fun value member => (positive value (List.mem_append_left _ member)).1
    rw [sum_concat]
    calc 0 < last := above
      _ = rounding.round last := stored.symm
      _ ≤ rounding.add (rounding.sum front) last := rounding.monotone (le_add_of_nonneg_left earlier)

end Rounding

end AiTrader.Library
