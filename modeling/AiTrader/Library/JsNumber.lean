import Mathlib.Data.Rat.Defs
import Mathlib.Algebra.Order.Ring.Rat

/-! # JavaScript numbers

The arithmetic of a calculation, without any law: what is proved over it holds of double precision as of exact
numbers. Comparisons other than `<=` are only made between finite numbers. -/

namespace AiTrader.Library

/-- The operations on numbers that the calculations use. -/
class JsNumber (N : Type) extends Add N, Sub N, Mul N, Div N, Max N, Min N where
  /-- `Number(decimal)`, and numeric literals. -/
  number : ℚ → N
  /-- `x ** 2` -/
  square : N → N
  sqrt : N → N
  abs : N → N
  le : N → N → Bool
  isFinite : N → Bool
  /-- Neither zero nor `NaN`. -/
  truthy : N → Bool

/-- Numbers with `Math.log`. -/
class JsLogarithm (N : Type) extends JsNumber N where
  log : N → N

namespace JsNumber

variable {N : Type} [JsNumber N]

/-- `a < b` for finite numbers. -/
def lt (a b : N) : Bool := !le b a

/-- `a < b`, also when one of them is `NaN`. -/
def less (a b : N) : Bool := le a b && !le b a

/-- `Number.isFinite(x) && x > 0` -/
def finitePositive (x : N) : Bool := isFinite x && lt (number 0) x

/-- What `JSON.stringify` keeps of a number. -/
def toJson (x : N) : Option N := if isFinite x then some x else none

end JsNumber

/-- Exact arithmetic, with roots of squares only. -/
@[reducible] def exactNumber : JsNumber ℚ where
  number := id
  square := fun x => x * x
  sqrt := fun x => mkRat (Nat.sqrt x.num.toNat) (Nat.sqrt x.den)
  abs := fun x => max x (-x)
  le := fun a b => decide (a ≤ b)
  isFinite := fun _ => true
  truthy := fun x => x != 0

end AiTrader.Library
