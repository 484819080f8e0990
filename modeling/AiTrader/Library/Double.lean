import AiTrader.Library.JsNumber

/-! # Double precision

The numbers of JavaScript are those of double precision, whose operations are the ones of `Float`. -/

namespace AiTrader.Library

/-- Double precision. A literal is the quotient of its numerator and its denominator. -/
@[reducible] def doubleNumber : JsNumber Float where
  max := fun a b => if a.isNaN || b.isNaN then 0 / 0 else if a ≤ b then b else a
  min := fun a b => if a.isNaN || b.isNaN then 0 / 0 else if a ≤ b then a else b
  number := fun value => Float.ofInt value.num / Float.ofNat value.den
  square := fun x => x * x
  sqrt := Float.sqrt
  abs := Float.abs
  le := fun a b => decide (a ≤ b)
  isFinite := Float.isFinite
  truthy := fun x => !(x == 0 || x.isNaN)

end AiTrader.Library
