import AiTrader.Library.CanonicalDecimal

/-! # Decimals as JavaScript prints them

A finite number is taken by the decimal that `String` prints, the shortest one that reads back as the number. -/

namespace AiTrader.Library

open Decimal

/-- A finite number by the digits of its text. -/
structure JsDecimal where
  negative : Bool
  (coefficient scale : Nat)
  lowest : LowestTerms coefficient scale

namespace JsDecimal

section Print

variable (number : JsDecimal)

def magnitude : ℚ := scaled number.coefficient number.scale

def value : ℚ := if number.negative then -number.magnitude else number.magnitude

/-- `Math.abs` -/
def abs : JsDecimal := { number with negative := false }

/-- `number < 0`; a negative zero is not. -/
def isNegative : Bool := number.negative && number.coefficient != 0

/-- Printed without an exponent. -/
def plain : Bool :=
  number.coefficient == 0 || (decide (10 ^ number.scale ≤ number.coefficient * 10 ^ 6) &&
    decide (number.coefficient < 10 ^ (21 + number.scale)))

def plainText : List Char :=
  let (whole, fraction) := cut number.scale number.coefficient
  if fraction = [] then whole else whole ++ '.' :: fraction

def exponentText : List Char :=
  let significant := (digits number.coefficient).rdropWhile (· == '0')
  let exponent : Int := (digits number.coefficient).length - 1 - number.scale
  significant.take 1 ++ (if significant.length ≤ 1 then [] else '.' :: significant.drop 1) ++
    'e' :: (if exponent < 0 then '-' else '+') :: digits exponent.natAbs

/-- `String(number)` -/
def text : List Char :=
  (if number.isNegative then ['-'] else []) ++ if number.plain then number.plainText else number.exponentText

/-- The number of a coefficient with `scale` digits after the point. -/
def ofScaled (coefficient scale : Nat) : JsDecimal :=
  ⟨false, (reduce coefficient scale).1, (reduce coefficient scale).2, lowestTerms_reduce coefficient scale⟩

def zero : JsDecimal := ofScaled 0 0

/-- What is left of a number that is not negative after a smaller one is taken away. -/
def minus (other : JsDecimal) : JsDecimal :=
  let scale := max number.scale other.scale
  ofScaled (aligned number.coefficient number.scale scale - aligned other.coefficient other.scale scale) scale

end Print

section Lemmas

variable {number other : JsDecimal}

theorem value_of_nonneg (nonneg : number.negative = false) : number.value = number.magnitude := by
  unfold value
  rw [nonneg]
  rfl

theorem magnitude_nonneg (number : JsDecimal) : 0 ≤ number.magnitude :=
  div_nonneg (Nat.cast_nonneg _) (le_of_lt (pow_ten_pos _))

@[simp] theorem plain_abs (number : JsDecimal) : number.abs.plain = number.plain := rfl

@[simp] theorem magnitude_ofScaled (coefficient scale : Nat) : (ofScaled coefficient scale).magnitude = scaled coefficient scale :=
  scaled_reduce coefficient scale

theorem magnitude_minus (smaller : other.magnitude ≤ number.magnitude) :
    (number.minus other).magnitude = number.magnitude - other.magnitude := by
  have left : number.scale ≤ max number.scale other.scale := le_max_left _ _
  have right : other.scale ≤ max number.scale other.scale := le_max_right _ _
  have ordered : aligned other.coefficient other.scale (max number.scale other.scale) ≤
      aligned number.coefficient number.scale (max number.scale other.scale) := by
    rw [← Nat.not_lt, aligned_lt_iff left right]
    exact not_lt.mpr smaller
  unfold minus
  rw [magnitude_ofScaled, scaled_sub _ ordered, scaled_aligned left, scaled_aligned right]
  rfl

/-- The range of the numbers that are printed without an exponent. -/
theorem plain_iff : number.plain = true ↔
    number.magnitude = 0 ∨ (1 : ℚ) / 10 ^ 6 ≤ number.magnitude ∧ number.magnitude < 10 ^ 21 := by
  have power := pow_ten_pos number.scale
  have zero : number.magnitude = 0 ↔ number.coefficient = 0 := by
    unfold magnitude scaled
    rw [div_eq_zero_iff, or_iff_left power.ne', Nat.cast_eq_zero]
  have lower : (1 : ℚ) / 10 ^ 6 ≤ number.magnitude ↔ 10 ^ number.scale ≤ number.coefficient * 10 ^ 6 := by
    unfold magnitude scaled
    rw [div_le_div_iff₀ (pow_ten_pos 6) power, one_mul]
    exact_mod_cast Iff.rfl
  have upper : number.magnitude < 10 ^ 21 ↔ number.coefficient < 10 ^ (21 + number.scale) := by
    unfold magnitude scaled
    rw [div_lt_iff₀ power, ← pow_add]
    exact_mod_cast Iff.rfl
  unfold plain
  rw [zero, lower, upper]
  simp only [Bool.or_eq_true, Bool.and_eq_true, beq_iff_eq, decide_eq_true_eq]

/-- The digits of a plain text are those of the number. -/
theorem written_plainText (number : JsDecimal) :
    Written number.plainText (cut number.scale number.coefficient).1 (cut number.scale number.coefficient).2 := by
  unfold plainText
  dsimp only
  split
  case isTrue empty => exact .inl ⟨rfl, empty⟩
  case isFalse nonempty => exact .inr ⟨rfl, nonempty⟩

/-- A text with an exponent is no numeral. -/
theorem not_isNumeral_of_exponent {letters : List Char} (exponent : 'e' ∈ letters) : ¬ IsNumeral letters := by
  rintro ⟨whole, isWhole, rfl | ⟨fraction, -, isDigits, rfl⟩⟩
  · exact absurd (isWhole.isDigits 'e' exponent) (by decide)
  · rcases List.mem_append.mp exponent with member | member
    · exact absurd (isWhole.isDigits 'e' member) (by decide)
    · rcases List.mem_cons.mp member with point | member
      · exact absurd point (by decide)
      · exact absurd (isDigits 'e' member) (by decide)

/-- Of the numbers that are not negative, `String` prints the plain ones as numerals. -/
theorem isNumeral_text_iff (nonneg : number.isNegative = false) : IsNumeral number.text ↔ number.plain = true := by
  unfold text
  simp only [nonneg, Bool.false_eq_true, if_false, List.nil_append]
  cases plain : number.plain with
  | true =>
    simp only [if_true, iff_true]
    exact isNumeral_iff.mpr ⟨_, _, isWhole_cut _ _, (isDigits_cut _ _).2, written_plainText number⟩
  | false =>
    simp only [Bool.false_eq_true, if_false, iff_false]
    exact not_isNumeral_of_exponent (List.mem_append_right _ List.mem_cons_self)

end Lemmas

end JsDecimal

end AiTrader.Library
