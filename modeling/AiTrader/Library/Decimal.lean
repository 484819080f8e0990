import Mathlib.Algebra.Order.Field.Rat
import Mathlib.Data.List.DropRight
import Mathlib.Tactic.FieldSimp
import Mathlib.Tactic.Linarith
import Mathlib.Tactic.Positivity
import Mathlib.Tactic.Ring

/-! # Decimal numerals

A numeral is a digit string with at most one point, and denotes a rational number. -/

namespace AiTrader.Library

namespace Decimal

section Scaled

/-- The rational number of a coefficient with `scale` digits after the point. -/
def scaled (coefficient scale : Nat) : ℚ := coefficient / 10 ^ scale

/-- The coefficient of the same number with `target` digits after the point. -/
def aligned (coefficient scale target : Nat) : Nat := coefficient * 10 ^ (target - scale)

variable {coefficient scale target : Nat}

theorem pow_ten_pos (exponent : Nat) : (0 : ℚ) < 10 ^ exponent := pow_pos (by norm_num) exponent

theorem scaled_pos_iff : 0 < scaled coefficient scale ↔ 0 < coefficient := by
  rw [scaled, div_pos_iff]
  have positive := pow_ten_pos scale
  constructor
  · rintro (⟨counted, _⟩ | ⟨_, negative⟩)
    · exact Nat.cast_pos.mp counted
    · exact absurd positive negative.not_gt
  · exact fun counted => .inl ⟨Nat.cast_pos.mpr counted, positive⟩

theorem aligned_cast (bounded : scale ≤ target) :
    (aligned coefficient scale target : ℚ) = scaled coefficient scale * 10 ^ target := by
  obtain ⟨extra, rfl⟩ := Nat.exists_eq_add_of_le bounded
  have positive := pow_ten_pos scale
  rw [aligned, scaled, Nat.add_sub_cancel_left, pow_add]
  push_cast
  field_simp

theorem scaled_aligned (bounded : scale ≤ target) :
    scaled (aligned coefficient scale target) target = scaled coefficient scale := by
  rw [scaled, aligned_cast bounded]
  exact mul_div_cancel_right₀ _ (pow_ten_pos target).ne'

variable {otherCoefficient otherScale : Nat}

theorem aligned_lt_iff (bounded : scale ≤ target) (otherBounded : otherScale ≤ target) :
    aligned coefficient scale target < aligned otherCoefficient otherScale target ↔
      scaled coefficient scale < scaled otherCoefficient otherScale := by
  rw [← @Nat.cast_lt ℚ, aligned_cast bounded, aligned_cast otherBounded]
  exact mul_lt_mul_iff_left₀ (pow_ten_pos target)

theorem aligned_eq_iff (bounded : scale ≤ target) (otherBounded : otherScale ≤ target) :
    aligned coefficient scale target = aligned otherCoefficient otherScale target ↔
      scaled coefficient scale = scaled otherCoefficient otherScale := by
  rw [← @Nat.cast_inj ℚ, aligned_cast bounded, aligned_cast otherBounded]
  exact mul_left_inj' (pow_ten_pos target).ne'

/-- Scaled numbers with one scale add by their coefficients. -/
theorem scaled_add (first second scale : Nat) :
    scaled (first + second) scale = scaled first scale + scaled second scale := by
  simp only [scaled]
  push_cast
  exact add_div _ _ _

theorem scaled_sub {first second : Nat} (scale : Nat) (bounded : second ≤ first) :
    scaled (first - second) scale = scaled first scale - scaled second scale := by
  simp only [scaled]
  push_cast [Nat.cast_sub bounded]
  exact sub_div _ _ _

theorem scaled_ten_mul (coefficient scale : Nat) : scaled (10 * coefficient) (scale + 1) = scaled coefficient scale := by
  have positive := pow_ten_pos scale
  simp only [scaled, pow_succ]
  push_cast
  field_simp

end Scaled

section Numeral

/-- A string of digits. -/
def IsDigits (text : List Char) : Prop := ∀ digit ∈ text, digit.isDigit = true

/-- The natural number of a digit string. -/
abbrev natural (text : List Char) : Nat := Nat.ofDigitChars 10 text 0

/-- The text before the point, and the text after it. -/
def split (text : List Char) : List Char × List Char :=
  (text.takeWhile (· != '.'), (text.dropWhile (· != '.')).tail)

/-- The rational number a numeral denotes; `none` when the text is no numeral. -/
def denote (text : List Char) : Option ℚ :=
  let (whole, fraction) := split text
  if whole ≠ [] ∧ whole.all Char.isDigit ∧ fraction.all Char.isDigit then
    some (scaled (natural (whole ++ fraction)) fraction.length)
  else none

variable {text whole fraction : List Char}

theorem point_notMem (digits : IsDigits text) : ∀ digit ∈ text, (digit != '.') = true := by
  intro digit member
  have isDigit := digits digit member
  simp only [bne_iff_ne]
  rintro rfl
  exact absurd isDigit (by decide)

theorem split_digits (digits : IsDigits whole) : split whole = (whole, []) := by
  have kept := List.takeWhile_eq_self_iff.mpr (point_notMem digits)
  have dropped := List.dropWhile_eq_nil_iff.mpr (point_notMem digits)
  rw [split, kept, dropped]
  rfl

theorem split_point (digits : IsDigits whole) (fraction : List Char) :
    split (whole ++ '.' :: fraction) = (whole, fraction) := by
  have before := point_notMem digits
  simp only [split]
  rw [List.takeWhile_append_of_pos before, List.dropWhile_append_of_pos before]
  simp

theorem denote_digits (digits : IsDigits whole) (nonempty : whole ≠ []) : denote whole = some (natural whole : ℚ) := by
  rw [denote, split_digits digits]
  simp only [List.append_nil, List.length_nil]
  rw [if_pos ⟨nonempty, by simpa [IsDigits] using digits, by simp⟩, scaled]
  simp

theorem denote_point (digits : IsDigits whole) (fractionDigits : IsDigits fraction) (nonempty : whole ≠ []) :
    denote (whole ++ '.' :: fraction) = some (scaled (natural (whole ++ fraction)) fraction.length) := by
  rw [denote, split_point digits]
  exact if_pos ⟨nonempty, by simpa [IsDigits] using digits, by simpa [IsDigits] using fractionDigits⟩

theorem natural_concat_zero (text : List Char) : natural (text ++ ['0']) = 10 * natural text := by
  simp [natural, Nat.ofDigitChars_append, Nat.ofDigitChars_cons]

/-- Zeros at the end of a fraction do not change the number. -/
theorem scaled_trim (whole fraction : List Char) :
    scaled (natural (whole ++ fraction.rdropWhile (· == '0'))) (fraction.rdropWhile (· == '0')).length =
      scaled (natural (whole ++ fraction)) fraction.length := by
  induction fraction using List.reverseRecOn with
  | nil => rfl
  | append_singleton front last ih =>
    rw [List.rdropWhile_concat]
    split
    case isTrue zero =>
      rw [ih, eq_of_beq zero, ← List.append_assoc, natural_concat_zero, List.length_append, List.length_singleton,
        scaled_ten_mul]
    case isFalse => rfl

theorem IsDigits.append (first : IsDigits whole) (second : IsDigits fraction) : IsDigits (whole ++ fraction) := by
  intro digit member
  rcases List.mem_append.mp member with member | member
  · exact first digit member
  · exact second digit member

theorem IsDigits.sublist (digits : IsDigits whole) (part : fraction.Sublist whole) : IsDigits fraction :=
  fun digit member => digits digit (part.subset member)

theorem IsDigits.trim (digits : IsDigits fraction) : IsDigits (fraction.rdropWhile (· == '0')) :=
  digits.sublist (List.rdropWhile_prefix _ fraction).sublist

end Numeral

section Print

/-- The digits of a natural number. -/
abbrev digits (number : Nat) : List Char := Nat.toDigits 10 number

/-- Zeros in front of a text until it has `width` characters. -/
def padStart (width : Nat) (text : List Char) : List Char :=
  List.replicate (width - text.length) '0' ++ text

theorem isDigits_padStart (width number : Nat) : IsDigits (padStart width (digits number)) :=
  IsDigits.append (fun digit member => by rw [List.eq_of_mem_replicate member]; decide) fun _ member =>
    Nat.isDigit_of_mem_toDigits (by decide) (by decide) member

theorem natural_padStart (width number : Nat) : natural (padStart width (digits number)) = number := by
  rw [natural, padStart, Nat.ofDigitChars_append, Nat.ofDigitChars_replicate_zero, Nat.mul_zero,
    Nat.ofDigitChars_ten_toDigits]

theorem length_padStart (width : Nat) (text : List Char) : width ≤ (padStart width text).length := by
  rw [padStart, List.length_append, List.length_replicate]
  omega

/-- The part of a padded numeral before its last `scale` digits, and those digits. -/
def cut (scale number : Nat) : List Char × List Char :=
  let padded := padStart (scale + 1) (digits number)
  (padded.take (padded.length - scale), padded.drop (padded.length - scale))

variable (scale number : Nat)

theorem cut_append : (cut scale number).1 ++ (cut scale number).2 = padStart (scale + 1) (digits number) :=
  List.take_append_drop _ _

theorem cut_whole_ne_nil : (cut scale number).1 ≠ [] := by
  have enough := length_padStart (scale + 1) (digits number)
  intro empty
  have length := congrArg List.length empty
  simp only [cut, List.length_take, List.length_nil] at length
  omega

theorem length_cut_fraction : (cut scale number).2.length = scale := by
  have enough := length_padStart (scale + 1) (digits number)
  simp only [cut, List.length_drop]
  omega

theorem isDigits_cut : IsDigits (cut scale number).1 ∧ IsDigits (cut scale number).2 :=
  ⟨(isDigits_padStart _ _).sublist (List.take_sublist _ _), (isDigits_padStart _ _).sublist (List.drop_sublist _ _)⟩

theorem scaled_cut : scaled (natural ((cut scale number).1 ++ (cut scale number).2)) (cut scale number).2.length =
    scaled number scale := by
  rw [cut_append, natural_padStart, length_cut_fraction]

/-- A cut numeral with its trailing zeros removed, and no point when nothing is left after it. -/
def printTrimmed (whole fraction : List Char) : List Char :=
  let trimmed := fraction.rdropWhile (· == '0')
  if trimmed = [] then whole else whole ++ '.' :: trimmed

end Print

end Decimal

end AiTrader.Library
