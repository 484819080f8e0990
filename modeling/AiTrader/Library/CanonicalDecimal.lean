import AiTrader.Library.Decimal

/-! # Canonical decimals

A decimal in lowest terms has one coefficient, one scale and one text: no zero in front of the whole part but a single
one, and none at the end of the fraction. -/

namespace AiTrader.Library

namespace Decimal

section LowestTerms

variable {coefficient scale otherCoefficient otherScale : Nat}

/-- No digit of the coefficient is a zero at the end of the fraction. -/
def LowestTerms (coefficient scale : Nat) : Prop := scale = 0 ∨ coefficient % 10 ≠ 0

/-- A number has one coefficient and one scale in lowest terms. -/
theorem LowestTerms.unique (lowest : LowestTerms coefficient scale) (other : LowestTerms otherCoefficient otherScale)
    (same : scaled coefficient scale = scaled otherCoefficient otherScale) :
    coefficient = otherCoefficient ∧ scale = otherScale := by
  wlog shorter : scale ≤ otherScale generalizing coefficient scale otherCoefficient otherScale
  · have swapped := this other lowest same.symm (Nat.le_of_not_le shorter)
    exact ⟨swapped.1.symm, swapped.2.symm⟩
  have aligned_same := (aligned_eq_iff shorter (Nat.le_refl otherScale)).mpr same
  obtain ⟨extra, rfl⟩ := Nat.exists_eq_add_of_le shorter
  rw [aligned, aligned, Nat.add_sub_cancel_left, Nat.sub_self, Nat.pow_zero, Nat.mul_one] at aligned_same
  cases extra with
  | zero => exact ⟨by simpa using aligned_same, rfl⟩
  | succ extra =>
    -- A longer fraction would end in a zero.
    have divisible : otherCoefficient % 10 = 0 := by
      rw [← aligned_same, Nat.pow_succ, ← Nat.mul_assoc]
      exact Nat.mul_mod_left _ _
    obtain impossible | impossible := other
    · omega
    · exact absurd divisible impossible

/-- The coefficient and scale without the zeros at the end of the fraction. -/
def reduce (coefficient : Nat) : Nat → Nat × Nat
  | 0 => (coefficient, 0)
  | scale + 1 => if coefficient % 10 = 0 then reduce (coefficient / 10) scale else (coefficient, scale + 1)

theorem scaled_reduce (coefficient scale : Nat) :
    scaled (reduce coefficient scale).1 (reduce coefficient scale).2 = scaled coefficient scale := by
  induction scale generalizing coefficient with
  | zero => rfl
  | succ scale ih =>
    rw [reduce]
    split_ifs with zero
    · rw [ih, ← scaled_ten_mul, Nat.mul_div_cancel' (Nat.dvd_of_mod_eq_zero zero)]
    · rfl

theorem lowestTerms_reduce (coefficient scale : Nat) :
    LowestTerms (reduce coefficient scale).1 (reduce coefficient scale).2 := by
  induction scale generalizing coefficient with
  | zero => exact .inl rfl
  | succ scale ih =>
    rw [reduce]
    split_ifs with zero
    · exact ih _
    · exact .inr zero

end LowestTerms

section Digits

variable {text whole fraction : List Char}

/-- The value of a digit. -/
theorem digit_value {digit : Char} (isDigit : digit.isDigit = true) :
    digit.toNat - '0'.toNat < 10 ∧ Nat.digitChar (digit.toNat - '0'.toNat) = digit := by
  have bounds : 48 ≤ digit.toNat ∧ digit.toNat ≤ 57 := by
    simpa [Char.isDigit, UInt32.le_iff_toNat_le] using isDigit
  have zero : '0'.toNat = 48 := rfl
  have small : digit.toNat - '0'.toNat < 10 := by omega
  refine ⟨small, Char.toNat_inj.mp ?_⟩
  rw [Nat.toNat_digitChar_of_lt_ten small]
  omega

theorem natural_concat (front : List Char) (last : Char) :
    natural (front ++ [last]) = 10 * natural front + (last.toNat - '0'.toNat) := by
  simp [natural, Nat.ofDigitChars_append, Nat.ofDigitChars_cons]

theorem digits_small {number : Nat} (small : number < 10) : digits number = [number.digitChar] :=
  Nat.toDigits_of_lt_base small

theorem digits_concat {number digit : Nat} (positive : 0 < number) (small : digit < 10) :
    digits (10 * number + digit) = digits number ++ [digit.digitChar] := by
  rw [← digits_small small]
  exact (Nat.toDigits_append_toDigits (by decide) positive small).symm

/-- A digit string is its number with zeros in front. -/
theorem padStart_natural (isDigits : IsDigits text) (nonempty : text ≠ []) :
    padStart text.length (digits (natural text)) = text := by
  induction text using List.reverseRecOn with
  | nil => exact absurd rfl nonempty
  | append_singleton front last ih =>
    obtain ⟨small, rebuilt⟩ := digit_value (isDigits last (by simp))
    rw [natural_concat]
    by_cases empty : front = []
    · subst empty
      rw [natural, Nat.ofDigitChars_nil, Nat.mul_zero, Nat.zero_add, digits_small small, rebuilt]
      rfl
    · have kept := ih (isDigits.sublist (List.sublist_append_left front [last])) empty
      obtain zero | positive := Nat.eq_zero_or_pos (natural front)
      · -- All digits before the last are zeros.
        rw [zero] at kept ⊢
        have long : 0 < front.length := List.length_pos_iff.mpr empty
        have zeros : front = List.replicate front.length '0' := by
          conv_lhs => rw [← kept]
          rw [padStart, digits_small (by decide), List.length_singleton]
          exact List.replicate_succ'.symm.trans (by rw [Nat.sub_add_cancel long])
        rw [Nat.mul_zero, Nat.zero_add, digits_small small, rebuilt, padStart, List.length_append,
          List.length_singleton, Nat.add_sub_cancel, ← zeros]
      · rw [digits_concat positive small, rebuilt]
        conv_rhs => rw [← kept]
        simp only [padStart, List.length_append, List.length_singleton, Nat.add_sub_add_right, List.append_assoc]

theorem head_digits {number : Nat} (zero : (digits number).head? = some '0') : number = 0 := by
  induction number using Nat.strongRecOn with
  | ind number ih =>
    rw [digits, Nat.toDigits_eq_if (by decide)] at zero
    split_ifs at zero with small
    · by_contra positive
      simp only [List.head?_cons, Option.some.injEq] at zero
      have value := congrArg Char.toNat zero
      rw [Nat.toNat_digitChar_of_lt_ten small] at value
      have : '0'.toNat = 48 := rfl
      omega
    · rw [List.head?_append_of_ne_nil _ Nat.toDigits_ne_nil] at zero
      have quotient := ih (number / 10) (by omega) zero
      omega

end Digits

section Numerals

variable {text whole fraction : List Char}

/-- The whole part of a numeral: a single zero, or digits that do not begin with one. -/
def IsWhole (whole : List Char) : Prop := whole = ['0'] ∨ whole ≠ [] ∧ IsDigits whole ∧ whole.head? ≠ some '0'

/-- A whole part, and after a point at least one digit. -/
def IsNumeral (text : List Char) : Prop :=
  ∃ whole, IsWhole whole ∧
    (text = whole ∨ ∃ fraction, fraction ≠ [] ∧ IsDigits fraction ∧ text = whole ++ '.' :: fraction)

theorem IsWhole.ne_nil (isWhole : IsWhole whole) : whole ≠ [] := by
  obtain rfl | ⟨nonempty, _⟩ := isWhole
  · exact List.cons_ne_nil _ _
  · exact nonempty

theorem IsWhole.isDigits (isWhole : IsWhole whole) : IsDigits whole := by
  obtain rfl | ⟨_, isDigits, _⟩ := isWhole
  · intro digit member
    rw [List.mem_singleton.mp member]
    rfl
  · exact isDigits

/-- The text of a whole part and a fraction, which may be absent. -/
def Written (letters whole fraction : List Char) : Prop :=
  letters = whole ∧ fraction = [] ∨ letters = whole ++ '.' :: fraction ∧ fraction ≠ []

variable {letters : List Char}

theorem split_written (digits : IsDigits whole) (written : Written letters whole fraction) :
    split letters = (whole, fraction) ∧ (letters.contains '.' = true → fraction ≠ []) := by
  obtain ⟨rfl, rfl⟩ | ⟨rfl, nonempty⟩ := written
  · refine ⟨split_digits digits, fun point => ?_⟩
    have bare := point_notMem digits '.' (by simpa using point)
    simp at bare
  · exact ⟨split_point digits fraction, fun _ => nonempty⟩

theorem written_split (point : letters.contains '.' = true → (split letters).2 ≠ []) :
    Written letters (split letters).1 (split letters).2 := by
  have parts : letters.takeWhile (· != '.') ++ letters.dropWhile (· != '.') = letters :=
    List.takeWhile_append_dropWhile
  cases rest : letters.dropWhile (· != '.') with
  | nil =>
    left
    rw [rest, List.append_nil] at parts
    exact ⟨parts.symm, by rw [split, rest]; rfl⟩
  | cons first tail =>
    right
    have first_point : first = '.' := by
      have remains : letters.dropWhile (· != '.') ≠ [] := by simp [rest]
      have head := List.head_dropWhile_not (· != '.') remains
      simpa [rest] using head
    subst first_point
    have written : letters = (split letters).1 ++ '.' :: (split letters).2 := by
      rw [split, rest]
      rw [rest] at parts
      exact parts.symm
    refine ⟨written, point ?_⟩
    rw [List.contains_eq_mem, decide_eq_true_eq, written]
    exact List.mem_append_right _ List.mem_cons_self

/-- The checks of a numeral's parts accept a whole part and a fraction. -/
theorem parts_iff : (((split letters).1 = ['0'] ∨ (split letters).1 ≠ [] ∧ (split letters).1.head? ≠ some '0') ∧
      (split letters).1.all Char.isDigit = true ∧ (split letters).2.all Char.isDigit = true ∧
        (letters.contains '.' = true → (split letters).2 ≠ [])) ↔
    IsWhole (split letters).1 ∧ IsDigits (split letters).2 ∧ Written letters (split letters).1 (split letters).2 := by
  constructor
  · rintro ⟨leading, digits, fractionDigits, point⟩
    have isDigits : IsDigits (split letters).1 := by simpa [IsDigits] using digits
    exact ⟨leading.imp_right fun part => ⟨part.1, isDigits, part.2⟩, by simpa [IsDigits] using fractionDigits, written_split point⟩
  · rintro ⟨isWhole, fractionDigits, written⟩
    exact ⟨isWhole.imp_right fun part => ⟨part.1, part.2.2⟩, by simpa [IsDigits] using isWhole.isDigits,
      by simpa [IsDigits] using fractionDigits, (split_written isWhole.isDigits written).2⟩

theorem isNumeral_iff : IsNumeral letters ↔
    ∃ whole fraction, IsWhole whole ∧ IsDigits fraction ∧ Written letters whole fraction := by
  constructor
  · rintro ⟨whole, isWhole, rfl | ⟨fraction, nonempty, isDigits, rfl⟩⟩
    · exact ⟨letters, [], isWhole, nofun, .inl ⟨rfl, rfl⟩⟩
    · exact ⟨whole, fraction, isWhole, isDigits, .inr ⟨rfl, nonempty⟩⟩
  · rintro ⟨whole, fraction, isWhole, isDigits, ⟨rfl, rfl⟩ | ⟨rfl, nonempty⟩⟩
    · exact ⟨letters, isWhole, .inl rfl⟩
    · exact ⟨whole, isWhole, .inr ⟨fraction, nonempty, isDigits, rfl⟩⟩

/-- The whole part of a cut numeral has no zero in front but a single one. -/
theorem isWhole_cut (scale number : Nat) : IsWhole (cut scale number).1 := by
  by_cases zero : (cut scale number).1.head? = some '0'
  · left
    have enough := length_padStart (scale + 1) (digits number)
    have positive : 0 < (padStart (scale + 1) (digits number)).length - scale := by omega
    have taken : (cut scale number).1.head? = (padStart (scale + 1) (digits number)).head? := by
      simp only [cut, List.head?_take, if_neg positive.ne']
    have short : (cut scale number).1.length = 1 := by
      simp only [cut, List.length_take]
      by_cases padded : scale + 1 ≤ (digits number).length
      · -- Digits that begin with a zero are the digits of zero.
        rw [taken, padStart, Nat.sub_eq_zero_of_le padded, List.replicate_zero, List.nil_append] at zero
        have vanishes := head_digits zero
        subst vanishes
        have single : (digits 0).length = 1 := rfl
        have flat : scale = 0 := by omega
        subst flat
        rfl
      · have length : (padStart (scale + 1) (digits number)).length = scale + 1 := by
          rw [padStart, List.length_append, List.length_replicate]
          omega
        omega
    obtain ⟨digit, single⟩ := List.length_eq_one_iff.mp short
    rw [single] at zero ⊢
    simpa using zero
  · exact .inr ⟨cut_whole_ne_nil scale number, (isDigits_cut scale number).1, zero⟩

theorem cut_natural (isWhole : IsWhole whole) (fractionDigits : IsDigits fraction) :
    cut fraction.length (natural (whole ++ fraction)) = (whole, fraction) := by
  have nonempty : whole ++ fraction ≠ [] := fun empty => isWhole.ne_nil (List.append_eq_nil_iff.mp empty).1
  have kept := padStart_natural (isWhole.isDigits.append fractionDigits) nonempty
  have padded : padStart (fraction.length + 1) (digits (natural (whole ++ fraction))) = whole ++ fraction := by
    have positive : 0 < whole.length := List.length_pos_iff.mpr isWhole.ne_nil
    obtain rfl | ⟨_, _, leading⟩ := isWhole
    · rwa [List.length_append, List.length_singleton, Nat.add_comm] at kept
    · -- Without a zero in front nothing is padded.
      have unpadded : (whole ++ fraction).length - (digits (natural (whole ++ fraction))).length = 0 := by
        by_contra padding
        obtain ⟨extra, count⟩ := Nat.exists_eq_succ_of_ne_zero padding
        rw [padStart, count, List.replicate_succ, List.cons_append] at kept
        have head := congrArg List.head? kept
        rw [List.head?_append_of_ne_nil _ (List.length_pos_iff.mp positive)] at head
        exact leading head.symm
      rw [padStart, unpadded, List.replicate_zero, List.nil_append] at kept
      rw [padStart, kept, List.length_append]
      have : fraction.length + 1 - (whole.length + fraction.length) = 0 := by omega
      rw [this, List.replicate_zero, List.nil_append]
  have parts := (cut_append fraction.length (natural (whole ++ fraction))).trans padded
  have same := List.append_inj' parts (length_cut_fraction _ _)
  exact Prod.ext same.1 same.2

/-- A trimmed fraction is in lowest terms. -/
theorem lowestTerms_trim (whole : List Char) (fractionDigits : IsDigits fraction) :
    LowestTerms (natural (whole ++ fraction.rdropWhile (· == '0'))) (fraction.rdropWhile (· == '0')).length := by
  by_cases empty : fraction.rdropWhile (· == '0') = []
  · exact .inl (by rw [empty, List.length_nil])
  · right
    have last := List.rdropWhile_last_not (fun letter => letter == '0') fraction empty
    obtain ⟨small, rebuilt⟩ := digit_value (fractionDigits.trim _ (List.getLast_mem empty))
    rw [← List.dropLast_append_getLast empty, ← List.append_assoc, natural_concat]
    intro divisible
    have zero : ((fraction.rdropWhile (· == '0')).getLast empty).toNat - '0'.toNat = 0 := by omega
    rw [zero] at rebuilt
    exact last (beq_iff_eq.mpr rebuilt.symm)

end Numerals

end Decimal

end AiTrader.Library
