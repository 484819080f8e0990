import AiTrader.Exit.VerifiedExit

/-! # Exact quantities

The arithmetic of quantities on aligned coefficients: the functions of the verified exit, and the copies of the
remaining-exposure close. -/

namespace AiTrader.Exit

open Library Entry Decimal

/-- The comparison of two decimals: `-1`, `0` or `1`. -/
def compareDecimal (left right : ExactDecimal) : Ordering :=
  let (left, right) := alignedPair left right
  if left < right then .lt else if right < left then .gt else .eq

namespace RemainingExposure

/-- The parser of the remaining-exposure close. -/
def exact (text : String) : Option ExactDecimal :=
  let letters := trim text
  let (whole, fraction) := Decimal.split letters
  if (whole = ['0'] ∨ whole ≠ [] ∧ whole.head? ≠ some '0') ∧ whole.all Char.isDigit ∧ fraction.all Char.isDigit ∧
      (letters.contains '.' → fraction ≠ []) then
    let trimmed := fraction.rdropWhile (· == '0')
    some ⟨Decimal.natural (whole ++ trimmed), trimmed.length,
      String.ofList (if trimmed = [] then whole else whole ++ '.' :: trimmed)⟩
  else none

def align (value : ExactDecimal) (scale : Nat) : Nat := value.coefficient * 10 ^ (scale - value.scale)

def eq (left right : ExactDecimal) : Bool :=
  let scale := max left.scale right.scale
  align left scale == align right scale

/-- A coefficient and a scale without the zeros at the end, and their text. -/
def canonical (value : ExactDecimal) : ExactDecimal :=
  let (coefficient, scale) := reduce value.coefficient value.scale
  let (whole, fraction) := cut scale coefficient
  ⟨coefficient, scale, String.ofList (if scale ≠ 0 then whole ++ '.' :: fraction else whole)⟩

def add (values : List ExactDecimal) : ExactDecimal :=
  let scale := (values.map ExactDecimal.scale).foldl max 0
  canonical ⟨(values.map fun value => align value scale).foldl (· + ·) 0, scale, ""⟩

def subtract (left right : ExactDecimal) : Option ExactDecimal :=
  let scale := max left.scale right.scale
  if align left scale < align right scale then none
  else some (canonical ⟨align left scale - align right scale, scale, ""⟩)

end RemainingExposure

section Parsing

variable {text : String} {decimal other : ExactDecimal} {whole fraction : List Char}

/-- The decimal of a whole part and a fraction. -/
def ofParts (whole fraction : List Char) : ExactDecimal :=
  let trimmed := fraction.rdropWhile (· == '0')
  ⟨natural (whole ++ trimmed), trimmed.length, String.ofList (printTrimmed whole fraction)⟩

/-- The parser accepts a whole part and a fraction, and reads them exactly. -/
theorem parseExactNonNegativeDecimal_iff : parseExactNonNegativeDecimal text = some decimal ↔
    ∃ whole fraction, IsWhole whole ∧ IsDigits fraction ∧ Written (trim text) whole fraction ∧
      decimal = ofParts whole fraction := by
  simp only [parseExactNonNegativeDecimal]
  constructor
  · intro parsed
    split at parsed
    case isTrue accepted =>
      obtain ⟨isWhole, isDigits, written⟩ := parts_iff.mp accepted
      exact ⟨_, _, isWhole, isDigits, written, (Option.some.inj parsed).symm⟩
    case isFalse => cases parsed
  · rintro ⟨whole, fraction, isWhole, fractionDigits, written, rfl⟩
    have accepted := @parts_iff (trim text)
    rw [(split_written isWhole.isDigits written).1] at accepted ⊢
    exact if_pos (accepted.mpr ⟨isWhole, fractionDigits, written⟩)

theorem isSome_parse_iff : (parseExactNonNegativeDecimal text).isSome = true ↔ IsNumeral (trim text) := by
  rw [isNumeral_iff, Option.isSome_iff_exists]
  simp only [parseExactNonNegativeDecimal_iff]
  constructor
  · rintro ⟨_, whole, fraction, isWhole, isDigits, written, _⟩
    exact ⟨whole, fraction, isWhole, isDigits, written⟩
  · rintro ⟨whole, fraction, isWhole, isDigits, written⟩
    exact ⟨_, whole, fraction, isWhole, isDigits, written, rfl⟩

/-- A parsed decimal is the number that its text denotes. -/
theorem denote_of_parse (parsed : parseExactNonNegativeDecimal text = some decimal) :
    denote (trim text) = some decimal.value := by
  obtain ⟨whole, fraction, isWhole, isDigits, written, rfl⟩ := parseExactNonNegativeDecimal_iff.mp parsed
  have value : (ofParts whole fraction).value = scaled (natural (whole ++ fraction)) fraction.length :=
    scaled_trim whole fraction
  rw [value]
  obtain ⟨letters, rfl⟩ | ⟨letters, _⟩ := written
  · rw [letters, denote_digits isWhole.isDigits isWhole.ne_nil, List.append_nil, List.length_nil, scaled]
    simp
  · rw [letters, denote_point isWhole.isDigits isDigits isWhole.ne_nil]

theorem no_blank {letters : List Char} (isWhole : IsWhole whole) (isDigits : IsDigits fraction)
    (written : Written letters whole fraction) : ∀ letter ∈ letters, isBlank letter = false := by
  intro letter member
  obtain ⟨rfl, _⟩ | ⟨rfl, _⟩ := written
  · exact isBlank_digit (isWhole.isDigits letter member)
  · obtain member | member := List.mem_append.mp member
    · exact isBlank_digit (isWhole.isDigits letter member)
    · obtain rfl | member := List.mem_cons.mp member
      · decide
      · exact isBlank_digit (isDigits letter member)

theorem parse_printTrimmed (isWhole : IsWhole whole) (isDigits : IsDigits fraction) :
    parseExactNonNegativeDecimal (String.ofList (printTrimmed whole fraction)) = some (ofParts whole fraction) := by
  have written : Written (printTrimmed whole fraction) whole (fraction.rdropWhile (· == '0')) := by
    simp only [printTrimmed]
    split
    case isTrue empty => exact .inl ⟨rfl, empty⟩
    case isFalse nonempty => exact .inr ⟨rfl, nonempty⟩
  have kept : trim (String.ofList (printTrimmed whole fraction)) = printTrimmed whole fraction := by
    rw [trim, String.toList_ofList]
    exact strip_of_no_blank (no_blank isWhole isDigits.trim written)
  refine parseExactNonNegativeDecimal_iff.mpr ⟨whole, _, isWhole, isDigits.trim, by rw [kept]; exact written, ?_⟩
  simp only [ofParts, printTrimmed, List.rdropWhile_idempotent]

/-- A decimal that its own text denotes. -/
def ExactDecimal.Canonical (decimal : ExactDecimal) : Prop :=
  parseExactNonNegativeDecimal decimal.canonical = some decimal

theorem canonical_of_parse (parsed : parseExactNonNegativeDecimal text = some decimal) : decimal.Canonical := by
  obtain ⟨whole, fraction, isWhole, isDigits, _, rfl⟩ := parseExactNonNegativeDecimal_iff.mp parsed
  exact parse_printTrimmed isWhole isDigits

theorem canonical_iff : decimal.Canonical ↔
    ∃ whole fraction, IsWhole whole ∧ IsDigits fraction ∧ decimal = ofParts whole fraction := by
  constructor
  · intro canonical
    obtain ⟨whole, fraction, isWhole, isDigits, _, same⟩ := parseExactNonNegativeDecimal_iff.mp canonical
    exact ⟨whole, fraction, isWhole, isDigits, same⟩
  · rintro ⟨whole, fraction, isWhole, isDigits, rfl⟩
    exact parse_printTrimmed isWhole isDigits

/-- The decimal with a coefficient and a scale, and the text cut from its coefficient. -/
def ofCut (coefficient scale : Nat) : ExactDecimal :=
  ⟨coefficient, scale, String.ofList
    (if scale = 0 then (cut scale coefficient).1 else (cut scale coefficient).1 ++ '.' :: (cut scale coefficient).2)⟩

theorem ofCut_of_canonical (canonical : decimal.Canonical) :
    LowestTerms decimal.coefficient decimal.scale ∧ decimal = ofCut decimal.coefficient decimal.scale := by
  obtain ⟨whole, fraction, isWhole, isDigits, rfl⟩ := canonical_iff.mp canonical
  refine ⟨lowestTerms_trim whole isDigits, ?_⟩
  simp only [ofParts, ofCut, cut_natural isWhole isDigits.trim, printTrimmed, List.length_eq_zero_iff]

/-- Canonical decimals with one value are one record, and so have one text. -/
theorem ExactDecimal.Canonical.unique (canonical : decimal.Canonical) (canonical_other : other.Canonical)
    (same : decimal.value = other.value) : decimal = other := by
  obtain ⟨lowest, written⟩ := ofCut_of_canonical canonical
  obtain ⟨lowest_other, written_other⟩ := ofCut_of_canonical canonical_other
  obtain ⟨coefficient, scale⟩ := lowest.unique lowest_other same
  rw [written, written_other, coefficient, scale]

theorem canonical_ofCut {coefficient scale : Nat} (lowest : LowestTerms coefficient scale) :
    (ofCut coefficient scale).Canonical := by
  have isWhole := isWhole_cut scale coefficient
  have isDigits := (isDigits_cut scale coefficient).2
  have value : (ofParts (cut scale coefficient).1 (cut scale coefficient).2).value = scaled coefficient scale :=
    (scaled_trim _ _).trans (scaled_cut scale coefficient)
  obtain ⟨reduced, written⟩ := ofCut_of_canonical (canonical_iff.mpr ⟨_, _, isWhole, isDigits, rfl⟩)
  obtain ⟨same_coefficient, same_scale⟩ := reduced.unique lowest value
  rw [same_coefficient, same_scale] at written
  exact canonical_iff.mpr ⟨_, _, isWhole, isDigits, written.symm⟩

end Parsing

section Operations

variable {left right decimal : ExactDecimal} {text : String}

/-- Decimals compare as their values. -/
theorem compareDecimal_eq_cmp (left right : ExactDecimal) : compareDecimal left right = cmp left.value right.value := by
  have below : (alignedPair left right).1 < (alignedPair left right).2 ↔ left.value < right.value :=
    aligned_lt_iff (le_max_left _ _) (le_max_right _ _)
  have above : (alignedPair left right).2 < (alignedPair left right).1 ↔ right.value < left.value :=
    aligned_lt_iff (le_max_right _ _) (le_max_left _ _)
  simp only [compareDecimal, cmp, cmpUsing, below, above]

/-- The difference of aligned coefficients is the difference of the values. -/
theorem aligned_sub (bounded : ¬ left.value < right.value) :
    scaled (aligned left.coefficient left.scale (max left.scale right.scale) -
      aligned right.coefficient right.scale (max left.scale right.scale)) (max left.scale right.scale) =
    left.value - right.value := by
  have ordered : aligned right.coefficient right.scale (max left.scale right.scale) ≤
      aligned left.coefficient left.scale (max left.scale right.scale) := by
    rw [← not_lt, aligned_lt_iff (le_max_left _ _) (le_max_right _ _)]
    exact bounded
  rw [scaled_sub _ ordered, scaled_aligned (le_max_left _ _), scaled_aligned (le_max_right _ _)]
  rfl

theorem subtractDecimal_eq_none_iff : subtractDecimal left right = none ↔ left.value < right.value := by
  have below : (alignedPair left right).1 < (alignedPair left right).2 ↔ left.value < right.value :=
    aligned_lt_iff (le_max_left _ _) (le_max_right _ _)
  rw [← below]
  simp only [subtractDecimal]
  split_ifs <;> simp_all

/-- The text of a difference is the canonical text of the difference of the values. -/
theorem subtractDecimal_exact (written : subtractDecimal left right = some text) :
    ∃ difference, parseExactNonNegativeDecimal text = some difference ∧ difference.canonical = text ∧
      difference.value = left.value - right.value := by
  have bounded : ¬ left.value < right.value := by
    rw [← subtractDecimal_eq_none_iff, written]
    exact Option.some_ne_none _
  set scale := max left.scale right.scale with larger
  set remainder := (alignedPair left right).1 - (alignedPair left right).2 with difference
  have value : (ofParts (cut scale remainder).1 (cut scale remainder).2).value = left.value - right.value :=
    ((scaled_trim _ _).trans (scaled_cut scale remainder)).trans (aligned_sub bounded)
  have same : text = String.ofList (printTrimmed (cut scale remainder).1 (cut scale remainder).2) := by
    have unborrowed : ¬ (alignedPair left right).1 < (alignedPair left right).2 := by
      rwa [alignedPair, aligned_lt_iff (le_max_left _ _) (le_max_right _ _)]
    simp only [subtractDecimal, if_neg unborrowed] at written
    by_cases whole : max left.scale right.scale = 0
    · -- Nothing is cut off at scale zero.
      have uncut : cut scale remainder = (digits remainder, []) := by
        rw [larger, whole, cut, Nat.sub_zero, padStart, Nat.sub_eq_zero_of_le (Nat.length_toDigits_pos)]
        simp
      rw [if_pos whole] at written
      rw [uncut]
      exact (Option.some.inj written).symm
    · rw [if_neg whole] at written
      exact (Option.some.inj written).symm
  refine ⟨_, ?_, ?_, value⟩
  · rw [same]
    exact parse_printTrimmed (isWhole_cut _ _) (isDigits_cut _ _).2
  · rw [same]
    rfl

end Operations

namespace RemainingExposure

variable {left right decimal : ExactDecimal}

theorem eq_iff : eq left right = true ↔ left.value = right.value := by
  simp only [eq, beq_iff_eq]
  exact aligned_eq_iff (le_max_left _ _) (le_max_right _ _)

variable (value : ExactDecimal)

theorem canonical_eq_ofCut :
    canonical value = ofCut (reduce value.coefficient value.scale).1 (reduce value.coefficient value.scale).2 := by
  simp only [canonical, ofCut, ite_not]

theorem value_canonical : (canonical value).value = value.value := by
  rw [canonical_eq_ofCut]
  exact scaled_reduce value.coefficient value.scale

theorem canonical_canonical : (canonical value).Canonical := by
  rw [canonical_eq_ofCut]
  exact canonical_ofCut (lowestTerms_reduce value.coefficient value.scale)

theorem scale_le_foldl {values : List ExactDecimal} {start : Nat} :
    start ≤ (values.map ExactDecimal.scale).foldl max start ∧
      ∀ value ∈ values, value.scale ≤ (values.map ExactDecimal.scale).foldl max start := by
  induction values generalizing start with
  | nil => simp
  | cons first rest ih =>
    obtain ⟨above, bounded⟩ := @ih (max start first.scale)
    simp only [List.map_cons, List.foldl_cons, List.forall_mem_cons]
    exact ⟨(le_max_left _ _).trans above, (le_max_right _ _).trans above, bounded⟩

theorem scaled_foldl_align {values : List ExactDecimal} {scale start : Nat}
    (bounded : ∀ value ∈ values, value.scale ≤ scale) :
    scaled ((values.map fun value => align value scale).foldl (· + ·) start) scale =
      scaled start scale + (values.map ExactDecimal.value).sum := by
  induction values generalizing start with
  | nil => simp
  | cons first rest ih =>
    obtain ⟨below, others⟩ := List.forall_mem_cons.mp bounded
    have aligned_value : scaled (align first scale) scale = first.value := scaled_aligned below
    rw [List.map_cons, List.foldl_cons, ih others, scaled_add, aligned_value, List.map_cons, List.sum_cons, add_assoc]

variable (values : List ExactDecimal)

theorem value_add : (add values).value = (values.map ExactDecimal.value).sum := by
  rw [add, value_canonical]
  have sum := @scaled_foldl_align values _ 0 (@scale_le_foldl values 0).2
  have zero (scale : Nat) : scaled 0 scale = 0 := by simp [scaled]
  rwa [zero, zero_add] at sum

theorem canonical_add : (add values).Canonical := canonical_canonical _

theorem subtract_eq_none_iff : subtract left right = none ↔ left.value < right.value := by
  have below : align left (max left.scale right.scale) < align right (max left.scale right.scale) ↔
      left.value < right.value := aligned_lt_iff (le_max_left _ _) (le_max_right _ _)
  rw [← below]
  simp only [subtract]
  split_ifs with less <;> simp [less]

theorem subtract_exact (difference : subtract left right = some decimal) :
    decimal.Canonical ∧ decimal.value = left.value - right.value := by
  have bounded : ¬ left.value < right.value := by
    rw [← subtract_eq_none_iff, difference]
    exact Option.some_ne_none _
  simp only [subtract] at difference
  split_ifs at difference
  rw [← Option.some.inj difference]
  refine ⟨canonical_canonical _, ?_⟩
  rw [value_canonical]
  exact aligned_sub bounded

end RemainingExposure

theorem parseExactPositiveDecimal_iff {text : String} {decimal : ExactDecimal} :
    parseExactPositiveDecimal text = some decimal ↔ parseExactNonNegativeDecimal text = some decimal ∧ 0 < decimal.value := by
  rw [parseExactPositiveDecimal, Option.filter_eq_some_iff, decide_eq_true_iff]
  exact and_congr_right fun _ => scaled_pos_iff.symm

/-- The parser accepts the numerals and reads them exactly, texts are canonical, and both copies agree with the rationals. -/
theorem exactDecimal_laws :
    (∀ text, (parseExactNonNegativeDecimal text).isSome = true ↔ IsNumeral (trim text)) ∧
    (∀ text decimal, parseExactNonNegativeDecimal text = some decimal →
      denote (trim text) = some decimal.value ∧ parseExactNonNegativeDecimal decimal.canonical = some decimal) ∧
    (∀ text decimal, parseExactPositiveDecimal text = some decimal ↔
      parseExactNonNegativeDecimal text = some decimal ∧ 0 < decimal.value) ∧
    (∀ text other decimal same, parseExactNonNegativeDecimal text = some decimal →
      parseExactNonNegativeDecimal other = some same →
      (decimal.value = same.value ↔ decimal.canonical = same.canonical)) ∧
    (∀ left right, compareDecimal left right = cmp left.value right.value) ∧
    (∀ left right, equalDecimal left right = true ↔ left.value = right.value) ∧
    (∀ left right, (subtractDecimal left right = none ↔ left.value < right.value) ∧
      ∀ text, subtractDecimal left right = some text →
        ∃ difference, parseExactNonNegativeDecimal text = some difference ∧ difference.canonical = text ∧
          difference.value = left.value - right.value) ∧
    (∀ text, RemainingExposure.exact text = parseExactNonNegativeDecimal text) ∧
    (∀ left right, RemainingExposure.eq left right = true ↔ left.value = right.value) ∧
    (∀ values, (RemainingExposure.add values).value = (values.map ExactDecimal.value).sum ∧
      parseExactNonNegativeDecimal (RemainingExposure.add values).canonical = some (RemainingExposure.add values)) ∧
    (∀ left right, (RemainingExposure.subtract left right = none ↔ left.value < right.value) ∧
      ∀ difference, RemainingExposure.subtract left right = some difference →
        parseExactNonNegativeDecimal difference.canonical = some difference ∧
          difference.value = left.value - right.value) ∧
    ∀ value, (RemainingExposure.canonical value).value = value.value ∧
      parseExactNonNegativeDecimal (RemainingExposure.canonical value).canonical =
        some (RemainingExposure.canonical value) := by
  refine ⟨fun _ => isSome_parse_iff, ?_, fun _ _ => parseExactPositiveDecimal_iff, ?_, compareDecimal_eq_cmp,
    fun _ _ => equalDecimal_iff, ?_, fun _ => rfl, fun _ _ => RemainingExposure.eq_iff, ?_, ?_, ?_⟩
  · intro text decimal parsed
    exact ⟨denote_of_parse parsed, canonical_of_parse parsed⟩
  · intro text other decimal same parsed parsed_other
    constructor
    · intro value
      rw [(canonical_of_parse parsed).unique (canonical_of_parse parsed_other) value]
    · intro written
      have read := canonical_of_parse parsed
      rw [ExactDecimal.Canonical, written, canonical_of_parse parsed_other] at read
      rw [Option.some.inj read]
  · intro left right
    exact ⟨subtractDecimal_eq_none_iff, fun _ => subtractDecimal_exact⟩
  · intro values
    exact ⟨RemainingExposure.value_add values, RemainingExposure.canonical_add values⟩
  · intro left right
    exact ⟨RemainingExposure.subtract_eq_none_iff, fun _ => RemainingExposure.subtract_exact⟩
  · intro value
    exact ⟨RemainingExposure.value_canonical value, RemainingExposure.canonical_canonical value⟩

end AiTrader.Exit
