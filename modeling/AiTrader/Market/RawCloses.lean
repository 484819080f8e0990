import Mathlib
import AiTrader.Library.WorkingPrecision

/-! # The comparison of raw closes

Raw closes of two sessions are compared after the split factors between them, in decimals of 80 significant digits. -/

namespace AiTrader.BreadthV2

open Library WorkingPrecision

/-- The texts of the canonical columns have ten decimals: a bar holds their coefficients. -/
structure ResearchBar where
  (close splitFactor : Int)

inductive Direction where
  | advancing | declining | unchanged
deriving DecidableEq

structure Comparison where
  direction : Direction
  missingSplitEvidenceSessions : Nat
deriving DecidableEq

/-- A decimal that is not negative. -/
structure Decimal where
  (coefficient places : Nat)

/-- `new Decimal(text)` of a positive text. -/
def decimal (text : Int) : Decimal := ⟨text.toNat, 10⟩

/-- Multiplication in `Prisma.Decimal.clone({ precision: 80 })`. -/
def Decimal.mul (left right : Decimal) : Decimal :=
  ⟨keep 80 (left.coefficient * right.coefficient), left.places + right.places⟩

def Decimal.comparedTo (left right : Decimal) : Ordering :=
  cmp (left.coefficient * 10 ^ right.places) (right.coefficient * 10 ^ left.places)

def directionOf : Ordering → Direction
  | .gt => .advancing
  | .lt => .declining
  | .eq => .unchanged

/-- `bars.get(sessions[index])`, where an index outside the list has no session. -/
def barAt (sessions : List String) (bars : String → Option ResearchBar) (index : Int) : Option ResearchBar :=
  if index < 0 then none else sessions[index.toNat]?.bind bars

/-- The indexes after the anchor through the target. -/
def between (anchorIndex targetIndex : Int) : List Int :=
  (List.range (targetIndex - anchorIndex).toNat).map fun (step : Nat) => anchorIndex + 1 + step

/-- The loop over the sessions after the anchor: the product of the factors and the sessions without a bar. -/
def accumulate (found : Int → Option ResearchBar) : Decimal → Nat → List Int → Option (Decimal × Nat)
  | factor, missing, [] => some (factor, missing)
  | factor, missing, index :: later =>
    match found index with
    | none => accumulate found factor (missing + 1) later
    | some bar =>
      if bar.splitFactor ≤ 0 then none else accumulate found (factor.mul (decimal bar.splitFactor)) missing later

/-- The comparison of the bars found by index. -/
def compareBars (found : Int → Option ResearchBar) (anchorIndex targetIndex : Int) (allowMissingSplitEvidence : Bool) :
    Option Comparison := do
  let anchor ← found anchorIndex
  let target ← found targetIndex
  guard (anchorIndex < targetIndex)
  let (factor, missing) ← accumulate found ⟨1, 0⟩ 0 (between anchorIndex targetIndex)
  guard (missing = 0 ∨ allowMissingSplitEvidence)
  guard (0 < anchor.close ∧ 0 < target.close)
  return ⟨directionOf (((decimal target.close).mul factor).comparedTo (decimal anchor.close)), missing⟩

def compareRawCloses (sessions : List String) (anchorIndex targetIndex : Int) (bars : String → Option ResearchBar)
    (allowMissingSplitEvidence : Bool) : Option Comparison :=
  compareBars (barAt sessions bars) anchorIndex targetIndex allowMissingSplitEvidence

/-! ## Decimals and their values -/

/-- The number a column's text writes. -/
def value (text : Int) : ℚ := text / 10 ^ 10

def Decimal.value (number : Decimal) : ℚ := number.coefficient / 10 ^ number.places

theorem value_pos {text : Int} : 0 < value text ↔ 0 < text := by
  unfold value
  rw [div_pos_iff_of_pos_right (by positivity), Int.cast_pos]

theorem value_decimal {text : Int} (positive : 0 < text) : (decimal text).value = value text := by
  have written : ((text.toNat : Int) : ℚ) = text := congrArg _ (Int.toNat_of_nonneg positive.le)
  unfold Decimal.value decimal value
  rw [← written, Int.cast_natCast]

theorem Decimal.comparedTo_eq (left right : Decimal) : left.comparedTo right = cmp left.value right.value := by
  have scale : (0 : ℚ) < 10 ^ left.places * 10 ^ right.places := by positivity
  have scaled (number : Decimal) (other : Nat) :
      number.value * (10 ^ number.places * 10 ^ other) = ((number.coefficient * 10 ^ other : Nat) : ℚ) := by
    unfold Decimal.value
    push_cast
    field_simp
  rw [← cmp_mul_pos_right scale, scaled left, mul_comm (10 ^ left.places), scaled right, Nat.strictMono_cast.cmp_map_eq]
  rfl

/-- A product that fits is exact. -/
theorem Decimal.value_mul {left right : Decimal} (fit : Fits 80 (left.coefficient * right.coefficient)) :
    (left.mul right).value = left.value * right.value := by
  unfold Decimal.mul Decimal.value
  rw [keep_eq_iff.mpr fit, Nat.cast_mul, pow_add, mul_div_mul_comm]

/-! ## Exactness -/

section Exactness

variable {found : Int → Option ResearchBar} {anchorIndex targetIndex : Int} {allow : Bool}

/-- The close and the split factor of a session. -/
def quoteAt (found : Int → Option ResearchBar) (index : Int) : Option (ℚ × ℚ) :=
  (found index).map fun bar => (value bar.close, value bar.splitFactor)

/-- Every session has a positive factor, or has no bar where none is needed. -/
def Known (quotes : Int → Option (ℚ × ℚ)) (allow : Bool) (indexes : List Int) : Prop :=
  ∀ index ∈ indexes, (quotes index).elim allow (fun quote => decide (0 < quote.2)) = true

instance (quotes : Int → Option (ℚ × ℚ)) (allow : Bool) (indexes : List Int) : Decidable (Known quotes allow indexes) :=
  inferInstanceAs (Decidable (∀ index ∈ indexes, _))

/-- The product of the known factors. -/
def product (quotes : Int → Option (ℚ × ℚ)) (indexes : List Int) : ℚ :=
  (indexes.map fun index => (quotes index).elim 1 (·.2)).prod

/-- The anchor is before the target, both closes are positive, and so are the factors in between. -/
def exactDirection (quotes : Int → Option (ℚ × ℚ)) (anchorIndex targetIndex : Int) (allow : Bool) : Option Direction := do
  let anchor ← quotes anchorIndex
  let target ← quotes targetIndex
  guard (anchorIndex < targetIndex ∧ 0 < anchor.1 ∧ 0 < target.1 ∧ Known quotes allow (between anchorIndex targetIndex))
  return directionOf (cmp (target.1 * product quotes (between anchorIndex targetIndex)) anchor.1)

/-- No product of the factors has digits over the precision, nor the last one with the target close. -/
def Unrounded (found : Int → Option ResearchBar) (close : Int) : Nat → List Int → Prop
  | factor, [] => Fits 80 ((decimal close).coefficient * factor)
  | factor, index :: later =>
    let next := (found index).elim factor fun bar => factor * (decimal bar.splitFactor).coefficient
    Fits 80 next ∧ Unrounded found close next later

/-- No product of the comparison is rounded. -/
def ProductsFit (found : Int → Option ResearchBar) (anchorIndex targetIndex : Int) : Prop :=
  ∀ target, found targetIndex = some target → Unrounded found target.close 1 (between anchorIndex targetIndex)

theorem accumulate_known {indexes : List Int} {factor : Decimal} {missing : Nat} :
    (∃ result, accumulate found factor missing indexes = some result ∧ (result.2 = 0 ∨ allow = true)) ↔
      (missing = 0 ∨ allow = true) ∧ Known (quoteAt found) allow indexes := by
  unfold Known
  induction indexes generalizing factor missing with
  | nil => simp [accumulate]
  | cons index later ih =>
    rw [List.forall_mem_cons]
    cases atIndex : found index with
    | none =>
      simp only [accumulate, atIndex, ih, quoteAt]
      cases allow <;> simp
    | some bar =>
      by_cases positive : 0 < bar.splitFactor
      · simp [accumulate, atIndex, ih, positive, not_le.mpr positive, quoteAt, value_pos]
      · simp [accumulate, atIndex, positive, not_lt.mp positive, quoteAt, value_pos]

theorem accumulate_exact {indexes : List Int} {factor : Decimal} {missing : Nat} {result : Decimal × Nat} {close : Int}
    (looped : accumulate found factor missing indexes = some result)
    (unrounded : Unrounded found close factor.coefficient indexes) :
    result.1.value = factor.value * product (quoteAt found) indexes ∧
      Fits 80 ((decimal close).coefficient * result.1.coefficient) := by
  unfold product
  induction indexes generalizing factor missing with
  | nil =>
    cases looped
    exact ⟨(mul_one _).symm, unrounded⟩
  | cons index later ih =>
    obtain ⟨fit, rest⟩ := unrounded
    rw [List.map_cons, List.prod_cons, ← mul_assoc]
    cases atIndex : found index with
    | none =>
      simp only [accumulate, atIndex, Option.elim_none] at looped rest
      simpa [quoteAt, atIndex] using ih looped rest
    | some bar =>
      simp only [accumulate, atIndex, Option.elim_some] at looped rest fit
      split at looped
      · contradiction
      · next positive =>
        have kept : (factor.mul (decimal bar.splitFactor)).coefficient = factor.coefficient * (decimal bar.splitFactor).coefficient :=
          keep_eq_iff.mpr fit
        obtain ⟨exact_, last⟩ := ih looped (kept ▸ rest)
        rw [Decimal.value_mul fit, value_decimal (not_le.mp positive)] at exact_
        rw [exact_, quoteAt, atIndex]
        exact ⟨rfl, last⟩

theorem exactDirection_eq_some {direction : Direction} :
    exactDirection (quoteAt found) anchorIndex targetIndex allow = some direction ↔
      ∃ anchor target, found anchorIndex = some anchor ∧ found targetIndex = some target ∧
        (anchorIndex < targetIndex ∧ 0 < anchor.close ∧ 0 < target.close ∧
          Known (quoteAt found) allow (between anchorIndex targetIndex)) ∧
        directionOf (cmp (value target.close * product (quoteAt found) (between anchorIndex targetIndex)) (value anchor.close)) =
          direction := by
  cases atAnchor : found anchorIndex <;> cases atTarget : found targetIndex <;>
    simp [exactDirection, quoteAt, atAnchor, atTarget, Option.bind_eq_some_iff, value_pos]

theorem compareBars_eq_some {comparison : Comparison} (compared : compareBars found anchorIndex targetIndex allow = some comparison) :
    ∃ direction, exactDirection (quoteAt found) anchorIndex targetIndex allow = some direction ∧
      (ProductsFit found anchorIndex targetIndex → comparison.direction = direction) := by
  simp only [compareBars, Option.bind_eq_bind, Option.bind_eq_some_iff, Option.guard_eq_some'] at compared
  obtain ⟨anchor, atAnchor, target, atTarget, _, ordered, ⟨factor, missing⟩, looped, _, evidence, _, ⟨positive, positive'⟩,
    made⟩ := compared
  cases made
  have known := (accumulate_known).mp ⟨_, looped, evidence⟩
  refine ⟨_, exactDirection_eq_some.mpr ⟨anchor, target, atAnchor, atTarget, ⟨ordered, positive, positive', known.2⟩, rfl⟩,
    fun unrounded => ?_⟩
  obtain ⟨exact_, last⟩ := accumulate_exact looped (unrounded target atTarget)
  have start : (⟨1, 0⟩ : Decimal).value = 1 := by norm_num [Decimal.value]
  rw [start, one_mul] at exact_
  rw [← exact_, ← value_decimal positive', ← Decimal.value_mul last, ← value_decimal positive, ← Decimal.comparedTo_eq]

theorem compareBars_ne_none {direction : Direction}
    (compared : exactDirection (quoteAt found) anchorIndex targetIndex allow = some direction) :
    compareBars found anchorIndex targetIndex allow ≠ none := by
  obtain ⟨anchor, target, atAnchor, atTarget, ⟨ordered, positive, positive', known⟩, -⟩ := exactDirection_eq_some.mp compared
  obtain ⟨result, looped, evidence⟩ := (accumulate_known).mpr ⟨.inl rfl, known⟩
  apply Option.ne_none_iff_exists'.mpr
  simp only [compareBars, Option.bind_eq_bind, Option.bind_eq_some_iff, Option.guard_eq_some']
  exact ⟨_, anchor, atAnchor, target, atTarget, (), ordered, result, looped, (), evidence, (), ⟨positive, positive'⟩, rfl⟩

theorem compareBars_eq_none : compareBars found anchorIndex targetIndex allow = none ↔
    exactDirection (quoteAt found) anchorIndex targetIndex allow = none := by
  rw [← not_iff_not]
  constructor
  · intro compared
    obtain ⟨comparison, compared⟩ := Option.ne_none_iff_exists'.mp compared
    obtain ⟨direction, exact_, -⟩ := compareBars_eq_some compared
    exact Option.ne_none_iff_exists'.mpr ⟨direction, exact_⟩
  · intro exact_
    obtain ⟨direction, exact_⟩ := Option.ne_none_iff_exists'.mp exact_
    exact compareBars_ne_none exact_

theorem compareBars_direction (fit : ProductsFit found anchorIndex targetIndex) :
    (compareBars found anchorIndex targetIndex allow).map (·.direction) =
      exactDirection (quoteAt found) anchorIndex targetIndex allow := by
  cases compared : compareBars found anchorIndex targetIndex allow with
  | none => exact (compareBars_eq_none.mp compared).symm
  | some comparison =>
    obtain ⟨direction, exact_, same⟩ := compareBars_eq_some compared
    rw [exact_, Option.map_some, same fit]

end Exactness

/-! ## Rescaling -/

section Rescaling

variable {anchorIndex targetIndex session : Int} {ratio : ℚ} {quotes : Int → Option (ℚ × ℚ)} {allow : Bool}

/-- A security's quotes with the closes before a session and the session's split factor multiplied by a ratio. -/
def rescaled (session : Int) (ratio : ℚ) (quotes : Int → Option (ℚ × ℚ)) (index : Int) : Option (ℚ × ℚ) :=
  (quotes index).map fun quote =>
    ((if index < session then ratio else 1) * quote.1, (if index = session then ratio else 1) * quote.2)

theorem scale_pos (positive : 0 < ratio) (within : Prop) [Decidable within] : 0 < if within then ratio else 1 := by
  split
  · exact positive
  · exact one_pos

theorem mem_between {index : Int} : index ∈ between anchorIndex targetIndex ↔ anchorIndex < index ∧ index ≤ targetIndex := by
  unfold between
  rw [List.mem_map]
  constructor
  · rintro ⟨step, within, rfl⟩
    have := List.mem_range.mp within
    omega
  · rintro ⟨later, within⟩
    exact ⟨(index - anchorIndex - 1).toNat, List.mem_range.mpr (by omega), by omega⟩

/-- The factors between two sessions carry the ratio when the split is between them. -/
theorem product_rescaled (known : session ∈ between anchorIndex targetIndex → quotes session ≠ none) :
    product (rescaled session ratio quotes) (between anchorIndex targetIndex) =
      (if anchorIndex < session ∧ session ≤ targetIndex then ratio else 1) * product quotes (between anchorIndex targetIndex) := by
  have each : ∀ index ∈ between anchorIndex targetIndex, (rescaled session ratio quotes index).elim 1 (·.2) =
      (if index = session then ratio else 1) * (quotes index).elim 1 (·.2) := by
    intro index within
    unfold rescaled
    cases found : quotes index with
    | none =>
      have other : index ≠ session := fun same => known (same ▸ within) (same ▸ found)
      simp [other]
    | some quote => rfl
  have distinct : (between anchorIndex targetIndex).Nodup := List.nodup_range.map fun _ _ => by omega
  unfold product
  rw [List.map_congr_left each, List.prod_map_mul,
    List.prod_map_eq_pow_single session _ fun index other _ => if_neg other, if_pos rfl, distinct.count]
  simp only [mem_between]
  split
  · rw [pow_one]
  · rw [pow_zero]

/-- A security rescaled together with the matching split moves in the same direction. -/
theorem exactDirection_rescaled (positive : 0 < ratio) (present : allow = false ∨ quotes session ≠ none) :
    exactDirection (rescaled session ratio quotes) anchorIndex targetIndex allow =
      exactDirection quotes anchorIndex targetIndex allow := by
  have known (indexes : List Int) : Known (rescaled session ratio quotes) allow indexes ↔ Known quotes allow indexes := by
    refine forall₂_congr fun index _ => ?_
    unfold rescaled
    cases quotes index with
    | none => rfl
    | some quote => simp only [Option.map_some, Option.elim_some, mul_pos_iff_of_pos_left (scale_pos positive _)]
  cases atAnchor : quotes anchorIndex with
  | none => simp [exactDirection, rescaled, atAnchor]
  | some anchor =>
  cases atTarget : quotes targetIndex with
  | none => simp [exactDirection, rescaled, atTarget]
  | some target =>
  simp only [exactDirection, Option.bind_eq_bind, known, rescaled.eq_1 session ratio quotes anchorIndex,
    rescaled.eq_1 session ratio quotes targetIndex, atAnchor, atTarget, Option.map_some, Option.bind_some,
    mul_pos_iff_of_pos_left (scale_pos positive _)]
  apply Option.bind_congr
  intro _ checked
  obtain ⟨ordered, -, -, factors⟩ := (Option.guard_eq_some' _).mp checked
  have carried : (if targetIndex < session then ratio else 1) *
      (if anchorIndex < session ∧ session ≤ targetIndex then ratio else 1) = if anchorIndex < session then ratio else 1 := by
    grind
  rw [product_rescaled, mul_mul_mul_comm, carried, cmp_mul_pos_left (scale_pos positive _)]
  intro within absent
  have allowed := factors session within
  rw [absent] at allowed
  exact present.elim (fun strict => by simp [strict] at allowed) (· absent)

end Rescaling

/-- A comparison is null exactly when the exact one is; unless a product is rounded it has the exact direction, and a
security rescaled with its split keeps it. -/
theorem compareRawCloses_exact (sessions : List String) (anchorIndex targetIndex : Int) (bars : String → Option ResearchBar)
    (allow : Bool) :
    (compareRawCloses sessions anchorIndex targetIndex bars allow = none ↔
      exactDirection (quoteAt (barAt sessions bars)) anchorIndex targetIndex allow = none) ∧
    (ProductsFit (barAt sessions bars) anchorIndex targetIndex →
      (compareRawCloses sessions anchorIndex targetIndex bars allow).map (·.direction) =
        exactDirection (quoteAt (barAt sessions bars)) anchorIndex targetIndex allow) ∧
    ∀ (others : String → Option ResearchBar) (session : Int) (ratio : ℚ), 0 < ratio →
      (allow = false ∨ barAt sessions bars session ≠ none) →
      quoteAt (barAt sessions others) = rescaled session ratio (quoteAt (barAt sessions bars)) →
      ProductsFit (barAt sessions bars) anchorIndex targetIndex → ProductsFit (barAt sessions others) anchorIndex targetIndex →
      (compareRawCloses sessions anchorIndex targetIndex others allow).map (·.direction) =
        (compareRawCloses sessions anchorIndex targetIndex bars allow).map (·.direction) := by
  refine ⟨compareBars_eq_none, compareBars_direction, fun others session ratio positive present scaled fit fit' => ?_⟩
  unfold compareRawCloses
  rw [compareBars_direction fit', compareBars_direction fit, scaled]
  apply exactDirection_rescaled positive
  exact present.imp_right fun found => by simpa [quoteAt] using found

/-- The bars of consecutive sessions. -/
def barsOf (sessions : List String) (bars : List ResearchBar) (date : String) : Option ResearchBar :=
  (sessions.zip bars).lookup date

/-- A split of two for one: the close of 100 before it is the close of 50 after it. -/
theorem compareRawCloses_exact_split :
    let sessions := ["2026-09-22", "2026-09-23"]
    let plain := barsOf sessions [⟨50 * 10 ^ 10, 10 ^ 10⟩, ⟨50 * 10 ^ 10, 10 ^ 10⟩]
    let split := barsOf sessions [⟨100 * 10 ^ 10, 10 ^ 10⟩, ⟨50 * 10 ^ 10, 2 * 10 ^ 10⟩]
    compareRawCloses sessions 0 1 plain false ≠ none ∧
      (compareRawCloses sessions 0 1 split false).map (·.direction) = (compareRawCloses sessions 0 1 plain false).map (·.direction) := by
  intro sessions plain split
  obtain ⟨made, -, scaled⟩ := compareRawCloses_exact sessions 0 1 plain false
  refine ⟨mt made.mp (by decide +kernel), scaled split 1 2 two_pos (.inl rfl) ?_ ?_ ?_⟩
  · funext index
    match index with
    | .ofNat 0 => decide +kernel
    | .ofNat 1 => decide +kernel
    | .ofNat (_ + 2) => rfl
    | .negSucc _ => simp [quoteAt, rescaled, barAt]
  · rintro target ⟨⟩
    exact ⟨by decide +kernel, show Fits 80 _ by decide +kernel⟩
  · rintro target ⟨⟩
    exact ⟨by decide +kernel, show Fits 80 _ by decide +kernel⟩

/-- Eight factors times the close are a little under a million, rounded to 80 digits the million. -/
theorem compareRawCloses_rounds :
    let sessions := ["2026-09-14", "2026-09-15", "2026-09-16", "2026-09-17", "2026-09-18", "2026-09-21", "2026-09-22",
      "2026-09-23", "2026-09-24"]
    let bars := barsOf sessions [⟨10 ^ 16, 10 ^ 10⟩, ⟨1, 9999999900000001⟩, ⟨1, 75118313082913⟩, ⟨1, 66554101249⟩, ⟨1, 206209⟩,
      ⟨1, 69857⟩, ⟨1, 1409 * 641 * 449⟩, ⟨1, 353 * 97⟩, ⟨10 ^ 24 - 1, 17 * 5882353⟩]
    compareRawCloses sessions 0 8 bars false = some ⟨.unchanged, 0⟩ ∧
      exactDirection (quoteAt (barAt sessions bars)) 0 8 false = some .declining := by
  decide +kernel

end AiTrader.BreadthV2
