import AiTrader.Library.Aggregate
import AiTrader.Library.Decimal
import AiTrader.Library.KeyOrder
import AiTrader.Library.Service
import AiTrader.Library.WorkingPrecision
import AiTrader.Market.DailyBars

/-! # Fifteen minutes as one bar

The fifteen minutes of a window make its bar; the volume is the sum only as long as the working precision holds the
partial sums. -/

namespace AiTrader.Market

open Library WorkingPrecision

/-- A minute of the Tiingo client; a number stands by the decimal that JavaScript prints for it. -/
structure MinuteRow where
  barStartAt : Int
  (opening high low close volume : ℚ)
deriving DecidableEq

/-- The rounded numbers of a minute, the volume in millionths. -/
structure MinuteValues where
  (opening high low close : ℚ)
  volume : Nat

structure MinuteBar where
  barStartAt : Int
  (opening high low close volume : ℚ)
deriving DecidableEq

inductive MinuteError where
  | invalidPricePrecision | invalidVolumePrecision
deriving DecidableEq

def MinuteError.text : MinuteError → String
  | .invalidPricePrecision => "Invalid Tiingo minute price precision."
  | .invalidVolumePrecision => "Invalid Tiingo minute volume precision."

/-- The default `precision` of a `Decimal`. -/
def decimalPrecision : Nat := 20

def windowMs : Int := 900000

section Source

/-- `price`; `toDecimalPlaces` rounds like a `numeric` column does. -/
def minutePrice (value : ℚ) : Except MinuteError ℚ :=
  let decimal := numericValue 10 value
  if decimal ≤ 0 ∨ 10 ^ 12 ≤ decimal then .error .invalidPricePrecision else .ok decimal

/-- `quantity` -/
def minuteQuantity (value : ℚ) : Except MinuteError Nat :=
  let decimal := numericValue 6 value
  if decimal < 0 ∨ 10 ^ 20 ≤ decimal then .error .invalidVolumePrecision else .ok ⌊decimal * 10 ^ 6⌋.toNat

def minuteValues (row : MinuteRow) : Except MinuteError MinuteValues := do
  let opening ← minutePrice row.opening
  let high ← minutePrice row.high
  let low ← minutePrice row.low
  let close ← minutePrice row.close
  let volume ← minuteQuantity row.volume
  return { opening, high, low, close, volume }

def inWindow (start : Int) (row : MinuteRow) : Bool :=
  decide (start ≤ row.barStartAt) && decide (row.barStartAt < start + windowMs)

/-- The rows of a window by time. -/
def minuteWindow (rows : List MinuteRow) (start : Int) : List MinuteRow :=
  byKey MinuteRow.barStartAt (rows.filter (inWindow start))

/-- `window.some(…)` -/
def offGrid (start : Int) (window : List MinuteRow) : Bool :=
  window.zipIdx.any fun (row, index) => row.barStartAt != start + index * minuteMs

def minuteBar (start : Int) (values : List MinuteValues) : Option MinuteBar :=
  match values[0]?, values[14]? with
  | some first, some last => some
    { barStartAt := start
      opening := first.opening
      high := values.foldl (fun best minute => max best minute.high) first.high
      low := values.foldl (fun best minute => min best minute.low) first.low
      close := last.close
      volume := Decimal.scaled (total decimalPrecision (values.map MinuteValues.volume)) 6 }
  | _, _ => none

def aggregateTiingoMinuteWindow (rows : List MinuteRow) (start : Int) : Except MinuteError (Option MinuteBar) :=
  let window := minuteWindow rows start
  if window.length ≠ 15 ∨ offGrid start window = true then .ok none
  else do
    let values ← window.mapM minuteValues
    return minuteBar start values

/-- The bars of the windows that are not there yet, as `syncMinuteBars` collects them. -/
def missingBars (rows : List MinuteRow) (missing : List Int) : Except MinuteError (List MinuteBar) := do
  let bars ← missing.mapM (aggregateTiingoMinuteWindow rows)
  return bars.reduceOption

variable (daylight : Int → Bool) (exceptions : List CalendarException)

/-- The windows of a list that are eligible. -/
def eligibleStarts (now : Int) : List Int → Except CalendarError (List Int)
  | [] => .ok []
  | start :: later => do
    let (status, _) ← barEligibility daylight exceptions .minute15 start now
    let starts ← eligibleStarts now later
    return if status = .eligible then start :: starts else starts

/-- The windows of a session, every fifteen minutes from its open and before its close. -/
def sessionStarts (session : MarketSession) : List Int :=
  (List.range ((session.closeAt - session.openAt + (windowMs - 1)) / windowMs).toNat).map fun (index : Nat) =>
    session.openAt + index * windowMs

def expectedMinuteStarts (session : MarketSession) (now : Int) : Except CalendarError (List Int) :=
  eligibleStarts daylight exceptions now (sessionStarts session)

end Source

/-- The times of a whole window. -/
def minuteGrid (start : Int) : List Int := (List.range 15).map fun (index : Nat) => start + index * minuteMs

/-- The rows inside the window are the fifteen minutes of its grid, each once. -/
def WholeWindow (rows : List MinuteRow) (start : Int) : Prop :=
  ((rows.filter (inWindow start)).map MinuteRow.barStartAt).Perm (minuteGrid start)

instance (rows : List MinuteRow) (start : Int) : Decidable (WholeWindow rows start) :=
  inferInstanceAs (Decidable (List.Perm _ _))

/-- A price that passes its check. -/
def PriceAdmitted (value : ℚ) : Prop := 0 < numericValue 10 value ∧ numericValue 10 value < 10 ^ 12

/-- A volume that passes its check. -/
def VolumeAdmitted (value : ℚ) : Prop := 0 ≤ numericValue 6 value ∧ numericValue 6 value < 10 ^ 20

/-- A minute whose numbers pass their checks. -/
structure Admitted (row : MinuteRow) : Prop where
  opening : PriceAdmitted row.opening
  high : PriceAdmitted row.high
  low : PriceAdmitted row.low
  close : PriceAdmitted row.close
  volume : VolumeAdmitted row.volume

instance (value : ℚ) : Decidable (PriceAdmitted value) := inferInstanceAs (Decidable (_ ∧ _))

instance (value : ℚ) : Decidable (VolumeAdmitted value) := inferInstanceAs (Decidable (_ ∧ _))

instance (row : MinuteRow) : Decidable (Admitted row) :=
  decidable_of_iff (PriceAdmitted row.opening ∧ PriceAdmitted row.high ∧ PriceAdmitted row.low ∧ PriceAdmitted row.close ∧
      VolumeAdmitted row.volume)
    ⟨fun ⟨opening, high, low, close, volume⟩ => ⟨opening, high, low, close, volume⟩,
      fun ⟨opening, high, low, close, volume⟩ => ⟨opening, high, low, close, volume⟩⟩

/-- The rounded volume in millionths. -/
def millionths (row : MinuteRow) : Nat := ⌊numericValue 6 row.volume * 10 ^ 6⌋.toNat

def roundedMinute (row : MinuteRow) : MinuteValues :=
  { opening := numericValue 10 row.opening
    high := numericValue 10 row.high
    low := numericValue 10 row.low
    close := numericValue 10 row.close
    volume := millionths row }

section Rounding

variable {scale : Nat} {value other : ℚ}

theorem numericValue_mono (ordered : value ≤ other) : numericValue scale value ≤ numericValue scale other := by
  have unit : (0 : ℚ) < 10 ^ scale := by positivity
  have rounded_nonneg {number : ℚ} (nonneg : 0 ≤ number) : 0 ≤ (⌊number * 10 ^ scale + 1 / 2⌋ : ℚ) / 10 ^ scale := by
    have floored : 0 ≤ ⌊number * 10 ^ scale + 1 / 2⌋ := Int.floor_nonneg.mpr (by positivity)
    have cast : (0 : ℚ) ≤ ⌊number * 10 ^ scale + 1 / 2⌋ := by exact_mod_cast floored
    positivity
  have rounded_mono {left right : ℚ} (below : left ≤ right) :
      (⌊left * 10 ^ scale + 1 / 2⌋ : ℚ) / 10 ^ scale ≤ ⌊right * 10 ^ scale + 1 / 2⌋ / 10 ^ scale := by
    gcongr
  unfold numericValue
  split_ifs with first second second
  · exact rounded_mono ordered
  · exact absurd (first.trans ordered) second
  · have left := rounded_nonneg (neg_nonneg.mpr (not_le.mp first).le)
    have right := rounded_nonneg second
    linarith
  · exact neg_le_neg (rounded_mono (neg_le_neg ordered))

/-- A rounded number is a whole number of its last places. -/
theorem numericValue_whole {scale : Nat} {value : ℚ} : ∃ units : ℤ, numericValue scale value = units / 10 ^ scale := by
  unfold numericValue
  split
  · exact ⟨_, rfl⟩
  · exact ⟨-⌊-value * 10 ^ scale + 1 / 2⌋, by push_cast; rw [neg_div]⟩

theorem scaled_units (nonneg : 0 ≤ numericValue scale value) :
    Decimal.scaled ⌊numericValue scale value * 10 ^ scale⌋.toNat scale = numericValue scale value := by
  obtain ⟨units, whole⟩ := numericValue_whole
  have unit : (0 : ℚ) < 10 ^ scale := by positivity
  have product : numericValue scale value * 10 ^ scale = units := by
    rw [whole, div_mul_cancel₀ _ unit.ne']
  have floored : 0 ≤ units := by
    have bounded : (0 : ℚ) ≤ units := product ▸ mul_nonneg nonneg unit.le
    exact_mod_cast bounded
  have counted : ((units.toNat : ℤ) : ℚ) = units := by rw [Int.toNat_of_nonneg floored]
  rw [product, Int.floor_intCast, Decimal.scaled, whole]
  congr 1

theorem scaled_sum (coefficients : List Nat) :
    Decimal.scaled coefficients.sum scale = (coefficients.map fun coefficient => Decimal.scaled coefficient scale).sum := by
  induction coefficients with
  | nil => simp [Decimal.scaled]
  | cons coefficient later ih => rw [List.sum_cons, Decimal.scaled_add, ih, List.map_cons, List.sum_cons]

end Rounding

section Values

variable {row : MinuteRow} {value : ℚ}

theorem minutePrice_eq_ok {rounded : ℚ} :
    minutePrice value = .ok rounded ↔ PriceAdmitted value ∧ rounded = numericValue 10 value := by
  unfold minutePrice PriceAdmitted
  dsimp only
  split
  case isTrue refused =>
    simp only [reduceCtorEq, false_iff]
    rintro ⟨admitted, _⟩
    exact refused.elim admitted.1.not_ge admitted.2.not_ge
  case isFalse admitted =>
    rw [not_or, not_le, not_le] at admitted
    simp only [Except.ok.injEq, admitted, and_self, true_and, eq_comm]

theorem minuteQuantity_eq_ok {units : Nat} :
    minuteQuantity value = .ok units ↔ VolumeAdmitted value ∧ units = ⌊numericValue 6 value * 10 ^ 6⌋.toNat := by
  unfold minuteQuantity VolumeAdmitted
  dsimp only
  split
  case isTrue refused =>
    simp only [reduceCtorEq, false_iff]
    rintro ⟨admitted, _⟩
    exact refused.elim admitted.1.not_gt admitted.2.not_ge
  case isFalse admitted =>
    rw [not_or, not_lt, not_le] at admitted
    simp only [Except.ok.injEq, admitted, and_self, true_and, eq_comm]

theorem minuteValues_eq_ok {values : MinuteValues} :
    minuteValues row = .ok values ↔ Admitted row ∧ values = roundedMinute row := by
  unfold minuteValues
  simp only [bind_eq_ok, minutePrice_eq_ok, minuteQuantity_eq_ok]
  constructor
  · rintro ⟨_, ⟨opening, rfl⟩, _, ⟨high, rfl⟩, _, ⟨low, rfl⟩, _, ⟨close, rfl⟩, _, ⟨volume, rfl⟩, made⟩
    exact ⟨⟨opening, high, low, close, volume⟩, (Except.ok.inj made).symm⟩
  · rintro ⟨⟨opening, high, low, close, volume⟩, rfl⟩
    exact ⟨_, ⟨opening, rfl⟩, _, ⟨high, rfl⟩, _, ⟨low, rfl⟩, _, ⟨close, rfl⟩, _, ⟨volume, rfl⟩, rfl⟩

theorem mapM_minuteValues {window : List MinuteRow} {values : List MinuteValues} :
    window.mapM minuteValues = .ok values ↔ (∀ row ∈ window, Admitted row) ∧ values = window.map roundedMinute := by
  constructor
  · intro mapped
    obtain ⟨made, each⟩ := mapM_eq_ok (fun _ _ rounded => (minuteValues_eq_ok.mp rounded).2) mapped
    exact ⟨fun row member => (minuteValues_eq_ok.mp (each row member)).1, made⟩
  · rintro ⟨admitted, rfl⟩
    cases mapped : window.mapM minuteValues with
    | error error =>
      obtain ⟨row, member, refused⟩ := mapM_eq_error mapped
      rw [minuteValues_eq_ok.mpr ⟨admitted row member, rfl⟩] at refused
      cases refused
    | ok values =>
      rw [(mapM_eq_ok (fun _ _ rounded => (minuteValues_eq_ok.mp rounded).2) mapped).1]

end Values

section Window

variable {rows others : List MinuteRow} {start : Int} {row : MinuteRow}

theorem inWindow_iff : inWindow start row = true ↔ start ≤ row.barStartAt ∧ row.barStartAt < start + windowMs := by
  unfold inWindow
  rw [Bool.and_eq_true, decide_eq_true_eq, decide_eq_true_eq]

theorem mem_minuteWindow : row ∈ minuteWindow rows start ↔ row ∈ rows ∧ inWindow start row = true := by
  unfold minuteWindow
  rw [mem_byKey, List.mem_filter]

theorem length_minuteGrid (start : Int) : (minuteGrid start).length = 15 := by
  rw [minuteGrid, List.length_map, List.length_range]

theorem strict_minuteGrid {start : Int} : (minuteGrid start).Pairwise (· < ·) := by
  unfold minuteGrid
  rw [List.pairwise_map]
  apply List.pairwise_lt_range.imp
  intro former latter earlier
  unfold minuteMs
  omega

theorem offGrid_eq_false (length : (minuteWindow rows start).length = 15) :
    offGrid start (minuteWindow rows start) = false ↔
      (minuteWindow rows start).map MinuteRow.barStartAt = minuteGrid start := by
  unfold offGrid minuteGrid
  simp only [List.any_eq_false, bne_iff_ne, ne_eq, not_not, Prod.forall]
  constructor
  · intro onGrid
    apply List.ext_getElem (by simp [length])
    intro index within _
    rw [List.length_map] at within
    rw [List.getElem_map, List.getElem_map, List.getElem_range]
    exact onGrid _ index (List.mk_mem_zipIdx_iff_getElem?.mpr (List.getElem?_eq_getElem within))
  · intro same row index member
    have found := List.mk_mem_zipIdx_iff_getElem?.mp member
    obtain ⟨within, _⟩ := List.getElem?_eq_some_iff.mp found
    have told := congrArg (fun times => times[index]?) same
    simp only [List.getElem?_map, found, Option.map_some, List.getElem?_range (length ▸ within)] at told
    exact Option.some.inj told

theorem whole_iff_times : WholeWindow rows start ↔
    (minuteWindow rows start).map MinuteRow.barStartAt = minuteGrid start := by
  have sorted := (perm_byKey MinuteRow.barStartAt (rows.filter (inWindow start))).map MinuteRow.barStartAt
  constructor
  · intro whole
    apply List.Perm.eq_of_pairwise (fun _ _ _ _ => le_antisymm) _ _ (sorted.trans whole)
    · exact List.pairwise_map.mpr (pairwise_byKey MinuteRow.barStartAt _)
    · exact (strict_minuteGrid).imp le_of_lt
  · intro same
    exact sorted.symm.trans (List.Perm.of_eq same)

/-- The sorted window passes its checks exactly when its rows are a whole window. -/
theorem whole_iff_checks : WholeWindow rows start ↔
    ¬ ((minuteWindow rows start).length ≠ 15 ∨ offGrid start (minuteWindow rows start) = true) := by
  rw [whole_iff_times, not_or, not_not, Bool.not_eq_true]
  constructor
  · intro same
    have length : (minuteWindow rows start).length = 15 := by
      rw [← List.length_map (f := MinuteRow.barStartAt), same, length_minuteGrid]
    exact ⟨length, (offGrid_eq_false length).mpr same⟩
  · rintro ⟨length, onGrid⟩
    exact (offGrid_eq_false length).mp onGrid

theorem WholeWindow.congr (whole : WholeWindow rows start)
    (same : (others.filter (inWindow start)).Perm (rows.filter (inWindow start))) : WholeWindow others start :=
  (same.map MinuteRow.barStartAt).trans whole

theorem WholeWindow.window_congr (whole : WholeWindow rows start)
    (same : (others.filter (inWindow start)).Perm (rows.filter (inWindow start))) :
    minuteWindow others start = minuteWindow rows start := by
  have distinct : ((others.filter (inWindow start)).map MinuteRow.barStartAt).Nodup :=
    (whole.congr same).nodup_iff.mpr ((strict_minuteGrid).imp ne_of_lt)
  apply eq_of_ascending (((perm_byKey _ _).map _).nodup_iff.mpr distinct) _ (pairwise_byKey _ _) (pairwise_byKey _ _)
  exact ((perm_byKey _ _).trans same).trans (perm_byKey _ _).symm

theorem aggregate_of_broken (broken : ¬ WholeWindow rows start) : aggregateTiingoMinuteWindow rows start = .ok none := by
  rw [whole_iff_checks, not_not] at broken
  exact if_pos broken

theorem aggregate_of_whole (whole : WholeWindow rows start) : aggregateTiingoMinuteWindow rows start =
    (minuteWindow rows start).mapM minuteValues >>= fun values => .ok (minuteBar start values) :=
  if_neg (whole_iff_checks.mp whole)

/-- The rows of a window decide what becomes of it, in whatever order they come. -/
theorem aggregate_congr (same : (others.filter (inWindow start)).Perm (rows.filter (inWindow start))) :
    aggregateTiingoMinuteWindow others start = aggregateTiingoMinuteWindow rows start := by
  by_cases whole : WholeWindow rows start
  · rw [aggregate_of_whole whole, aggregate_of_whole (whole.congr same), whole.window_congr same]
  · have other : ¬ WholeWindow others start := fun other => whole (other.congr same.symm)
    rw [aggregate_of_broken whole, aggregate_of_broken other]

theorem WholeWindow.minute (whole : WholeWindow rows start) (index : Nat) (within : index < 15) :
    ∃ row, (minuteWindow rows start)[index]? = some row ∧ row ∈ minuteWindow rows start ∧
      row.barStartAt = start + index * minuteMs := by
  have told := congrArg (fun times => times[index]?) (whole_iff_times.mp whole)
  simp only [minuteGrid, List.getElem?_map, List.getElem?_range within, Option.map_some, Option.map_eq_some_iff] at told
  obtain ⟨row, found, time⟩ := told
  exact ⟨row, found, List.mem_of_getElem? found, time⟩

end Window

/-- What the bar of a window says of its rows. -/
structure BarOf (rows : List MinuteRow) (start : Int) (bar : MinuteBar) : Prop where
  barStartAt : bar.barStartAt = start
  opening : ∃ row ∈ rows, row.barStartAt = start ∧ bar.opening = numericValue 10 row.opening
  high : IsGreatest {price | ∃ row ∈ rows, inWindow start row = true ∧ price = numericValue 10 row.high} bar.high
  low : IsLeast {price | ∃ row ∈ rows, inWindow start row = true ∧ price = numericValue 10 row.low} bar.low
  close : ∃ row ∈ rows, row.barStartAt = start + 14 * minuteMs ∧ bar.close = numericValue 10 row.close
  volume : bar.volume = ((rows.filter (inWindow start)).map fun row => numericValue 6 row.volume).sum

/-- Prices that lie between the low and the high. -/
structure Consistent (opening high low close : ℚ) : Prop where
  low_opening : low ≤ opening
  opening_high : opening ≤ high
  low_close : low ≤ close
  close_high : close ≤ high

/-- What the aggregation of a window promises. -/
structure Aggregates (rows : List MinuteRow) (start : Int) : Prop where
  available : (∃ bar, aggregateTiingoMinuteWindow rows start = .ok (some bar)) ↔ WholeWindow rows start
  regardless : ∀ others, (others.filter (inWindow start)).Perm (rows.filter (inWindow start)) →
    aggregateTiingoMinuteWindow others start = aggregateTiingoMinuteWindow rows start
  made : ∀ bar, aggregateTiingoMinuteWindow rows start = .ok (some bar) → BarOf rows start bar
  consistent : ∀ bar, aggregateTiingoMinuteWindow rows start = .ok (some bar) →
    (∀ row ∈ rows, inWindow start row = true → Consistent row.opening row.high row.low row.close) →
    Consistent bar.opening bar.high bar.low bar.close

/-- The window is not whole, or its numbers pass their checks and every partial sum of its volumes fits the precision. -/
def Precise (rows : List MinuteRow) (start : Int) : Prop :=
  WholeWindow rows start → (∀ row ∈ rows, inWindow start row = true → Admitted row) ∧
    SumsFit decimalPrecision ((minuteWindow rows start).map millionths)

instance (rows : List MinuteRow) (start : Int) : Decidable (Precise rows start) :=
  inferInstanceAs (Decidable (_ → _))

section Bar

variable {rows : List MinuteRow} {start : Int}

theorem admitted_window : (∀ row ∈ minuteWindow rows start, Admitted row) ↔
    ∀ row ∈ rows, inWindow start row = true → Admitted row := by
  simp only [mem_minuteWindow, and_imp]

theorem WholeWindow.bar (whole : WholeWindow rows start) : ∃ first last, first ∈ minuteWindow rows start ∧
    first.barStartAt = start ∧ last ∈ minuteWindow rows start ∧ last.barStartAt = start + 14 * minuteMs ∧
    minuteBar start ((minuteWindow rows start).map roundedMinute) = some
      { barStartAt := start
        opening := numericValue 10 first.opening
        high := (minuteWindow rows start).foldl (fun best row => max best (numericValue 10 row.high))
          (numericValue 10 first.high)
        low := (minuteWindow rows start).foldl (fun best row => min best (numericValue 10 row.low))
          (numericValue 10 first.low)
        close := numericValue 10 last.close
        volume := Decimal.scaled (total decimalPrecision ((minuteWindow rows start).map millionths)) 6 } := by
  obtain ⟨first, head, first_mem, first_time⟩ := whole.minute 0 (by decide)
  obtain ⟨last, tail, last_mem, last_time⟩ := whole.minute 14 (by decide)
  refine ⟨first, last, first_mem, by simpa using first_time, last_mem, last_time, ?_⟩
  unfold minuteBar
  simp only [List.getElem?_map, head, tail, Option.map_some, List.foldl_map, List.map_map]
  rfl

/-- Only a whole window whose numbers pass their checks has a bar, and it always has one. -/
theorem aggregate_available : (∃ bar, aggregateTiingoMinuteWindow rows start = .ok (some bar)) ↔
    WholeWindow rows start ∧ ∀ row ∈ rows, inWindow start row = true → Admitted row := by
  constructor
  · rintro ⟨bar, made⟩
    by_cases whole : WholeWindow rows start
    · rw [aggregate_of_whole whole] at made
      obtain ⟨values, mapped, _⟩ := bind_eq_ok.mp made
      exact ⟨whole, admitted_window.mp (mapM_minuteValues.mp mapped).1⟩
    · rw [aggregate_of_broken whole] at made
      cases made
  · rintro ⟨whole, admitted⟩
    obtain ⟨_, _, _, _, _, _, bar⟩ := whole.bar
    rw [aggregate_of_whole whole, mapM_minuteValues.mpr ⟨admitted_window.mpr admitted, rfl⟩]
    exact ⟨_, congrArg Except.ok bar⟩

/-- The volume of a whole window whose numbers pass their checks. -/
theorem sum_millionths (admitted : ∀ row ∈ rows, inWindow start row = true → Admitted row) :
    Decimal.scaled ((minuteWindow rows start).map millionths).sum 6 =
      ((rows.filter (inWindow start)).map fun row => numericValue 6 row.volume).sum := by
  have sorted : (minuteWindow rows start).Perm (rows.filter (inWindow start)) := perm_byKey _ _
  have each : (minuteWindow rows start).map (fun row => Decimal.scaled (millionths row) 6) =
      (minuteWindow rows start).map fun row => numericValue 6 row.volume := by
    apply List.map_congr_left
    intro row member
    exact scaled_units (admitted_window.mpr admitted row member).volume.1
  rw [scaled_sum, List.map_map]
  exact (congrArg List.sum each).trans (sorted.map _).sum_eq

/-- What a bar is made of. -/
theorem aggregate_made {bar : MinuteBar} (made : aggregateTiingoMinuteWindow rows start = .ok (some bar)) :
    minuteBar start ((minuteWindow rows start).map roundedMinute) = some bar := by
  have whole := (aggregate_available.mp ⟨bar, made⟩).1
  rw [aggregate_of_whole whole] at made
  obtain ⟨values, mapped, same⟩ := bind_eq_ok.mp made
  rw [← (mapM_minuteValues.mp mapped).2]
  exact Except.ok.inj same

/-- The best price of a window, searched from one of its own minutes. -/
theorem extremes {first : MinuteRow} (own : first ∈ minuteWindow rows start) (price : MinuteRow → ℚ) :
    {found | found = price first ∨ ∃ row ∈ minuteWindow rows start, found = price row} =
      {found | ∃ row ∈ rows, inWindow start row = true ∧ found = price row} := by
  ext found
  simp only [Set.mem_ofPred_eq, mem_minuteWindow, and_assoc]
  constructor
  · rintro (rfl | found)
    · exact ⟨first, (mem_minuteWindow.mp own).1, (mem_minuteWindow.mp own).2, rfl⟩
    · exact found
  · exact .inr

theorem barOf_made {bar : MinuteBar} (made : aggregateTiingoMinuteWindow rows start = .ok (some bar))
    (fit : SumsFit decimalPrecision ((minuteWindow rows start).map millionths)) : BarOf rows start bar := by
  obtain ⟨whole, admitted⟩ := aggregate_available.mp ⟨bar, made⟩
  obtain ⟨first, last, head, first_time, tail, last_time, same⟩ := whole.bar
  rw [aggregate_made made] at same
  cases same
  refine ⟨rfl, ⟨first, (mem_minuteWindow.mp head).1, first_time, rfl⟩, ?_, ?_,
    ⟨last, (mem_minuteWindow.mp tail).1, last_time, rfl⟩, ?_⟩
  · rw [← extremes head]
    exact isGreatest_foldl_max _ _ _
  · rw [← extremes head]
    exact isLeast_foldl_min _ _ _
  · rw [total_eq_sum fit, sum_millionths admitted]

theorem consistent_made {bar : MinuteBar} (made : aggregateTiingoMinuteWindow rows start = .ok (some bar))
    (consistent : ∀ row ∈ rows, inWindow start row = true → Consistent row.opening row.high row.low row.close) :
    Consistent bar.opening bar.high bar.low bar.close := by
  obtain ⟨whole, -⟩ := aggregate_available.mp ⟨bar, made⟩
  obtain ⟨first, last, head, -, tail, -, same⟩ := whole.bar
  rw [aggregate_made made] at same
  cases same
  have own {row : MinuteRow} (member : row ∈ minuteWindow rows start) : Consistent row.opening row.high row.low row.close :=
    consistent row (mem_minuteWindow.mp member).1 (mem_minuteWindow.mp member).2
  have highest {row : MinuteRow} (member : row ∈ minuteWindow rows start) :=
    (isGreatest_foldl_max (fun row : MinuteRow => numericValue 10 row.high) (minuteWindow rows start)
      (numericValue 10 first.high)).2 (.inr ⟨row, member, rfl⟩)
  have lowest {row : MinuteRow} (member : row ∈ minuteWindow rows start) :=
    (isLeast_foldl_min (fun row : MinuteRow => numericValue 10 row.low) (minuteWindow rows start)
      (numericValue 10 first.low)).2 (.inr ⟨row, member, rfl⟩)
  constructor
  · exact (lowest head).trans (numericValue_mono (own head).low_opening)
  · exact (numericValue_mono (own head).opening_high).trans (highest head)
  · exact (lowest tail).trans (numericValue_mono (own tail).low_close)
  · exact (numericValue_mono (own tail).close_high).trans (highest tail)

theorem Precise.aggregates (precise : Precise rows start) : Aggregates rows start := by
  refine ⟨?_, fun others same => aggregate_congr same, fun bar made => ?_, fun bar made => consistent_made made⟩
  · rw [aggregate_available]
    exact ⟨And.left, fun whole => ⟨whole, (precise whole).1⟩⟩
  · exact barOf_made made (precise (aggregate_available.mp ⟨bar, made⟩).1).2

end Bar

section Session

variable {daylight : Int → Bool} {exceptions : List CalendarException} {session : MarketSession} {now : Int}
  {rows : List MinuteRow} {starts missing : List Int}

theorem eligibleStarts_sublist {given : List Int} (eligible : eligibleStarts daylight exceptions now given = .ok starts) :
    starts.Sublist given := by
  induction given generalizing starts with
  | nil =>
    cases eligible
    exact List.Sublist.refl _
  | cons start later ih =>
    obtain ⟨⟨status, due⟩, _, eligible⟩ := bind_eq_ok.mp eligible
    obtain ⟨rest, found, eligible⟩ := bind_eq_ok.mp eligible
    cases eligible
    split
    · exact (ih found).cons_cons start
    · exact (ih found).cons start

/-- The windows of a session do not overlap. -/
theorem apart_sessionStarts (session : MarketSession) :
    (sessionStarts session).Pairwise fun former latter => former + windowMs ≤ latter := by
  unfold sessionStarts
  rw [List.pairwise_map]
  apply List.pairwise_lt_range.imp
  intro former latter earlier
  unfold windowMs
  omega

/-- The windows that have a bar to collect. -/
def madeOf (rows : List MinuteRow) (missing : List Int) : List Int :=
  missing.filter fun start => decide (WholeWindow rows start)

/-- What the bars of a session account for. -/
structure Accounts (rows : List MinuteRow) (missing : List Int) (bars : List MinuteBar) : Prop where
  each : bars.map MinuteBar.barStartAt = madeOf rows missing
  made : ∀ bar ∈ bars, BarOf rows bar.barStartAt bar
  volume : (bars.map MinuteBar.volume).sum =
    ((rows.filter fun row => (madeOf rows missing).any fun start => inWindow start row).map
      fun row => numericValue 6 row.volume).sum

/-- A window has its bar or none. -/
theorem Precise.told {start : Int} (precise : Precise rows start) :
    (∃ bar, aggregateTiingoMinuteWindow rows start = .ok (some bar) ∧ WholeWindow rows start ∧ BarOf rows start bar) ∨
      aggregateTiingoMinuteWindow rows start = .ok none ∧ ¬ WholeWindow rows start := by
  by_cases whole : WholeWindow rows start
  · obtain ⟨bar, made⟩ := precise.aggregates.available.mpr whole
    exact .inl ⟨bar, made, whole, precise.aggregates.made bar made⟩
  · exact .inr ⟨aggregate_of_broken whole, whole⟩

theorem missingBars_made (precise : ∀ start ∈ missing, Precise rows start) :
    ∃ bars, missingBars rows missing = .ok bars ∧ bars.map MinuteBar.barStartAt = madeOf rows missing ∧
      ∀ bar ∈ bars, BarOf rows bar.barStartAt bar := by
  unfold missingBars madeOf
  induction missing with
  | nil => exact ⟨[], rfl, rfl, nofun⟩
  | cons start later ih =>
    obtain ⟨rest, collected, times, each⟩ := ih fun other member => precise other (List.mem_cons_of_mem start member)
    obtain ⟨outputs, mapped, same⟩ := bind_eq_ok.mp collected
    cases same
    rw [List.mapM_cons, mapped]
    rcases (precise start List.mem_cons_self).told with ⟨bar, made, whole, spec⟩ | ⟨made, broken⟩
    · have kept : (start :: later).filter (fun start => decide (WholeWindow rows start)) =
          start :: later.filter fun start => decide (WholeWindow rows start) := List.filter_cons_of_pos (decide_eq_true whole)
      rw [made, kept, ← times]
      refine ⟨bar :: outputs.reduceOption, rfl, by rw [List.map_cons, spec.barStartAt], fun other member => ?_⟩
      rcases List.mem_cons.mp member with rfl | member
      · exact spec.barStartAt.symm ▸ spec
      · exact each other member
    · have kept : (start :: later).filter (fun start => decide (WholeWindow rows start)) =
          later.filter fun start => decide (WholeWindow rows start) := List.filter_cons_of_neg (by simpa using broken)
      rw [made, kept, ← times]
      exact ⟨outputs.reduceOption, rfl, rfl, each⟩

/-- Bars of windows that do not overlap account for every whole window once. -/
theorem missingBars_accounts (apart : missing.Pairwise fun former latter => former + windowMs ≤ latter)
    (precise : ∀ start ∈ missing, Precise rows start) :
    ∃ bars, missingBars rows missing = .ok bars ∧ Accounts rows missing bars := by
  obtain ⟨bars, collected, times, each⟩ := missingBars_made precise
  refine ⟨bars, collected, times, each, ?_⟩
  have cells : (madeOf rows missing).Pairwise fun former latter =>
      ∀ row ∈ rows, inWindow former row = true → inWindow latter row = false := by
    apply (apart.filter _).imp
    intro former latter before row _ inside
    rw [inWindow_iff] at inside
    rw [← Bool.not_eq_true, inWindow_iff]
    omega
  calc (bars.map MinuteBar.volume).sum
      = (bars.map fun bar => ((rows.filter (inWindow bar.barStartAt)).map fun row => numericValue 6 row.volume).sum).sum :=
        congrArg List.sum (List.map_congr_left fun bar member => (each bar member).volume)
    _ = ((madeOf rows missing).map fun start =>
          ((rows.filter (inWindow start)).map fun row => numericValue 6 row.volume).sum).sum := by
        rw [← times, List.map_map]
        rfl
    _ = _ := sum_cells inWindow _ cells

/-- A window is aggregated exactly as long as the precision holds its partial sums, the windows of a session count each
volume once, and a number that fails its check leaves no bar. -/
theorem aggregateTiingoMinuteWindow_exact (rows : List MinuteRow) :
    (∀ start, Precise rows start → Aggregates rows start) ∧
    (∀ start, Aggregates rows start → WholeWindow rows start →
      ∀ row ∈ rows, inWindow start row = true → Admitted row) ∧
    ∀ daylight exceptions session now starts (present : Int → Bool),
      expectedMinuteStarts daylight exceptions session now = .ok starts →
      (∀ start ∈ starts.filter (fun start => !present start), Precise rows start) →
      ∃ bars, missingBars rows (starts.filter fun start => !present start) = .ok bars ∧
        Accounts rows (starts.filter fun start => !present start) bars := by
  refine ⟨fun start precise => precise.aggregates, fun start aggregates whole => ?_, ?_⟩
  · exact (aggregate_available.mp (aggregates.available.mpr whole)).2
  · intro daylight exceptions session now starts present expected precise
    apply missingBars_accounts _ precise
    exact ((apart_sessionStarts session).sublist (eligibleStarts_sublist expected)).filter _

end Session

/-- Minutes at one price from a start on, with their volumes. -/
def minutesAt (start : Int) (volumes : List ℚ) : List MinuteRow :=
  volumes.zipIdx.map fun (volume, index) => ⟨start + index * minuteMs, 100, 101, 99, 100, volume⟩

/-- 2026-09-24, whose session opens at 09:30 in New York. -/
def septemberSession : MarketSession := ⟨20720, 1790256600000, 1790280000000, 960⟩

theorem aggregateTiingoMinuteWindow_exact_september :
    WholeWindow (minutesAt septemberSession.openAt (List.replicate 15 (1 / 4))) septemberSession.openAt ∧
    Aggregates (minutesAt septemberSession.openAt (List.replicate 15 (1 / 4))) septemberSession.openAt ∧
    Admitted ⟨septemberSession.openAt, 100, 101, 99, 100, 1 / 4⟩ ∧
    ∃ bars, missingBars (minutesAt septemberSession.openAt (List.replicate 15 (1 / 4))) (sessionStarts septemberSession) =
        .ok bars ∧
      Accounts (minutesAt septemberSession.openAt (List.replicate 15 (1 / 4))) (sessionStarts septemberSession) bars := by
  have exact_ := aggregateTiingoMinuteWindow_exact (minutesAt septemberSession.openAt (List.replicate 15 (1 / 4)))
  have whole : WholeWindow (minutesAt septemberSession.openAt (List.replicate 15 (1 / 4))) septemberSession.openAt := by
    decide +kernel
  have aggregates := exact_.1 septemberSession.openAt (by decide +kernel)
  refine ⟨whole, aggregates, exact_.2.1 _ aggregates whole _ (by decide +kernel) (by decide +kernel), ?_⟩
  exact exact_.2.2 (fun _ => true) [] septemberSession (septemberSession.closeAt + 5 * minuteMs)
    (sessionStarts septemberSession) (fun _ => false) (by decide +kernel) (by decide +kernel)

/-- A volume of 10^14 shares and one of a millionth. -/
def apartVolumes : List ℚ := [10 ^ 14, 1 / 10 ^ 6, 0, 0, 0, 0, 0, 0, 0, 0, 0, 0, 0, 0, 0]

theorem aggregateTiingoMinuteWindow_loses :
    WholeWindow (minutesAt septemberSession.openAt apartVolumes) septemberSession.openAt ∧
    (∀ row ∈ minutesAt septemberSession.openAt apartVolumes, Admitted row) ∧
    aggregateTiingoMinuteWindow (minutesAt septemberSession.openAt apartVolumes) septemberSession.openAt =
      .ok (some ⟨septemberSession.openAt, 100, 101, 99, 100, 10 ^ 14⟩) ∧
    ¬ Aggregates (minutesAt septemberSession.openAt apartVolumes) septemberSession.openAt := by
  have made : aggregateTiingoMinuteWindow (minutesAt septemberSession.openAt apartVolumes) septemberSession.openAt =
      .ok (some ⟨septemberSession.openAt, 100, 101, 99, 100, 10 ^ 14⟩) := by decide +kernel
  refine ⟨by decide +kernel, by decide +kernel, made, fun aggregates => ?_⟩
  have volume := (aggregates.made _ made).volume
  revert volume
  decide +kernel

end AiTrader.Market
