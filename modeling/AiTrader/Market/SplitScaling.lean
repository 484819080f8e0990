import Mathlib.Tactic.Ring
import AiTrader.Library.ExactField
import AiTrader.Market.Participation
import AiTrader.Market.VolatilityGaps

/-! # Measurements on another share basis

Prices that are all multiplied by one factor have averages and ranges that are, and the measurements, which are ratios,
stay the same. -/

namespace AiTrader.Market

open Library JsNumber ExactField

attribute [local instance] exactField

variable {K : Type} [Field K] [LinearOrder K] [Transcendental K] [IsStrictOrderedRing K] {c : K}

/-- A bar on another share basis. -/
def Trend.NormalizedBar.scaled (c : K) (bar : Trend.NormalizedBar K) : Trend.NormalizedBar K :=
  { bar with
    openPrice := c * bar.openPrice, high := c * bar.high, low := c * bar.low, close := c * bar.close
    volume := bar.volume / c, normalizationFactor := c * bar.normalizationFactor }

namespace Trend

def InstrumentMeasurements.scaled (c : K) (session : InstrumentMeasurements K) : InstrumentMeasurements K :=
  { session with
    ema10 := session.ema10.map (c * ·), ema20 := session.ema20.map (c * ·), ema50 := session.ema50.map (c * ·) }

def InstrumentEvidence.scaled (c : K) (evidence : InstrumentEvidence K) : InstrumentEvidence K :=
  { evidence with
    ema10 := evidence.ema10.map (c * ·), ema20 := evidence.ema20.map (c * ·), ema50 := evidence.ema50.map (c * ·) }

theorem emaSmoothing_follows (positive : 0 < c) (period : Nat) :
    (emaSmoothing period : Smoothing K TrendError).Follows (c * ·) where
  invalid := fun close => by simp only [emaSmoothing, finitePositive_scale positive]
  mean := fun seed => by
    simp only [emaSmoothing, sum_scale]
    exact mul_div_assoc _ _ _
  advance := fun ema close => by
    simp only [emaSmoothing]
    ring

theorem emaSeries_scaled (positive : 0 < c) (closes : List (Option K)) (period : Nat) :
    emaSeries (closes.map (Option.map (c * ·))) period = (emaSeries closes period).map (List.map (Option.map (c * ·))) := by
  unfold emaSeries
  split_ifs
  · rfl
  · exact Smoothing.series_map (emaSmoothing_follows positive period) closes

omit [IsStrictOrderedRing K] in
theorem pct_scale (nonzero : c ≠ 0) (a b : K) : pct (c * a) (c * b) = pct a b := by
  simp only [pct]
  rw [mul_div_mul_left a b nonzero]

omit [IsStrictOrderedRing K] in
theorem asNumber_scaled (read : Option (Option K)) : asNumber (read.map (Option.map (c * ·))) = c * asNumber read := by
  rcases read with _ | _ | value
  · simp [asNumber]
  · simp [asNumber]
  · rfl

omit [LinearOrder K] [Transcendental K] [IsStrictOrderedRing K] in
theorem back_map {V W : Type} (change : V → W) (series : List V) (index sessions : Nat) :
    back (series.map change) index sessions = (back series index sessions).map change := by
  unfold back
  split_ifs <;> simp

omit [IsStrictOrderedRing K] in
theorem join_getElem?_scaled (series : List (Option K)) (index : Nat) :
    (series.map (Option.map (c * ·)))[index]?.join = series[index]?.join.map (c * ·) := by
  rw [List.getElem?_map]
  rcases series[index]? with _ | _ | value <;> rfl

omit [IsStrictOrderedRing K] in
theorem measureSession_scaled (nonzero : c ≠ 0) (closes ema10 ema20 ema50 : List (Option K)) (consecutive index : Nat)
    (bar : Option (NormalizedBar K)) :
    measureSession (closes.map (Option.map (c * ·))) (ema10.map (Option.map (c * ·))) (ema20.map (Option.map (c * ·)))
        (ema50.map (Option.map (c * ·))) consecutive index (bar.map (NormalizedBar.scaled c)) =
      (measureSession closes ema10 ema20 ema50 consecutive index bar).scaled c := by
  have operands : ∀ read : Option K, asNumber (some (read.map (c * ·))) = c * asNumber (some read) :=
    fun read => asNumber_scaled (some read)
  simp only [measureSession, InstrumentMeasurements.scaled, join_getElem?_scaled]
  congr 1
  split_ifs
  · rfl
  · cases bar with
    | none => rfl
    | some bar =>
      simp only [Option.map_some, readOperands, Operands.map, join_getElem?_scaled, back_map, asNumber_scaled, operands,
        measurementValues, NormalizedBar.scaled, pct_scale nonzero]

omit [IsStrictOrderedRing K] in
theorem measureSessions_scaled (nonzero : c ≠ 0) {closes ema10 ema20 ema50 : List (Option K)} {consecutive index : Nat}
    {bars : List (Option (NormalizedBar K))} :
    measureSessions (closes.map (Option.map (c * ·))) (ema10.map (Option.map (c * ·))) (ema20.map (Option.map (c * ·)))
        (ema50.map (Option.map (c * ·))) consecutive index (bars.map (Option.map (NormalizedBar.scaled c))) =
      (measureSessions closes ema10 ema20 ema50 consecutive index bars).map (InstrumentMeasurements.scaled c) := by
  induction bars generalizing consecutive index with
  | nil => rfl
  | cons bar rest ih =>
    have counted : lengthened Option.isSome consecutive (bar.map (NormalizedBar.scaled c)) =
        lengthened Option.isSome consecutive bar := by
      cases bar <;> rfl
    simp only [List.map_cons, measureSessions, counted, ih, measureSession_scaled nonzero]

theorem instrumentMeasurements_scaled (positive : 0 < c) (bars : List (Option (NormalizedBar K))) :
    instrumentMeasurements (bars.map (Option.map (NormalizedBar.scaled c))) =
      (instrumentMeasurements bars).map (List.map (InstrumentMeasurements.scaled c)) := by
  have closes : closesOf (bars.map (Option.map (NormalizedBar.scaled c))) = (closesOf bars).map (Option.map (c * ·)) := by
    simp only [closesOf, List.map_map]
    apply List.map_congr_left
    intro bar _
    cases bar <;> rfl
  simp only [instrumentMeasurements, closes, emaSeries_scaled positive]
  cases emaSeries (closesOf bars) 10 with
  | error error => rfl
  | ok ema10 =>
    cases emaSeries (closesOf bars) 20 with
    | error error => rfl
    | ok ema20 =>
      cases emaSeries (closesOf bars) 50 with
      | error error => rfl
      | ok ema50 => exact congrArg Except.ok (measureSessions_scaled positive.ne')

omit [IsStrictOrderedRing K] in
theorem classifyInstrument_scaled (session : InstrumentMeasurements K) (thresholds : List K) :
    classifyInstrument (session.scaled c) thresholds =
      (classifyInstrument session thresholds).map (InstrumentEvidence.scaled c) := by
  obtain ⟨values, ema10, ema20, ema50, consecutive⟩ := session
  cases values with
  | none => rfl
  | some values =>
    simp only [classifyInstrument, InstrumentMeasurements.scaled]
    split_ifs
    · rfl
    · cases horizonState _ with
      | error error => rfl
      | ok short =>
        cases horizonState _ with
        | error error => rfl
        | ok medium =>
          cases horizonState _ with
          | error error => rfl
          | ok structural => rfl

end Trend

namespace Volatility

open Trend (NormalizedBar)

def VolatilityInstrument.scaled (c : K) (session : VolatilityInstrument K) : VolatilityInstrument K :=
  { session with atr14 := session.atr14.map (c * ·) }

section

variable (positive : 0 < c)
include positive

theorem usableBar_scaled (bar : NormalizedBar K) : usableBar (bar.scaled c) = usableBar bar := by
  simp only [usableBar, NormalizedBar.scaled, List.all_cons, List.all_nil, finitePositive_scale positive,
    min_scale positive, max_scale positive, le_scale positive]

theorem trueRange_scaled (high low previousClose : K) :
    trueRange (c * high) (c * low) (c * previousClose) = (trueRange high low previousClose).map (c * ·) := by
  have given : [c * high, c * low, c * previousClose].all finitePositive = [high, low, previousClose].all finitePositive := by
    simp only [List.all_cons, List.all_nil, finitePositive_scale positive]
  unfold trueRange
  rw [given, less_scale positive]
  split_ifs
  · rfl
  · simp only [← mul_sub, abs_scale positive, max_scale positive]
    rfl

theorem sessionRange_scaled (previous bar : Option (NormalizedBar K)) :
    sessionRange (previous.map (NormalizedBar.scaled c)) (bar.map (NormalizedBar.scaled c)) =
      (sessionRange previous bar).map (Option.map (c * ·)) := by
  cases previous with
  | none => cases bar <;> rfl
  | some previous =>
    cases bar with
    | none => rfl
    | some bar =>
      simp only [Option.map_some, sessionRange, usableBar_scaled positive]
      split_ifs
      · simp only [NormalizedBar.scaled, trueRange_scaled positive]
        cases trueRange bar.high bar.low previous.close <;> rfl
      · rfl

theorem trueRanges_scaled (bars : List (Option (NormalizedBar K))) :
    trueRanges (bars.map (Option.map (NormalizedBar.scaled c))) =
      (trueRanges bars).map (List.map (Option.map (c * ·))) := by
  have commutes : ∀ previous bar : Option (NormalizedBar K),
      rangeStep (previous.map (NormalizedBar.scaled c)) (bar.map (NormalizedBar.scaled c)) =
        (rangeStep previous bar).map fun (next, range) => (next.map (NormalizedBar.scaled c), range.map (c * ·)) := by
    intro previous bar
    simp only [rangeStep, sessionRange_scaled positive]
    cases sessionRange previous bar <;> rfl
  exact emit_map commutes none bars

theorem wilderSmoothing_follows : (wilderSmoothing : Smoothing K VolatilityError).Follows (c * ·) where
  invalid := fun range => by simp only [wilderSmoothing, isFinite_eq, less_zero_scale positive]
  mean := fun seed => by
    simp only [wilderSmoothing, sum_scale]
    exact mul_div_assoc _ _ _
  advance := fun atr range => by
    simp only [wilderSmoothing]
    ring

theorem logReturn_scaled (close previousClose : K) :
    logReturn (c * close) (c * previousClose) = logReturn close previousClose := by
  simp only [logReturn, finitePositive_scale positive]
  rw [mul_div_mul_left close previousClose positive.ne']

theorem logReturns_scaled (window : List K) : logReturns (window.map (c * ·)) = logReturns window := by
  have pairs : (window.map (c * ·)).tail.zip (window.map (c * ·)) =
      (window.tail.zip window).map (Prod.map (c * ·) (c * ·)) := by
    rw [← List.map_tail, List.zip_map]
  simp only [logReturns, pairs, List.mapM_map, Function.comp_def, Prod.map, logReturn_scaled positive]

end

omit [IsStrictOrderedRing K] in
theorem rtake_scaled (values : List K) (count : Nat) : (values.map (c * ·)).rtake count = (values.rtake count).map (c * ·) := by
  simp [List.rtake, List.map_drop]

theorem realizedVolatility_scaled (positive : 0 < c) (closes : List K) (period : Nat) :
    realizedVolatility (closes.map (c * ·)) period = realizedVolatility closes period := by
  simp only [realizedVolatility, List.length_map, rtake_scaled, logReturns_scaled positive]

theorem keepClose_scaled (positive : 0 < c) (closes : List K) (consecutive : Nat) (bar : Option (NormalizedBar K)) :
    keepClose (closes.map (c * ·)) consecutive (bar.map (NormalizedBar.scaled c)) =
      ((keepClose closes consecutive bar).1.map (c * ·), (keepClose closes consecutive bar).2) := by
  cases bar with
  | none => rfl
  | some bar =>
    have longer : closes.map (c * ·) ++ [c * bar.close] = (closes ++ [bar.close]).map (c * ·) := by simp
    simp only [Option.map_some, keepClose, usableBar_scaled positive]
    split_ifs
    · simp only [NormalizedBar.scaled, longer, rtake_scaled]
    · rfl

theorem atrPct_scaled (positive : 0 < c) (atr14 : Option K) (bar : Option (NormalizedBar K)) :
    atrPct (atr14.map (c * ·)) (bar.map (NormalizedBar.scaled c)) = atrPct atr14 bar := by
  cases atr14 with
  | none => cases bar <;> rfl
  | some atr14 =>
    cases bar with
    | none => rfl
    | some bar =>
      simp only [Option.map_some, atrPct, usableBar_scaled positive]
      simp only [NormalizedBar.scaled]
      rw [mul_div_mul_left atr14 bar.close positive.ne']

theorem measureStep_scaled (positive : 0 < c) (memory : List K × Nat) (input : Option (NormalizedBar K) × Option K) :
    measureStep (memory.1.map (c * ·), memory.2) (input.1.map (NormalizedBar.scaled c), input.2.map (c * ·)) =
      (measureStep memory input).map fun (next, session) => ((next.1.map (c * ·), next.2), session.scaled c) := by
  simp only [measureStep, keepClose_scaled positive, realizedVolatility_scaled positive, atrPct_scaled positive]
  cases realizedVolatility (keepClose memory.1 memory.2 input.1).1 10 with
  | error error => rfl
  | ok rv10 =>
    cases realizedVolatility (keepClose memory.1 memory.2 input.1).1 20 with
    | error error => rfl
    | ok rv20 =>
      simp only [bind, Except.bind]
      cases measurement rv10 .rv with
      | error error => rfl
      | ok rv10 =>
        cases measurement rv20 .rv with
        | error error => rfl
        | ok rv20 =>
          cases measurement (atrPct input.2 input.1) .atr14Pct with
          | error error => rfl
          | ok atr14Pct => rfl

/-- The measurements are those of the bars on any share basis. -/
theorem instrumentMeasurements_scaled (positive : 0 < c) (bars : List (Option (NormalizedBar K))) :
    instrumentMeasurements (bars.map (Option.map (NormalizedBar.scaled c))) =
      (instrumentMeasurements bars).map (List.map (VolatilityInstrument.scaled c)) := by
  simp only [instrumentMeasurements, trueRanges_scaled positive]
  cases trueRanges bars with
  | error error => rfl
  | ok ranges =>
    have averages : wilderAtr (ranges.map (Option.map (c * ·))) = (wilderAtr ranges).map (List.map (Option.map (c * ·))) :=
      Smoothing.series_map (wilderSmoothing_follows positive) ranges
    change (wilderAtr (ranges.map (Option.map (c * ·))) >>= fun atr =>
        emit measureStep ([], 0) ((bars.map (Option.map (NormalizedBar.scaled c))).zip atr)) =
      (wilderAtr ranges >>= fun atr => emit measureStep ([], 0) (bars.zip atr)).map (List.map (VolatilityInstrument.scaled c))
    rw [averages]
    cases wilderAtr ranges with
    | error error => rfl
    | ok atr =>
      change emit measureStep ([], 0) ((bars.map (Option.map (NormalizedBar.scaled c))).zip (atr.map (Option.map (c * ·)))) =
        (emit measureStep ([], 0) (bars.zip atr)).map (List.map (VolatilityInstrument.scaled c))
      rw [List.zip_map]
      exact emit_map (measureStep_scaled positive) ([], 0) (bars.zip atr)

end Volatility

namespace Participation

/-- The volumes of an instrument on another share basis. -/
def ParticipationInstrument.scaled (common : ParticipationSymbol → K) (instrument : ParticipationInstrument K) :
    ParticipationInstrument K :=
  { instrument with
    normalizedTargetVolume := common instrument.symbol * instrument.normalizedTargetVolume
    medianVolume20 := common instrument.symbol * instrument.medianVolume20 }

def ParticipationCalculation.scaled (common : ParticipationSymbol → K) :
    ParticipationCalculation K → ParticipationCalculation K
  | .unavailable diagnostics => .unavailable diagnostics
  | .available targetDate baselineDates instruments panel =>
    .available targetDate baselineDates (instruments.map (ParticipationInstrument.scaled common)) panel

/-- A volume on the share basis of its date. -/
def ParticipationVolume.scaled (factor : String → K) (volume : ParticipationVolume K) : ParticipationVolume K :=
  { volume with volume := factor volume.date * volume.volume }

/-- Volumes by date on the share bases of their dates. -/
def scaledVolumes (factor : String → K) (volumes : List (String × K)) : List (String × K) :=
  volumes.map fun entry => (entry.1, factor entry.1 * entry.2)

omit [IsStrictOrderedRing K] in
theorem lookup_scaledVolumes (factor : String → K) (volumes : List (String × K)) (date : String) :
    (scaledVolumes factor volumes).lookup date = (volumes.lookup date).map (factor date * ·) := by
  induction volumes with
  | nil => rfl
  | cons entry rest ih =>
    obtain ⟨key, volume⟩ := entry
    simp only [scaledVolumes, List.map_cons, List.lookup_cons] at ih ⊢
    rw [ih]
    cases same : date == key with
    | true =>
      rw [eq_of_beq same]
      rfl
    | false => rfl

theorem readVolumes_scaled {factor : String → K} (positive : ∀ date, 0 < factor date) (symbol : ParticipationSymbol)
    (rows : List (ParticipationVolume K)) (read : List (String × K) × List ParticipationDiagnostic) :
    (rows.map (ParticipationVolume.scaled factor)).foldl (readVolume symbol) (scaledVolumes factor read.1, read.2) =
      (scaledVolumes factor (rows.foldl (readVolume symbol) read).1, (rows.foldl (readVolume symbol) read).2) := by
  induction rows generalizing read with
  | nil => rfl
  | cons row rest ih =>
    have one : readVolume symbol (scaledVolumes factor read.1, read.2) (row.scaled factor) =
        (scaledVolumes factor (readVolume symbol read row).1, (readVolume symbol read row).2) := by
      simp only [readVolume, ParticipationVolume.scaled, lookup_scaledVolumes, Option.isSome_map, isFinite_eq,
        less_zero_scale (positive row.date)]
      rfl
    rw [List.map_cons, List.foldl_cons, List.foldl_cons, one, ih]

omit [IsStrictOrderedRing K] in
theorem volumeAt_scaled (factor : String → K) (volumes : List (String × K)) (date : String) :
    volumeAt (scaledVolumes factor volumes) date = factor date * volumeAt volumes date := by
  simp only [volumeAt, lookup_scaledVolumes]
  cases volumes.lookup date with
  | none => simp
  | some volume => rfl

omit [IsStrictOrderedRing K] in
theorem missingVolumes_scaled (factor : String → K) (symbol : ParticipationSymbol) (volumes : List (String × K))
    (dates : List String) :
    missingVolumes symbol (scaledVolumes factor volumes) dates = missingVolumes symbol volumes dates := by
  simp only [missingVolumes, lookup_scaledVolumes, Option.isNone_map]

theorem participationMedian_scaled (positive : 0 < c) (values : List K) :
    participationMedian (values.map (c * ·)) = (participationMedian values).map (c * ·) := by
  have sorted : (values.map (c * ·)).insertionSort (fun a b => JsNumber.le a b = true) =
      (values.insertionSort fun a b => JsNumber.le a b = true).map (c * ·) := by
    refine (List.map_insertionSort _ _ _ _ fun a _ b _ => ?_).symm
    rw [le_scale positive]
  have checked : ((values.map (c * ·)).all fun x => isFinite x && JsNumber.le (number 0) x) =
      values.all fun x => isFinite x && JsNumber.le (number 0) x := by
    rw [List.all_map]
    congr 1
    funext x
    simp only [Function.comp_apply, isFinite_eq, Bool.true_and]
    rw [← le_scale positive (number 0) x, number_zero, mul_zero]
  have at_ : ∀ index, (((values.insertionSort fun a b => JsNumber.le a b = true).map (c * ·)).getD index (number 0)) =
      c * (values.insertionSort fun a b => JsNumber.le a b = true).getD index (number 0) := by
    intro index
    rw [List.getD_eq_getElem?_getD, List.getD_eq_getElem?_getD, List.getElem?_map]
    cases (values.insertionSort fun a b => JsNumber.le a b = true)[index]? with
    | none => simp
    | some value => rfl
  simp only [participationMedian, sorted, checked, List.isEmpty_map, List.length_map, at_]
  split_ifs
  · rfl
  · rfl
  · refine congrArg Except.ok ?_
    rw [← mul_sub, mul_div_assoc, ← mul_add]

/-- A failure, or a measured instrument on another share basis. -/
def scaledOutcome (common : ParticipationSymbol → K) :
    ParticipationDiagnostic ⊕ ParticipationInstrument K → ParticipationDiagnostic ⊕ ParticipationInstrument K :=
  Sum.map id (ParticipationInstrument.scaled common)

theorem measureVolumes_scaled {factor : String → K} {common : ParticipationSymbol → K} {symbol : ParticipationSymbol}
    (positive : 0 < common symbol) {targetDate : String} {baselineDates : List String}
    (agrees : ∀ date ∈ baselineDates ++ [targetDate], factor date = common symbol) {volumes : List (String × K)} :
    measureVolumes targetDate baselineDates symbol (scaledVolumes factor volumes) =
      (measureVolumes targetDate baselineDates symbol volumes).map (scaledOutcome common) := by
  have baseline : baselineDates.map (volumeAt (scaledVolumes factor volumes)) =
      (baselineDates.map (volumeAt volumes)).map (common symbol * ·) := by
    rw [List.map_map]
    apply List.map_congr_left
    intro date listed
    rw [volumeAt_scaled, agrees date (List.mem_append_left _ listed)]
    rfl
  have target : volumeAt (scaledVolumes factor volumes) targetDate = common symbol * volumeAt volumes targetDate := by
    rw [volumeAt_scaled, agrees targetDate (by simp)]
  have truthy_scale : ∀ median : K, truthy (common symbol * median) = truthy median := by
    intro median
    change (common symbol * median != 0) = (median != 0)
    rw [Bool.eq_iff_iff]
    simp [positive.ne']
  simp only [measureVolumes, baseline, participationMedian_scaled positive]
  cases participationMedian (baselineDates.map (volumeAt volumes)) with
  | error error => rfl
  | ok median =>
    change (if _ then _ else _) = Except.map _ (if _ then _ else _)
    rw [truthy_scale, target, mul_div_mul_left _ _ positive.ne']
    split_ifs
    · rfl
    · rfl
    · rfl

section Symbols

variable {factor : ParticipationSymbol → String → K} {common : ParticipationSymbol → K} {targetDate : String}
  {baselineDates : List String}

section

variable (positive : ∀ symbol date, 0 < factor symbol date)
include positive

section

variable (agrees : ∀ symbol, ∀ date ∈ baselineDates ++ [targetDate], factor symbol date = common symbol)
include agrees

theorem measureSymbol_scaled (observations : ParticipationSymbol → List (ParticipationVolume K))
    (state : List ParticipationDiagnostic × List (ParticipationInstrument K)) (symbol : ParticipationSymbol) :
    measureSymbol targetDate baselineDates
        (fun symbol => (observations symbol).map (ParticipationVolume.scaled (factor symbol)))
        (state.1, state.2.map (ParticipationInstrument.scaled common)) symbol =
      (measureSymbol targetDate baselineDates observations state symbol).map fun (diagnostics, instruments) =>
        (diagnostics, instruments.map (ParticipationInstrument.scaled common)) := by
  have commonPositive : 0 < common symbol := by
    rw [← agrees symbol targetDate (by simp)]
    exact positive symbol targetDate
  have read : ((observations symbol).map (ParticipationVolume.scaled (factor symbol))).foldl (readVolume symbol) ([], []) =
      (scaledVolumes (factor symbol) ((observations symbol).foldl (readVolume symbol) ([], [])).1,
        ((observations symbol).foldl (readVolume symbol) ([], [])).2) :=
    readVolumes_scaled (positive symbol) symbol (observations symbol) ([], [])
  simp only [measureSymbol, read, missingVolumes_scaled]
  split_ifs
  · rfl
  · rw [measureVolumes_scaled commonPositive (agrees symbol)]
    cases measureVolumes targetDate baselineDates symbol ((observations symbol).foldl (readVolume symbol) ([], [])).1 with
    | error error => rfl
    | ok outcome =>
      cases outcome with
      | inl diagnostic => rfl
      | inr instrument =>
        change Except.ok (state.1, state.2.map (ParticipationInstrument.scaled common) ++ [instrument.scaled common]) =
          Except.ok (state.1, (state.2 ++ [instrument]).map (ParticipationInstrument.scaled common))
        rw [List.map_append]
        rfl

theorem measureSymbols_scaled
    (observations : ParticipationSymbol → List (ParticipationVolume K)) (symbols : List ParticipationSymbol)
    (state : List ParticipationDiagnostic × List (ParticipationInstrument K)) :
    symbols.foldlM (measureSymbol targetDate baselineDates
        (fun symbol => (observations symbol).map (ParticipationVolume.scaled (factor symbol))))
        (state.1, state.2.map (ParticipationInstrument.scaled common)) =
      (symbols.foldlM (measureSymbol targetDate baselineDates observations) state).map fun (diagnostics, instruments) =>
        (diagnostics, instruments.map (ParticipationInstrument.scaled common)) := by
  induction symbols generalizing state with
  | nil => rfl
  | cons symbol rest ih =>
    rw [List.foldlM_cons, List.foldlM_cons, measureSymbol_scaled positive agrees]
    cases measureSymbol targetDate baselineDates observations state symbol with
    | error error => rfl
    | ok next => exact ih next

end

/-- The relative volumes are those on any share bases, if all of an instrument's are on one. -/
theorem calculateParticipationV1_scaled
    (agrees : ∀ symbol date, Json.codeUnitOrder date targetDate → factor symbol date = common symbol)
    (observations : ParticipationSymbol → List (ParticipationVolume K)) :
    calculateParticipationV1 targetDate baselineDates
        (fun symbol => (observations symbol).map (ParticipationVolume.scaled (factor symbol))) =
      (calculateParticipationV1 targetDate baselineDates observations).map (ParticipationCalculation.scaled common) := by
  unfold calculateParticipationV1
  split_ifs with window
  · rfl
  · simp only [Bool.or_eq_true, not_or, Bool.not_eq_true, List.any_eq_false] at window
    have early : ∀ date ∈ baselineDates ++ [targetDate], Json.codeUnitOrder date targetDate := by
      intro date listed
      rcases List.mem_append.mp listed with baseline | target
      · have prior := window.1.2 date baseline
        simp only [Trend.before, Bool.not_not, decide_eq_false_iff_not] at prior
        exact (Std.Total.total date targetDate).resolve_right prior.2
      · rw [List.mem_singleton.mp target]
        exact (Std.Total.total targetDate targetDate).elim id id
    have measured := measureSymbols_scaled positive (fun symbol date listed => agrees symbol date (early date listed))
      observations participationSymbols ([], [])
    simp only [List.map_nil] at measured
    rw [measured]
    cases participationSymbols.foldlM (measureSymbol targetDate baselineDates observations) ([], []) with
    | error error => rfl
    | ok answer =>
      obtain ⟨diagnostics, instruments⟩ := answer
      have ratios : (instruments.map (ParticipationInstrument.scaled common)).map (·.rvol20) = instruments.map (·.rvol20) := by
        rw [List.map_map]
        rfl
      change (if diagnostics ≠ [] then _ else _) = Except.map _ (if diagnostics ≠ [] then _ else _)
      split_ifs
      · rfl
      · rw [ratios]
        cases participationPanel (instruments.map (·.rvol20)) with
        | error error => rfl
        | ok panel => rfl

end

end Symbols

end Participation

end AiTrader.Market
