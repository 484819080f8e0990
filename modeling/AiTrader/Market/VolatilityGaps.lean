import AiTrader.Market.TrendGaps
import AiTrader.Market.Volatility

/-! # The volatility of an instrument forgets what precedes a gap

True ranges, their average and the kept closes each start over at a bar that is not usable. -/

namespace AiTrader.Market.Volatility

open Library JsNumber JsLogarithm
open Trend (NormalizedBar)

section Passes

variable {N : Type} [JsLogarithm N] {bars run : List (Option (NormalizedBar N))} {bar previous : Option (NormalizedBar N)}
  {ranges atr : List (Option N)} {index : Nat}

/-- The machine of `trueRanges`. -/
def rangeStep (previous bar : Option (NormalizedBar N)) :
    Except VolatilityError (Option (NormalizedBar N) × Option N) :=
  (sessionRange previous bar).map fun range => (bar, range)

theorem sessionRange_unusable (unusable : usable bar = false) : sessionRange previous bar = .ok none := by
  cases previous <;> cases bar <;> simp_all [sessionRange, usable]

theorem sessionRange_after_gap (unusable : usable previous = false) : sessionRange previous bar = .ok none := by
  cases previous <;> cases bar <;> simp_all [sessionRange, usable]

theorem emit_rangeStep_after_gap (unusable : usable previous = false) :
    emit rangeStep previous run = emit rangeStep none run := by
  cases run with
  | nil => rfl
  | cons bar rest => simp only [emit, rangeStep, sessionRange_after_gap unusable,
      sessionRange_after_gap (rfl : usable (none : Option (NormalizedBar N)) = false)]

theorem trueRanges_gapLocal : GapLocal (trueRanges (N := N)) usable := by
  have restarts : Restarts (rangeStep (N := N)) none usable := by
    intro previous bar next range unusable stepped run
    rw [rangeStep, sessionRange_unusable unusable] at stepped
    cases stepped
    exact emit_rangeStep_after_gap unusable
  exact restarts.gapLocal

variable {range : Option N} {next : Option (NormalizedBar N)}

theorem range_present (stepped : rangeStep previous bar = .ok (next, range))
    (here : usable bar = true) (before : usable previous = true) : range.isSome = true := by
  cases previous with
  | none => cases before
  | some previous =>
    cases bar with
    | none => cases here
    | some bar =>
      simp only [usable, Option.any_some] at here before
      simp only [rangeStep, sessionRange, here, before, Bool.and_self, if_true] at stepped
      cases inputs : trueRange bar.high bar.low previous.close with
      | error error =>
        rw [inputs] at stepped
        cases stepped
      | ok value =>
        rw [inputs] at stepped
        cases stepped
        rfl

theorem rangeStep_next (stepped : rangeStep previous bar = .ok (next, range)) : next = bar := by
  rw [rangeStep] at stepped
  cases told : sessionRange previous bar with
  | error error =>
    rw [told] at stepped
    cases stepped
  | ok range =>
    rw [told] at stepped
    cases stepped
    rfl

theorem range_at {first : Option (NormalizedBar N)} (emitted : emit rangeStep first bars = .ok ranges)
    (found : bars[index]? = some previous) (found' : bars[index + 1]? = some bar) (told : ranges[index + 1]? = some range) :
    ∃ next, rangeStep previous bar = .ok (next, range) := by
  induction bars generalizing first ranges index with
  | nil => cases found
  | cons head rest ih =>
    obtain ⟨next, _, later, stepped, rested, rfl⟩ := emit_cons emitted
    cases index with
    | zero =>
      cases found
      cases rest with
      | nil => cases found'
      | cons second rest =>
        cases found'
        obtain ⟨next', _, _, stepped', _, rfl⟩ := emit_cons rested
        cases told
        rw [rangeStep_next stepped] at stepped'
        exact ⟨next', stepped'⟩
    | succ index => exact ih rested found found' told

theorem ranges_present (computed : trueRanges bars = .ok ranges) (bound : index < bars.length) {places : Nat}
    (near : places + 1 < (sinceGap usable bars index).length) :
    ∃ range, ranges[index - places]? = some (some range) := by
  have atMost := length_sinceGap_le usable bars index
  obtain ⟨bar, found, here⟩ := present_back places bound (Nat.lt_of_succ_lt near)
  obtain ⟨previous, found', before⟩ := present_back (places + 1) bound near
  obtain ⟨range, told⟩ := trueRanges_gapLocal.told computed found
  have later : index - places = index - (places + 1) + 1 := by omega
  obtain ⟨next, stepped⟩ := range_at computed found' (by rw [← later]; exact found) (by rw [← later]; exact told)
  obtain ⟨value, rfl⟩ := Option.isSome_iff_exists.mp (range_present stepped here before)
  exact ⟨value, told⟩

/-- The average of the ranges forgets what precedes a gap. -/
theorem atr_gapLocal : GapLocal (fun bars : List (Option (NormalizedBar N)) => trueRanges bars >>= wilderAtr) usable := by
  apply trueRanges_gapLocal.comp Smoothing.series_gapLocal
  intro bars ranges index bar range computed found told unusable
  obtain ⟨previous, next, stepped⟩ := emit_told computed found told
  rw [sessionRange_unusable unusable] at stepped
  cases stepped
  rfl

theorem keepClose_unusable {closes : List N} {consecutive : Nat} (unusable : usable bar = false) :
    keepClose closes consecutive bar = ([], 0) := by
  cases bar with
  | none => rfl
  | some bar =>
    simp only [usable, Option.any_some] at unusable
    simp [keepClose, unusable]

variable {session : VolatilityInstrument N} {input : Option (NormalizedBar N) × Option N}

/-- The closes that one step hands on. -/
theorem measureStep_next {memory next : List N × Nat} (stepped : measureStep memory input = .ok (next, session)) :
    next = keepClose memory.1 memory.2 input.1 := by
  simp only [measureStep, bind_eq_ok] at stepped
  obtain ⟨_, _, _, _, _, _, _, _, _, _, same⟩ := stepped
  cases same
  rfl

theorem instrumentMeasurements_gapLocal : GapLocal (instrumentMeasurements (N := N)) usable := by
  have restarts : Restarts (measureStep (N := N)) ([], 0) fun input => usable input.1 := by
    intro memory input next session unusable stepped run
    rw [measureStep_next stepped, keepClose_unusable unusable]
  have passes := atr_gapLocal.paired.comp restarts.gapLocal fun bars pairs index bar pair computed found told unusable => by
    obtain ⟨atr, _, same⟩ := bind_eq_ok.mp computed
    cases same
    obtain ⟨found', _⟩ := List.getElem?_zip_eq_some.mp told
    rw [found] at found'
    cases found'
    exact unusable
  have same : instrumentMeasurements (N := N) = fun bars =>
      ((trueRanges bars >>= wilderAtr) >>= fun atr => .ok (bars.zip atr)) >>= emit measureStep ([], 0) := by
    funext bars
    simp only [bind_assoc]
    rfl
  rw [same]
  exact passes

variable {measured : List (VolatilityInstrument N)}

theorem instrumentMeasurements_ok (computed : instrumentMeasurements bars = .ok measured) :
    ∃ ranges atr, trueRanges bars = .ok ranges ∧ wilderAtr ranges = .ok atr ∧
      emit measureStep ([], 0) (bars.zip atr) = .ok measured := by
  simp only [instrumentMeasurements, bind_eq_ok] at computed
  exact computed.imp fun ranges ⟨first, atr, second, emitted⟩ => ⟨atr, first, second, emitted⟩

/-- The measurements of a session that is not usable. -/
def unmeasured : VolatilityInstrument N := ⟨0, none, none, none, none, none, sessionReason none 0⟩

theorem unmeasured_at (computed : instrumentMeasurements bars = .ok measured) (at_ : bars[index]? = some bar)
    (found : measured[index]? = some session) (unusable : usable bar = false) : session = unmeasured := by
  obtain ⟨ranges, atr, first, second, emitted⟩ := instrumentMeasurements_ok computed
  obtain ⟨range, rangeAt⟩ := trueRanges_gapLocal.told first at_
  obtain ⟨average, atrAt⟩ := Smoothing.series_gapLocal.told second rangeAt
  have gap : range = none := by
    obtain ⟨previous, next, stepped⟩ := emit_told first at_ rangeAt
    rw [sessionRange_unusable unusable] at stepped
    cases stepped
    rfl
  subst gap
  have missing : average = none := by
    have missing := Smoothing.series_gap second rangeAt
    rw [atrAt] at missing
    exact missing
  subst missing
  have pairAt : (bars.zip atr)[index]? = some (bar, none) := List.getElem?_zip_eq_some.mpr ⟨at_, atrAt⟩
  obtain ⟨memory, next, stepped⟩ := emit_told emitted pairAt found
  simp only [measureStep, keepClose_unusable unusable] at stepped
  cases stepped
  rfl

/-- The measurements of a session are those of the bars since the last gap alone. -/
theorem measured_sinceGap (computed : instrumentMeasurements bars = .ok measured) (found : measured[index]? = some session) :
    ∃ alone, instrumentMeasurements (sinceGap usable bars index) = .ok alone ∧ alone.getLast?.getD unmeasured = session := by
  obtain ⟨bar, at_⟩ := instrumentMeasurements_gapLocal.found computed found
  exact instrumentMeasurements_gapLocal.since at_ computed found (unmeasured_at computed at_ found)

/-- The closes that are kept of a number of usable sessions in a row. -/
structure Kept (count : Nat) (memory : List N × Nat) : Prop where
  closes : memory.1.length = min count 21
  consecutive : memory.2 = count

omit [JsLogarithm N] in
/-- What a number of usable sessions in a row gives. -/
structure Warm (count : Nat) (input : Option (NormalizedBar N) × Option N) (session : VolatilityInstrument N) : Prop where
  consecutive : session.consecutiveSessions = count
  rawState : session.rawState.isSome = true ↔ 21 ≤ count ∧ input.2.isSome = true

theorem realizedVolatility_isSome {closes : List N} {period : Nat} {value : Option N}
    (computed : realizedVolatility closes period = .ok value) : value.isSome = true ↔ period + 1 ≤ closes.length := by
  unfold realizedVolatility at computed
  split_ifs at computed with short
  · cases computed
    simp
    omega
  · simp only [bind_eq_ok] at computed
    obtain ⟨_, _, _, _, same⟩ := computed
    cases same
    simp
    omega

theorem measurement_isSome {value : Option N} {kind : VolatilityMeasure} {measured : Option (Measurement N)}
    (computed : measurement value kind = .ok measured) : measured.isSome = value.isSome := by
  cases value with
  | none =>
    cases computed
    rfl
  | some value =>
    simp only [measurement, bind_eq_ok] at computed
    obtain ⟨_, _, same⟩ := computed
    cases same
    rfl

omit [JsLogarithm N] in
theorem sessionRawState_isSome {rv10 rv20 atr14Pct : Option (Measurement N)} :
    (sessionRawState rv10 rv20 atr14Pct).isSome = (rv10.isSome && rv20.isSome && atr14Pct.isSome) := by
  cases rv10 <;> cases rv20 <;> cases atr14Pct <;> rfl

/-- One more usable session. -/
theorem warm_step {count : Nat} {memory next : List N × Nat} (kept : Kept count memory) (here : usable input.1 = true)
    (stepped : measureStep memory input = .ok (next, session)) : Kept (count + 1) next ∧ Warm (count + 1) input session := by
  obtain ⟨bar, average⟩ := input
  cases bar with
  | none => cases here
  | some bar =>
    simp only [usable, Option.any_some] at here
    have keep : keepClose memory.1 memory.2 (some bar) = ((memory.1 ++ [bar.close]).rtake 21, count + 1) := by
      simp [keepClose, here, kept.consecutive]
    have length : ((memory.1 ++ [bar.close]).rtake 21).length = min (count + 1) 21 := by
      simp only [List.rtake, List.length_drop, List.length_append, List.length_singleton, kept.closes]
      omega
    have told := measureStep_next stepped
    simp only [measureStep, keep, bind_eq_ok] at stepped
    obtain ⟨rv10, first, rv20, second, measured10, first', measured20, second', atr14Pct, third, same⟩ := stepped
    cases same
    refine ⟨⟨length, rfl⟩, rfl, ?_⟩
    have warm10 := realizedVolatility_isSome first
    have warm20 := realizedVolatility_isSome second
    have atr : (atrPct average (some bar)).isSome = average.isSome := by cases average <;> simp [atrPct, here]
    rw [sessionRawState_isSome, measurement_isSome first', measurement_isSome second', measurement_isSome third, atr]
    simp only [Bool.and_eq_true, warm10, warm20, length]
    apply and_congr_left
    intro _
    omega

/-- What a session's measurements rest on. -/
structure InstrumentLocal (bars : List (Option (NormalizedBar N))) (index : Nat) (session : VolatilityInstrument N) : Prop where
  warm : session.rawState.isSome = true ↔ 21 ≤ (sinceGap usable bars index).length
  /-- Neither the average true range nor a range that it averages is missing. -/
  present : session.rawState.isSome = true → ∃ ranges atr, trueRanges bars = .ok ranges ∧ wilderAtr ranges = .ok atr ∧
    (∀ places < 20, ∃ range, ranges[index - places]? = some (some range)) ∧ ∃ average, atr[index]? = some (some average)
  /-- The bars since the last gap alone give the same measurements. -/
  alone : (do
    let measured ← instrumentMeasurements (sinceGap usable bars index)
    .ok (measured.getLast?.getD unmeasured)) = .ok session

/-- The average true range of as many usable sessions in a row as a raw state takes. -/
theorem atr_present {ranges atr : List (Option N)} (bound : index < bars.length) (first : trueRanges bars = .ok ranges)
    (second : wilderAtr ranges = .ok atr) (warm : 21 ≤ (sinceGap usable bars index).length) :
    (∀ places < 20, ∃ range, ranges[index - places]? = some (some range)) ∧ ∃ average, atr[index]? = some (some average) := by
  have atMost := length_sinceGap_le usable bars index
  have length : ranges.length = bars.length := trueRanges_gapLocal.length bars ranges first
  have ranged : ∀ places < 20, ∃ range, ranges[index - places]? = some (some range) :=
    fun places near => ranges_present first bound (by omega)
  refine ⟨ranged, ?_⟩
  have run : 20 ≤ (sinceGap Option.isSome ranges index).length := by
    apply le_length_sinceGap (by omega)
    intro places near
    obtain ⟨range, found⟩ := ranged places near
    exact ⟨some range, found, rfl⟩
  have average := Smoothing.isSome_back 0 (Nat.succ_pos 13) second (by omega)
    (show 14 + 0 ≤ (sinceGap Option.isSome ranges index).length by omega)
  exact average

theorem warm_run (all : ∀ bar ∈ run, usable bar = true) (computed : instrumentMeasurements run = .ok measured)
    (last : measured.getLast? = some session) : session.rawState.isSome = true ↔ 21 ≤ run.length := by
  have length := instrumentMeasurements_gapLocal.length run measured computed
  rw [List.getLast?_eq_getElem?, length] at last
  obtain ⟨bar, found⟩ := instrumentMeasurements_gapLocal.found computed last
  obtain ⟨bound, _⟩ := List.getElem?_eq_some_iff.mp found
  obtain ⟨ranges, atr, first, second, emitted⟩ := instrumentMeasurements_ok computed
  obtain ⟨range, rangeAt⟩ := trueRanges_gapLocal.told first found
  obtain ⟨average, atrAt⟩ := Smoothing.series_gapLocal.told second rangeAt
  have pairAt : (run.zip atr)[run.length - 1]? = some (bar, average) := List.getElem?_zip_eq_some.mpr ⟨found, atrAt⟩
  have told := emit_counted Kept Warm (fun _ _ _ _ _ kept here stepped => warm_step kept here stepped) ⟨rfl, rfl⟩
    (fun pair member => all pair.1 (List.of_mem_zip member).1) emitted pairAt last
  rw [told.rawState, show 0 + (run.length - 1) + 1 = run.length by omega]
  refine ⟨And.left, fun warm => ⟨warm, ?_⟩⟩
  obtain ⟨_, value, valueAt⟩ := atr_present bound first second (by rw [sinceGap_of_all all]; exact warm)
  rw [atrAt] at valueAt
  cases valueAt
  rfl

theorem instrumentLocal (computed : instrumentMeasurements bars = .ok measured) (found : measured[index]? = some session) :
    InstrumentLocal bars index session := by
  obtain ⟨bar, at_⟩ := instrumentMeasurements_gapLocal.found computed found
  obtain ⟨bound, _⟩ := List.getElem?_eq_some_iff.mp at_
  obtain ⟨ranges, atr, first, second, _⟩ := instrumentMeasurements_ok computed
  have warm : session.rawState.isSome = true ↔ 21 ≤ (sinceGap usable bars index).length := by
    cases here : usable bar with
    | true =>
      obtain ⟨alone, again, last⟩ := instrumentMeasurements_gapLocal.last at_ here computed found
      exact warm_run (fun _ member => present_of_mem_sinceGap member) again last
    | false =>
      rw [unmeasured_at computed at_ found here, sinceGap_of_absent at_ here]
      simp [unmeasured]
  obtain ⟨alone, again, last⟩ := measured_sinceGap computed found
  refine ⟨warm, fun classifies => ⟨ranges, atr, first, second, atr_present bound first second (warm.mp classifies)⟩, ?_⟩
  simp only [bind_eq_ok]
  exact ⟨alone, again, by rw [last]⟩

end Passes

section Days

variable {N : Type} [JsLogarithm N] {dates : List String} {spy rsp : List (Option (NormalizedBar N))}
  {days : List (VolatilityDay N)} {day : VolatilityDay N} {index : Nat}

/-- What a calculated volatility consists of. -/
theorem calculateVolatility_ok :
    calculateVolatility dates spy rsp = .ok days ↔ Trend.Admitted dates spy rsp ∧
      ∃ a b, instrumentMeasurements spy = .ok a ∧ instrumentMeasurements rsp = .ok b ∧
        emit volatilityStep ⟨none, 0⟩ (dates.zip (a.zip b)) = .ok days := by
  unfold calculateVolatility
  constructor
  · intro calculated
    split_ifs at calculated with unaligned
    simp only [not_or, not_not, Bool.not_eq_true] at unaligned
    simp only [bind_eq_ok] at calculated
    refine ⟨⟨unaligned.1, unaligned.2.1, unaligned.2.2.1, unaligned.2.2.2.1, unaligned.2.2.2.2⟩, ?_⟩
    exact calculated.imp fun a ⟨first, b, second, emitted⟩ => ⟨b, first, second, emitted⟩
  · rintro ⟨admitted, a, b, first, second, emitted⟩
    rw [if_neg]
    · simp only [bind_eq_ok]
      exact ⟨a, first, b, second, emitted⟩
    · rw [admitted.chronological, admitted.spyPlaced, admitted.rspPlaced]
      simp [← admitted.spyLength, ← admitted.rspLength]

/-- A day's measurements, and its transition from some history. -/
theorem volatilityDay_at (calculated : calculateVolatility dates spy rsp = .ok days) (found : days[index]? = some day) :
    InstrumentLocal spy index day.spy ∧ InstrumentLocal rsp index day.rsp ∧
      day.rawState = dayRawState day.spy.rawState day.rsp.rawState ∧
      ∃ history, advanceVolatility history day.rawState = .ok day.hysteresis := by
  obtain ⟨_, a, b, first, second, emitted⟩ := calculateVolatility_ok.mp calculated
  obtain ⟨bound, _⟩ := List.getElem?_eq_some_iff.mp found
  rw [length_emit emitted] at bound
  have input := List.getElem?_eq_getElem bound
  obtain ⟨history, next, stepped⟩ := emit_told emitted input found
  obtain ⟨_, pairAt⟩ := List.getElem?_zip_eq_some.mp input
  obtain ⟨atA, atB⟩ := List.getElem?_zip_eq_some.mp pairAt
  simp only [volatilityStep, bind_eq_ok] at stepped
  obtain ⟨transition, advanced, same⟩ := stepped
  cases same
  exact ⟨instrumentLocal first atA, instrumentLocal second atB, rfl, history, advanced⟩

end Days

/-- A session has a state if and only if sixty, or twenty-one, usable sessions in a row end there and what it reads is there,
all from the bars since the last gap; only the hysteresis tells what precedes it. -/
theorem gapLocality {N : Type} [JsLogarithm N] :
    (∀ (dates : List String) (spy rsp : List (Option (NormalizedBar N))) (thresholds : List N)
      (days : List (Trend.TrendDay N)) (index : Nat) (day : Trend.TrendDay N),
      Trend.calculateTrendWithThresholds dates spy rsp thresholds = .ok days → days[index]? = some day →
        Trend.InstrumentLocal thresholds spy index day.spy ∧ Trend.InstrumentLocal thresholds rsp index day.rsp ∧
          day.rawState = Trend.dayRawState day.spy.state day.rsp.state ∧
          ∃ history, day.transition = Trend.advanceTrend history day.rawState) ∧
    ∀ (dates : List String) (spy rsp : List (Option (NormalizedBar N))) (days : List (VolatilityDay N)) (index : Nat)
      (day : VolatilityDay N), calculateVolatility dates spy rsp = .ok days → days[index]? = some day →
        InstrumentLocal spy index day.spy ∧ InstrumentLocal rsp index day.rsp ∧
          day.rawState = dayRawState day.spy.rawState day.rsp.rawState ∧
          ∃ history, advanceVolatility history day.rawState = .ok day.hysteresis :=
  ⟨fun _ _ _ _ _ _ _ calculated found => Trend.trendDay_at calculated found,
    fun _ _ _ _ _ _ calculated found => volatilityDay_at calculated found⟩

/-- Exact arithmetic, and the logarithm of one. -/
local instance : JsLogarithm ℚ where
  toJsNumber := exactNumber
  log := fun x => x - 1

def gapDates : List String := (List.range 62).map fun day => toString (1000 + day)

/-- Steady bars with a gap. -/
def gapBars : List (Option (NormalizedBar ℚ)) :=
  (List.range 62).map fun day => if day = 1 then none else some ⟨⟨day, toString (1000 + day), 1, 1, 1, 1, 1⟩, 1⟩

theorem exists_day {D E : Type} {days : Except E (List D)} {index : Nat} {warm : D → Bool}
    (found : (days.toOption.bind (·[index]?)).any warm = true) :
    ∃ listed day, days = .ok listed ∧ listed[index]? = some day ∧ warm day = true := by
  cases days with
  | error error => cases found
  | ok listed =>
    obtain ⟨day, at_, holds⟩ := (Option.any_eq_true _ _).mp found
    exact ⟨listed, day, rfl, at_, holds⟩

/-- Sixty sessions after the gap there is a state. -/
theorem gapLocality_afterGap :
    (∃ day : Trend.TrendDay ℚ, day.rawState.isSome = true ∧
      Trend.InstrumentLocal (List.replicate 9 1) gapBars 61 day.spy) ∧
    ∃ day : VolatilityDay ℚ, day.rawState.isSome = true ∧ InstrumentLocal gapBars 61 day.spy := by
  obtain ⟨days, day, calculated, found, some_⟩ := exists_day
    (show ((Trend.calculateTrendWithThresholds gapDates gapBars gapBars (List.replicate 9 1)).toOption.bind (·[61]?)).any
      (·.rawState.isSome) = true by decide +kernel)
  obtain ⟨others, other, computed, listed, present⟩ := exists_day
    (show ((calculateVolatility gapDates gapBars gapBars).toOption.bind (·[61]?)).any (·.rawState.isSome) = true by decide +kernel)
  exact ⟨⟨day, some_, (gapLocality.1 _ _ _ _ _ _ _ calculated found).1⟩,
    ⟨other, present, (gapLocality.2 _ _ _ _ _ _ computed listed).1⟩⟩

end AiTrader.Market.Volatility
