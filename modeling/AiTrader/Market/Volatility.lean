import AiTrader.Market.Trend

/-! # The volatility calculation

Realized volatility over ten and twenty returns and the average true range over fourteen ranges are each classified, and
the median of the three is the state of an instrument. -/

namespace AiTrader.Market.Volatility

open Library JsNumber JsLogarithm
open Trend (NormalizedBar before)

inductive VolatilityState where
  | low | normal | high | extreme
deriving DecidableEq

def VolatilityState.text : VolatilityState → String
  | .low => "LOW"
  | .normal => "NORMAL"
  | .high => "HIGH"
  | .extreme => "EXTREME"

def VolatilityState.severity : VolatilityState → Nat
  | .low => 0
  | .normal => 1
  | .high => 2
  | .extreme => 3

/-- `VOLATILITY_STATES` by index. -/
def volatilityState : Nat → VolatilityState
  | 0 => .low
  | 1 => .normal
  | 2 => .high
  | _ => .extreme

inductive VolatilityError where
  | closesRequired | samplesRequired | trueRangeInputs | invalidTrueRange | measurementRequired | invalidContinuation
  | unalignedSessions

def VolatilityError.message : VolatilityError → String
  | .closesRequired => "Positive finite closes required."
  | .samplesRequired => "At least two finite samples required."
  | .trueRangeInputs => "Invalid true-range inputs."
  | .invalidTrueRange => "Invalid true range."
  | .measurementRequired => "Finite nonnegative measurement required."
  | .invalidContinuation => "Invalid hysteresis continuation."
  | .unalignedSessions => "Aligned, unique chronological sessions required."

section Measurements

variable {N : Type} [JsLogarithm N]

def logReturn (close previousClose : N) : Except VolatilityError N :=
  if finitePositive close && finitePositive previousClose then .ok (log (close / previousClose)) else .error .closesRequired

def sampleStandardDeviation (values : List N) : Except VolatilityError N :=
  if values.length < 2 || !values.all isFinite then .error .samplesRequired
  else
    let mean := values.foldl (· + ·) (number 0) / number values.length
    .ok (sqrt (values.foldl (fun sum value => sum + square (value - mean)) (number 0) / number (values.length - 1 : Nat)))

/-- The returns of neighbouring closes. -/
def logReturns (window : List N) : Except VolatilityError (List N) :=
  (window.tail.zip window).mapM fun (close, previousClose) => logReturn close previousClose

def realizedVolatility (closes : List N) (period : Nat) : Except VolatilityError (Option N) :=
  if closes.length < period + 1 then .ok none
  else do
    let returns ← logReturns (closes.rtake (period + 1))
    let deviation ← sampleStandardDeviation returns
    .ok (some (deviation * sqrt (number 252) * number 100))

def trueRange (high low previousClose : N) : Except VolatilityError N :=
  if !([high, low, previousClose].all finitePositive) || less high low then .error .trueRangeInputs
  else .ok (max (max (high - low) (abs (high - previousClose))) (abs (low - previousClose)))

def wilderSmoothing : Smoothing N VolatilityError where
  period := 14
  invalid := fun range => if !isFinite range || less range (number 0) then some .invalidTrueRange else none
  mean := fun seed => seed.foldl (· + ·) (number 0) / number 14
  advance := fun atr range => (atr * number 13 + range) / number 14

def wilderAtr (ranges : List (Option N)) : Except VolatilityError (List (Option N)) := wilderSmoothing.series ranges

inductive VolatilityMeasure where
  | rv | atr14Pct

/-- `rvThresholds` and `atrPctThresholds` -/
def VolatilityMeasure.thresholds : VolatilityMeasure → List N
  | .rv => [number 12, number 20, number 30]
  | .atr14Pct => [number 1, number 1.5, number 2.5]

def classifyVolatility (value : N) (measurement : VolatilityMeasure) : Except VolatilityError VolatilityState :=
  if !isFinite value || less value (number 0) then .error .measurementRequired
  else .ok (volatilityState (measurement.thresholds.filter fun boundary => le boundary value).length)

structure Measurement (N : Type) where
  value : N
  state : VolatilityState

def measurement (value : Option N) (kind : VolatilityMeasure) : Except VolatilityError (Option (Measurement N)) :=
  match value with
  | none => .ok none
  | some value => do
    let state ← classifyVolatility value kind
    .ok (some ⟨value, state⟩)

def instrumentRawState (first second third : VolatilityState) : VolatilityState :=
  volatilityState ((([first, second, third].map (·.severity)).insertionSort (· ≤ ·)).getD 1 0)

def marketRawState (spy rsp : VolatilityState) : VolatilityState := volatilityState (max spy.severity rsp.severity)

structure VolatilityInstrument (N : Type) where
  consecutiveSessions : Nat
  rv10 : Option (Measurement N)
  rv20 : Option (Measurement N)
  atr14Pct : Option (Measurement N)
  atr14 : Option N
  rawState : Option VolatilityState
  reason : String

def usableBar (bar : NormalizedBar N) : Bool :=
  [bar.openPrice, bar.high, bar.low, bar.close].all finitePositive && le bar.low (min bar.openPrice bar.close) &&
    le (max bar.openPrice bar.close) bar.high

def usable (bar : Option (NormalizedBar N)) : Bool := bar.any usableBar

/-- The true range of a session whose bar and whose predecessor are usable. -/
def sessionRange (previous bar : Option (NormalizedBar N)) : Except VolatilityError (Option N) :=
  match previous, bar with
  | some previous, some bar =>
    if usableBar bar && usableBar previous then (trueRange bar.high bar.low previous.close).map some else .ok none
  | _, _ => .ok none

def trueRanges (bars : List (Option (NormalizedBar N))) : Except VolatilityError (List (Option N)) :=
  emit (fun previous bar => (sessionRange previous bar).map fun range => (bar, range)) none bars

/-- The raw state of a session that has all three measurements. -/
def sessionRawState (rv10 rv20 atr14Pct : Option (Measurement N)) : Option VolatilityState :=
  match rv10, rv20, atr14Pct with
  | some rv10, some rv20, some atr14Pct => some (instrumentRawState rv10.state rv20.state atr14Pct.state)
  | _, _, _ => none

def sessionReason (rawState : Option VolatilityState) (consecutive : Nat) : String :=
  if rawState = none then
    s!"Unavailable: {consecutive}/21 consecutive usable sessions; RV20 needs 21 closes, ATR14 needs 15 bars."
  else "Median severity of RV10, RV20 and ATR14Pct."

/-- The closes that are kept and their number, with one more session. -/
def keepClose (closes : List N) (consecutive : Nat) (bar : Option (NormalizedBar N)) : List N × Nat :=
  match bar with
  | some bar => if usableBar bar then ((closes ++ [bar.close]).rtake 21, consecutive + 1) else ([], 0)
  | none => ([], 0)

/-- The average true range in percent of the close. -/
def atrPct (atr14 : Option N) (bar : Option (NormalizedBar N)) : Option N :=
  match atr14, bar with
  | some atr14, some bar => if usableBar bar then some (atr14 / bar.close * number 100) else none
  | _, _ => none

/-- One element of the map of `instrumentMeasurements`. -/
def measureStep (memory : List N × Nat) (input : Option (NormalizedBar N) × Option N) :
    Except VolatilityError ((List N × Nat) × VolatilityInstrument N) := do
  let (closes, consecutive) := keepClose memory.1 memory.2 input.1
  let rv10 ← realizedVolatility closes 10
  let rv20 ← realizedVolatility closes 20
  let rv10 ← measurement rv10 .rv
  let rv20 ← measurement rv20 .rv
  let atr14Pct ← measurement (atrPct input.2 input.1) .atr14Pct
  let rawState := sessionRawState rv10 rv20 atr14Pct
  .ok ((closes, consecutive),
    { consecutiveSessions := consecutive, rv10, rv20, atr14Pct, atr14 := input.2, rawState
      reason := sessionReason rawState consecutive })

def instrumentMeasurements (bars : List (Option (NormalizedBar N))) :
    Except VolatilityError (List (VolatilityInstrument N)) := do
  let ranges ← trueRanges bars
  let atr ← wilderAtr ranges
  emit measureStep ([], 0) (bars.zip atr)

end Measurements

structure VolatilityHistory where
  effectiveState : Option VolatilityState
  confirmation : Nat

structure VolatilityTransition where
  (previousEffectiveState rawState : Option VolatilityState)
  confirmationBefore : Nat
  recoveryTarget : Option VolatilityState
  confirmationAfter : Nat
  effectiveState : Option VolatilityState
  transitioned : Bool
  reason : String

/-- The state that a recovery leads to. -/
def recoveryTarget : Option VolatilityState → Option VolatilityState
  | none | some .low => none
  | some before => some (volatilityState (before.severity - 1))

/-- A template's text of an optional state. -/
def stateText : Option VolatilityState → String
  | none => "null"
  | some state => state.text

/-- The transition of `advanceVolatility` for a continuation that is valid. -/
def volatilityTransition (previous : VolatilityHistory) (raw : Option VolatilityState) : VolatilityTransition :=
  let target := recoveryTarget previous.effectiveState
  let base : VolatilityTransition :=
    { previousEffectiveState := previous.effectiveState, rawState := raw, confirmationBefore := previous.confirmation
      recoveryTarget := target, confirmationAfter := previous.confirmation, effectiveState := previous.effectiveState
      transitioned := false, reason := "" }
  match raw, previous.effectiveState with
  | none, _ => { base with reason := "Unavailable evidence: pause effective state and recovery confirmation." }
  | some raw, none =>
    { base with
      effectiveState := some raw, confirmationAfter := 0
      reason := s!"Bootstrap from first valid raw state {raw.text}." }
  | some raw, some before =>
    if before.severity < raw.severity then
      { base with
        effectiveState := some raw, confirmationAfter := 0, transitioned := true
        reason := s!"Raw {raw.text} is more severe than {before.text}; jump immediately to {raw.text} and reset recovery." }
    else if raw = before then
      { base with confirmationAfter := 0, reason := s!"Raw equals effective {before.text}; hold and reset recovery." }
    else if previous.confirmation = 1 then
      { base with
        effectiveState := target, confirmationAfter := 0, transitioned := true
        reason := s!"Two valid assessments support at least {stateText target}; recover exactly one state and reset confirmation." }
    else
      { base with
        confirmationAfter := 1
        reason := s!"Raw {raw.text} supports {stateText target}; hold {before.text} with recovery confirmation 1/2." }

def advanceVolatility (previous : VolatilityHistory) (raw : Option VolatilityState) :
    Except VolatilityError VolatilityTransition :=
  if previous.confirmation ∉ [0, 1] ∨ previous.effectiveState = none ∧ previous.confirmation ≠ 0 then
    .error .invalidContinuation
  else .ok (volatilityTransition previous raw)

section Days

variable {N : Type} [JsLogarithm N]

inductive VolatilityStatus where
  | valid | unavailable

structure VolatilityDay (N : Type) where
  date : String
  status : VolatilityStatus
  spy : VolatilityInstrument N
  rsp : VolatilityInstrument N
  (rawState effectiveState : Option VolatilityState)
  hysteresis : VolatilityTransition

/-- The raw state of the market from those of the instruments. -/
def dayRawState (spy rsp : Option VolatilityState) : Option VolatilityState :=
  match spy, rsp with
  | some spy, some rsp => some (marketRawState spy rsp)
  | _, _ => none

/-- One element of the map of `calculateVolatility`. -/
def volatilityStep (history : VolatilityHistory) (input : String × VolatilityInstrument N × VolatilityInstrument N) :
    Except VolatilityError (VolatilityHistory × VolatilityDay N) := do
  let raw := dayRawState input.2.1.rawState input.2.2.rawState
  let hysteresis ← advanceVolatility history raw
  .ok (⟨hysteresis.effectiveState, hysteresis.confirmationAfter⟩,
    { date := input.1, status := if raw = none then .unavailable else .valid, spy := input.2.1, rsp := input.2.2
      rawState := raw, effectiveState := if raw = none then none else hysteresis.effectiveState, hysteresis })

def calculateVolatility (dates : List String) (spy rsp : List (Option (NormalizedBar N))) :
    Except VolatilityError (List (VolatilityDay N)) :=
  if dates.length ≠ spy.length ∨ dates.length ≠ rsp.length ∨
      (dates.zip dates.tail).any (fun (previous, date) => !before previous date) ∨
      Trend.misplaced dates spy ∨ Trend.misplaced dates rsp then .error .unalignedSessions
  else do
    let a ← instrumentMeasurements spy
    let b ← instrumentMeasurements rsp
    emit volatilityStep ⟨none, 0⟩ (dates.zip (a.zip b))

end Days

end AiTrader.Market.Volatility
