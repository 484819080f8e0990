import AiTrader.Library.JsNumber
import AiTrader.Library.Json
import AiTrader.Library.Restart

/-! # The trend calculation

Three exponential averages of the split-normalized closes give nine measurements of a session, and these the state of the
instrument. -/

namespace AiTrader.Market.Trend

open Library JsNumber

inductive TrendState where
  | down | neutral | up
deriving DecidableEq

def TrendState.text : TrendState → String
  | .down => "DOWN"
  | .neutral => "NEUTRAL"
  | .up => "UP"

/-- `ORDER.indexOf` -/
def TrendState.rank : TrendState → Nat
  | .down => 0
  | .neutral => 1
  | .up => 2

/-- `ORDER` by index. -/
def trendState : Nat → TrendState
  | 0 => .down
  | 1 => .neutral
  | _ => .up

inductive MeasurementSign where
  | negative | neutral | positive
deriving DecidableEq

inductive Horizon where
  | short | medium | structural
deriving DecidableEq

inductive TrendError where
  | invalidSplitFactor | invalidNormalizedSeries | invalidEmaPeriod | invalidClose | horizonMeasurements
  | nonFiniteMeasurement | invalidThresholds | unalignedSessions | sessionIdentityMismatch

def TrendError.message : TrendError → String
  | .invalidSplitFactor => "Invalid split factor."
  | .invalidNormalizedSeries => "Invalid normalized series."
  | .invalidEmaPeriod => "Invalid EMA period."
  | .invalidClose => "Closes must be finite and positive."
  | .horizonMeasurements => "Each horizon requires exactly three measurements."
  | .nonFiniteMeasurement => "Non-finite Trend measurement."
  | .invalidThresholds => "Trend requires nine finite nonnegative thresholds."
  | .unalignedSessions => "Trend requires aligned, unique chronological daily sessions."
  | .sessionIdentityMismatch => "Instrument session identity mismatch."

/-- `TREND_MINIMUM_SESSIONS` -/
def trendMinimumSessions : Nat := 60

structure MeasurementDefinition where
  (key label : String)
  horizon : Horizon

/-- `MEASUREMENT_DEFINITIONS` -/
def measurementDefinitions : List MeasurementDefinition :=
  [⟨"closeVsEma10Pct", "Close vs EMA10", .short⟩,
    ⟨"ema10Slope3PctPerSession", "EMA10 slope / session (3 sessions)", .short⟩,
    ⟨"return5Pct", "5-session return", .short⟩,
    ⟨"closeVsEma20Pct", "Close vs EMA20", .medium⟩,
    ⟨"ema20Slope5PctPerSession", "EMA20 slope / session (5 sessions)", .medium⟩,
    ⟨"ema10VsEma20Pct", "EMA10 vs EMA20", .medium⟩,
    ⟨"closeVsEma50Pct", "Close vs EMA50", .structural⟩,
    ⟨"ema50Slope10PctPerSession", "EMA50 slope / session (10 sessions)", .structural⟩,
    ⟨"ema20VsEma50Pct", "EMA20 vs EMA50", .structural⟩]

structure ResearchBar (N : Type) where
  id : Nat
  date : String
  (openPrice high low close volume : N)

structure ResearchSplit (N : Type) where
  (id executionDate : String)
  (splitFrom splitTo priceFactor : N)

structure NormalizedBar (N : Type) extends ResearchBar N where
  normalizationFactor : N

/-- `first < second` of strings. -/
def before (first second : String) : Bool := !decide (Json.codeUnitOrder second first)

section Splits

variable {N : Type} [JsNumber N]

/-- What `normalizeSplits` asks of every split. -/
def validSplit (split : ResearchSplit N) : Bool :=
  less (number 0) split.splitFrom && less (number 0) split.splitTo && isFinite split.priceFactor &&
    less (number 0) split.priceFactor &&
    less (abs (split.priceFactor - split.splitFrom / split.splitTo)) (number (1 / 1000000000000))

/-- The product of the factors of the splits that follow a bar up to the horizon. -/
def normalizationFactor (splits : List (ResearchSplit N)) (through date : String) : N :=
  (splits.filter fun split => before date split.executionDate && !before through split.executionDate).foldl
    (fun value split => value * split.priceFactor) (number 1)

def normalizeBar (splits : List (ResearchSplit N)) (through : String) (bar : ResearchBar N) :
    Except TrendError (NormalizedBar N) :=
  let factor := normalizationFactor splits through bar.date
  let result : NormalizedBar N :=
    { bar with
      openPrice := bar.openPrice * factor, high := bar.high * factor, low := bar.low * factor, close := bar.close * factor
      volume := bar.volume / factor, normalizationFactor := factor }
  if !([result.openPrice, result.high, result.low, result.close, result.volume].all isFinite) ||
      le result.close (number 0) then .error .invalidNormalizedSeries
  else .ok result

def normalizeSplits (bars : List (ResearchBar N)) (splits : List (ResearchSplit N)) (through : String) :
    Except TrendError (List (NormalizedBar N)) :=
  if splits.all validSplit then bars.mapM (normalizeBar splits through) else .error .invalidSplitFactor

end Splits

section Measurements

variable {N : Type} [JsNumber N]

def emaSmoothing (period : Nat) : Smoothing N TrendError where
  period := period
  invalid := fun close => if finitePositive close then none else some .invalidClose
  mean := fun seed => seed.foldl (· + ·) (number 0) / number period
  advance := fun ema close =>
    number 2 / number (period + 1) * close + (number 1 - number 2 / number (period + 1)) * ema

def emaSeries (closes : List (Option N)) (period : Nat) : Except TrendError (List (Option N)) :=
  if period = 0 then .error .invalidEmaPeriod else (emaSmoothing period).series closes

/-- What a session's measurements read besides its close: the averages of the session and of earlier ones. -/
structure Operands (V : Type) where
  (ema10 ema10Before closeBefore ema20 ema20Before ema50 ema50Before : V)

def Operands.toList {V : Type} (operands : Operands V) : List V :=
  [operands.ema10, operands.ema10Before, operands.closeBefore, operands.ema20, operands.ema20Before, operands.ema50,
    operands.ema50Before]

def Operands.map {V W : Type} (change : V → W) (operands : Operands V) : Operands W where
  ema10 := change operands.ema10
  ema10Before := change operands.ema10Before
  closeBefore := change operands.closeBefore
  ema20 := change operands.ema20
  ema20Before := change operands.ema20Before
  ema50 := change operands.ema50
  ema50Before := change operands.ema50Before

/-- `series[index - sessions]` -/
def back {V : Type} (series : List V) (index sessions : Nat) : Option V :=
  if sessions ≤ index then series[index - sessions]? else none

/-- Arithmetic reads `undefined` as `NaN` and `null` as zero. -/
def asNumber : Option (Option N) → N
  | none => number 0 / number 0
  | some none => number 0
  | some (some value) => value

omit [JsNumber N] in
def readOperands (closes ema10 ema20 ema50 : List (Option N)) (index : Nat) : Operands (Option (Option N)) where
  ema10 := some (ema10[index]?.join)
  ema10Before := back ema10 index 3
  closeBefore := back closes index 5
  ema20 := some (ema20[index]?.join)
  ema20Before := back ema20 index 5
  ema50 := some (ema50[index]?.join)
  ema50Before := back ema50 index 10

def pct (a b : N) : N := (a / b - number 1) * number 100

def measurementValues (close : N) (operands : Operands N) : List N :=
  [pct close operands.ema10, pct operands.ema10 operands.ema10Before / number 3, pct close operands.closeBefore,
    pct close operands.ema20, pct operands.ema20 operands.ema20Before / number 5, pct operands.ema10 operands.ema20,
    pct close operands.ema50, pct operands.ema50 operands.ema50Before / number 10, pct operands.ema20 operands.ema50]

structure InstrumentMeasurements (N : Type) where
  values : Option (List N)
  (ema10 ema20 ema50 : Option N)
  consecutiveSessions : Nat

/-- The measurements of one session. -/
def measureSession (closes ema10 ema20 ema50 : List (Option N)) (consecutive index : Nat) (bar : Option (NormalizedBar N)) :
    InstrumentMeasurements N where
  values :=
    if consecutive < trendMinimumSessions then none
    else bar.map fun bar =>
      measurementValues bar.close ((readOperands closes ema10 ema20 ema50 index).map asNumber)
  ema10 := ema10[index]?.join
  ema20 := ema20[index]?.join
  ema50 := ema50[index]?.join
  consecutiveSessions := consecutive

/-- The map over the sessions, from an index on. -/
def measureSessions (closes ema10 ema20 ema50 : List (Option N)) :
    Nat → Nat → List (Option (NormalizedBar N)) → List (InstrumentMeasurements N)
  | _, _, [] => []
  | consecutive, index, bar :: rest =>
    measureSession closes ema10 ema20 ema50 (lengthened Option.isSome consecutive bar) index bar ::
      measureSessions closes ema10 ema20 ema50 (lengthened Option.isSome consecutive bar) (index + 1) rest

omit [JsNumber N] in
def closesOf (bars : List (Option (NormalizedBar N))) : List (Option N) := bars.map fun bar => bar.map (·.close)

def instrumentMeasurements (bars : List (Option (NormalizedBar N))) : Except TrendError (List (InstrumentMeasurements N)) := do
  let ema10 ← emaSeries (closesOf bars) 10
  let ema20 ← emaSeries (closesOf bars) 20
  let ema50 ← emaSeries (closesOf bars) 50
  .ok (measureSessions (closesOf bars) ema10 ema20 ema50 0 0 bars)

end Measurements

section States

def horizonState (signs : List MeasurementSign) : Except TrendError TrendState :=
  if signs.length ≠ 3 then .error .horizonMeasurements
  else if 2 ≤ (signs.filter (· = .positive)).length then .ok .up
  else if 2 ≤ (signs.filter (· = .negative)).length then .ok .down
  else .ok .neutral

def instrumentState (short medium structural : TrendState) : TrendState :=
  if medium = structural then medium
  else if medium ≠ .neutral ∧ structural ≠ .neutral then .neutral
  else
    let direction := if medium = .neutral then structural else medium
    if short = direction then direction else .neutral

def marketRawState (spy rsp : TrendState) : TrendState := if spy = rsp then spy else .neutral

variable {N : Type} [JsNumber N]

def measurementSign (value deadband : N) : MeasurementSign :=
  if less deadband value then .positive
  else if less value (number 0 - deadband) then .negative
  else .neutral

structure MeasurementEvidence (N : Type) where
  definition : MeasurementDefinition
  (value deadband : N)
  classification : MeasurementSign

structure HorizonStates where
  (short medium structural : TrendState)

structure InstrumentEvidence (N : Type) where
  state : Option TrendState
  horizons : Option HorizonStates
  measurements : List (MeasurementEvidence N)
  (ema10 ema20 ema50 : Option N)
  consecutiveSessions : Nat
  reason : String

/-- The measurements that classify one horizon. -/
def signsOf (measurements : List (MeasurementEvidence N)) (horizon : Horizon) : List MeasurementSign :=
  (measurements.filter (·.definition.horizon = horizon)).map (·.classification)

def classificationReason (horizons : HorizonStates) (state : TrendState) : String :=
  if horizons.medium = horizons.structural then
    s!"Medium and structural both classify {horizons.medium.text}; instrument Trend is {state.text}."
  else if horizons.medium ≠ .neutral ∧ horizons.structural ≠ .neutral then
    s!"Medium {horizons.medium.text} conflicts with structural {horizons.structural.text}; instrument Trend is NEUTRAL " ++
      "regardless of short-term direction."
  else
    s!"Medium {horizons.medium.text} and structural {horizons.structural.text} need short-term confirmation. Short is " ++
      s!"{horizons.short.text}; instrument Trend is {state.text}."

def classifyInstrument (input : InstrumentMeasurements N) (thresholds : List N) : Except TrendError (InstrumentEvidence N) :=
  match input.values with
  | none => .ok
    { state := none, horizons := none, measurements := [], ema10 := input.ema10, ema20 := input.ema20, ema50 := input.ema50
      consecutiveSessions := input.consecutiveSessions
      reason := s!"Unavailable: {input.consecutiveSessions}/{trendMinimumSessions} consecutive sessions; EMA50 plus its " ++
        "10-session slope requires 60." }
  | some values =>
    let measurements := List.zipWith
      (fun value (definition, deadband) => ⟨definition, value, deadband, measurementSign value deadband⟩) values
      (measurementDefinitions.zip thresholds)
    if measurements.any fun measurement => !isFinite measurement.value then .error .nonFiniteMeasurement
    else do
      let short ← horizonState (signsOf measurements .short)
      let medium ← horizonState (signsOf measurements .medium)
      let structural ← horizonState (signsOf measurements .structural)
      let state := instrumentState short medium structural
      .ok
        { state := some state, horizons := some ⟨short, medium, structural⟩, measurements, ema10 := input.ema10
          ema20 := input.ema20, ema50 := input.ema50, consecutiveSessions := input.consecutiveSessions
          reason := classificationReason ⟨short, medium, structural⟩ state }

end States

structure HysteresisState where
  effective : Option TrendState
  recoveryConfirmation : Nat

structure TransitionEvidence where
  (previousEffectiveState rawState effectiveState : Option TrendState)
  (confirmationBefore supportingCount recoveryConfirmation : Nat)
  nextRecoveryTarget : Option TrendState
  transitioned : Bool
  reason : String

/-- The state that a recovery leads to. -/
def nextRecoveryTarget : Option TrendState → Option TrendState
  | none | some .up => none
  | some before => some (trendState (before.rank + 1))

/-- A template's text of an optional state. -/
def stateText : Option TrendState → String
  | none => "null"
  | some state => state.text

def advanceTrend (previous : HysteresisState) (raw : Option TrendState) : TransitionEvidence :=
  let target := nextRecoveryTarget previous.effective
  let result : TransitionEvidence :=
    { previousEffectiveState := previous.effective, rawState := raw, effectiveState := previous.effective
      confirmationBefore := previous.recoveryConfirmation, supportingCount := previous.recoveryConfirmation
      recoveryConfirmation := previous.recoveryConfirmation, nextRecoveryTarget := target, transitioned := false
      reason := "" }
  match raw, previous.effective with
  | none, _ =>
    { result with reason := "Unavailable daily evidence: effective state and recovery confirmation are paused." }
  | some raw, none =>
    { result with
      effectiveState := some raw, recoveryConfirmation := 0, supportingCount := 0, nextRecoveryTarget := none
      reason := s!"Bootstrap this independent profile from the first valid raw state: {raw.text}." }
  | some raw, some before =>
    if raw = before then
      { result with
        recoveryConfirmation := 0, supportingCount := 0
        reason := s!"Raw {raw.text} equals effective {before.text}; hold and reset recovery confirmation." }
    else if raw.rank < before.rank then
      { result with
        effectiveState := some (trendState (before.rank - 1)), recoveryConfirmation := 0, supportingCount := 0
        transitioned := true
        reason := s!"Raw {raw.text} is worse than {before.text}; deteriorate exactly one state immediately." }
    else if 2 ≤ previous.recoveryConfirmation + 1 then
      { result with
        effectiveState := target, recoveryConfirmation := 0, supportingCount := previous.recoveryConfirmation + 1
        transitioned := true
        reason := s!"Two valid daily assessments support at least {stateText target}; recover one state and reset " ++
          "confirmation." }
    else
      { result with
        recoveryConfirmation := previous.recoveryConfirmation + 1
        supportingCount := previous.recoveryConfirmation + 1
        reason := s!"Raw {raw.text} supports recovery to {stateText target}; hold {before.text} while confirmation is " ++
          s!"{previous.recoveryConfirmation + 1}/2." }

section Days

variable {N : Type} [JsNumber N]

inductive TrendStatus where
  | valid | unavailable

structure TrendDay (N : Type) where
  date : String
  status : TrendStatus
  spy : InstrumentEvidence N
  rsp : InstrumentEvidence N
  (rawState effectiveState : Option TrendState)
  marketReason : String
  transition : TransitionEvidence

/-- The raw state of the market from those of the instruments. -/
def dayRawState (spy rsp : Option TrendState) : Option TrendState :=
  match spy, rsp with
  | some spy, some rsp => some (marketRawState spy rsp)
  | _, _ => none

def marketReason (spy rsp rawState : Option TrendState) : String :=
  if rawState = none then "Required SPY/RSP evidence is unavailable; this is not a NEUTRAL classification."
  else if spy = rsp then s!"SPY and RSP both classify {stateText rawState}; market raw Trend is {stateText rawState}."
  else
    s!"SPY is {stateText spy}; RSP is {stateText rsp}. Cap-weighted and equal-weight confirmation is incomplete, so raw " ++
      "market Trend is NEUTRAL."

/-- One element of the map of `calculateTrendWithThresholds`. -/
def trendStep (thresholds : List N) (history : HysteresisState)
    (input : String × InstrumentMeasurements N × InstrumentMeasurements N) :
    Except TrendError (HysteresisState × TrendDay N) := do
  let spy ← classifyInstrument input.2.1 thresholds
  let rsp ← classifyInstrument input.2.2 thresholds
  let rawState := dayRawState spy.state rsp.state
  let transition := advanceTrend history rawState
  .ok (⟨transition.effectiveState, transition.recoveryConfirmation⟩,
    { date := input.1, status := if rawState = none then .unavailable else .valid, spy, rsp, rawState
      effectiveState := if rawState = none then none else transition.effectiveState
      marketReason := marketReason spy.state rsp.state rawState, transition })

/-- Whether a bar stands at a session of another date. -/
def misplaced (dates : List String) (bars : List (Option (NormalizedBar N))) : Bool :=
  (dates.zip bars).any fun (date, bar) => bar.any (·.date ≠ date)

def calculateTrendWithThresholds (dates : List String) (spy rsp : List (Option (NormalizedBar N))) (thresholds : List N) :
    Except TrendError (List (TrendDay N)) :=
  if thresholds.length ≠ 9 ∨ thresholds.any fun value => !isFinite value || less value (number 0) then
    .error .invalidThresholds
  else if dates.length ≠ spy.length ∨ dates.length ≠ rsp.length ∨
      (dates.zip dates.tail).any fun (previous, date) => !before previous date then .error .unalignedSessions
  else if misplaced dates spy || misplaced dates rsp then .error .sessionIdentityMismatch
  else do
    let a ← instrumentMeasurements spy
    let b ← instrumentMeasurements rsp
    emit (trendStep thresholds) ⟨none, 0⟩ (dates.zip (a.zip b))

end Days

end AiTrader.Market.Trend
