import Mathlib.Data.List.DropRight
import AiTrader.Library.JsNumber
import AiTrader.Library.Json
import AiTrader.Library.Replay

/-! # The breadth research pipeline

The researched calculator measures the share of advancing stocks over one, five and twenty sessions, classifies each mean
by the bands of its horizon and aggregates the three. -/

namespace AiTrader.Market

open Library JsNumber

inductive BreadthState where
  | negative | mixed | positive
deriving DecidableEq

def BreadthState.text : BreadthState → String
  | .negative => "NEGATIVE"
  | .mixed => "MIXED"
  | .positive => "POSITIVE"

def BreadthState.rank : BreadthState → Nat
  | .negative => 0
  | .mixed => 1
  | .positive => 2

/-- `BREADTH_STATES` by index. -/
def breadthState : Nat → BreadthState
  | 0 => .negative
  | 1 => .mixed
  | _ => .positive

inductive BreadthError where
  | finiteShareRequired | invalidBand | invalidContinuation | unalignedDates | unchronologicalDates

def BreadthError.message : BreadthError → String
  | .finiteShareRequired => "Finite advance-share value required."
  | .invalidBand => "Invalid band: negativeMax must be less than positiveMin."
  | .invalidContinuation => "Invalid hysteresis continuation."
  | .unalignedDates => "Aligned dates and observations required."
  | .unchronologicalDates => "Unique chronological dates required."

inductive BreadthObservationStatus where
  | valid | unavailable
deriving DecidableEq

structure DailyBreadthObservation (N : Type) where
  status : BreadthObservationStatus
  (universeCount currentBarsFound priorBarsFound eligibleCount excludedCount advancingCount : Nat)
  (decliningCount unchangedCount directionalCount : Nat)
  (advanceShare netBreadth : Option N)

structure BreadthBand (N : Type) where
  (negativeMax positiveMin : N)

structure BreadthBandsByHorizon (N : Type) where
  breadth1 : BreadthBand N
  breadth5 : BreadthBand N
  breadth20 : BreadthBand N

structure BreadthMeasurement (N : Type) where
  value : N
  state : BreadthState

/-- The mean of a window; a share of `null` counts as zero. -/
def meanShare {N : Type} [JsNumber N] (window : List (Option N)) : N :=
  window.foldl (fun sum share => sum + share.getD (number 0)) (number 0) / number window.length

namespace Breadth

section Classification

variable {N : Type} [JsNumber N]

def candidateStructuralV3Bands : BreadthBandsByHorizon N where
  breadth1 := ⟨number 0.44, number 0.54⟩
  breadth5 := ⟨number 0.46, number 0.52⟩
  breadth20 := ⟨number 0.47, number 0.51⟩

def classifyBreadthBand (value : N) (band : BreadthBand N) : Except BreadthError BreadthState :=
  if !isFinite value then .error .finiteShareRequired
  else if !lt band.negativeMax band.positiveMin then .error .invalidBand
  else if le value band.negativeMax then .ok .negative
  else if le band.positiveMin value then .ok .positive
  else .ok .mixed

def medianBreadthState (first second third : BreadthState) : BreadthState :=
  breadthState ((([first, second, third].map (·.rank)).insertionSort (· ≤ ·)).getD 1 0)

def aggregateStructuralV3 (breadth1 breadth5 breadth20 : BreadthState) : BreadthState :=
  if breadth5 = breadth20 then breadth5
  else if breadth5 ≠ .mixed ∧ breadth20 ≠ .mixed then .mixed
  else
    let directional := if breadth5 = .mixed then breadth20 else breadth5
    if directional = .positive then (if breadth1 = .positive then .positive else .mixed)
    else if breadth1 = .negative then .negative
    else .mixed

inductive RawAggregationRuleId where
  | medianOfThree | structuralV3

/-- `RAW_AGGREGATION_RULES` -/
def rawAggregationRule : RawAggregationRuleId → BreadthState → BreadthState → BreadthState → BreadthState
  | .medianOfThree => medianBreadthState
  | .structuralV3 => aggregateStructuralV3

end Classification

section Hysteresis

structure BreadthHistory where
  effectiveState : Option BreadthState
  confirmation : Nat

structure BreadthTransition where
  (previousEffectiveState rawState : Option BreadthState)
  confirmationBefore : Nat
  recoveryTarget : Option BreadthState
  confirmationAfter : Nat
  effectiveState : Option BreadthState
  transitioned : Bool
  reason : String

inductive DeteriorationMode where
  | immediateToRaw | oneLevelPerAssessment

/-- The state that a recovery leads to. -/
def recoveryTarget : Option BreadthState → Option BreadthState
  | none | some .positive => none
  | some before => some (breadthState (before.rank + 1))

def deteriorated (deteriorationMode : DeteriorationMode) (before raw : BreadthState) : BreadthState :=
  match deteriorationMode with
  | .oneLevelPerAssessment => breadthState (before.rank - 1)
  | .immediateToRaw => raw

def deteriorationReason (deteriorationMode : DeteriorationMode) (before raw : BreadthState) : String :=
  match deteriorationMode with
  | .oneLevelPerAssessment => s!"Raw {raw.text} is below effective {before.text}; move immediately but only one state, to " ++
      s!"{(deteriorated deteriorationMode before raw).text}, and reset recovery."
  | .immediateToRaw =>
    s!"Raw {raw.text} is below effective {before.text}; move immediately to {raw.text} and reset recovery."

/-- A template's text of an optional state. -/
def stateText : Option BreadthState → String
  | none => "null"
  | some state => state.text

/-- The transition of `advanceBreadth` for a continuation that is valid. -/
def breadthTransition (deteriorationMode : DeteriorationMode) (previous : BreadthHistory) (raw : Option BreadthState) :
    BreadthTransition :=
  let target := recoveryTarget previous.effectiveState
  let base : BreadthTransition :=
    { previousEffectiveState := previous.effectiveState, rawState := raw, confirmationBefore := previous.confirmation
      recoveryTarget := target, confirmationAfter := previous.confirmation, effectiveState := previous.effectiveState
      transitioned := false, reason := "" }
  match raw, previous.effectiveState with
  | none, _ => { base with reason := "Unavailable evidence: pause effective state and recovery confirmation." }
  | some raw, none =>
    { base with
      effectiveState := some raw, confirmationAfter := 0
      reason := s!"Bootstrap from first valid raw state {raw.text}." }
  | some raw, some before =>
    if raw.rank < before.rank then
      { base with
        effectiveState := some (deteriorated deteriorationMode before raw), confirmationAfter := 0, transitioned := true
        reason := deteriorationReason deteriorationMode before raw }
    else if raw = before then
      { base with confirmationAfter := 0, reason := s!"Raw equals effective {before.text}; hold and reset recovery." }
    else if previous.confirmation = 1 then
      { base with
        effectiveState := target, confirmationAfter := 0, transitioned := true
        reason := s!"Two valid assessments support at least {stateText target}; recover exactly one state and reset confirmation." }
    else
      { base with
        confirmationAfter := 1
        reason := s!"Raw {raw.text} supports {stateText target}; hold {before.text} with recovery confirmation 1/2." }

def advanceBreadth (previous : BreadthHistory) (raw : Option BreadthState) (deteriorationMode : Option DeteriorationMode) :
    Except BreadthError BreadthTransition :=
  if previous.confirmation ∉ [0, 1] ∨ previous.effectiveState = none ∧ previous.confirmation ≠ 0 then
    .error .invalidContinuation
  else .ok (breadthTransition (deteriorationMode.getD .immediateToRaw) previous raw)

structure MildDeteriorationHistory where
  effectiveState : Option BreadthState
  (recoveryConfirmation mildDeteriorationConfirmation : Nat)

structure MildDeteriorationTransition where
  (previousEffectiveState rawState : Option BreadthState)
  (recoveryConfirmationBefore mildDeteriorationConfirmationBefore recoveryConfirmationAfter : Nat)
  mildDeteriorationConfirmationAfter : Nat
  effectiveState : Option BreadthState
  transitioned : Bool
  reason : String

/-- The transition of `advanceBreadthMildDeteriorationConfirmation` for a continuation that is valid. -/
def mildDeteriorationTransition (previous : MildDeteriorationHistory) (raw : Option BreadthState) :
    MildDeteriorationTransition :=
  let base : MildDeteriorationTransition :=
    { previousEffectiveState := previous.effectiveState, rawState := raw
      recoveryConfirmationBefore := previous.recoveryConfirmation
      mildDeteriorationConfirmationBefore := previous.mildDeteriorationConfirmation
      recoveryConfirmationAfter := previous.recoveryConfirmation
      mildDeteriorationConfirmationAfter := previous.mildDeteriorationConfirmation
      effectiveState := previous.effectiveState, transitioned := false, reason := "" }
  let hold (reason : String) : MildDeteriorationTransition :=
    { base with recoveryConfirmationAfter := 0, mildDeteriorationConfirmationAfter := 0, reason }
  let move (state : BreadthState) (reason : String) : MildDeteriorationTransition :=
    { base with
      effectiveState := some state, recoveryConfirmationAfter := 0, mildDeteriorationConfirmationAfter := 0
      transitioned := true, reason }
  match previous.effectiveState, raw with
  | _, none => { base with reason := "Unavailable evidence: pause both recovery and mild-deterioration confirmation." }
  | none, some raw =>
    { base with
      effectiveState := some raw, recoveryConfirmationAfter := 0, mildDeteriorationConfirmationAfter := 0
      reason := s!"Bootstrap from first valid raw state {raw.text}." }
  | some .positive, some .positive => hold "Raw POSITIVE confirms effective POSITIVE; hold and reset both counters."
  | some .positive, some .negative => move .mixed
      "Raw NEGATIVE is genuine deterioration, never mild; move immediately one level to MIXED and reset both counters."
  | some .positive, some .mixed =>
    if previous.mildDeteriorationConfirmation = 1 then move .mixed
      "Second consecutive raw MIXED confirms mild deterioration; move to MIXED and reset both counters."
    else
      { base with
        mildDeteriorationConfirmationAfter := 1
        reason := "First raw MIXED is ambiguous, not deterioration; hold POSITIVE with mild-deterioration confirmation 1/2." }
  | some .mixed, some .negative => move .negative
      "Raw NEGATIVE is genuine deterioration; move immediately to NEGATIVE and reset both counters."
  | some .mixed, some .mixed => hold "Raw MIXED confirms effective MIXED; hold and reset both counters."
  | some .mixed, some .positive =>
    if previous.recoveryConfirmation = 1 then move .positive
      "Second consecutive raw POSITIVE confirms recovery; move to POSITIVE and reset both counters."
    else
      { base with
        recoveryConfirmationAfter := 1
        reason := "First raw POSITIVE supports recovery; hold MIXED with recovery confirmation 1/2." }
  | some .negative, some .negative => hold "Raw NEGATIVE confirms effective NEGATIVE; hold and reset both counters."
  | some .negative, some raw =>
    if previous.recoveryConfirmation = 1 then move .mixed
      (s!"Second consecutive raw {raw.text} supports recovery; move exactly one level to MIXED (never further) and " ++
        "reset both counters.")
    else
      { base with
        recoveryConfirmationAfter := 1
        reason := s!"First raw {raw.text} supports recovery; hold NEGATIVE with recovery confirmation 1/2." }

def advanceBreadthMildDeteriorationConfirmation (previous : MildDeteriorationHistory) (raw : Option BreadthState) :
    Except BreadthError MildDeteriorationTransition :=
  if previous.recoveryConfirmation ∉ [0, 1] ∨ previous.mildDeteriorationConfirmation ∉ [0, 1] ∨
      previous.effectiveState = none ∧ (previous.recoveryConfirmation ≠ 0 ∨ previous.mildDeteriorationConfirmation ≠ 0) then
    .error .invalidContinuation
  else .ok (mildDeteriorationTransition previous raw)

structure MildDeteriorationDay where
  effectiveState : Option BreadthState
  hysteresis : MildDeteriorationTransition

/-- One element of the map of `applyMildDeteriorationConfirmation`. -/
def mildDeteriorationStep (history : MildDeteriorationHistory) (raw : Option BreadthState) :
    Except BreadthError (MildDeteriorationHistory × MildDeteriorationDay) := do
  let hysteresis ← advanceBreadthMildDeteriorationConfirmation history raw
  .ok (⟨hysteresis.effectiveState, hysteresis.recoveryConfirmationAfter, hysteresis.mildDeteriorationConfirmationAfter⟩,
    ⟨if raw = none then none else hysteresis.effectiveState, hysteresis⟩)

def applyMildDeteriorationConfirmation (rawStates : List (Option BreadthState)) :
    Except BreadthError (List MildDeteriorationDay) :=
  emit mildDeteriorationStep ⟨none, 0, 0⟩ rawStates

end Hysteresis

section Series

variable {N : Type} [JsNumber N]

structure BreadthDay (N : Type) where
  date : String
  observation : Option (DailyBreadthObservation N)
  consecutiveValidSessions : Nat
  breadth1 : Option (BreadthMeasurement N)
  breadth5 : Option (BreadthMeasurement N)
  breadth20 : Option (BreadthMeasurement N)
  (rawState effectiveState : Option BreadthState)
  hysteresis : BreadthTransition

/-- The variables of the loop of `calculateBreadthSeries`. -/
structure BreadthRun (N : Type) where
  shares : List (Option N)
  consecutive : Nat
  history : BreadthHistory

structure BreadthAggregationOptions where
  aggregationRuleId : Option RawAggregationRuleId
  deteriorationMode : Option DeteriorationMode

/-- The shares and the number of consecutive valid sessions with one more observation. -/
def observe (shares : List (Option N)) (consecutive : Nat) (observation : Option (DailyBreadthObservation N)) :
    List (Option N) × Nat :=
  match observation with
  | some observation =>
    if observation.status = .valid then ((shares ++ [observation.advanceShare]).rtake 20, consecutive + 1) else ([], 0)
  | none => ([], 0)

def measure (shares : List (Option N)) (consecutive period : Nat) (band : BreadthBand N) :
    Except BreadthError (Option (BreadthMeasurement N)) :=
  if consecutive < period then .ok none
  else do
    let value := meanShare (shares.rtake period)
    let state ← classifyBreadthBand value band
    .ok (some ⟨value, state⟩)

/-- The raw state of a day whose three horizons are measured. -/
def rawState (aggregate : BreadthState → BreadthState → BreadthState → BreadthState)
    (breadth1 breadth5 breadth20 : Option (BreadthMeasurement N)) : Option BreadthState :=
  match breadth1, breadth5, breadth20 with
  | some breadth1, some breadth5, some breadth20 => some (aggregate breadth1.state breadth5.state breadth20.state)
  | _, _, _ => none

/-- One element of the map of `calculateBreadthSeries`. -/
def seriesStep (bands : BreadthBandsByHorizon N) (options : BreadthAggregationOptions) (run : BreadthRun N)
    (input : String × Option (DailyBreadthObservation N)) : Except BreadthError (BreadthRun N × BreadthDay N) := do
  let (shares, consecutive) := observe run.shares run.consecutive input.2
  let breadth1 ← measure shares consecutive 1 bands.breadth1
  let breadth5 ← measure shares consecutive 5 bands.breadth5
  let breadth20 ← measure shares consecutive 20 bands.breadth20
  let raw := rawState (rawAggregationRule (options.aggregationRuleId.getD .medianOfThree)) breadth1 breadth5 breadth20
  let hysteresis ← advanceBreadth run.history raw options.deteriorationMode
  .ok (⟨shares, consecutive, ⟨hysteresis.effectiveState, hysteresis.confirmationAfter⟩⟩,
    { date := input.1, observation := input.2, consecutiveValidSessions := consecutive, breadth1, breadth5, breadth20
      rawState := raw, effectiveState := if raw = none then none else hysteresis.effectiveState, hysteresis })

def calculateBreadthSeries (dates : List String) (observations : List (Option (DailyBreadthObservation N)))
    (bandsByHorizon : BreadthBandsByHorizon N) (aggregationOptions : BreadthAggregationOptions) :
    Except BreadthError (List (BreadthDay N)) :=
  if dates.length ≠ observations.length then .error .unalignedDates
  else if (dates.zip dates.tail).any fun (before, date) => decide (Json.codeUnitOrder date before) then
    .error .unchronologicalDates
  else emit (seriesStep bandsByHorizon aggregationOptions) ⟨[], 0, ⟨none, 0⟩⟩ (dates.zip observations)

end Series

end Breadth

end AiTrader.Market
