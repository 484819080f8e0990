import AiTrader.Market.Breadth

/-! # The production breadth calculation

The frozen production calculator is a copy of the researched pipeline in one pass, and gives what the research gives. -/

namespace AiTrader.Market

open Library JsNumber

namespace BreadthV1

structure BreadthV1History where
  effectiveState : Option BreadthState
  (recoveryConfirmation mildDeteriorationConfirmation : Nat)

structure BreadthV1Transition where
  (previousEffectiveState rawState : Option BreadthState)
  (recoveryConfirmationBefore mildDeteriorationConfirmationBefore recoveryConfirmationAfter : Nat)
  mildDeteriorationConfirmationAfter : Nat
  effectiveState : Option BreadthState
  transitioned : Bool
  reason : String

/-- The transition of `advanceBreadthV1` for a continuation that is valid. -/
def breadthV1Transition (previous : BreadthV1History) (raw : Option BreadthState) : BreadthV1Transition :=
  let base : BreadthV1Transition :=
    { previousEffectiveState := previous.effectiveState, rawState := raw
      recoveryConfirmationBefore := previous.recoveryConfirmation
      mildDeteriorationConfirmationBefore := previous.mildDeteriorationConfirmation
      recoveryConfirmationAfter := previous.recoveryConfirmation
      mildDeteriorationConfirmationAfter := previous.mildDeteriorationConfirmation
      effectiveState := previous.effectiveState, transitioned := false, reason := "" }
  let hold (reason : String) : BreadthV1Transition :=
    { base with recoveryConfirmationAfter := 0, mildDeteriorationConfirmationAfter := 0, reason }
  let move (state : BreadthState) (reason : String) : BreadthV1Transition :=
    { base with
      effectiveState := some state, recoveryConfirmationAfter := 0, mildDeteriorationConfirmationAfter := 0
      transitioned := true, reason }
  match previous.effectiveState, raw with
  | _, none => { base with reason := "Unavailable evidence: pause both recovery and mild-deterioration confirmation." }
  | none, some raw =>
    { base with
      effectiveState := some raw, recoveryConfirmationAfter := 0, mildDeteriorationConfirmationAfter := 0
      reason := s!"Bootstrap from first valid raw state {raw.text}." }
  | some .positive, some .positive => hold "Raw POSITIVE confirms effective POSITIVE; hold and reset both counters."
  | some .positive, some .negative => move .mixed
      "Raw NEGATIVE is genuine deterioration, never mild; move immediately one level to MIXED and reset both counters."
  | some .positive, some .mixed =>
    if previous.mildDeteriorationConfirmation = 1 then move .mixed
      "Second consecutive raw MIXED confirms mild deterioration; move to MIXED and reset both counters."
    else
      { base with
        mildDeteriorationConfirmationAfter := 1
        reason := "First raw MIXED is ambiguous, not deterioration; hold POSITIVE with mild-deterioration confirmation 1/2." }
  | some .mixed, some .negative => move .negative
      "Raw NEGATIVE is genuine deterioration; move immediately to NEGATIVE and reset both counters."
  | some .mixed, some .mixed => hold "Raw MIXED confirms effective MIXED; hold and reset both counters."
  | some .mixed, some .positive =>
    if previous.recoveryConfirmation = 1 then move .positive
      "Second consecutive raw POSITIVE confirms recovery; move to POSITIVE and reset both counters."
    else
      { base with
        recoveryConfirmationAfter := 1
        reason := "First raw POSITIVE supports recovery; hold MIXED with recovery confirmation 1/2." }
  | some .negative, some .negative => hold "Raw NEGATIVE confirms effective NEGATIVE; hold and reset both counters."
  | some .negative, some raw =>
    if previous.recoveryConfirmation = 1 then move .mixed
      (s!"Second consecutive raw {raw.text} supports recovery; move exactly one level to MIXED (never further) and " ++
        "reset both counters.")
    else
      { base with
        recoveryConfirmationAfter := 1
        reason := s!"First raw {raw.text} supports recovery; hold NEGATIVE with recovery confirmation 1/2." }

def advanceBreadthV1 (previous : BreadthV1History) (raw : Option BreadthState) : Except BreadthError BreadthV1Transition :=
  if previous.recoveryConfirmation ∉ [0, 1] ∨ previous.mildDeteriorationConfirmation ∉ [0, 1] ∨
      previous.effectiveState = none ∧ (previous.recoveryConfirmation ≠ 0 ∨ previous.mildDeteriorationConfirmation ≠ 0) then
    .error .invalidContinuation
  else .ok (breadthV1Transition previous raw)

section Series

variable {N : Type} [JsNumber N]

/-- The bands of `BREADTH_V1_DEFINITION`. -/
def breadthV1Bands : BreadthBandsByHorizon N where
  breadth1 := ⟨number 0.44, number 0.54⟩
  breadth5 := ⟨number 0.46, number 0.52⟩
  breadth20 := ⟨number 0.47, number 0.51⟩

def classifyBreadthV1Band (value : N) (band : BreadthBand N) : Except BreadthError BreadthState :=
  if !isFinite value then .error .finiteShareRequired
  else if le value band.negativeMax then .ok .negative
  else if le band.positiveMin value then .ok .positive
  else .ok .mixed

def aggregateBreadthV1RawState (breadth1 breadth5 breadth20 : BreadthState) : BreadthState :=
  if breadth5 = breadth20 then breadth5
  else if breadth5 ≠ .mixed ∧ breadth20 ≠ .mixed then .mixed
  else
    let directional := if breadth5 = .mixed then breadth20 else breadth5
    if directional = .positive then (if breadth1 = .positive then .positive else .mixed)
    else if breadth1 = .negative then .negative
    else .mixed

structure BreadthV1Day (N : Type) where
  date : String
  observation : Option (DailyBreadthObservation N)
  consecutiveValidSessions : Nat
  breadth1 : Option (BreadthMeasurement N)
  breadth5 : Option (BreadthMeasurement N)
  breadth20 : Option (BreadthMeasurement N)
  (rawState effectiveState : Option BreadthState)
  hysteresis : BreadthV1Transition

/-- The variables of the loop of `calculateBreadthV1Series`. -/
structure BreadthV1Run (N : Type) where
  shares : List (Option N)
  consecutive : Nat
  history : BreadthV1History

def measure (shares : List (Option N)) (consecutive period : Nat) (band : BreadthBand N) :
    Except BreadthError (Option (BreadthMeasurement N)) :=
  if consecutive < period then .ok none
  else do
    let value := meanShare (shares.rtake period)
    let state ← classifyBreadthV1Band value band
    .ok (some ⟨value, state⟩)

/-- The shares and the number of consecutive valid sessions with one more observation. -/
def observe (shares : List (Option N)) (consecutive : Nat) (observation : Option (DailyBreadthObservation N)) :
    List (Option N) × Nat :=
  match observation with
  | some observation =>
    if observation.status = .valid then ((shares ++ [observation.advanceShare]).rtake 20, consecutive + 1) else ([], 0)
  | none => ([], 0)

/-- The raw state of a day whose three horizons are measured. -/
def rawState (breadth1 breadth5 breadth20 : Option (BreadthMeasurement N)) : Option BreadthState :=
  match breadth1, breadth5, breadth20 with
  | some breadth1, some breadth5, some breadth20 =>
    some (aggregateBreadthV1RawState breadth1.state breadth5.state breadth20.state)
  | _, _, _ => none

/-- One element of the map of `calculateBreadthV1Series`. -/
def seriesStep (run : BreadthV1Run N) (input : String × Option (DailyBreadthObservation N)) :
    Except BreadthError (BreadthV1Run N × BreadthV1Day N) := do
  let (shares, consecutive) := observe run.shares run.consecutive input.2
  let breadth1 ← measure shares consecutive 1 breadthV1Bands.breadth1
  let breadth5 ← measure shares consecutive 5 breadthV1Bands.breadth5
  let breadth20 ← measure shares consecutive 20 breadthV1Bands.breadth20
  let raw := rawState breadth1 breadth5 breadth20
  let hysteresis ← advanceBreadthV1 run.history raw
  .ok (⟨shares, consecutive, ⟨hysteresis.effectiveState, hysteresis.recoveryConfirmationAfter,
      hysteresis.mildDeteriorationConfirmationAfter⟩⟩,
    { date := input.1, observation := input.2, consecutiveValidSessions := consecutive, breadth1, breadth5, breadth20
      rawState := raw, effectiveState := if raw = none then none else hysteresis.effectiveState, hysteresis })

def calculateBreadthV1Series (dates : List String) (observations : List (Option (DailyBreadthObservation N))) :
    Except BreadthError (List (BreadthV1Day N)) :=
  if dates.length ≠ observations.length then .error .unalignedDates
  else if (dates.zip dates.tail).any fun (before, date) => decide (Json.codeUnitOrder date before) then
    .error .unchronologicalDates
  else emit seriesStep ⟨[], 0, ⟨none, 0, 0⟩⟩ (dates.zip observations)

end Series

section Research

variable {N : Type} [JsNumber N]

/-- A transition of the research as one of production. -/
def ofResearch (transition : Breadth.MildDeteriorationTransition) : BreadthV1Transition where
  previousEffectiveState := transition.previousEffectiveState
  rawState := transition.rawState
  recoveryConfirmationBefore := transition.recoveryConfirmationBefore
  mildDeteriorationConfirmationBefore := transition.mildDeteriorationConfirmationBefore
  recoveryConfirmationAfter := transition.recoveryConfirmationAfter
  mildDeteriorationConfirmationAfter := transition.mildDeteriorationConfirmationAfter
  effectiveState := transition.effectiveState
  transitioned := transition.transitioned
  reason := transition.reason

/-- A day of the series with the effective state and the transition of the replay. -/
def researchedDay (day : Breadth.BreadthDay N) (mild : Breadth.MildDeteriorationDay) : BreadthV1Day N where
  date := day.date
  observation := day.observation
  consecutiveValidSessions := day.consecutiveValidSessions
  breadth1 := day.breadth1
  breadth5 := day.breadth5
  breadth20 := day.breadth20
  rawState := day.rawState
  effectiveState := mild.effectiveState
  hysteresis := ofResearch mild.hysteresis

/-- The series of the structural candidate with the mild deterioration replayed over its raw states. -/
def researchedSeries (deteriorationMode : Option Breadth.DeteriorationMode) (dates : List String)
    (observations : List (Option (DailyBreadthObservation N))) : Except BreadthError (List (BreadthV1Day N)) := do
  let days ← Breadth.calculateBreadthSeries dates observations Breadth.candidateStructuralV3Bands
    ⟨some .structuralV3, deteriorationMode⟩
  let mild ← Breadth.applyMildDeteriorationConfirmation (days.map (·.rawState))
  .ok (List.zipWith researchedDay days mild)

end Research

section Refinement

variable {N : Type} [JsNumber N] {shares : List (Option N)} {consecutive period : Nat} {band : BreadthBand N}

/-- The literals of the bands are ordered as numbers, as they are as decimals. -/
def OrderedBands (N : Type) [JsNumber N] : Prop :=
  ∀ band ∈ [(breadthV1Bands (N := N)).breadth1, breadthV1Bands.breadth5, breadthV1Bands.breadth20],
    lt band.negativeMax band.positiveMin = true

/-- The check of the band is all that the two classifiers differ in. -/
theorem classify_eq {value : N} (ordered : lt band.negativeMax band.positiveMin = true) :
    classifyBreadthV1Band value band = Breadth.classifyBreadthBand value band := by
  unfold classifyBreadthV1Band Breadth.classifyBreadthBand
  simp [ordered]

theorem measure_eq (ordered : lt band.negativeMax band.positiveMin = true) :
    measure shares consecutive period band = Breadth.measure shares consecutive period band := by
  unfold measure Breadth.measure
  simp only [classify_eq ordered]

/-- A continuation that the research's own hysteresis accepts. -/
def BreadthContinues (history : Breadth.BreadthHistory) : Prop :=
  history.confirmation ≤ 1 ∧ (history.effectiveState = none → history.confirmation = 0)

/-- A continuation that the mild deterioration accepts. -/
def MildContinues (history : Breadth.MildDeteriorationHistory) : Prop :=
  history.recoveryConfirmation ≤ 1 ∧ history.mildDeteriorationConfirmation ≤ 1 ∧
    (history.effectiveState = none → history.recoveryConfirmation = 0 ∧ history.mildDeteriorationConfirmation = 0)

theorem advanceBreadth_continues {history : Breadth.BreadthHistory} (continues : BreadthContinues history)
    (raw : Option BreadthState) (mode : Option Breadth.DeteriorationMode) :
    ∃ hysteresis, Breadth.advanceBreadth history raw mode = .ok hysteresis ∧
      BreadthContinues ⟨hysteresis.effectiveState, hysteresis.confirmationAfter⟩ := by
  obtain ⟨bounded, unset⟩ := continues
  refine ⟨Breadth.breadthTransition (mode.getD .immediateToRaw) history raw, ?_, ?_⟩
  · unfold Breadth.advanceBreadth
    rw [if_neg]
    rintro (outside | ⟨none, counted⟩)
    · simp only [List.mem_cons, List.not_mem_nil, or_false] at outside
      omega
    · exact counted (unset none)
  · obtain ⟨effectiveState, confirmation⟩ := history
    cases raw with
    | none => exact ⟨bounded, unset⟩
    | some raw =>
      cases effectiveState with
      | none => exact ⟨Nat.zero_le 1, fun none => absurd none (Option.some_ne_none raw)⟩
      | some before =>
        simp only [Breadth.breadthTransition]
        split_ifs
        · exact ⟨Nat.zero_le 1, fun _ => rfl⟩
        · exact ⟨Nat.zero_le 1, fun _ => rfl⟩
        · exact ⟨Nat.zero_le 1, fun _ => rfl⟩
        · exact ⟨Nat.le_refl 1, fun none => absurd none (Option.some_ne_none before)⟩

/-- The transition of production is that of the replay. -/
theorem transition_eq (history : Breadth.MildDeteriorationHistory) (raw : Option BreadthState) :
    breadthV1Transition
        ⟨history.effectiveState, history.recoveryConfirmation, history.mildDeteriorationConfirmation⟩ raw =
      ofResearch (Breadth.mildDeteriorationTransition history raw) := by
  obtain ⟨effectiveState, recoveryConfirmation, mildDeteriorationConfirmation⟩ := history
  cases raw with
  | none => cases effectiveState <;> rfl
  | some raw =>
    cases effectiveState with
    | none => rfl
    | some before =>
      cases before <;> cases raw <;> simp only [breadthV1Transition, Breadth.mildDeteriorationTransition] <;>
        first | rfl | (split_ifs <;> rfl)

variable {history : Breadth.MildDeteriorationHistory}

theorem mildTransition_continues (continues : MildContinues history) (raw : Option BreadthState) :
    MildContinues ⟨(Breadth.mildDeteriorationTransition history raw).effectiveState,
      (Breadth.mildDeteriorationTransition history raw).recoveryConfirmationAfter,
      (Breadth.mildDeteriorationTransition history raw).mildDeteriorationConfirmationAfter⟩ := by
  obtain ⟨effectiveState, recoveryConfirmation, mildDeteriorationConfirmation⟩ := history
  obtain ⟨recovering, mild, unset⟩ := continues
  simp only at recovering mild unset
  cases raw with
  | none => cases effectiveState <;> exact ⟨recovering, mild, unset⟩
  | some raw =>
    cases effectiveState with
    | none => exact ⟨Nat.zero_le 1, Nat.zero_le 1, fun _ => ⟨rfl, rfl⟩⟩
    | some before =>
      cases before <;> cases raw <;> simp only [Breadth.mildDeteriorationTransition] <;> try split_ifs
      all_goals simp [MildContinues]
      all_goals assumption

theorem advanceMild_continues (continues : MildContinues history) (raw : Option BreadthState) :
    Breadth.advanceBreadthMildDeteriorationConfirmation history raw =
      .ok (Breadth.mildDeteriorationTransition history raw) := by
  obtain ⟨recovering, mild, unset⟩ := continues
  unfold Breadth.advanceBreadthMildDeteriorationConfirmation
  rw [if_neg]
  simp only [List.mem_cons, List.not_mem_nil, or_false]
  rintro (outside | outside | ⟨none, counted⟩)
  · omega
  · omega
  · have := unset none
    omega

theorem advanceV1_continues (continues : MildContinues history) (raw : Option BreadthState) :
    advanceBreadthV1 ⟨history.effectiveState, history.recoveryConfirmation, history.mildDeteriorationConfirmation⟩ raw =
      .ok (ofResearch (Breadth.mildDeteriorationTransition history raw)) := by
  have accepted := advanceMild_continues continues raw
  unfold Breadth.advanceBreadthMildDeteriorationConfirmation at accepted
  split_ifs at accepted with refused
  unfold advanceBreadthV1
  rw [if_neg refused, transition_eq]

/-- The variables of the one pass against those of the two. -/
structure Related (run : BreadthV1Run N) (one : Breadth.BreadthRun N) (two : Breadth.MildDeteriorationHistory) : Prop where
  shares : run.shares = one.shares
  consecutive : run.consecutive = one.consecutive
  history : run.history = ⟨two.effectiveState, two.recoveryConfirmation, two.mildDeteriorationConfirmation⟩
  continues : BreadthContinues one.history
  mild : MildContinues two

omit [JsNumber N] in
theorem related_initial : Related (N := N) ⟨[], 0, ⟨none, 0, 0⟩⟩ ⟨[], 0, ⟨none, 0⟩⟩ ⟨none, 0, 0⟩ where
  shares := rfl
  consecutive := rfl
  history := rfl
  continues := ⟨Nat.zero_le 1, fun _ => rfl⟩
  mild := ⟨Nat.zero_le 1, Nat.zero_le 1, fun _ => ⟨rfl, rfl⟩⟩

/-- One day of production is one day of the series and one of the replay. -/
theorem step_simulates (ordered : OrderedBands N) (mode : Option Breadth.DeteriorationMode) (run : BreadthV1Run N)
    (one : Breadth.BreadthRun N) (two : Breadth.MildDeteriorationHistory)
    (input : String × Option (DailyBreadthObservation N)) (related : Related run one two) :
    (∃ error, seriesStep run input = .error error ∧
      Breadth.seriesStep Breadth.candidateStructuralV3Bands ⟨some .structuralV3, mode⟩ one input = .error error) ∨
    ∃ next one' two' day mild,
      Breadth.seriesStep Breadth.candidateStructuralV3Bands ⟨some .structuralV3, mode⟩ one input = .ok (one', day) ∧
      Breadth.mildDeteriorationStep two day.rawState = .ok (two', mild) ∧
      seriesStep run input = .ok (next, researchedDay day mild) ∧ Related next one' two' := by
  obtain ⟨shares, consecutive, history⟩ := run
  obtain ⟨same, counted, continued, continues, mild⟩ := related
  simp only at same counted continued
  subst same counted continued
  unfold seriesStep Breadth.seriesStep
  simp only [show observe one.shares one.consecutive input.2 = Breadth.observe one.shares one.consecutive input.2 from rfl,
    show Breadth.candidateStructuralV3Bands (N := N) = breadthV1Bands from rfl]
  rw [measure_eq (ordered _ (by simp)), measure_eq (ordered _ (by simp)), measure_eq (ordered _ (by simp))]
  cases Breadth.measure (Breadth.observe one.shares one.consecutive input.2).1
      (Breadth.observe one.shares one.consecutive input.2).2 1 breadthV1Bands.breadth1 with
  | error error => exact .inl ⟨error, rfl, rfl⟩
  | ok breadth1 =>
    cases Breadth.measure (Breadth.observe one.shares one.consecutive input.2).1
        (Breadth.observe one.shares one.consecutive input.2).2 5 breadthV1Bands.breadth5 with
    | error error => exact .inl ⟨error, rfl, rfl⟩
    | ok breadth5 =>
      cases Breadth.measure (Breadth.observe one.shares one.consecutive input.2).1
          (Breadth.observe one.shares one.consecutive input.2).2 20 breadthV1Bands.breadth20 with
      | error error => exact .inl ⟨error, rfl, rfl⟩
      | ok breadth20 =>
        right
        obtain ⟨hysteresis, advanced, continuesAfter⟩ :=
          advanceBreadth_continues continues (rawState breadth1 breadth5 breadth20) mode
        have sameRaw : Breadth.rawState (Breadth.rawAggregationRule .structuralV3) breadth1 breadth5 breadth20 =
            rawState breadth1 breadth5 breadth20 := rfl
        let raw := rawState breadth1 breadth5 breadth20
        let replayed := Breadth.mildDeteriorationTransition two raw
        let observed := Breadth.observe one.shares one.consecutive input.2
        let day : Breadth.BreadthDay N :=
          { date := input.1, observation := input.2, consecutiveValidSessions := observed.2, breadth1, breadth5, breadth20
            rawState := raw, effectiveState := if raw = none then none else hysteresis.effectiveState, hysteresis }
        refine ⟨⟨observed.1, observed.2, ⟨replayed.effectiveState, replayed.recoveryConfirmationAfter,
            replayed.mildDeteriorationConfirmationAfter⟩⟩,
          ⟨observed.1, observed.2, ⟨hysteresis.effectiveState, hysteresis.confirmationAfter⟩⟩,
          ⟨replayed.effectiveState, replayed.recoveryConfirmationAfter, replayed.mildDeteriorationConfirmationAfter⟩, day,
          ⟨if raw = none then none else replayed.effectiveState, replayed⟩, ?_, ?_, ?_, ?_⟩
        · simp only [bind, Except.bind, Option.getD_some, sameRaw, advanced]
          rfl
        · simp only [Breadth.mildDeteriorationStep, bind, Except.bind, advanceMild_continues mild]
          rfl
        · simp only [bind, Except.bind, advanceV1_continues mild]
          rfl
        · exact ⟨rfl, rfl, rfl, continuesAfter, mildTransition_continues mild raw⟩

/-- Production gives what the research gives, errors included. -/
theorem calculateBreadthV1Series_eq (ordered : OrderedBands N) (mode : Option Breadth.DeteriorationMode) (dates : List String)
    (observations : List (Option (DailyBreadthObservation N))) :
    calculateBreadthV1Series dates observations = researchedSeries mode dates observations := by
  unfold calculateBreadthV1Series researchedSeries Breadth.calculateBreadthSeries Breadth.applyMildDeteriorationConfirmation
  split_ifs
  · rfl
  · rfl
  · rw [emit_eq_composed (step_simulates ordered mode) related_initial]
    cases emit (Breadth.seriesStep Breadth.candidateStructuralV3Bands ⟨some .structuralV3, mode⟩) ⟨[], 0, ⟨none, 0⟩⟩
        (dates.zip observations) with
    | error error => rfl
    | ok days =>
      cases replayed : emit Breadth.mildDeteriorationStep ⟨none, 0, 0⟩ (days.map (·.rawState)) with
      | error error => simp only [bind, Except.bind, replayed]
      | ok mild => simp only [bind, Except.bind, replayed]

end Refinement

section Exact

local instance : JsNumber ℚ := exactNumber

/-- Three of four directional stocks advance. -/
def advancingObservation : DailyBreadthObservation ℚ :=
  ⟨.valid, 5, 5, 5, 5, 0, 3, 1, 1, 4, some (3 / 4), some (1 / 2)⟩

def januaryDates : List String := (List.range 22).map fun day => "2026-01-" ++ toString (10 + day)

/-- After twenty sessions there is a raw state; the day without evidence has none. -/
theorem calculateBreadthV1Series_eq_exact : OrderedBands ℚ ∧
    (calculateBreadthV1Series januaryDates (none :: List.replicate 21 (some advancingObservation))).toOption.map
      (List.map (·.rawState)) = some (List.replicate 20 none ++ List.replicate 2 (some .positive)) ∧
    calculateBreadthV1Series januaryDates (none :: List.replicate 21 (some advancingObservation)) =
      researchedSeries (some .oneLevelPerAssessment) januaryDates (none :: List.replicate 21 (some advancingObservation)) := by
  have ordered : OrderedBands ℚ := by
    unfold OrderedBands
    decide +kernel
  exact ⟨ordered, by decide +kernel, calculateBreadthV1Series_eq ordered _ _ _⟩

end Exact

end BreadthV1

end AiTrader.Market
