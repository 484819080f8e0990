import Mathlib.Data.String.Basic
import AiTrader.Library.KeyOrder
import AiTrader.Policy.Enforcement

/-! # Eligibility on stored sources

The evaluation of policy rules on rows of any content, of which the first of each dimension counts, every field of a
source possibly absent. -/

namespace AiTrader.Policy.Eligibility

open Library Market

structure Rule where
  (dimension algorithmVersion : String)
  requirement : DimensionRequirement
  allowedStates : List String

/-- A row of `MarketRegimeAssessmentSource`. -/
structure Source where
  (dimension requiredAlgorithmVersion : String)
  sourceAssessmentId : Option Nat
  sourceStatus : Option DimensionAssessmentStatus
  sourceValidUntil : Option Int
  sourceEffectiveState : Option String
  health : SourceHealth
  reasonCode : Option String

structure Gate where
  ordinal : Nat
  (dimension algorithmVersion : String)
  requirement : DimensionRequirement
  outcome : GateOutcome
  observedState : Option String
  sourceHealth : Option SourceHealth
  sourceAssessmentId : Option Nat
  allowedStates : List String
  reasonCode : String

structure Result where
  gates : List Gate
  outcome : EvaluatedOutcome
  reasonCode : String
  validUntil : Option Int

/-- A row of `MarketRegimeAssessment` with its sources in the order of their ordinals. -/
structure Composition where
  id : Nat
  compositionVersion : String
  publicationStatus : PublicationStatus
  (targetAt observedAt : Int)
  sources : List Source

/-- The row that is stored of a gate. -/
structure AdmissionGate where
  gate : Gate
  sourceAssessmentId : Option Nat
  sourceValidUntil : Option Int

structure Evaluation where
  outcome : EvaluatedOutcome
  reasonCode : String
  validUntil : Option Int
  composition : Option Composition
  gates : List AdmissionGate

/-- `STRATEGY_MARKET_POLICY_DIMENSIONS` -/
def strategyMarketPolicyDimensions : List (String × String) :=
  [("TREND", "TREND_V1"), ("VOLATILITY", "VOLATILITY_V1"), ("BREADTH", "BREADTH_V1"), ("PARTICIPATION", "PARTICIPATION_V1"),
    ("INTRADAY_STRESS", "INTRADAY_STRESS_V1")]

def ruleOf (rules : List Rule) (dimension : String) : Option Rule := rules.find? (·.dimension == dimension)

def sourceOf (sources : List Source) (dimension : String) : Option Source := sources.find? (·.dimension == dimension)

def expired (source : Source) (evaluatedAt : Int) : Bool :=
  source.health == .available && source.sourceValidUntil.any (decide <| · ≤ evaluatedAt)

def currentHealth (source : Source) (evaluatedAt : Int) : SourceHealth :=
  if expired source evaluatedAt then .expired else source.health

/-- `Boolean` of an identifier and of a text. -/
def healthy (rule : Rule) (source : Source) (evaluatedAt : Int) : Bool :=
  source.requiredAlgorithmVersion == rule.algorithmVersion && source.sourceStatus == some .valid &&
    currentHealth source evaluatedAt == .available && source.sourceAssessmentId.any (· ≠ 0) &&
    present source.sourceEffectiveState

def permitted (rule : Rule) (source : Source) : Bool := source.sourceEffectiveState.any (byKey id rule.allowedStates).contains

section

variable (rules : List Rule)

def evaluateGate (sources : List Source) (evaluatedAt : Int) (ordinal : Nat)
    (dimension algorithmVersion : String) : Gate :=
  let source := sourceOf sources dimension
  match ruleOf rules dimension with
  | none =>
    { ordinal, dimension, algorithmVersion, requirement := .required, outcome := .insufficientEvidence
      observedState := none, sourceHealth := none, sourceAssessmentId := none, allowedStates := []
      reasonCode := "POLICY_RULE_MISSING" }
  | some rule =>
    let gate := fun outcome health reasonCode =>
      { ordinal, dimension := rule.dimension, algorithmVersion := rule.algorithmVersion, requirement := rule.requirement
        outcome, observedState := source.bind (·.sourceEffectiveState), sourceHealth := health
        sourceAssessmentId := source.bind (·.sourceAssessmentId), allowedStates := byKey id rule.allowedStates
        reasonCode : Gate }
    match rule.requirement, source with
    | .ignored, source => gate .ignored (source.map (·.health)) "DIMENSION_IGNORED"
    | .required, none => gate .insufficientEvidence none "ALGORITHM_MISMATCH"
    | .required, some source =>
      let health := some (currentHealth source evaluatedAt)
      if healthy rule source evaluatedAt then
        if permitted rule source then gate .pass health "STATE_ALLOWED" else gate .blocked health "STATE_NOT_ALLOWED"
      else if source.requiredAlgorithmVersion ≠ rule.algorithmVersion then gate .insufficientEvidence health "ALGORITHM_MISMATCH"
      else gate .insufficientEvidence health
        (if expired source evaluatedAt then "SOURCE_EXPIRED_AT_EVALUATION" else source.reasonCode.getD "SOURCE_MISSING")

def gates (sources : List Source) (evaluatedAt : Int) : List Gate :=
  strategyMarketPolicyDimensions.zipIdx.map fun ((dimension, algorithmVersion), index) =>
    evaluateGate rules sources evaluatedAt (index + 1) dimension algorithmVersion

def evaluateStrategyMarketEligibility (sources : List Source) (evaluatedAt : Int) : Result :=
  let gates := gates rules sources evaluatedAt
  let required := gates.filter (·.requirement == .required)
  let outcome :=
    if required.any (·.outcome == .insufficientEvidence) then EvaluatedOutcome.insufficientEvidence
    else if required.any (·.outcome == .blocked) then .blocked
    else .allowed
  let reasonCode :=
    match outcome with
    | .insufficientEvidence => "REQUIRED_EVIDENCE_INSUFFICIENT"
    | .blocked => "REQUIRED_STATE_BLOCKED"
    | .allowed => "ALL_REQUIRED_DIMENSIONS_ALLOWED"
  let expirations := (required.filter (·.outcome == .pass)).filterMap fun gate =>
    (sourceOf sources gate.dimension).bind (·.sourceValidUntil)
  let validUntil := if required.length ≠ 0 ∧ expirations.length = required.length then expirations.min? else none
  { gates, outcome, reasonCode, validUntil }

end

/-- The row `evaluateMarketPolicyRevisionOnCurrentComposition` chooses. -/
def currentComposition (compositions : List Composition) (evaluatedAt : Int) : Option Composition :=
  latest (fun row => toLex (row.targetAt, toLex (row.observedAt, row.id)))
    (compositions.filter fun row => row.compositionVersion == marketRegimeCompositionVersion &&
      row.publicationStatus == .succeeded && decide (row.observedAt ≤ evaluatedAt))

/-- A source is never cited under another version than the one of the gate. -/
def gateData (sources : List Source) (gate : Gate) : AdmissionGate :=
  let source := sourceOf sources gate.dimension
  { gate
    sourceAssessmentId :=
      if source.any (·.requiredAlgorithmVersion == gate.algorithmVersion) then gate.sourceAssessmentId else none
    sourceValidUntil := source.bind (·.sourceValidUntil) }

/-- Missing, incomplete, unbounded or expired evidence is never allowed. -/
def evaluateMarketPolicyRevisionOnCurrentComposition (evaluator : List Rule → List Source → Int → Result)
    (compositions : List Composition) (dimensionRules : List Rule) (evaluatedAt : Int) : Except String Evaluation :=
  match currentComposition compositions evaluatedAt with
  | none => .ok ⟨.insufficientEvidence, "NO_COMPOSITION", none, none, []⟩
  | some composition =>
    let result := evaluator dimensionRules composition.sources evaluatedAt
    if result.gates.length ≠ 5 then .error "EVALUATOR_GATES_INCOMPLETE"
    else
      let (outcome, reasonCode) :=
        if composition.sources.length ≠ 5 then (EvaluatedOutcome.insufficientEvidence, "COMPOSITION_INCOMPLETE")
        else (result.outcome, result.reasonCode)
      let (outcome, reasonCode) :=
        if outcome = .allowed ∧ result.validUntil.all (decide <| · ≤ evaluatedAt) then
          (.insufficientEvidence, "REQUIRED_EVIDENCE_VALIDITY_UNBOUNDED")
        else (outcome, reasonCode)
      .ok ⟨outcome, reasonCode, if outcome = .allowed then result.validUntil else none, some composition,
        result.gates.map (gateData composition.sources)⟩

section Support

/-- A source that carries a required rule until an instant. -/
structure Supports (rule : Rule) (source : Source) (validUntil : Int) : Prop where
  version : source.requiredAlgorithmVersion = rule.algorithmVersion
  valid : source.sourceStatus = some .valid
  available : source.health = .available
  assessed : ∃ assessment, source.sourceAssessmentId = some assessment ∧ assessment ≠ 0
  state : ∃ state ∈ rule.allowedStates, source.sourceEffectiveState = some state ∧ state ≠ ""
  bounded : source.sourceValidUntil = some validUntil

/-- Every dimension has a rule, the required ones are supported, until the earliest of their expiries. -/
structure AllowedUntil (rules : List Rule) (sources : List Source) (validUntil : Int) : Prop where
  ruled : ∀ definition ∈ strategyMarketPolicyDimensions, ∃ rule, ruleOf rules definition.1 = some rule
  supported : ∀ definition ∈ strategyMarketPolicyDimensions, ∀ rule, ruleOf rules definition.1 = some rule →
    rule.requirement = .required → ∃ source expiry, sourceOf sources definition.1 = some source ∧
      Supports rule source expiry ∧ validUntil ≤ expiry
  attained : ∃ definition ∈ strategyMarketPolicyDimensions, ∃ rule source, ruleOf rules definition.1 = some rule ∧
    rule.requirement = .required ∧ sourceOf sources definition.1 = some source ∧ Supports rule source validUntil

variable {rules : List Rule} {sources : List Source} {evaluatedAt : Int} {ordinal : Nat} {dimension algorithmVersion : String}
  {rule : Rule} {source : Source} {validUntil : Int}

/-- What a source must bring for the gate of a required rule to pass. -/
structure Passes (rule : Rule) (source : Source) (evaluatedAt : Int) : Prop where
  version : source.requiredAlgorithmVersion = rule.algorithmVersion
  valid : source.sourceStatus = some .valid
  available : source.health = .available
  assessed : ∃ assessment, source.sourceAssessmentId = some assessment ∧ assessment ≠ 0
  state : ∃ state ∈ rule.allowedStates, source.sourceEffectiveState = some state ∧ state ≠ ""
  unexpired : ∀ validUntil, source.sourceValidUntil = some validUntil → evaluatedAt < validUntil

theorem currentHealth_eq_available_iff : currentHealth source evaluatedAt = .available ↔
    source.health = .available ∧ ∀ validUntil, source.sourceValidUntil = some validUntil → evaluatedAt < validUntil := by
  unfold currentHealth expired
  by_cases available : source.health = .available
  · cases until_ : source.sourceValidUntil with
    | none => simp [available]
    | some validUntil => simp [available]
  · simp [available]

theorem permitted_iff : permitted rule source = true ↔ ∃ state ∈ rule.allowedStates, source.sourceEffectiveState = some state := by
  unfold permitted
  rw [Option.any_eq_true]
  simp only [List.contains_iff_mem, mem_byKey]
  constructor
  · rintro ⟨state, observed, allowed⟩
    exact ⟨state, allowed, observed⟩
  · rintro ⟨state, allowed, observed⟩
    exact ⟨state, observed, allowed⟩

theorem passes_iff : healthy rule source evaluatedAt = true ∧ permitted rule source = true ↔ Passes rule source evaluatedAt := by
  rw [permitted_iff]
  unfold healthy
  simp only [Bool.and_eq_true, beq_iff_eq, currentHealth_eq_available_iff, present, Option.any_eq_true, decide_eq_true_eq]
  constructor
  · rintro ⟨⟨⟨⟨⟨version, valid⟩, available, unexpired⟩, assessed⟩, observed, same, nonempty⟩, state, allowed, other⟩
    rw [same, Option.some.injEq] at other
    exact ⟨version, valid, available, assessed, ⟨state, allowed, by rw [same, other], other ▸ nonempty⟩, unexpired⟩
  · rintro ⟨version, valid, available, assessed, ⟨state, allowed, same, nonempty⟩, unexpired⟩
    exact ⟨⟨⟨⟨⟨version, valid⟩, available, unexpired⟩, assessed⟩, state, same, nonempty⟩, state, allowed, same⟩

theorem dimension_of_ruleOf (found : ruleOf rules dimension = some rule) : rule.dimension = dimension := by
  have same := List.find?_some found
  exact eq_of_beq same

theorem evaluateGate_dimension :
    (evaluateGate rules sources evaluatedAt ordinal dimension algorithmVersion).dimension = dimension := by
  unfold evaluateGate
  cases found : ruleOf rules dimension with
  | none => rfl
  | some rule =>
    have same := dimension_of_ruleOf found
    dsimp only
    split
    · exact same
    · exact same
    · split_ifs <;> exact same

theorem evaluateGate_required_iff :
    (evaluateGate rules sources evaluatedAt ordinal dimension algorithmVersion).requirement = .required ↔
      ∀ rule, ruleOf rules dimension = some rule → rule.requirement = .required := by
  unfold evaluateGate
  cases found : ruleOf rules dimension with
  | none => simp
  | some rule =>
    simp only [Option.some.injEq, forall_eq']
    split
    case h_1 ignored => rw [ignored]
    case h_2 required _ => rw [required]
    case h_3 required _ => split_ifs <;> rw [required]

theorem evaluateGate_pass_iff :
    (evaluateGate rules sources evaluatedAt ordinal dimension algorithmVersion).outcome = .pass ↔
      ∃ rule source, ruleOf rules dimension = some rule ∧ rule.requirement = .required ∧
        sourceOf sources dimension = some source ∧ Passes rule source evaluatedAt := by
  unfold evaluateGate
  cases found : ruleOf rules dimension with
  | none => simp
  | some rule =>
    simp only [Option.some.injEq, exists_and_left, exists_eq_left']
    split
    case h_1 ignored => simp [ignored]
    case h_2 required missing => simp [missing]
    case h_3 source required listed =>
      simp only [listed, Option.some.injEq, exists_eq_left', required, true_and, ← passes_iff]
      split_ifs <;> simp_all

/-- A gate of a required rule passes, blocks or lacks evidence. -/
theorem evaluateGate_outcome
    (required : (evaluateGate rules sources evaluatedAt ordinal dimension algorithmVersion).requirement = .required) :
    (evaluateGate rules sources evaluatedAt ordinal dimension algorithmVersion).outcome ≠ .ignored := by
  rw [evaluateGate_required_iff] at required
  unfold evaluateGate
  cases found : ruleOf rules dimension with
  | none => simp
  | some rule =>
    have needed := required rule found
    dsimp only
    split
    case h_1 ignored => rw [needed] at ignored; cases ignored
    case h_2 => simp
    case h_3 => split_ifs <;> simp

theorem mem_gates {gate : Gate} (member : gate ∈ gates rules sources evaluatedAt) :
    ∃ definition ∈ strategyMarketPolicyDimensions, ∃ ordinal,
      gate = evaluateGate rules sources evaluatedAt ordinal definition.1 definition.2 := by
  obtain ⟨⟨⟨dimension, algorithmVersion⟩, index⟩, listed, rfl⟩ := List.mem_map.mp member
  exact ⟨(dimension, algorithmVersion), List.fst_mem_of_mem_zipIdx listed, index + 1, rfl⟩

theorem gate_of_definition {definition : String × String} (member : definition ∈ strategyMarketPolicyDimensions) :
    ∃ ordinal, evaluateGate rules sources evaluatedAt ordinal definition.1 definition.2 ∈ gates rules sources evaluatedAt := by
  obtain ⟨index, bound, rfl⟩ := List.mem_iff_getElem.mp member
  refine ⟨index + 1, List.mem_map.mpr ⟨(strategyMarketPolicyDimensions[index], index), ?_, rfl⟩⟩
  exact List.mk_mem_zipIdx_iff_getElem?.mpr (List.getElem?_eq_getElem bound)

/-- The required gates of a policy. -/
def requiredGates (rules : List Rule) (sources : List Source) (evaluatedAt : Int) : List Gate :=
  (gates rules sources evaluatedAt).filter (·.requirement == .required)

def expirations (rules : List Rule) (sources : List Source) (evaluatedAt : Int) : List Int :=
  ((requiredGates rules sources evaluatedAt).filter (·.outcome == .pass)).filterMap fun gate =>
    (sourceOf sources gate.dimension).bind (·.sourceValidUntil)

theorem allowed_iff_pass : (evaluateStrategyMarketEligibility rules sources evaluatedAt).outcome = .allowed ↔
    ∀ gate ∈ requiredGates rules sources evaluatedAt, gate.outcome = .pass := by
  have outcome : (evaluateStrategyMarketEligibility rules sources evaluatedAt).outcome =
      if (requiredGates rules sources evaluatedAt).any (·.outcome == .insufficientEvidence) then .insufficientEvidence
      else if (requiredGates rules sources evaluatedAt).any (·.outcome == .blocked) then .blocked
      else .allowed := rfl
  rw [outcome]
  constructor
  · intro allowed gate member
    split_ifs at allowed with insufficient blocked
    rw [Bool.not_eq_true, List.any_eq_false] at insufficient blocked
    have notInsufficient := insufficient gate member
    have notBlocked := blocked gate member
    obtain ⟨listed, required⟩ := List.mem_filter.mp member
    obtain ⟨definition, -, ordinal, rfl⟩ := mem_gates listed
    have notIgnored := evaluateGate_outcome (eq_of_beq required)
    cases passed : (evaluateGate rules sources evaluatedAt ordinal definition.1 definition.2).outcome with
    | pass => rfl
    | blocked => rw [passed] at notBlocked; exact absurd rfl notBlocked
    | insufficientEvidence => rw [passed] at notInsufficient; exact absurd rfl notInsufficient
    | ignored => exact absurd passed notIgnored
  · intro pass
    rw [if_neg, if_neg]
    · intro blocked
      obtain ⟨gate, member, same⟩ := List.any_eq_true.mp blocked
      rw [pass gate member] at same
      cases same
    · intro insufficient
      obtain ⟨gate, member, same⟩ := List.any_eq_true.mp insufficient
      rw [pass gate member] at same
      cases same

theorem validUntil_eq : (evaluateStrategyMarketEligibility rules sources evaluatedAt).validUntil =
    if (requiredGates rules sources evaluatedAt).length ≠ 0 ∧
      (expirations rules sources evaluatedAt).length = (requiredGates rules sources evaluatedAt).length then
      (expirations rules sources evaluatedAt).min? else none := rfl

theorem mem_requiredGates {gate : Gate} (member : gate ∈ requiredGates rules sources evaluatedAt) :
    ∃ definition ∈ strategyMarketPolicyDimensions, ∃ ordinal,
      gate = evaluateGate rules sources evaluatedAt ordinal definition.1 definition.2 ∧
      ∀ rule, ruleOf rules definition.1 = some rule → rule.requirement = .required := by
  obtain ⟨listed, required⟩ := List.mem_filter.mp member
  obtain ⟨definition, known, ordinal, rfl⟩ := mem_gates listed
  exact ⟨definition, known, ordinal, rfl, evaluateGate_required_iff.mp (eq_of_beq required)⟩

theorem requiredGate_of_definition {definition : String × String} (member : definition ∈ strategyMarketPolicyDimensions)
    (required : ∀ rule, ruleOf rules definition.1 = some rule → rule.requirement = .required) :
    ∃ ordinal, evaluateGate rules sources evaluatedAt ordinal definition.1 definition.2 ∈
      requiredGates rules sources evaluatedAt := by
  obtain ⟨ordinal, listed⟩ := @gate_of_definition rules sources evaluatedAt definition member
  exact ⟨ordinal, List.mem_filter.mpr ⟨listed, beq_iff_eq.mpr (evaluateGate_required_iff.mpr required)⟩⟩

theorem Supports.passes (supports : Supports rule source validUntil) (later : evaluatedAt < validUntil) :
    Passes rule source evaluatedAt where
  version := supports.version
  valid := supports.valid
  available := supports.available
  assessed := supports.assessed
  state := supports.state
  unexpired := by
    intro other until_
    rw [supports.bounded, Option.some.injEq] at until_
    exact until_ ▸ later

theorem Passes.supports (passes : Passes rule source evaluatedAt) (bounded : source.sourceValidUntil = some validUntil) :
    Supports rule source validUntil where
  version := passes.version
  valid := passes.valid
  available := passes.available
  assessed := passes.assessed
  state := passes.state
  bounded := bounded

theorem allowedUntil_of_allowed (allowed : (evaluateStrategyMarketEligibility rules sources evaluatedAt).outcome = .allowed)
    (valid : (evaluateStrategyMarketEligibility rules sources evaluatedAt).validUntil = some validUntil) :
    AllowedUntil rules sources validUntil := by
  rw [allowed_iff_pass] at allowed
  rw [validUntil_eq] at valid
  split_ifs at valid with counted
  obtain ⟨member, least⟩ := List.min?_eq_some_iff.mp valid
  have passing : (requiredGates rules sources evaluatedAt).filter (·.outcome == .pass) =
      requiredGates rules sources evaluatedAt :=
    List.filter_eq_self.mpr fun gate listed => beq_iff_eq.mpr (allowed gate listed)
  unfold expirations at counted member least
  rw [passing] at counted member least
  have bounded := List.filterMap_length_eq_length.mp counted.2
  -- the gate of a dimension whose rule is required, or missing
  have passes : ∀ definition ∈ strategyMarketPolicyDimensions,
      (∀ rule, ruleOf rules definition.1 = some rule → rule.requirement = .required) →
        ∃ rule source expiry, ruleOf rules definition.1 = some rule ∧ sourceOf sources definition.1 = some source ∧
          Supports rule source expiry ∧ validUntil ≤ expiry := by
    intro definition known required
    obtain ⟨ordinal, listed⟩ := @requiredGate_of_definition rules sources evaluatedAt definition known required
    obtain ⟨rule, source, ruled, -, sourced, passes⟩ := evaluateGate_pass_iff.mp (allowed _ listed)
    obtain ⟨expiry, until_⟩ := Option.isSome_iff_exists.mp (bounded _ listed)
    have among := least expiry (List.mem_filterMap.mpr ⟨_, listed, until_⟩)
    rw [evaluateGate_dimension, sourced] at until_
    exact ⟨rule, source, expiry, ruled, sourced, passes.supports until_, among⟩
  refine ⟨?_, ?_, ?_⟩
  · intro definition known
    cases ruled : ruleOf rules definition.1 with
    | some rule => exact ⟨rule, rfl⟩
    | none =>
      obtain ⟨rule, -, -, found, -⟩ := passes definition known fun rule found => by rw [ruled] at found; cases found
      rw [ruled] at found
      cases found
  · intro definition known rule ruled required
    obtain ⟨other, source, expiry, found, sourced, supports, among⟩ := passes definition known fun other found => by
      rw [ruled] at found
      cases found
      exact required
    rw [ruled] at found
    cases found
    exact ⟨source, expiry, sourced, supports, among⟩
  · obtain ⟨gate, listed, until_⟩ := List.mem_filterMap.mp member
    obtain ⟨definition, known, ordinal, rfl, -⟩ := mem_requiredGates listed
    obtain ⟨rule, source, ruled, required, sourced, passes⟩ := evaluateGate_pass_iff.mp (allowed _ listed)
    rw [evaluateGate_dimension, sourced] at until_
    exact ⟨definition, known, rule, source, ruled, required, sourced, passes.supports until_⟩

/-- Supported rules are allowed, with the earliest expiry, at every time before it. -/
theorem allowed_of_allowedUntil (supported : AllowedUntil rules sources validUntil) (later : evaluatedAt < validUntil) :
    (evaluateStrategyMarketEligibility rules sources evaluatedAt).outcome = .allowed ∧
      (evaluateStrategyMarketEligibility rules sources evaluatedAt).validUntil = some validUntil := by
  -- a required gate passes with an expiry that is not earlier
  have passes : ∀ gate ∈ requiredGates rules sources evaluatedAt, gate.outcome = .pass ∧
      ∃ expiry, (sourceOf sources gate.dimension).bind (·.sourceValidUntil) = some expiry ∧ validUntil ≤ expiry := by
    intro gate listed
    obtain ⟨definition, known, ordinal, rfl, required⟩ := mem_requiredGates listed
    obtain ⟨rule, ruled⟩ := supported.ruled definition known
    obtain ⟨source, expiry, sourced, supports, among⟩ := supported.supported definition known rule ruled (required rule ruled)
    refine ⟨evaluateGate_pass_iff.mpr ⟨rule, source, ruled, required rule ruled, sourced,
      supports.passes (lt_of_lt_of_le later among)⟩, expiry, ?_, among⟩
    rw [evaluateGate_dimension, sourced]
    exact supports.bounded
  obtain ⟨definition, known, rule, source, ruled, required, sourced, supports⟩ := supported.attained
  obtain ⟨ordinal, listed⟩ := @requiredGate_of_definition rules sources evaluatedAt definition known fun other found => by
    rw [ruled] at found
    cases found
    exact required
  have passing : (requiredGates rules sources evaluatedAt).filter (·.outcome == .pass) =
      requiredGates rules sources evaluatedAt :=
    List.filter_eq_self.mpr fun gate member => beq_iff_eq.mpr (passes gate member).1
  have counted : (expirations rules sources evaluatedAt).length = (requiredGates rules sources evaluatedAt).length := by
    unfold expirations
    rw [passing]
    refine List.filterMap_length_eq_length.mpr fun gate member => ?_
    obtain ⟨-, expiry, until_, -⟩ := passes gate member
    rw [until_]
    rfl
  refine ⟨allowed_iff_pass.mpr fun gate member => (passes gate member).1, ?_⟩
  rw [validUntil_eq, if_pos ⟨Nat.pos_iff_ne_zero.mp (List.length_pos_of_mem listed), counted⟩]
  unfold expirations
  rw [passing]
  refine List.min?_eq_some_iff.mpr ⟨List.mem_filterMap.mpr ⟨_, listed, ?_⟩, ?_⟩
  · rw [evaluateGate_dimension, sourced]
    exact supports.bounded
  · intro other member
    obtain ⟨gate, listed, until_⟩ := List.mem_filterMap.mp member
    obtain ⟨-, expiry, same, among⟩ := passes gate listed
    rw [same, Option.some.injEq] at until_
    exact until_ ▸ among

end Support

section Outcome

variable {compositions others : List Composition} {rules narrower : List Rule} {sources : List Source} {evaluatedAt : Int}
  {composition smaller : Composition} {validUntil : Int} {dimension : String} {rule : Rule} {source : Source}

/-- The rules allow an entry at a time, with this validity. -/
def Allows (compositions : List Composition) (rules : List Rule) (evaluatedAt validUntil : Int) : Prop :=
  ∃ evaluation, evaluateMarketPolicyRevisionOnCurrentComposition evaluateStrategyMarketEligibility compositions rules
    evaluatedAt = .ok evaluation ∧ evaluation.outcome = .allowed ∧ evaluation.validUntil = some validUntil

def YieldsAllowed (compositions : List Composition) (rules : List Rule) (evaluatedAt : Int) : Prop :=
  ∃ evaluation, evaluateMarketPolicyRevisionOnCurrentComposition evaluateStrategyMarketEligibility compositions rules
    evaluatedAt = .ok evaluation ∧ evaluation.outcome = .allowed

/-- The outcome and the validity on a chosen composition, after both checks. -/
theorem evaluated_some (rules : List Rule) (chosen : currentComposition compositions evaluatedAt = some composition) :
    ∃ evaluation, evaluateMarketPolicyRevisionOnCurrentComposition evaluateStrategyMarketEligibility compositions rules
        evaluatedAt = .ok evaluation ∧
      ∀ expiry : Option Int, evaluation.outcome = .allowed ∧ evaluation.validUntil = expiry ↔
        composition.sources.length = 5 ∧
          (evaluateStrategyMarketEligibility rules composition.sources evaluatedAt).outcome = .allowed ∧
          (evaluateStrategyMarketEligibility rules composition.sources evaluatedAt).validUntil = expiry ∧
          ∃ validUntil, expiry = some validUntil ∧ evaluatedAt < validUntil := by
  unfold evaluateMarketPolicyRevisionOnCurrentComposition
  simp only [chosen, ne_eq]
  refine ⟨_, rfl, fun expiry => ?_⟩
  generalize evaluateStrategyMarketEligibility rules composition.sources evaluatedAt = result
  by_cases five : composition.sources.length = 5
  · rw [if_neg (not_not.mpr five)]
    by_cases unbounded : result.outcome = .allowed ∧ result.validUntil.all (decide <| · ≤ evaluatedAt) = true
    · rw [if_pos unbounded]
      simp only [reduceCtorEq, false_and, false_iff]
      rintro ⟨-, -, rfl, validUntil, known, later⟩
      rw [known, Option.all_some, decide_eq_true_eq] at unbounded
      omega
    · rw [if_neg unbounded]
      constructor
      · rintro ⟨allowed, same⟩
        rw [if_pos allowed] at same
        refine ⟨five, allowed, same, ?_⟩
        cases known : result.validUntil with
        | none => exact absurd ⟨allowed, by rw [known]; rfl⟩ unbounded
        | some validUntil =>
          refine ⟨validUntil, same.symm.trans known, Int.not_le.mp fun passed => unbounded ⟨allowed, ?_⟩⟩
          rw [known, Option.all_some, decide_eq_true_eq]
          exact passed
      · rintro ⟨-, allowed, same, -⟩
        exact ⟨allowed, by rw [if_pos allowed, same]⟩
  · simp [five]

/-- The evaluation allows until an instant exactly when a complete composition supports the rules until then. -/
theorem allows_iff : Allows compositions rules evaluatedAt validUntil ↔
    ∃ composition, currentComposition compositions evaluatedAt = some composition ∧ composition.sources.length = 5 ∧
      evaluatedAt < validUntil ∧ AllowedUntil rules composition.sources validUntil := by
  constructor
  · rintro ⟨evaluation, evaluated, allowed, valid⟩
    cases chosen : currentComposition compositions evaluatedAt with
    | none =>
      unfold evaluateMarketPolicyRevisionOnCurrentComposition at evaluated
      rw [chosen] at evaluated
      cases evaluated
      cases allowed
    | some composition =>
      obtain ⟨same, found, outcome⟩ := @evaluated_some compositions evaluatedAt composition rules chosen
      rw [found] at evaluated
      cases evaluated
      obtain ⟨five, resultAllowed, resultValid, validUntil, known, later⟩ := (outcome _).mp ⟨allowed, valid⟩
      cases known
      exact ⟨composition, rfl, five, later, allowedUntil_of_allowed resultAllowed resultValid⟩
  · rintro ⟨composition, chosen, five, later, supported⟩
    obtain ⟨evaluation, evaluated, outcome⟩ := @evaluated_some compositions evaluatedAt composition rules chosen
    obtain ⟨allowed, valid⟩ := allowed_of_allowedUntil supported later
    exact ⟨evaluation, evaluated, (outcome (some validUntil)).mpr ⟨five, allowed, valid, validUntil, rfl, later⟩⟩

theorem yieldsAllowed_iff : YieldsAllowed compositions rules evaluatedAt ↔
    ∃ validUntil, Allows compositions rules evaluatedAt validUntil := by
  constructor
  · rintro ⟨evaluation, evaluated, allowed⟩
    cases chosen : currentComposition compositions evaluatedAt with
    | none =>
      unfold evaluateMarketPolicyRevisionOnCurrentComposition at evaluated
      rw [chosen] at evaluated
      cases evaluated
      cases allowed
    | some composition =>
      obtain ⟨same, found, outcome⟩ := @evaluated_some compositions evaluatedAt composition rules chosen
      rw [found] at evaluated
      cases evaluated
      obtain ⟨-, -, -, validUntil, known, -⟩ := (outcome _).mp ⟨allowed, rfl⟩
      exact ⟨validUntil, evaluation, found, allowed, known⟩
  · rintro ⟨validUntil, evaluation, evaluated, allowed, -⟩
    exact ⟨evaluation, evaluated, allowed⟩

/-- Fewer allowed states, nothing else. -/
structure NarrowedRule (narrow rule : Rule) : Prop where
  dimension : narrow.dimension = rule.dimension
  version : narrow.algorithmVersion = rule.algorithmVersion
  requirement : narrow.requirement = rule.requirement
  states : ∀ state ∈ narrow.allowedStates, state ∈ rule.allowedStates

theorem ruleOf_cons (rule : Rule) (rules : List Rule) (dimension : String) :
    ruleOf (rule :: rules) dimension = if rule.dimension = dimension then some rule else ruleOf rules dimension := by
  unfold ruleOf
  by_cases named : rule.dimension = dimension
  · simp [named]
  · simp [named]

theorem ruleOf_narrowed (narrowed : List.Forall₂ NarrowedRule narrower rules) {dimension : String} :
    (ruleOf narrower dimension = none ∧ ruleOf rules dimension = none) ∨
      ∃ narrow rule, ruleOf narrower dimension = some narrow ∧ ruleOf rules dimension = some rule ∧
        NarrowedRule narrow rule := by
  induction narrowed with
  | nil => exact .inl ⟨rfl, rfl⟩
  | @cons narrow rule _ _ first _ hypothesis =>
    rw [ruleOf_cons, ruleOf_cons, first.dimension]
    by_cases named : rule.dimension = dimension
    · rw [if_pos named, if_pos named]
      exact .inr ⟨narrow, rule, rfl, rfl, first⟩
    · rw [if_neg named, if_neg named]
      exact hypothesis

theorem Supports.widen {narrow : Rule} (supports : Supports narrow source validUntil) (narrowed : NarrowedRule narrow rule) :
    Supports rule source validUntil where
  version := supports.version.trans narrowed.version
  valid := supports.valid
  available := supports.available
  assessed := supports.assessed
  state := by
    obtain ⟨state, allowed, observed⟩ := supports.state
    exact ⟨state, narrowed.states state allowed, observed⟩
  bounded := supports.bounded

theorem AllowedUntil.widen (allowed : AllowedUntil narrower sources validUntil)
    (narrowed : List.Forall₂ NarrowedRule narrower rules) : AllowedUntil rules sources validUntil where
  ruled := by
    intro definition known
    obtain ⟨narrow, found⟩ := allowed.ruled definition known
    rcases ruleOf_narrowed narrowed with ⟨missing, -⟩ | ⟨-, rule, -, ruled, -⟩
    · rw [missing] at found
      cases found
    · exact ⟨rule, ruled⟩
  supported := by
    intro definition known rule ruled required
    rcases ruleOf_narrowed narrowed with ⟨-, missing⟩ | ⟨narrow, other, found, same, one⟩
    · rw [missing] at ruled
      cases ruled
    · rw [ruled] at same
      cases same
      obtain ⟨source, expiry, sourced, supports, among⟩ :=
        allowed.supported definition known narrow found (one.requirement.trans required)
      exact ⟨source, expiry, sourced, supports.widen one, among⟩
  attained := by
    obtain ⟨definition, known, narrow, source, found, required, sourced, supports⟩ := allowed.attained
    rcases ruleOf_narrowed narrowed with ⟨missing, -⟩ | ⟨other, rule, same, ruled, one⟩
    · rw [missing] at found
      cases found
    · rw [found] at same
      cases same
      exact ⟨definition, known, rule, source, ruled, one.requirement.symm.trans required, sourced, supports.widen one⟩

/-- An allowed evaluation rests on supported rules, lasts until its validity, and is not obtained by taking sources or states
away. -/
theorem evaluateMarketPolicyRevision_sound (compositions : List Composition) (rules : List Rule) (evaluatedAt : Int) :
    (YieldsAllowed compositions rules evaluatedAt → ∃ composition validUntil,
        currentComposition compositions evaluatedAt = some composition ∧
        Allows compositions rules evaluatedAt validUntil ∧ evaluatedAt < validUntil ∧
        AllowedUntil rules composition.sources validUntil) ∧
      (∀ validUntil, Allows compositions rules evaluatedAt validUntil → ∀ later,
        currentComposition compositions later = currentComposition compositions evaluatedAt →
          (evaluatedAt ≤ later → later < validUntil → Allows compositions rules later validUntil) ∧
          (validUntil ≤ later → ¬ YieldsAllowed compositions rules later)) ∧
      ∀ composition smaller others narrower, currentComposition compositions evaluatedAt = some composition →
        composition.sources.length ≤ 5 ∨ smaller.sources = composition.sources →
          currentComposition others evaluatedAt = some smaller →
          smaller.sources.Sublist composition.sources → List.Forall₂ NarrowedRule narrower rules →
            ¬ YieldsAllowed compositions rules evaluatedAt → ¬ YieldsAllowed others narrower evaluatedAt := by
  refine ⟨?_, ?_, ?_⟩
  · intro allowed
    obtain ⟨validUntil, allows⟩ := yieldsAllowed_iff.mp allowed
    obtain ⟨composition, chosen, -, later, supported⟩ := allows_iff.mp allows
    exact ⟨composition, validUntil, chosen, allows, later, supported⟩
  · intro validUntil allows later same
    obtain ⟨composition, chosen, five, -, supported⟩ := allows_iff.mp allows
    refine ⟨fun _ before => allows_iff.mpr ⟨composition, same.trans chosen, five, before, supported⟩, ?_⟩
    intro passed again
    obtain ⟨other, allowsAgain⟩ := yieldsAllowed_iff.mp again
    obtain ⟨stillComposition, stillChosen, -, before, stillSupported⟩ := allows_iff.mp allowsAgain
    rw [same, chosen] at stillChosen
    cases stillChosen
    -- the earliest expiry is attained, and a later validity would not exceed it
    obtain ⟨definition, known, rule, source, ruled, required, sourced, supports⟩ := supported.attained
    obtain ⟨otherSource, expiry, otherSourced, otherSupports, among⟩ :=
      stillSupported.supported definition known rule ruled required
    rw [sourced] at otherSourced
    cases otherSourced
    have sameExpiry := otherSupports.bounded.symm.trans supports.bounded
    cases sameExpiry
    omega
  · intro composition smaller others narrower chosen atMost otherChosen sublist narrowed refused allowed
    obtain ⟨validUntil, allows⟩ := yieldsAllowed_iff.mp allowed
    obtain ⟨found, foundChosen, five, later, supported⟩ := allows_iff.mp allows
    rw [otherChosen] at foundChosen
    cases foundChosen
    have same : smaller.sources = composition.sources := atMost.elim (fun _ => sublist.eq_of_length_le (by omega)) id
    refine refused (yieldsAllowed_iff.mpr ⟨validUntil, allows_iff.mpr ⟨composition, chosen, ?_, later, ?_⟩⟩)
    · rw [← same, five]
    · rw [← same]
      exact supported.widen narrowed

end Outcome

def trendRequired : List Rule :=
  strategyMarketPolicyDimensions.map fun (dimension, algorithmVersion) =>
    { dimension, algorithmVersion, requirement := if dimension = "TREND" then .required else .ignored
      allowedStates := ["UP"] }

def upSource (dimension algorithmVersion : String) : Source where
  dimension := dimension
  requiredAlgorithmVersion := algorithmVersion
  sourceAssessmentId := some 1
  sourceStatus := some .valid
  sourceValidUntil := some 200
  sourceEffectiveState := some "UP"
  health := .available
  reasonCode := none

def fiveSources : List Source :=
  strategyMarketPolicyDimensions.map fun (dimension, algorithmVersion) => upSource dimension algorithmVersion

def upComposition (sources : List Source) : Composition where
  id := 1
  compositionVersion := marketRegimeCompositionVersion
  publicationStatus := .succeeded
  targetAt := 90
  observedAt := 100
  sources := sources

/-- Five sources that are valid until 200 allow until 200. -/
theorem evaluateMarketPolicyRevision_sound_five : YieldsAllowed [upComposition fiveSources] trendRequired 199 ∧
    ¬ YieldsAllowed [upComposition fiveSources] trendRequired 200 := by
  have lasts := (evaluateMarketPolicyRevision_sound [upComposition fiveSources] trendRequired 100).2.1 200 ⟨_, rfl, rfl, rfl⟩
  exact ⟨yieldsAllowed_iff.mpr ⟨200, (lasts 199 rfl).1 (by decide) (by decide)⟩, (lasts 200 rfl).2 (by decide)⟩

/-- A composition with two rows for the trend is incomplete; without the second row it is allowed. -/
theorem not_monotone_of_duplicate : ¬ ∀ (compositions : List Composition) (rules : List Rule) (evaluatedAt : Int)
    (composition smaller : Composition) (others : List Composition) (narrower : List Rule),
    currentComposition compositions evaluatedAt = some composition → currentComposition others evaluatedAt = some smaller →
      smaller.sources.Sublist composition.sources → List.Forall₂ NarrowedRule narrower rules →
        ¬ YieldsAllowed compositions rules evaluatedAt → ¬ YieldsAllowed others narrower evaluatedAt := by
  intro monotone
  have unchanged : List.Forall₂ NarrowedRule trendRequired trendRequired :=
    List.forall₂_same.mpr fun rule _ => ⟨rfl, rfl, rfl, fun _ allowed => allowed⟩
  refine monotone [upComposition (fiveSources ++ [upSource "TREND" "TREND_V1"])] trendRequired 100 _ _
    [upComposition fiveSources] trendRequired rfl rfl (List.sublist_append_left _ _) unchanged ?_ ?_
  · intro allowed
    obtain ⟨validUntil, allows⟩ := yieldsAllowed_iff.mp allowed
    obtain ⟨composition, chosen, five, -⟩ := allows_iff.mp allows
    cases chosen
    cases five
  · exact ⟨_, rfl, rfl⟩

end AiTrader.Policy.Eligibility
