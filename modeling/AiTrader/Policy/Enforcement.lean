import AiTrader.Exclusivity.ClaimStore
import AiTrader.Market.Composition

/-! # Market-policy enforcement

The runtime rollout, the authorizations of an assignment and what they mean for its entries, and the evaluation of a
policy revision on the current composition. -/

namespace AiTrader.Policy

open Library Entry Market

/-- The runtime rollout; a missing row was never activated. -/
structure Rollout where
  enabled : Bool
  version : Nat
deriving DecidableEq

structure TradingAccountRow where
  id : Nat
  environment : Environment
deriving DecidableEq

/-- A row of `TradingAccountSubscription`. -/
structure AssignmentRow where
  (id tradingAccountId subscriptionId routingStrategyId : Nat)
deriving DecidableEq

structure SubscriptionRow where
  (id securityId : Nat)
deriving DecidableEq

inductive AuthorizationStatus where
  | authorized | revoked | invalidated
deriving DecidableEq

/-- A row of `AssignmentMarketPolicyEnforcementAuthorization` with its lapse resolution. -/
structure AuthorizationRow where
  (id accountSubscriptionId : Nat)
  status : AuthorizationStatus
  (authorityVersion authorizationFingerprint : String)
  (enrollmentGenerationId policyRevisionId : Nat)
  invalidationReasonCode : Option String
  lapseResolved : Bool
deriving DecidableEq

inductive GenerationStatus where
  | prepared | active | disabled
deriving DecidableEq

structure GenerationRow where
  (id accountSubscriptionId policyRevisionId : Nat)
  status : GenerationStatus
deriving DecidableEq

inductive DimensionRequirement where
  | required | ignored
deriving DecidableEq

structure DimensionRule where
  dimension : MarketRegimeDimension
  algorithmVersion : String
  requirement : DimensionRequirement
  allowedStates : List String
deriving DecidableEq

inductive RevisionStatus where
  | prepared | active | retired
deriving DecidableEq

structure RevisionRow where
  (id strategyId : Nat)
  status : RevisionStatus
  dimensionRules : List DimensionRule
deriving DecidableEq

/-- The configuration that decides whether entries are enforced, and the evidence they are enforced on. -/
structure PolicyContext where
  now : Int
  rollout : Option Rollout
  accounts : List TradingAccountRow
  assignments : List AssignmentRow
  subscriptions : List SubscriptionRow
  authorizations : List AuthorizationRow
  generations : List GenerationRow
  revisions : List RevisionRow
  compositions : List (MarketRegimeAssessment String)
deriving DecidableEq

inductive Disposition where
  | neverAuthorized | enforced | authorizationIneffective | lapsed | ownerRevoked | ownerOptedOut | notApplicableLive
deriving DecidableEq

/-- `NON_ENFORCED_DISPOSITIONS` -/
def nonEnforcedDispositions : List Disposition := [.neverAuthorized, .ownerRevoked, .ownerOptedOut, .notApplicableLive]

/-- A never-authorized assignment keeps existing behaviour, an explicit return is respected, everything else is enforced or
fails closed. -/
def deriveMarketPolicyEnforcementDisposition (environment : Environment) (latest : Option AuthorizationRow)
    (ineffectiveReasons : List String) : Disposition :=
  if environment ≠ .paper then .notApplicableLive
  else match latest with
    | none => .neverAuthorized
    | some authorization =>
      match authorization.status with
      | .revoked => .ownerRevoked
      | .invalidated => if authorization.lapseResolved then .ownerOptedOut else .lapsed
      | .authorized => if ineffectiveReasons = [] then .enforced else .authorizationIneffective

structure ResolvedIdentity where
  (tradingAccountId accountSubscriptionId : Nat)
  environment : Environment
  (strategyId subscriptionId securityId : Nat)
  securitySymbol : String
deriving DecidableEq

/-- `LockedMarketPolicyEnforcementResolution` -/
structure Resolution where
  disposition : Disposition
  reasons : List String
  authorization : Option AuthorizationRow
  identity : ResolvedIdentity
  boundRevision : Option RevisionRow
deriving DecidableEq

inductive ResolutionError where
  /-- The `HttpError` 404 of an unknown assignment. -/
  | notFound
  | assignmentAccountChanged
  | assignmentSecurityIdentityMissing

/-- The newest authorization of the assignment. -/
def PolicyContext.latestAuthorization (context : PolicyContext) (accountSubscriptionId : Nat) : Option AuthorizationRow :=
  latest (·.id) (context.authorizations.filter (·.accountSubscriptionId == accountSubscriptionId))

/-- `resolveLockedAssignmentMarketPolicyEnforcement`, under row locks that hold until the transaction ends; the checks of an
authorized row are a parameter. -/
def resolveLockedAssignmentMarketPolicyEnforcement
    (ineffectiveReasons : PolicyContext → AuthorizationRow → List String) (context : PolicyContext)
    (securities : List (String × Nat)) (accountSubscriptionId : Nat) : Except ResolutionError Resolution := do
  let some assignment := context.assignments.find? (·.id == accountSubscriptionId) | throw .notFound
  let some account := context.accounts.find? (·.id == assignment.tradingAccountId) | throw .assignmentAccountChanged
  let some subscription := context.subscriptions.find? (·.id == assignment.subscriptionId)
    | throw .assignmentSecurityIdentityMissing
  let some security := securities.find? (·.2 == subscription.securityId)
    | throw .assignmentSecurityIdentityMissing
  let identity : ResolvedIdentity :=
    { tradingAccountId := account.id
      accountSubscriptionId
      environment := account.environment
      strategyId := assignment.routingStrategyId
      subscriptionId := assignment.subscriptionId
      securityId := security.2
      securitySymbol := security.1 }
  if account.environment ≠ .paper then
    return ⟨.notApplicableLive, [], none, identity, none⟩
  let some authorization := context.latestAuthorization accountSubscriptionId
    | return ⟨.neverAuthorized, [], none, identity, none⟩
  if authorization.status ≠ .authorized then
    let disposition := deriveMarketPolicyEnforcementDisposition account.environment (some authorization) []
    let reasons :=
      if disposition = .lapsed then [authorization.invalidationReasonCode.getD "INVALIDATED"] else []
    return ⟨disposition, reasons, some authorization, identity, none⟩
  let generation := context.generations.find? fun row =>
    row.id == authorization.enrollmentGenerationId && row.accountSubscriptionId == accountSubscriptionId
  let reasons := ineffectiveReasons context authorization
  return {
    disposition := deriveMarketPolicyEnforcementDisposition account.environment (some authorization) reasons
    reasons
    authorization := some authorization
    identity
    boundRevision := generation.bind fun generation => context.revisions.find? (·.id == generation.policyRevisionId) }

inductive GateOutcome where
  | pass | blocked | insufficientEvidence | ignored
deriving DecidableEq

structure Gate where
  ordinal : Nat
  dimension : MarketRegimeDimension
  algorithmVersion : String
  requirement : DimensionRequirement
  outcome : GateOutcome
  observedState : Option String
  sourceHealth : Option SourceHealth
  sourceAssessmentId : Option Nat
  reasonCode : String
deriving DecidableEq

inductive EvaluatedOutcome where
  | allowed | blocked | insufficientEvidence
deriving DecidableEq

structure EvaluatorResult where
  gates : List Gate
  outcome : EvaluatedOutcome
  reasonCode : String
  validUntil : Option Int

/-- An evaluator may throw. -/
abbrev Evaluator := List DimensionRule → List ComposedMarketRegimeSource → Int → Except String EvaluatorResult

/-- `STRATEGY_MARKET_POLICY_DIMENSIONS` -/
def strategyMarketPolicyDimensions : List (MarketRegimeDimension × String) :=
  [(.trend, "TREND_V1"), (.volatility, "VOLATILITY_V1"), (.breadth, "BREADTH_V1"), (.participation, "PARTICIPATION_V1"),
    (.intradayStress, "INTRADAY_STRESS_V1")]

/-- The gate of one dimension. -/
def evaluateGate (rules : List DimensionRule) (sources : List ComposedMarketRegimeSource) (evaluatedAt : Int)
    (ordinal : Nat) (dimension : MarketRegimeDimension) (algorithmVersion : String) : Gate :=
  let source := sources.find? (·.dimension == dimension)
  let assessment := source.bind (·.source)
  let observedState := assessment.bind (·.effectiveState)
  match rules.find? (·.dimension == dimension) with
  | none =>
    ⟨ordinal, dimension, algorithmVersion, .required, .insufficientEvidence, none, none, none, "POLICY_RULE_MISSING"⟩
  | some rule =>
    let gate := fun outcome health reasonCode => Gate.mk ordinal rule.dimension rule.algorithmVersion rule.requirement
      outcome observedState health (assessment.map (·.id)) reasonCode
    match rule.requirement with
    | .ignored => gate .ignored (source.map (·.health)) "DIMENSION_IGNORED"
    | .required =>
      let expired := source.any (·.health == .available) &&
        (assessment.bind (·.validUntil)).any fun validUntil => decide (validUntil ≤ evaluatedAt)
      let health := if expired then some .expired else source.map (·.health)
      let reasonCode := if expired then "SOURCE_EXPIRED_AT_EVALUATION"
        else (source.bind (·.reasonCode)).getD "SOURCE_MISSING"
      let versioned := source.any (·.requiredAlgorithmVersion == rule.algorithmVersion)
      if versioned && assessment.any (·.status == .valid) && health == some .available && present observedState then
        if observedState.any rule.allowedStates.contains then gate .pass health "STATE_ALLOWED"
        else gate .blocked health "STATE_NOT_ALLOWED"
      else gate .insufficientEvidence health (if versioned then reasonCode else "ALGORITHM_MISMATCH")

/-- `evaluateStrategyMarketEligibility`: one gate for each dimension. -/
def evaluateStrategyMarketEligibility : Evaluator := fun rules sources evaluatedAt =>
  let gates := strategyMarketPolicyDimensions.zipIdx.map fun ((dimension, algorithmVersion), index) =>
    evaluateGate rules sources evaluatedAt (index + 1) dimension algorithmVersion
  let required := gates.filter (·.requirement == .required)
  let (outcome, reasonCode) :=
    if required.any (·.outcome == .insufficientEvidence) then
      (EvaluatedOutcome.insufficientEvidence, "REQUIRED_EVIDENCE_INSUFFICIENT")
    else if required.any (·.outcome == .blocked) then (.blocked, "REQUIRED_STATE_BLOCKED")
    else (.allowed, "ALL_REQUIRED_DIMENSIONS_ALLOWED")
  let expirations := (required.filter (·.outcome == .pass)).filterMap fun gate =>
    ((sources.find? (·.dimension == gate.dimension)).bind (·.source)).bind (·.validUntil)
  let validUntil := if expirations.length = required.length then expirations.min? else none
  .ok ⟨gates, outcome, reasonCode, validUntil⟩

structure MarketPolicyEvaluation where
  outcome : EvaluatedOutcome
  reasonCode : String
  validUntil : Option Int
  composition : Option (MarketRegimeAssessment String)
  gates : List Gate
deriving DecidableEq

/-- `evaluateMarketPolicyRevisionOnCurrentComposition`: missing, unbounded or expired evidence is never allowed. -/
def evaluateMarketPolicyRevisionOnCurrentComposition (evaluator : Evaluator)
    (compositions : List (MarketRegimeAssessment String)) (dimensionRules : List DimensionRule) (evaluatedAt : Int) :
    Except String MarketPolicyEvaluation :=
  match marketPolicyComposition compositions evaluatedAt with
  | none => .ok ⟨.insufficientEvidence, "NO_COMPOSITION", none, none, []⟩
  | some composition => do
    let result ← evaluator dimensionRules composition.sources evaluatedAt
    if result.gates.length ≠ 5 then throw "EVALUATOR_GATES_INCOMPLETE"
    let (outcome, reasonCode) :=
      if composition.sources.length ≠ 5 then (EvaluatedOutcome.insufficientEvidence, "COMPOSITION_INCOMPLETE")
      else (result.outcome, result.reasonCode)
    let (outcome, reasonCode) :=
      if outcome = .allowed ∧ ∀ validUntil, result.validUntil = some validUntil → validUntil ≤ evaluatedAt then
        (.insufficientEvidence, "REQUIRED_EVIDENCE_VALIDITY_UNBOUNDED")
      else (outcome, reasonCode)
    return ⟨outcome, reasonCode, if outcome = .allowed then result.validUntil else none, some composition, result.gates⟩

/-- An allowed evaluation rests on a composition observed before it and is valid beyond it. -/
theorem allowed_of_evaluated {evaluator : Evaluator} {compositions : List (MarketRegimeAssessment String)}
    {dimensionRules : List DimensionRule} {evaluatedAt : Int} {evaluation : MarketPolicyEvaluation}
    (evaluated : evaluateMarketPolicyRevisionOnCurrentComposition evaluator compositions dimensionRules evaluatedAt =
      .ok evaluation) (allowed : evaluation.outcome = .allowed) :
    ∃ composition validUntil, marketPolicyComposition compositions evaluatedAt = some composition ∧
      evaluation.composition = some composition ∧ evaluation.validUntil = some validUntil ∧ evaluatedAt < validUntil := by
  unfold evaluateMarketPolicyRevisionOnCurrentComposition at evaluated
  cases found : marketPolicyComposition compositions evaluatedAt with
  | none =>
    simp only [found] at evaluated
    cases evaluated
    cases allowed
  | some composition =>
    simp only [found] at evaluated
    cases answered : evaluator dimensionRules composition.sources evaluatedAt with
    | error message => simp [answered, bind, Except.bind] at evaluated
    | ok result =>
      simp only [answered, bind, Except.bind] at evaluated
      split at evaluated
      · cases evaluated
      · simp only [pure, Except.pure] at evaluated
        cases evaluated
        dsimp only at allowed ⊢
        generalize (if composition.sources.length ≠ 5 then _ else _ : EvaluatedOutcome × String) = complete at allowed ⊢
        by_cases expired : complete.1 = .allowed ∧ ∀ validUntil, result.validUntil = some validUntil → validUntil ≤ evaluatedAt
        · rw [if_pos expired] at allowed
          cases allowed
        · rw [if_neg expired] at allowed
          have bounded : ¬ ∀ validUntil, result.validUntil = some validUntil → validUntil ≤ evaluatedAt :=
            fun all => expired ⟨allowed, all⟩
          push Not at bounded
          obtain ⟨validUntil, known, later⟩ := bounded
          refine ⟨composition, validUntil, rfl, rfl, ?_, later⟩
          rw [if_neg expired, if_pos allowed, known]

end AiTrader.Policy
