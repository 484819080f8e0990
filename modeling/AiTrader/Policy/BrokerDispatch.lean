import AiTrader.Library.Crew
import AiTrader.Policy.EntryAdmission

/-! # Broker-time enforcement

An obligated PAPER entry consumes an ALLOWED decision, an un-obligated one records that it is not enforced. Statements
commit one after the other, with other writers between any two. -/

namespace AiTrader.Policy

open Library Entry Exclusivity Market Program

section Rows

inductive BrokerDispatchOutcome where
  | allowed | blocked | insufficientEvidence | authorizationRevoked | authorizationInvalidated
  | authorizationSuperseded | authorizationIneffective | policyRevisionSuperseded | enrollmentGenerationInactive
  | entryIdentityMismatch | legacyUnobligatedQuarantined | technicalFailure
deriving DecidableEq

def EvaluatedOutcome.dispatch : EvaluatedOutcome → BrokerDispatchOutcome
  | .allowed => .allowed
  | .blocked => .blocked
  | .insufficientEvidence => .insufficientEvidence

/-- The columns of `OrderIntent` that the guard reads. -/
structure DispatchIntentRow where
  id : Nat
  (tradingAccountId accountSubscriptionId : Option Nat)
  clientOrderId : Option String
  (symbol side : String)
  status : OrderStatus
deriving DecidableEq

/-- What a decision mirrors of its frozen obligation. -/
structure FrozenAuthority where
  identity : ResolvedIdentity
  (policyRevisionId enrollmentGenerationId authorizationId : Nat)
  (authorizationFingerprint authorityVersion : String)
deriving DecidableEq

def Obligation.authority (obligation : Obligation) : FrozenAuthority where
  identity := obligation.identity
  policyRevisionId := obligation.policyRevisionId
  enrollmentGenerationId := obligation.enrollmentGenerationId
  authorizationId := obligation.authorizationId
  authorizationFingerprint := obligation.authorizationFingerprint
  authorityVersion := obligation.authorityVersion

/-- A row of `MarketPolicyBrokerDispatchDecision` with its gates. -/
structure DispatchDecision where
  (id orderIntentId : Nat)
  obligationId : Option Nat
  dispatchSequence : Nat
  clientOrderId : String
  (tradingAccountId accountSubscriptionId : Nat)
  authority : Option FrozenAuthority
  authorizationStatus : Option AuthorizationStatus
  rollout : Rollout
  evaluatedAt : Int
  (validUntil dispatchExpiresAt : Option Int)
  composition : Option (MarketRegimeAssessment String)
  gates : List Gate
  outcome : BrokerDispatchOutcome
  reasonCode : String
deriving DecidableEq

/-- A row of `MarketPolicyBrokerDispatchConsumption`. -/
structure DispatchConsumption where
  (id decisionId orderIntentId : Nat)
  clientOrderId : String
  consumedAt : Int
deriving DecidableEq

/-- Why an entry is dispatched without enforcement. -/
inductive UnenforcedBasis where
  | runtimeInactive | noAssignment | neverAuthorized | ownerRevoked | ownerOptedOut
deriving DecidableEq

/-- A row of `MarketPolicyBrokerUnenforcedDispatch`. -/
structure UnenforcedDispatch where
  (id orderIntentId : Nat)
  clientOrderId : String
  tradingAccountId : Nat
  accountSubscriptionId : Option Nat
  securityId : Nat
  securitySymbol : String
  basis : UnenforcedBasis
  latestAuthorizationId : Option Nat
  latestAuthorizationStatus : Option AuthorizationStatus
  rollout : Rollout
  authorizedAt : Int
deriving DecidableEq

/-- What one attempt did. A consumption notes how many decisions the check saw and how many were stored when it committed, an
un-enforced dispatch its context. -/
inductive DispatchEvent where
  | consumed (call : Nat) (consumption : DispatchConsumption) (visible stored : Nat)
  | unenforced (call : Nat) (dispatch : UnenforcedDispatch) (context : PolicyContext)
  /-- The reply to the record has reached the attempt. -/
  | acknowledged (call orderIntentId : Nat)
  | adapterInvocationStarted (call orderIntentId : Nat)
  | posted (call orderIntentId : Nat)
deriving DecidableEq

/-- The attempt of an event. -/
def DispatchEvent.call : DispatchEvent → Nat
  | .consumed call _ _ _ => call
  | .unenforced call _ _ => call
  | .acknowledged call _ => call
  | .adapterInvocationStarted call _ => call
  | .posted call _ => call

/-- The intent whose dispatch record an event is. -/
def DispatchEvent.record : DispatchEvent → Option Nat
  | .consumed _ consumption _ _ => some consumption.orderIntentId
  | .unenforced _ dispatch _ => some dispatch.orderIntentId
  | _ => none

structure DispatchStore where
  context : PolicyContext
  securities : List (String × Nat)
  intents : List DispatchIntentRow
  claims : List ClaimRow
  obligations : List Obligation
  decisions : List DispatchDecision
  consumptions : List DispatchConsumption
  unenforced : List UnenforcedDispatch
  /-- No statement reads this history. -/
  history : List DispatchEvent
deriving DecidableEq

namespace DispatchStore

variable (store : DispatchStore)

section

variable (orderIntentId : Nat)

def intent : Option DispatchIntentRow := store.intents.find? (·.id == orderIntentId)

def claim : Option ClaimRow := store.claims.find? (·.orderIntentId == some orderIntentId)

def obligation : Option Obligation := store.obligations.find? (·.orderIntentId == orderIntentId)

end

def environment (tradingAccountId : Option Nat) : Option Environment :=
  tradingAccountId.bind fun id => (store.context.accounts.find? (·.id == id)).map (·.environment)

/-- The rollout row; a missing one was never activated. -/
def rollout : Rollout := store.context.rollout.getD ⟨false, 0⟩

section

variable (orderIntentId : Nat)

def nextDispatchSequence : Nat :=
  Table.nextId ((store.decisions.filter (·.orderIntentId == orderIntentId)).map (·.dispatchSequence))

/-- The intent is submitting and its claim is unreleased. -/
def executable : Bool :=
  (store.intent orderIntentId).any (·.status == .submitting) &&
    (store.claim orderIntentId).any fun claim => claim.releasedAt.isNone && claim.status == .entrySubmitting

/-- The claim is executable for exactly this pair. -/
def executableFor (pair : ExposurePair) : Bool :=
  (store.claim orderIntentId).any fun claim =>
    claim.releasedAt.isNone && claim.status == .entrySubmitting && claim.pair == pair

end

/-- Append an event to the history. -/
def note (event : DispatchEvent) : DispatchStore := { store with history := store.history ++ [event] }

end DispatchStore

end Rows

/-- Where the guard fails technically. -/
inductive DispatchStage where
  | intentLoad | obligationLoad | authorizationResolution | priorDispatchStarted | marketEvaluation
  | decisionPersistence | decisionCommit | finalAuthorizationIdentity | finalAuthorizationRevalidation
  | finalAuthorizationDisposition | finalAuthorizationPersistence | finalAuthorizationCommit
  | brokerDispatchPreparation | dispatchConsumption
deriving DecidableEq

def DispatchStage.text : DispatchStage → String
  | .intentLoad => "INTENT_LOAD"
  | .obligationLoad => "OBLIGATION_LOAD"
  | .authorizationResolution => "AUTHORIZATION_RESOLUTION"
  | .priorDispatchStarted => "PRIOR_DISPATCH_STARTED"
  | .marketEvaluation => "MARKET_EVALUATION"
  | .decisionPersistence => "DECISION_PERSISTENCE"
  | .decisionCommit => "DECISION_COMMIT"
  | .finalAuthorizationIdentity => "FINAL_AUTHORIZATION_IDENTITY"
  | .finalAuthorizationRevalidation => "FINAL_AUTHORIZATION_REVALIDATION"
  | .finalAuthorizationDisposition => "FINAL_AUTHORIZATION_DISPOSITION"
  | .finalAuthorizationPersistence => "FINAL_AUTHORIZATION_PERSISTENCE"
  | .finalAuthorizationCommit => "FINAL_AUTHORIZATION_COMMIT"
  | .brokerDispatchPreparation => "BROKER_DISPATCH_PREPARATION"
  | .dispatchConsumption => "DISPATCH_CONSUMPTION"

inductive DispatchRecord where
  | consumption | unenforcedDispatch
deriving DecidableEq

inductive DispatchError where
  /-- `BrokerDispatchTechnicalError`, which never leaves the guard. -/
  | technical (stage : DispatchStage) (diagnostic : String)
  /-- Any other error. -/
  | driver (message : String)
  /-- `MarketPolicyBrokerDispatchRefusedError` -/
  | refused (outcome : BrokerDispatchOutcome) (reasonCode : String) (decisionId : Option Nat)
  /-- `EntryDispatchRecordedNotSentError` -/
  | recordedNotSent (record : DispatchRecord) (recordId : Nat)
  /-- The 409 `PRIOR_ENTRY_DISPATCH_EVIDENCE`. -/
  | priorEntryDispatchEvidence
  /-- The adapter was invoked and failed. -/
  | adapter (message : String)
deriving DecidableEq

/-- A statement fails, or the transaction does not commit. -/
def DispatchFault (error : DispatchError) : Prop := ∃ message, error = .driver message

abbrev DispatchProgram := Program DispatchStore DispatchError

def Disposition.text : Disposition → String
  | .neverAuthorized => "NEVER_AUTHORIZED"
  | .enforced => "ENFORCED"
  | .authorizationIneffective => "AUTHORIZATION_INEFFECTIVE"
  | .lapsed => "LAPSED"
  | .ownerRevoked => "OWNER_REVOKED"
  | .ownerOptedOut => "OWNER_OPTED_OUT"
  | .notApplicableLive => "NOT_APPLICABLE_LIVE"

def RevisionStatus.text : RevisionStatus → String
  | .prepared => "PREPARED"
  | .active => "ACTIVE"
  | .retired => "RETIRED"

def GenerationStatus.text : GenerationStatus → String
  | .prepared => "PREPARED"
  | .active => "ACTIVE"
  | .disabled => "DISABLED"

/-- The codes of the checks that hold, in order. -/
def mismatches (checks : List (Bool × String)) : List String :=
  checks.filterMap fun (mismatched, code) => if mismatched then some code else none

/-- The bound authorization is AUTHORIZED with this fingerprint and still the latest. -/
def PolicyContext.authorizationEffective (context : PolicyContext) (authority : FrozenAuthority) : Bool :=
  (context.authorizations.find? (·.id == authority.authorizationId)).any fun authorization =>
    authorization.status == .authorized && authorization.authorizationFingerprint == authority.authorizationFingerprint &&
      (context.latestAuthorization authorization.accountSubscriptionId).map (·.id) == some authorization.id

/-- The bound generation and revision are ACTIVE and the assignment still has its binding. -/
def PolicyContext.bindingUnchanged (context : PolicyContext) (authority : FrozenAuthority) : Bool :=
  (context.generations.find? (·.id == authority.enrollmentGenerationId)).any (·.status == .active) &&
    (context.revisions.find? (·.id == authority.policyRevisionId)).any (·.status == .active) &&
    (context.assignments.find? (·.id == authority.identity.accountSubscriptionId)).any fun assignment =>
      assignment.tradingAccountId == authority.identity.tradingAccountId &&
        assignment.subscriptionId == authority.identity.subscriptionId &&
        assignment.routingStrategyId == authority.identity.strategyId &&
        (context.subscriptions.find? (·.id == assignment.subscriptionId)).map (·.securityId) ==
          some authority.identity.securityId

/-- A later decision exists for the intent. -/
def DispatchDecision.superseded (decision : DispatchDecision) (decisions : List DispatchDecision) : Bool :=
  decisions.any fun later =>
    later.orderIntentId == decision.orderIntentId && decide (decision.dispatchSequence < later.dispatchSequence)

/-- `validate_market_policy_broker_dispatch_consumption`, with the code of its exception. -/
def consumptionRefusal (seen : DispatchStore) (decisionId orderIntentId : Nat) (clientOrderId : String) :
    Option String :=
  match seen.decisions.find? (·.id == decisionId) with
  | none => some "BROKER_DISPATCH_NOT_AUTHORIZED"
  | some decision =>
    if decision.outcome ≠ .allowed ∨ decision.orderIntentId ≠ orderIntentId ∨ decision.clientOrderId ≠ clientOrderId then
      some "BROKER_DISPATCH_NOT_AUTHORIZED"
    else if decision.superseded seen.decisions then some "BROKER_DISPATCH_DECISION_SUPERSEDED"
    else if ¬ decision.authority.any seen.context.authorizationEffective then
      some "BROKER_DISPATCH_AUTHORIZATION_CHANGED"
    else if ¬ decision.authority.any seen.context.bindingUnchanged then some "BROKER_DISPATCH_AUTHORIZATION_CHANGED"
    else if decision.dispatchExpiresAt.any fun expires => decide (expires ≤ seen.context.now) then
      some "BROKER_DISPATCH_WINDOW_EXPIRED"
    else if ¬ seen.executable orderIntentId then some "BROKER_DISPATCH_INTENT_NOT_EXECUTABLE"
    else none

/-- The basis of a disposition that is not enforced; `UNENFORCED_DISPATCH_BASES`. -/
def unenforcedBasis : Disposition → Option UnenforcedBasis
  | .neverAuthorized => some .neverAuthorized
  | .ownerRevoked => some .ownerRevoked
  | .ownerOptedOut => some .ownerOptedOut
  | _ => none

/-- `UnenforcedDispatch_basis_check` -/
def UnenforcedDispatch.basisConsistent (dispatch : UnenforcedDispatch) : Bool :=
  match dispatch.basis with
  | .runtimeInactive => !dispatch.rollout.enabled
  | .noAssignment =>
    dispatch.rollout.enabled && dispatch.accountSubscriptionId.isNone && dispatch.latestAuthorizationId.isNone
  | .neverAuthorized =>
    dispatch.rollout.enabled && dispatch.accountSubscriptionId.isSome && dispatch.latestAuthorizationId.isNone
  | .ownerRevoked => dispatch.rollout.enabled && dispatch.latestAuthorizationStatus == some .revoked
  | .ownerOptedOut => dispatch.rollout.enabled && dispatch.latestAuthorizationStatus == some .invalidated

/-- Under the active rollout the latest authorization must not require enforcement, and the basis must say why. -/
def basisRefusal (enabled : Bool) (latest : Option AuthorizationRow) (basis : UnenforcedBasis) : Option String :=
  match enabled, latest with
  | false, _ => none
  | true, none =>
    if basis = .neverAuthorized ∨ basis = .noAssignment then none else some "UNENFORCED_DISPATCH_BASIS"
  | true, some authorization =>
    match authorization.status, authorization.lapseResolved with
    | .revoked, _ => if basis = .ownerRevoked then none else some "UNENFORCED_DISPATCH_BASIS"
    | .invalidated, true => if basis = .ownerOptedOut then none else some "UNENFORCED_DISPATCH_BASIS"
    | _, _ => some "UNENFORCED_DISPATCH_ENFORCEMENT_REQUIRED"

/-- `validate_market_policy_broker_unenforced_dispatch`, with the code of its exception. -/
def unenforcedRefusal (store : DispatchStore) (dispatch : UnenforcedDispatch) : Option String :=
  let latest := dispatch.accountSubscriptionId.bind store.context.latestAuthorization
  let mirrored := (store.intent dispatch.orderIntentId).any fun intent =>
    intent.tradingAccountId == some dispatch.tradingAccountId && intent.clientOrderId == some dispatch.clientOrderId &&
      intent.accountSubscriptionId == dispatch.accountSubscriptionId &&
      normalizeSymbol intent.symbol == dispatch.securitySymbol && normalizeSide intent.side == "buy"
  if store.environment (some dispatch.tradingAccountId) ≠ some .paper then some "UNENFORCED_DISPATCH_SCOPE"
  else if ¬ mirrored ∨
      (store.securities.find? (·.2 == dispatch.securityId)).map (·.1) ≠ some dispatch.securitySymbol then
    some "UNENFORCED_DISPATCH_IDENTITY"
  else if (store.obligation dispatch.orderIntentId).isSome ∨
      (store.consumptions.find? (·.orderIntentId == dispatch.orderIntentId)).isSome then
    some "UNENFORCED_DISPATCH_OBLIGATED"
  else if ¬ store.executable dispatch.orderIntentId ∨
      ¬ store.executableFor dispatch.orderIntentId ⟨dispatch.tradingAccountId, dispatch.securityId⟩ then
    some "UNENFORCED_DISPATCH_NOT_EXECUTABLE"
  else if store.rollout ≠ dispatch.rollout then some "UNENFORCED_DISPATCH_ROLLOUT_CHANGED"
  else if latest.map (·.id) ≠ dispatch.latestAuthorizationId ∨
      latest.map (·.status) ≠ dispatch.latestAuthorizationStatus then
    some "UNENFORCED_DISPATCH_AUTHORIZATION_CHANGED"
  else basisRefusal store.rollout.enabled latest dispatch.basis

section Writes

variable (call : Nat)

/-- Insert a decision; its sequence must be contiguous. -/
def insertDecision (decision : DispatchDecision) (store : DispatchStore) :
    Except DispatchError (DispatchDecision × DispatchStore) :=
  if decision.dispatchSequence ≠ store.nextDispatchSequence decision.orderIntentId then
    .error (.technical .decisionPersistence "Broker-time decision sequence must be contiguous per OrderIntent")
  else
    let row := { decision with id := Table.nextId (store.decisions.map (·.id)) }
    .ok (row, { store with decisions := store.decisions ++ [row] })

/-- Insert a consumption checked against `seen`; the unique indexes decide where it commits. -/
def insertConsumption (orderIntentId decisionId : Nat) (clientOrderId : String) (seen store : DispatchStore) :
    Except DispatchError (Unit × DispatchStore) :=
  match consumptionRefusal seen decisionId orderIntentId clientOrderId with
  | some code => .error (.driver code)
  | none =>
    let consumption : DispatchConsumption :=
      ⟨Table.nextId (store.consumptions.map (·.id)), decisionId, orderIntentId, clientOrderId, seen.context.now⟩
    match Table.insertUnique (fun row => some row.orderIntentId) consumption store.consumptions,
        Table.insertUnique (fun row => some row.decisionId) consumption store.consumptions with
    | some consumptions, some _ =>
      .ok ((), { store with
        consumptions
        history := store.history ++ [.consumed call consumption seen.decisions.length store.decisions.length] })
    | _, _ => .error (.driver "Unique constraint failed")

/-- Insert an un-enforced dispatch, with rollout and authorization held until the commit. -/
def insertUnenforced (dispatch : UnenforcedDispatch) (store : DispatchStore) :
    Except DispatchError (Nat × DispatchStore) :=
  let row := { dispatch with
    id := Table.nextId (store.unenforced.map (·.id))
    authorizedAt := store.context.now }
  match unenforcedRefusal store row, row.basisConsistent with
  | none, true =>
    match Table.insertUnique (fun row => some row.orderIntentId) row store.unenforced with
    | some unenforced =>
      .ok (row.id, { store with unenforced, history := store.history ++ [.unenforced call row store.context] })
    | none => .error (.technical .finalAuthorizationPersistence "Unique constraint failed")
  | some code, _ => .error (.technical .finalAuthorizationPersistence code)
  | none, false => .error (.technical .finalAuthorizationPersistence "UnenforcedDispatch_basis_check")

/-- Create a decision; PostgreSQL may refuse it. -/
def createDecision (decision : DispatchDecision) : DispatchProgram DispatchDecision := do
  let refused ← (answer : DispatchProgram Bool)
  if refused then throw (.technical .decisionPersistence "decision refused")
  else commit (insertDecision decision)

end Writes

structure EntryBrokerDispatchRequest where
  (orderIntentId tradingAccountId : Nat)
  (symbol clientOrderId : String)

/-- What `loadDispatchIntent` selects. -/
structure DispatchIntent where
  id : Nat
  (tradingAccountId accountSubscriptionId : Option Nat)
  clientOrderId : Option String
  environment : Option Environment
  obligationId : Option Nat

/-- What `prepareEntryBrokerDispatch` returns; `authorizeDispatch` goes on from it. -/
inductive PreparedEntryBrokerDispatch where
  | frozenObligation (intent : DispatchIntent) (obligationId : Nat) (first : DispatchDecision)
  | unobligatedFinalAuthorization (intent : DispatchIntent) (applicability : String)
  | notApplicable

inductive FinalUnobligatedAuthorization where
  | authorized (id : Nat) (basis : UnenforcedBasis)
  | quarantined (decision : DispatchDecision)

/-- `MARKET_POLICY_BROKER_DISPATCH_WINDOW_MS` -/
def brokerDispatchWindowMs : Int := 30000

section Refusals

variable (request : EntryBrokerDispatchRequest)

/-- What is thrown for the records that could be read. -/
def refuseRecorded : Except DispatchError (Option DispatchConsumption) → Except DispatchError (Option UnenforcedDispatch) →
    DispatchProgram Unit
  | .ok (some row), .ok _ => throw (.recordedNotSent .consumption row.id)
  | .ok none, .ok (some row) => throw (.recordedNotSent .unenforcedDispatch row.id)
  | _, _ => pure ()

/-- `throwIfDispatchRecorded`: an unreadable record stays unknown. -/
def throwIfDispatchRecorded : DispatchProgram Unit := do
  let consumption ← (read fun store =>
    store.consumptions.find? (·.orderIntentId == request.orderIntentId) : DispatchProgram _).attempt
  let unenforced ← (read fun store =>
    store.unenforced.find? (·.orderIntentId == request.orderIntentId) : DispatchProgram _).attempt
  refuseRecorded consumption unenforced

/-- The decision of a technical failure, stamped when it is inserted. -/
def technicalDecision (intent : DispatchIntent) (tradingAccountId accountSubscriptionId : Nat) (rollout : Rollout)
    (dispatchSequence : Nat) (stage : DispatchStage) : DispatchDecision where
  id := 0
  orderIntentId := request.orderIntentId
  obligationId := intent.obligationId
  dispatchSequence
  clientOrderId := intent.clientOrderId.getD request.clientOrderId
  tradingAccountId
  accountSubscriptionId
  authority := none
  authorizationStatus := none
  rollout
  evaluatedAt := 0
  validUntil := none
  dispatchExpiresAt := none
  composition := none
  gates := []
  outcome := .technicalFailure
  reasonCode := "TECHNICAL_FAILURE_" ++ stage.text

/-- Insert it under the next sequence. -/
def createTechnicalDecision (intent : DispatchIntent) (tradingAccountId accountSubscriptionId : Nat)
    (rollout : Rollout) (stage : DispatchStage) : DispatchProgram DispatchDecision := do
  let dispatchSequence ← read (·.nextDispatchSequence request.orderIntentId)
  commit fun store => insertDecision
    { technicalDecision request intent tradingAccountId accountSubscriptionId rollout dispatchSequence stage with
      evaluatedAt := store.context.now } store

/-- `recordTechnicalFailure`, as far as possible. -/
def recordTechnicalFailure (intent : Option DispatchIntent) (stage : DispatchStage) : DispatchProgram (Option Nat) := do
  match intent.filter (·.environment == some .paper) with
  | none => pure none
  | some intent =>
    match intent.tradingAccountId, intent.accountSubscriptionId with
    | some tradingAccountId, some accountSubscriptionId =>
      let rollout ← (read DispatchStore.rollout : DispatchProgram _).attempt
      let recorded ← (createTechnicalDecision request intent tradingAccountId accountSubscriptionId
        (rollout.toOption.getD ⟨false, 0⟩) stage).attempt
      pure (recorded.toOption.map (·.id))
    | _, _ => pure none

/-- `technicalRefusal`: the POST does not happen, whatever the evidence. -/
def technicalRefusal {α : Type} (intent : Option DispatchIntent) (error : DispatchError) : DispatchProgram α := do
  let stage := match error with
    | .technical stage _ => stage
    | _ => .brokerDispatchPreparation
  let decisionId ← recordTechnicalFailure request intent stage
  throw (.refused .technicalFailure ("TECHNICAL_FAILURE_" ++ stage.text) decisionId)

/-- The error of a classified stage, or one of the commit. -/
def classified (error : DispatchError) (commit : DispatchStage) : DispatchError :=
  match error with
  | .technical stage diagnostic => .technical stage diagnostic
  | .driver message => .technical commit message
  | _ => .technical commit ""

def denialRefusal {α : Type} (decision : DispatchDecision) : DispatchProgram α :=
  throw (.refused decision.outcome decision.reasonCode (some decision.id))

end Refusals

section Obligated

variable (request : EntryBrokerDispatchRequest)

/-- The checks of the frozen obligation, in order. -/
def obligatedRefusal (obligation : Obligation) (resolution : Resolution) (intent : DispatchIntentRow)
    (claim : Option ClaimRow) (frozen : Option AuthorizationRow) (revision : Option RevisionRow)
    (generation : Option GenerationRow) : Option (BrokerDispatchOutcome × String) :=
  let frozenIdentity := obligation.identity
  let pair : ExposurePair := ⟨frozenIdentity.tradingAccountId, frozenIdentity.securityId⟩
  let identityMismatches := mismatches
    [(request.tradingAccountId ≠ frozenIdentity.tradingAccountId ||
        intent.tradingAccountId ≠ some frozenIdentity.tradingAccountId, "ACCOUNT"),
      (intent.accountSubscriptionId ≠ some frozenIdentity.accountSubscriptionId, "ASSIGNMENT"),
      (normalizeSymbol request.symbol ≠ frozenIdentity.securitySymbol ||
        normalizeSymbol intent.symbol ≠ frozenIdentity.securitySymbol, "SYMBOL"),
      (normalizeSide intent.side ≠ "buy", "SIDE"),
      (intent.clientOrderId ≠ some request.clientOrderId, "CLIENT_ORDER_ID"),
      (intent.status ≠ .submitting, "INTENT_NOT_SUBMITTING"),
      (!claim.any fun claim => claim.releasedAt.isNone && claim.status == .entrySubmitting && claim.pair == pair,
        "ENTRY_EXPOSURE_CLAIM")]
  let bindingMismatches := mismatches
    [(resolution.identity.environment ≠ .paper, "ENVIRONMENT"),
      (resolution.identity.tradingAccountId ≠ frozenIdentity.tradingAccountId, "ASSIGNMENT_ACCOUNT"),
      (resolution.identity.subscriptionId ≠ frozenIdentity.subscriptionId, "ASSIGNMENT_SUBSCRIPTION"),
      (resolution.identity.securityId ≠ frozenIdentity.securityId ||
        resolution.identity.securitySymbol ≠ frozenIdentity.securitySymbol, "ASSIGNMENT_SECURITY"),
      (resolution.identity.strategyId ≠ frozenIdentity.strategyId, "ASSIGNMENT_STRATEGY")]
  if identityMismatches ≠ [] then
    some (.entryIdentityMismatch, "ENTRY_IDENTITY_MISMATCH_" ++ "_".intercalate identityMismatches)
  else if ¬ revision.any fun revision => revision.status == .active && revision.strategyId == frozenIdentity.strategyId then
    some (.policyRevisionSuperseded, "FROZEN_POLICY_REVISION_" ++ (revision.map (·.status.text)).getD "MISSING")
  else
    match frozen with
    | none => some (.authorizationIneffective, "FROZEN_AUTHORIZATION_MISSING")
    | some frozen =>
      if frozen.status = .revoked then some (.authorizationRevoked, "FROZEN_AUTHORIZATION_REVOKED")
      else if frozen.status = .invalidated then
        some (.authorizationInvalidated,
          "FROZEN_AUTHORIZATION_INVALIDATED_" ++ frozen.invalidationReasonCode.getD "UNKNOWN")
      else if resolution.authorization.map (·.id) ≠ some frozen.id then
        some (.authorizationSuperseded, "NEWER_AUTHORIZATION_EXISTS")
      else if frozen.authorizationFingerprint ≠ obligation.authorizationFingerprint ∨
          frozen.authorityVersion ≠ obligation.authorityVersion then
        some (.authorizationIneffective, "FROZEN_AUTHORIZATION_FINGERPRINT_MISMATCH")
      else if ¬ generation.any (·.status == .active) then
        some (.enrollmentGenerationInactive,
          "FROZEN_ENROLLMENT_GENERATION_" ++ (generation.map (·.status.text)).getD "MISSING")
      else if resolution.disposition ≠ .enforced then
        some (.authorizationIneffective, resolution.reasons.headD ("DISPOSITION_" ++ resolution.disposition.text))
      else if bindingMismatches ≠ [] then
        some (.entryIdentityMismatch, "ASSIGNMENT_BINDING_CHANGED_" ++ "_".intercalate bindingMismatches)
      else none

/-- The row of an obligated decision; an ALLOWED one expires with its evidence or its window. -/
def obligatedDecision (obligation : Obligation) (intent : DispatchIntentRow) (frozen : Option AuthorizationRow)
    (rollout : Rollout) (dispatchSequence : Nat) (evaluatedAt : Int) (outcome : BrokerDispatchOutcome)
    (reasonCode : String) (evaluation : Option MarketPolicyEvaluation) : DispatchDecision :=
  let validUntil := if outcome = .allowed then evaluation.bind (·.validUntil) else none
  { id := 0
    orderIntentId := request.orderIntentId
    obligationId := some obligation.id
    dispatchSequence
    clientOrderId := intent.clientOrderId.getD request.clientOrderId
    tradingAccountId := obligation.identity.tradingAccountId
    accountSubscriptionId := obligation.identity.accountSubscriptionId
    authority := some obligation.authority
    authorizationStatus := frozen.map (·.status)
    rollout
    evaluatedAt
    validUntil
    dispatchExpiresAt := validUntil.map fun validUntil => min validUntil (evaluatedAt + brokerDispatchWindowMs)
    composition := evaluation.bind (·.composition)
    gates := (evaluation.map (·.gates)).getD []
    outcome
    reasonCode }

variable (evaluator : Evaluator)

/-- The decision once the obligation and the assignment are locked. -/
def decideObligated (rollout : Rollout) (obligation : Obligation) (resolution : Resolution) :
    DispatchProgram DispatchDecision := do
  match ← read fun store => (store.intent request.orderIntentId).map fun intent => (intent,
      store.claim request.orderIntentId, store.consumptions.any (·.orderIntentId == request.orderIntentId)) with
  | none => throw (.driver "No OrderIntent found")
  | some (_, _, true) => throw (.technical .priorDispatchStarted "A dispatch for this OrderIntent already started.")
  | some (intent, claim, false) =>
    let frozen ← read fun store => store.context.authorizations.find? (·.id == obligation.authorizationId)
    let revision ← read fun store => store.context.revisions.find? (·.id == obligation.policyRevisionId)
    let generation ← read fun store =>
      store.context.generations.find? (·.id == obligation.enrollmentGenerationId)
    let dispatchSequence ← read (·.nextDispatchSequence request.orderIntentId)
    let evaluatedAt ← read (·.context.now)
    let decision := obligatedDecision request obligation intent frozen rollout dispatchSequence evaluatedAt
    match obligatedRefusal request obligation resolution intent claim frozen revision generation, revision with
    | some (outcome, reasonCode), _ => createDecision (decision outcome reasonCode none)
    | none, none => throw (.technical .marketEvaluation "revision is null")
    | none, some revision =>
      match ← (read fun store => evaluateMarketPolicyRevisionOnCurrentComposition evaluator
          store.context.compositions revision.dimensionRules evaluatedAt : DispatchProgram _).attempt with
      | .ok (.ok evaluation) =>
        createDecision (decision evaluation.outcome.dispatch evaluation.reasonCode (some evaluation))
      | _ => throw (.technical .marketEvaluation "")

variable (ineffectiveReasons : PolicyContext → AuthorizationRow → List String)

/-- `prepareObligatedDecision` -/
def prepareObligatedDecision (obligationId : Nat) : DispatchProgram DispatchDecision := do
  let rollout ← read DispatchStore.rollout
  match ← read fun store =>
      (store.obligations.find? (·.id == obligationId)).filter (·.orderIntentId == request.orderIntentId) with
  | none => throw (.technical .obligationLoad "Frozen obligation does not belong to the OrderIntent.")
  | some obligation =>
    match ← (read fun store => resolveLockedAssignmentMarketPolicyEnforcement ineffectiveReasons store.context
        store.securities obligation.identity.accountSubscriptionId : DispatchProgram _).attempt with
    | .ok (.ok resolution) => decideObligated request evaluator rollout obligation resolution
    | _ => throw (.technical .authorizationResolution "")

/-- `prepareObligated`: only an ALLOWED decision is returned. -/
def prepareObligated (intent : DispatchIntent) (obligationId : Nat) : DispatchProgram DispatchDecision := do
  match ← (prepareObligatedDecision request evaluator ineffectiveReasons obligationId).attempt with
  | .error error => technicalRefusal request (some intent) (classified error .decisionCommit)
  | .ok decision => if decision.outcome = .allowed then pure decision else denialRefusal decision

end Obligated

section Unobligated

variable (call : Nat) (request : EntryBrokerDispatchRequest) (intent : DispatchIntent)
  (ineffectiveReasons : PolicyContext → AuthorizationRow → List String)

/-- `recordQuarantineDecision`; `stage` ends its reason. -/
def recordQuarantineDecision (rollout : Rollout) (resolution : Resolution) (stage : String) :
    DispatchProgram DispatchDecision := do
  match resolution.authorization with
  | none => throw (.driver "authorization is null")
  | some authorization =>
    let dispatchSequence ← read (·.nextDispatchSequence request.orderIntentId)
    let evaluatedAt ← read (·.context.now)
    createDecision
      { id := 0
        orderIntentId := request.orderIntentId
        obligationId := none
        dispatchSequence
        clientOrderId := intent.clientOrderId.getD request.clientOrderId
        tradingAccountId := intent.tradingAccountId.getD 0
        accountSubscriptionId := intent.accountSubscriptionId.getD 0
        authority := some ⟨resolution.identity, authorization.policyRevisionId, authorization.enrollmentGenerationId,
          authorization.id, authorization.authorizationFingerprint, authorization.authorityVersion⟩
        authorizationStatus := some authorization.status
        rollout
        evaluatedAt
        validUntil := none
        dispatchExpiresAt := none
        composition := none
        gates := []
        outcome := .legacyUnobligatedQuarantined
        reasonCode := "UNOBLIGATED_ENTRY_UNDER_" ++ resolution.disposition.text ++ stage }

/-- `prepareUnobligatedDecision`: a quarantine, or why the entry need not be enforced. -/
def prepareUnobligatedDecision (accountSubscriptionId : Nat) : DispatchProgram (DispatchDecision ⊕ String) := do
  let rollout ← read DispatchStore.rollout
  if ¬ rollout.enabled then pure (.inr "RUNTIME_INACTIVE")
  else
    match ← (read fun store => resolveLockedAssignmentMarketPolicyEnforcement ineffectiveReasons store.context
        store.securities accountSubscriptionId : DispatchProgram _).attempt with
    | .ok (.ok resolution) =>
      if resolution.disposition ∈ nonEnforcedDispositions then pure (.inr resolution.disposition.text)
      else
        let decision ← recordQuarantineDecision request intent rollout resolution ""
        pure (.inl decision)
    | _ => throw (.technical .authorizationResolution "")

/-- What the final authorization reads once it holds the locks. -/
structure FinalReading where
  row : DispatchIntentRow
  environment : Option Environment
  claim : Option ClaimRow
  (obliged recorded : Bool)

def DispatchStore.finalReading (store : DispatchStore) (orderIntentId : Nat) : Option FinalReading :=
  (store.intent orderIntentId).map fun row =>
    { row
      environment := store.environment row.tradingAccountId
      claim := store.claim orderIntentId
      obliged := (store.obligation orderIntentId).isSome
      recorded := store.consumptions.any (·.orderIntentId == orderIntentId) ||
        store.unenforced.any (·.orderIntentId == orderIntentId) }

/-- The identity that has to be executable now. -/
def finalMismatches (resolution : Option Resolution) (security : String × Nat) (current : FinalReading) : List String :=
  let symbol := normalizeSymbol request.symbol
  mismatches
    [(current.environment ≠ some .paper || resolution.any (·.identity.environment ≠ .paper), "ENVIRONMENT"),
      (current.row.tradingAccountId ≠ some request.tradingAccountId ||
        resolution.any (·.identity.tradingAccountId ≠ request.tradingAccountId), "ACCOUNT"),
      (current.row.accountSubscriptionId ≠ intent.accountSubscriptionId, "ASSIGNMENT"),
      (normalizeSymbol current.row.symbol ≠ symbol || security.1 ≠ symbol, "SYMBOL"),
      (normalizeSide current.row.side ≠ "buy", "SIDE"),
      (current.row.clientOrderId ≠ some request.clientOrderId, "CLIENT_ORDER_ID"),
      (current.row.status ≠ .submitting, "INTENT_NOT_SUBMITTING"),
      (current.obliged, "OBLIGATION_PRESENT"),
      (current.recorded, "PRIOR_DISPATCH_RECORD"),
      (!current.claim.any fun claim => claim.releasedAt.isNone && claim.status == .entrySubmitting &&
        claim.pair == ⟨request.tradingAccountId, security.2⟩, "ENTRY_EXPOSURE_CLAIM")]

/-- From the exposure lock on: revalidate, quarantine or record the un-enforced dispatch. -/
def authorizeUnobligatedUnderLock (rollout : Rollout) (resolution : Option Resolution) (security : String × Nat) :
    DispatchProgram FinalUnobligatedAuthorization := do
  match ← read (·.finalReading request.orderIntentId) with
  | none => throw (.driver "No OrderIntent found")
  | some current =>
    let refused := finalMismatches request intent resolution security current
    if refused ≠ [] then
      throw (.technical .finalAuthorizationRevalidation ("ENTRY_NOT_EXECUTABLE_" ++ "_".intercalate refused))
    else
      let record := fun basis => do
        let latest := resolution.bind (·.authorization)
        let dispatchId ← (commit (insertUnenforced call
          { id := 0
            orderIntentId := request.orderIntentId
            clientOrderId := request.clientOrderId
            tradingAccountId := request.tradingAccountId
            accountSubscriptionId := intent.accountSubscriptionId
            securityId := security.2
            securitySymbol := security.1
            basis
            latestAuthorizationId := latest.map (·.id)
            latestAuthorizationStatus := latest.map (·.status)
            rollout
            authorizedAt := 0 }) : DispatchProgram Nat)
        pure (FinalUnobligatedAuthorization.authorized dispatchId basis)
      match rollout.enabled, resolution with
      | false, _ => record .runtimeInactive
      | true, none => record .noAssignment
      | true, some resolution =>
        if resolution.disposition ∉ nonEnforcedDispositions then
          let decision ← recordQuarantineDecision request intent rollout resolution "_AT_FINAL_AUTHORIZATION"
          pure (.quarantined decision)
        else
          match unenforcedBasis resolution.disposition with
          | some basis => record basis
          | none => throw (.technical .finalAuthorizationDisposition
              ("UNEXPECTED_DISPOSITION_" ++ resolution.disposition.text))

/-- `authorizeUnobligatedDispatchInTransaction` -/
def authorizeUnobligatedDispatchInTransaction : DispatchProgram FinalUnobligatedAuthorization := do
  let rollout ← read DispatchStore.rollout
  match intent.accountSubscriptionId with
  | some accountSubscriptionId =>
    match ← (read fun store => resolveLockedAssignmentMarketPolicyEnforcement ineffectiveReasons store.context
        store.securities accountSubscriptionId : DispatchProgram _).attempt with
    | .ok (.ok resolution) =>
      let security := (resolution.identity.securitySymbol, resolution.identity.securityId)
      authorizeUnobligatedUnderLock call request intent rollout (some resolution) security
    | _ => throw (.technical .authorizationResolution "")
  | none =>
    match ← read fun store => store.securities.find? (·.1 == normalizeSymbol request.symbol) with
    | some security => authorizeUnobligatedUnderLock call request intent rollout none security
    | none => throw (.technical .finalAuthorizationIdentity "SECURITY_NOT_FOUND")

/-- The attempt knows that its record has committed. -/
def acknowledge : DispatchProgram Unit := write (·.note (.acknowledged call request.orderIntentId))

/-- `authorizeUnobligatedDispatch` -/
def authorizeUnobligatedDispatch : DispatchProgram Unit := do
  match ← (authorizeUnobligatedDispatchInTransaction call request intent ineffectiveReasons).attempt with
  | .error error =>
    throwIfDispatchRecorded request
    technicalRefusal request (some intent) (classified error .finalAuthorizationCommit)
  | .ok (.quarantined decision) => denialRefusal decision
  | .ok (.authorized _ _) => acknowledge call request

end Unobligated

section Boundary

variable (evaluator : Evaluator) (ineffectiveReasons : PolicyContext → AuthorizationRow → List String) (call : Nat)
  (request : EntryBrokerDispatchRequest)

def DispatchStore.loadDispatchIntent (store : DispatchStore) (orderIntentId : Nat) : Option DispatchIntent :=
  (store.intent orderIntentId).map fun row =>
    { id := row.id
      tradingAccountId := row.tradingAccountId
      accountSubscriptionId := row.accountSubscriptionId
      clientOrderId := row.clientOrderId
      environment := store.environment row.tradingAccountId
      obligationId := (store.obligation orderIntentId).map (·.id) }

/-- PostgreSQL checks the decision with its own clock before it inserts the consumption. -/
def consumeDecision (decision : DispatchDecision) : DispatchProgram Unit :=
  transaction id fun seen =>
    insertConsumption call request.orderIntentId decision.id decision.clientOrderId seen

/-- `prepareEntryBrokerDispatch` -/
def prepareEntryBrokerDispatch : DispatchProgram PreparedEntryBrokerDispatch := do
  match ← (read (·.loadDispatchIntent request.orderIntentId) : DispatchProgram _).attempt with
  | .error error => technicalRefusal request none (classified error .intentLoad)
  | .ok none => technicalRefusal request none (.technical .intentLoad "ORDER_INTENT_NOT_FOUND")
  | .ok (some intent) =>
    if intent.environment ≠ some .paper then pure .notApplicable
    else
      match intent.obligationId, intent.accountSubscriptionId with
      | some obligationId, _ =>
        let first ← prepareObligated request evaluator ineffectiveReasons intent obligationId
        pure (.frozenObligation intent obligationId first)
      | none, none => pure (.unobligatedFinalAuthorization intent "NO_ASSIGNMENT")
      | none, some accountSubscriptionId =>
        match ← (prepareUnobligatedDecision request intent ineffectiveReasons accountSubscriptionId).attempt with
        | .error error => technicalRefusal request (some intent) error
        | .ok (.inl decision) => denialRefusal decision
        | .ok (.inr applicability) => pure (.unobligatedFinalAuthorization intent applicability)

/-- A refused consumption is followed by one fresh decision. -/
def authorizeObligatedDispatch (intent : DispatchIntent) (obligationId : Nat) (first : DispatchDecision) :
    DispatchProgram Unit := do
  match ← (consumeDecision call request first).attempt with
  | .ok _ => acknowledge call request
  | .error _ =>
    throwIfDispatchRecorded request
    let fresh ← prepareObligated request evaluator ineffectiveReasons intent obligationId
    match ← (consumeDecision call request fresh).attempt with
    | .ok _ => acknowledge call request
    | .error _ =>
      throwIfDispatchRecorded request
      technicalRefusal request (some intent) (.technical .dispatchConsumption "")

/-- `authorizeDispatch`, the last step before the adapter. -/
def authorizeDispatch : PreparedEntryBrokerDispatch → DispatchProgram Unit
  | .frozenObligation intent obligationId first =>
    authorizeObligatedDispatch evaluator ineffectiveReasons call request intent obligationId first
  | .unobligatedFinalAuthorization intent _ => authorizeUnobligatedDispatch call request intent ineffectiveReasons
  | .notApplicable => pure ()

/-- `assertNoLocalEntryDispatchEvidence`; the opportunity events and broker orders are an answer. -/
def assertNoLocalEntryDispatchEvidence : DispatchProgram Unit := do
  let consumptions ← read (·.consumptions.countP (·.orderIntentId == request.orderIntentId))
  let unenforcedDispatches ← read (·.unenforced.countP (·.orderIntentId == request.orderIntentId))
  let evidence ← (answer : DispatchProgram (Except String Nat))
  match evidence with
  | .error message => throw (.driver message)
  | .ok evidence =>
    if consumptions ≠ 0 ∨ unenforcedDispatches ≠ 0 ∨ evidence ≠ 0 then throw .priorEntryDispatchEvidence else pure ()

/-- The adapter call: the POST may be sent although the call fails. -/
def submitAlpacaEntryOrder : DispatchProgram Unit := do
  match ← (write (·.note (.posted call request.orderIntentId)) : DispatchProgram Unit).attempt with
  | .error _ => throw (.adapter "request failed")
  | .ok _ =>
    match ← (answer : DispatchProgram (Except String Unit)) with
    | .error message => throw (.adapter message)
    | .ok _ => pure ()

/-- `submitOrderToBroker` from the stable client-order-ID lookup on. -/
def submitOrderToBroker : DispatchProgram Unit := do
  match ← (answer : DispatchProgram (Except String Bool)) with
  | .error message => throw (.driver message)
  | .ok true => pure ()
  | .ok false =>
    assertNoLocalEntryDispatchEvidence request
    let dispatch ← prepareEntryBrokerDispatch evaluator ineffectiveReasons request
    authorizeDispatch evaluator ineffectiveReasons call request dispatch
    write (·.note (.adapterInvocationStarted call request.orderIntentId))
    submitAlpacaEntryOrder call request

end Boundary

end AiTrader.Policy
