import AiTrader.Exclusivity.Operations
import AiTrader.Policy.Enforcement

/-! # Admission of entry intents

The boundary through which every BUY entry intent is created: its transaction reads under row locks and writes at its end.
Other writers may commit between two statements; the locks only take some interleavings away. -/

namespace AiTrader.Policy

open Library Entry Exclusivity Market Program

inductive AdmissionOutcome where
  | allowed | blocked | insufficientEvidence | authorizationLapsed | authorizationIneffective | technicalFailure
deriving DecidableEq

def EvaluatedOutcome.admission : EvaluatedOutcome → AdmissionOutcome
  | .allowed => .allowed
  | .blocked => .blocked
  | .insufficientEvidence => .insufficientEvidence

/-- The code of a refusal, an admission or a technical failure. -/
def AdmissionOutcome.code : AdmissionOutcome → String
  | .allowed => "ORDER_INTENT_CREATED"
  | .blocked => "MARKET_POLICY_BLOCKED"
  | .insufficientEvidence => "MARKET_POLICY_INSUFFICIENT_EVIDENCE"
  | .authorizationLapsed => "MARKET_POLICY_ENFORCEMENT_LAPSED"
  | .authorizationIneffective => "MARKET_POLICY_AUTHORIZATION_INEFFECTIVE"
  | .technicalFailure => "NOT_ADMITTED_TECHNICAL_FAILURE"

inductive RequestSource where
  | api | liveEntryAcceptance
deriving DecidableEq

/-- A row of `MarketPolicyEnforcementAdmissionAttempt` with its gates. -/
structure AdmissionAttempt where
  id : Nat
  requestSource : RequestSource
  (ownerKey clientOrderId : String)
  tradingAccountId : Nat
  accountSubscriptionId : Option Nat
  identity : Option ResolvedIdentity
  authorization : Option AuthorizationRow
  rolloutVersion : Nat
  enforcementDisposition : Option Disposition
  evaluatedAt : Int
  composition : Option (MarketRegimeAssessment String)
  validUntil : Option Int
  gates : List Gate
  outcome : AdmissionOutcome
  reasonCode : String
  orderIntentId : Option Nat
  orderIntentCreated : Bool
  admissionResultCode : String
deriving DecidableEq

/-- A row of `OrderIntentMarketPolicyEnforcementObligation`. -/
structure Obligation where
  (id orderIntentId admissionAttemptId : Nat)
  identity : ResolvedIdentity
  authorizationId : Nat
  (authorizationFingerprint authorityVersion : String)
  (enrollmentGenerationId policyRevisionId : Nat)
  composition : Option (MarketRegimeAssessment String)
  evaluatedAt : Int
  validUntil : Option Int
  rolloutVersion : Nat
deriving DecidableEq

/-- What one call committed, with the rollout and disposition it had locked; no statement reads this. -/
structure Admission where
  call : Nat
  ownerKey : String
  rolloutEnabled : Bool
  disposition : Option Disposition
  (orderIntentId claimId : Nat)
deriving DecidableEq

/-- The rollout is enabled and the locked disposition is not a non-enforced one. -/
def Admission.Enforced (admission : Admission) : Prop :=
  admission.rolloutEnabled = true ∧
    ∃ disposition, admission.disposition = some disposition ∧ disposition ∉ nonEnforcedDispositions

structure AdmissionStore where
  context : PolicyContext
  exposure : ClaimStore
  attempts : List AdmissionAttempt
  obligations : List Obligation
  admissions : List Admission
deriving DecidableEq

/-- Where an enforced admission fails technically. -/
inductive AdmissionStage where
  | authorizationResolution | requestAccountMismatch | requestSecurityMismatch | marketEvaluation | obligationFreeze
  | admissionTransaction
deriving DecidableEq

def AdmissionStage.text : AdmissionStage → String
  | .authorizationResolution => "AUTHORIZATION_RESOLUTION"
  | .requestAccountMismatch => "REQUEST_ACCOUNT_MISMATCH"
  | .requestSecurityMismatch => "REQUEST_SECURITY_MISMATCH"
  | .marketEvaluation => "MARKET_EVALUATION"
  | .obligationFreeze => "OBLIGATION_FREEZE"
  | .admissionTransaction => "ADMISSION_TRANSACTION"

/-- What a callback of the caller may throw. -/
inductive CallerError where
  | http (statusCode : Nat) (code : String)
  | driver (message : String)

inductive AdmissionError where
  /-- An `HttpError` from outside the enforcement. -/
  | http (statusCode : Nat) (code : String)
  /-- `MarketPolicyEnforcementTechnicalError`, which never leaves the admission. -/
  | technical (stage : AdmissionStage)
  /-- Any other error. -/
  | driver (message : String)
  /-- The 403 of a recorded rejection. -/
  | rejected (outcome : AdmissionOutcome)
  /-- The 503 `MARKET_POLICY_ENFORCEMENT_TECHNICAL_FAILURE`. -/
  | notAdmitted (stage : AdmissionStage)
deriving DecidableEq

def CallerError.admission : CallerError → AdmissionError
  | .http statusCode code => .http statusCode code
  | .driver message => .driver message

/-- The 409 of a claim conflict; a violated unique index is an error of the driver. -/
def refusalError : AcquireRefusal → AdmissionError
  | .securityNotFound => .http 409 "SECURITY_NOT_FOUND"
  | .entryAlreadyPending => .http 409 "ENTRY_ALREADY_PENDING"
  | .alreadyInPosition => .http 409 "ALREADY_IN_POSITION"
  | .positionClosing => .http 409 "POSITION_CLOSING"
  | .entryExposureUnresolved => .http 409 "ENTRY_EXPOSURE_UNRESOLVED"
  | .uniqueIndex => .driver "Unique constraint failed"
  | .technical message => .driver message

/-- A statement fails, or the transaction does not commit. -/
def AdmissionFault (error : AdmissionError) : Prop := ∃ message, error = .driver message

abbrev AdmissionProgram := Program AdmissionStore AdmissionError

/-- A request with the callbacks of its caller. -/
structure EntryAdmissionRequest where
  tradingAccountId : Nat
  tradingAccountSubscriptionId : Option Nat
  (symbol clientOrderId ownerKey : String)
  requestSource : RequestSource
  createIntent : AdmissionStore → Except CallerError IntentRow
  /-- Work of the caller before the admission; an intent it finds ends it. -/
  prepare : AdmissionStore → Except CallerError (Option Nat)

inductive AdmissionDisposition where
  | runtimeInactive | notApplicable
  | resolved (disposition : Disposition)
deriving DecidableEq

/-- The disposition that the transaction has locked, if it resolved one. -/
def AdmissionDisposition.locked : AdmissionDisposition → Option Disposition
  | .resolved disposition => some disposition
  | _ => none

structure MarketPolicyAdmissionSummary where
  runtimeActive : Bool
  disposition : AdmissionDisposition
  enforced : Bool
  (attemptId obligationId : Option Nat)
deriving DecidableEq

structure EntryAdmissionResult where
  orderIntentId : Nat
  duplicate : Bool
  marketPolicy : MarketPolicyAdmissionSummary
deriving DecidableEq

/-- Where the transaction stands once it has locked the rollout and the assignment. -/
inductive OpenedAdmission where
  | prepared (orderIntentId : Nat)
  | unresolved (rollout : Rollout)
  | legacy (rollout : Rollout) (disposition : AdmissionDisposition)
  | engaged (rollout : Rollout) (resolution : Resolution)
deriving DecidableEq

/-- The intent of the claim with this owner key. -/
def ownedIntent (store : ClaimStore) (ownerKey : String) : Option Nat :=
  (store.claims.find? (·.ownerKey == ownerKey)).bind (·.orderIntentId)

/-- `acquireEntryExposureClaim` up to the creation of the intent: the intent of a duplicate, or the free pair. -/
def requireFreeExposure (request : EntryAdmissionRequest) : AdmissionProgram (Nat ⊕ ExposurePair) := do
  let symbol := normalizeSymbol request.symbol
  match ← read fun store => store.exposure.securities.lookup symbol with
  | none => throw (refusalError .securityNotFound)
  | some securityId =>
    let pair : ExposurePair := ⟨request.tradingAccountId, securityId⟩
    match ← read fun store => ownedIntent store.exposure request.ownerKey with
    | some orderIntentId => pure (.inl orderIntentId)
    | none =>
      match ← read fun store => (store.exposure.activeClaim pair).map fun claim => (claim,
          claim.trackedPositionId.bind fun id => (store.exposure.positions.find? (·.id == id)).map (·.status)) with
      | some (claim, position) =>
        match claim.ownerKey == request.ownerKey, claim.orderIntentId with
        | true, some orderIntentId => pure (.inl orderIntentId)
        | _, _ => throw (refusalError (ownedRefusal claim position))
      | none =>
        match ← read fun store => store.exposure.positions.find? (ClaimStore.isActivePosition pair) with
        | some position =>
          throw (refusalError (if position.status = .closing then .positionClosing else .alreadyInPosition))
        | none =>
          match ← read fun store =>
              store.exposure.intents.find? (store.exposure.isUnresolvedPreClaim request.tradingAccountId symbol) with
          | some _ => throw (refusalError .entryExposureUnresolved)
          | none =>
            match ← read fun store =>
                store.exposure.brokerOrders.find? (store.exposure.isActivePreClaimBuy pair) with
            | some _ => throw (refusalError .entryExposureUnresolved)
            | none => pure (.inr pair)

/-- The writes of `acquireEntryExposureClaim`: the intent of the caller, then its claim. -/
def createClaimedIntent (request : EntryAdmissionRequest) (pair : ExposurePair) (store : AdmissionStore) :
    Except AdmissionError (Acquisition × ClaimStore) :=
  match request.createIntent store with
  | .error error => .error error.admission
  | .ok newIntent =>
    match applyAcquisition pair request.ownerKey newIntent store.exposure with
    | .error refusal => .error (refusalError refusal)
    | .ok acquired => .ok acquired

section Attempts

variable (request : EntryAdmissionRequest)

/-- `attemptIdentity` with the outcome of a technical failure. -/
def attemptIdentity (resolution : Option Resolution) (rolloutVersion : Nat) (evaluatedAt : Int) : AdmissionAttempt where
  id := 0
  requestSource := request.requestSource
  ownerKey := request.ownerKey
  clientOrderId := request.clientOrderId
  tradingAccountId := request.tradingAccountId
  accountSubscriptionId := request.tradingAccountSubscriptionId
  identity := resolution.map (·.identity)
  authorization := resolution.bind (·.authorization)
  rolloutVersion
  enforcementDisposition := resolution.map (·.disposition)
  evaluatedAt
  composition := none
  validUntil := none
  gates := []
  outcome := .technicalFailure
  reasonCode := ""
  orderIntentId := none
  orderIntentCreated := false
  admissionResultCode := AdmissionOutcome.code .technicalFailure

/-- The row of a lapsed or ineffective authorization, which is never evaluated. -/
def lapsedAttempt (rollout : Rollout) (resolution : Resolution) (evaluatedAt : Int) : AdmissionAttempt :=
  let outcome : AdmissionOutcome :=
    if resolution.disposition = .lapsed then .authorizationLapsed else .authorizationIneffective
  let reasonCode :=
    if resolution.disposition = .lapsed then
      "AUTHORIZATION_INVALIDATED_" ++ ((resolution.authorization.bind (·.invalidationReasonCode)).getD "UNKNOWN")
    else resolution.reasons.headD "AUTHORIZATION_INEFFECTIVE"
  { attemptIdentity request (some resolution) rollout.version evaluatedAt with
    outcome, reasonCode, admissionResultCode := outcome.code }

/-- The row of an evaluation that created no intent. -/
def evaluatedAttempt (rollout : Rollout) (resolution : Resolution) (evaluation : MarketPolicyEvaluation)
    (evaluatedAt : Int) (admissionResultCode : String) : AdmissionAttempt :=
  { attemptIdentity request (some resolution) rollout.version evaluatedAt with
    composition := evaluation.composition
    validUntil := evaluation.validUntil
    gates := evaluation.gates
    outcome := evaluation.outcome.admission
    reasonCode := evaluation.reasonCode
    admissionResultCode }

/-- Insert an attempt. -/
def AdmissionStore.recordAttempt (store : AdmissionStore) (attempt : AdmissionAttempt) : AdmissionStore :=
  { store with
    attempts := store.attempts ++ [{ attempt with id := Table.nextId (store.attempts.map (·.id)) }] }

end Attempts

variable (ineffectiveReasons : PolicyContext → AuthorizationRow → List String) (evaluator : Evaluator)

section Transaction

variable (call : Nat) (request : EntryAdmissionRequest)

/-- The caller's preparation, the rollout lock and the locked resolution of the assignment. -/
def openAdmission : AdmissionProgram OpenedAdmission := do
  match ← commit fun store =>
      match request.prepare store with
      | .error error => .error error.admission
      | .ok prepared => .ok (prepared, store) with
  | some orderIntentId => pure (.prepared orderIntentId)
  | none =>
    let rollout ← read fun store => store.context.rollout.getD ⟨false, 0⟩
    if ¬ rollout.enabled then pure (.legacy rollout .runtimeInactive)
    else match request.tradingAccountSubscriptionId with
      | none => pure (.legacy rollout .notApplicable)
      | some accountSubscriptionId =>
        match ← (read fun store => resolveLockedAssignmentMarketPolicyEnforcement ineffectiveReasons
            store.context store.exposure.securities accountSubscriptionId : AdmissionProgram _).attempt with
        | .ok (.ok resolution) =>
          pure (if resolution.disposition ∈ nonEnforcedDispositions then
            .legacy rollout (.resolved resolution.disposition) else .engaged rollout resolution)
        | .ok (.error .notFound) => throw (.http 404 "HTTP_404")
        | _ => pure (.unresolved rollout)

/-- The intent and its claim, as before enforcement. -/
def admitLegacy (rollout : Rollout) (disposition : AdmissionDisposition) (pair : ExposurePair)
    (store : AdmissionStore) : Except AdmissionError (Nat × AdmissionStore) :=
  match createClaimedIntent request pair store with
  | .error error => .error error
  | .ok (acquisition, exposure) =>
    let admission : Admission :=
      ⟨call, request.ownerKey, rollout.enabled, disposition.locked, acquisition.orderIntentId, acquisition.claimId⟩
    .ok (acquisition.orderIntentId, { store with exposure, admissions := store.admissions ++ [admission] })

/-- `legacyAdmission` -/
def legacyAdmission (rollout : Rollout) (disposition : AdmissionDisposition) : AdmissionProgram EntryAdmissionResult := do
  let marketPolicy : MarketPolicyAdmissionSummary := ⟨rollout.enabled, disposition, false, none, none⟩
  match ← requireFreeExposure request with
  | .inl orderIntentId => pure ⟨orderIntentId, true, marketPolicy⟩
  | .inr pair =>
    let orderIntentId ← commit (admitLegacy call request rollout disposition pair)
    pure ⟨orderIntentId, false, marketPolicy⟩

/-- What the enforced admission has decided under its locks. -/
inductive EnforcedDecision where
  | duplicate (orderIntentId : Nat)
  | rejected (attempt : AdmissionAttempt)
  | allowed (evaluation : MarketPolicyEvaluation) (evaluatedAt : Int)
deriving DecidableEq

/-- The rejection of a lapsed or ineffective authorization or of the market, recorded and committed. -/
def rejectAdmission (attempt : AdmissionAttempt) : AdmissionProgram EnforcedDecision := do
  write (·.recordAttempt attempt)
  pure (.rejected attempt)

/-- Evaluate the bound revision; every error is a technical failure. -/
def evaluateEnforcedEntry (resolution : Resolution) (evaluatedAt : Int) : AdmissionProgram MarketPolicyEvaluation := do
  match resolution.boundRevision with
  | none => throw (.technical .marketEvaluation)
  | some revision =>
    match ← (read fun store => evaluateMarketPolicyRevisionOnCurrentComposition evaluator
        store.context.compositions revision.dimensionRules evaluatedAt : AdmissionProgram _).attempt with
    | .ok (.ok evaluation) => pure evaluation
    | _ => throw (.technical .marketEvaluation)

section

variable (rollout : Rollout)

/-- From the identity checks to the evaluation: everything before the claim is acquired. -/
def decideEnforcedAdmission (resolution : Resolution) : AdmissionProgram EnforcedDecision := do
  if request.tradingAccountId ≠ resolution.identity.tradingAccountId then
    throw (.technical .requestAccountMismatch)
  else if resolution.disposition = .enforced ∧ normalizeSymbol request.symbol ≠ resolution.identity.securitySymbol then
    throw (.technical .requestSecurityMismatch)
  else
    match ← read fun store => ownedIntent store.exposure request.ownerKey with
    | some orderIntentId => pure (.duplicate orderIntentId)
    | none =>
      let evaluatedAt ← read (·.context.now)
      if resolution.disposition = .lapsed ∨ resolution.disposition = .authorizationIneffective then
        rejectAdmission (lapsedAttempt request rollout resolution evaluatedAt)
      else
        let evaluation ← evaluateEnforcedEntry evaluator resolution evaluatedAt
        if evaluation.outcome = .allowed then pure (.allowed evaluation evaluatedAt)
        else rejectAdmission (evaluatedAttempt request rollout resolution evaluation evaluatedAt
          evaluation.outcome.admission.code)

/-- The intent, its claim, the allowed attempt and the frozen obligation commit together. -/
def admitEnforced (resolution : Resolution) (evaluation : MarketPolicyEvaluation)
    (evaluatedAt : Int) (pair : ExposurePair) (store : AdmissionStore) :
    Except AdmissionError ((Nat × Nat × Nat) × AdmissionStore) :=
  match createClaimedIntent request pair store, resolution.authorization with
  | .error error, _ => .error error
  | .ok _, none => .error (.technical .obligationFreeze)
  | .ok (acquisition, exposure), some authorization =>
    let attempt : AdmissionAttempt :=
      { evaluatedAttempt request rollout resolution evaluation evaluatedAt (AdmissionOutcome.code .allowed) with
        id := Table.nextId (store.attempts.map (·.id))
        orderIntentId := some acquisition.orderIntentId
        orderIntentCreated := true }
    let obligation : Obligation :=
      { id := Table.nextId (store.obligations.map (·.id))
        orderIntentId := acquisition.orderIntentId
        admissionAttemptId := attempt.id
        identity := resolution.identity
        authorizationId := authorization.id
        authorizationFingerprint := authorization.authorizationFingerprint
        authorityVersion := authorization.authorityVersion
        enrollmentGenerationId := authorization.enrollmentGenerationId
        policyRevisionId := authorization.policyRevisionId
        composition := evaluation.composition
        evaluatedAt
        validUntil := evaluation.validUntil
        rolloutVersion := rollout.version }
    let admission : Admission := ⟨call, request.ownerKey, rollout.enabled, some resolution.disposition,
      acquisition.orderIntentId, acquisition.claimId⟩
    .ok ((acquisition.orderIntentId, attempt.id, obligation.id), { store with
      exposure
      attempts := store.attempts ++ [attempt]
      obligations := store.obligations ++ [obligation]
      admissions := store.admissions ++ [admission] })

/-- An allowed entry still has to acquire its claim; PostgreSQL may refuse the attempt or the obligation. -/
def admitAllowed (resolution : Resolution) (evaluation : MarketPolicyEvaluation)
    (evaluatedAt : Int) : AdmissionProgram EntryAdmissionResult := do
  match ← requireFreeExposure request with
  | .inl orderIntentId =>
    pure ⟨orderIntentId, true, ⟨true, .resolved resolution.disposition, true, none, none⟩⟩
  | .inr pair =>
    let refused ← (answer : AdmissionProgram Bool)
    if refused then throw (.technical .obligationFreeze)
    else
      let (orderIntentId, attemptId, obligationId) ←
        commit (admitEnforced call request rollout resolution evaluation evaluatedAt pair)
      pure ⟨orderIntentId, false, ⟨true, .resolved resolution.disposition, true, some attemptId, some obligationId⟩⟩

end

end Transaction

section Boundary

variable (call : Nat) (request : EntryAdmissionRequest)

section

variable (rollout : Rollout)

/-- Record a technical failure, as far as possible, and fail closed. -/
def failClosed (resolution : Option Resolution) (stage : AdmissionStage) :
    AdmissionProgram EntryAdmissionResult := do
  let _ ← (write fun store => store.recordAttempt
    { attemptIdentity request resolution rollout.version store.context.now with
      reasonCode := "TECHNICAL_FAILURE_" ++ stage.text } : AdmissionProgram Unit).attempt
  throw (.notAdmitted stage)

/-- Once the enforcement is engaged every error but an `HttpError` is a technical failure. -/
def failEngaged (resolution : Resolution) : AdmissionError → AdmissionProgram EntryAdmissionResult
  | .technical stage => failClosed request rollout (some resolution) stage
  | .driver _ => failClosed request rollout (some resolution) .admissionTransaction
  | error => throw error

/-- `recordAllowedNotAdmitted`, for an `HttpError` after the market has allowed the entry. -/
def failAllowed (resolution : Resolution) (evaluation : MarketPolicyEvaluation)
    (evaluatedAt : Int) : AdmissionError → AdmissionProgram EntryAdmissionResult
  | .http statusCode code => do
    let _ ← (write (·.recordAttempt (evaluatedAttempt request rollout resolution evaluation evaluatedAt code))
      : AdmissionProgram Unit).attempt
    throw (.http statusCode code)
  | error => failEngaged request rollout resolution error

end

/-- `admitEntryOrderIntent` -/
def admitEntryOrderIntent : AdmissionProgram EntryAdmissionResult := do
  match ← (openAdmission ineffectiveReasons request).attempt with
  | .error error => throw error
  | .ok (.unresolved rollout) => failClosed request rollout none .authorizationResolution
  | .ok (.prepared orderIntentId) => pure ⟨orderIntentId, true, ⟨false, .notApplicable, false, none, none⟩⟩
  | .ok (.legacy rollout disposition) => legacyAdmission call request rollout disposition
  | .ok (.engaged rollout resolution) =>
    match ← (decideEnforcedAdmission evaluator request rollout resolution).attempt with
    | .error error => failEngaged request rollout resolution error
    | .ok (.duplicate orderIntentId) =>
      pure ⟨orderIntentId, true, ⟨true, .resolved resolution.disposition, true, none, none⟩⟩
    | .ok (.rejected attempt) => throw (.rejected attempt.outcome)
    | .ok (.allowed evaluation evaluatedAt) =>
      match ← (admitAllowed call request rollout resolution evaluation evaluatedAt).attempt with
      | .error error => failAllowed request rollout resolution evaluation evaluatedAt error
      | .ok result => pure result

end Boundary

end AiTrader.Policy
