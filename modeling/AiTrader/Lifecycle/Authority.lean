import AiTrader.Entry.ExposureClaim
import AiTrader.Library.Json
import AiTrader.Library.JsNumber
import Mathlib.Data.NNRat.Defs
import Mathlib.Logic.Function.Basic

/-! # Lifecycle authority

A grant for one operation of a PAPER account derives from a fresh assessment, and a validation rereads the evidence.
Between two `await`s the process runs one stretch without interruption. -/

namespace AiTrader.Lifecycle

open Library Library.Program Entry

section Evidence

inductive LifecycleAuthorityOperation where
  | observe | positionCreate | positionMarketRefresh | positionLifecycleTransition | localOrderAdopt
  | subscriptionAttribution | exitStateMutation | entryClaimMutation | reconciliationRepair | brokerExitWrite
deriving DecidableEq

def lifecycleAuthorityOperations : List LifecycleAuthorityOperation :=
  [.observe, .positionCreate, .positionMarketRefresh, .positionLifecycleTransition, .localOrderAdopt,
    .subscriptionAttribution, .exitStateMutation, .entryClaimMutation, .reconciliationRepair, .brokerExitWrite]

inductive LifecycleAuthorityOutcome where
  | executor | observer | unknown | denied

inductive LifecycleAuthorityReasonCode where
  | verifiedExecutor | verifiedObserver | livePolicyIndependent | accountNotFound | unsupportedBroker
  | ownershipUndeclared | ownershipDeclarationDuplicate | ownershipIdentityContradictory | deploymentRoleContradictory
  | storedBrokerIdentityMissing | storedBrokerIdentityMismatch | localBrokerIdentityDuplicate | credentialInactive
  | credentialUnverified | credentialFingerprintMissing | credentialFingerprintMismatch
  | executorFingerprintUnauthorized | brokerIdentityUnavailable | brokerIdentityMismatch

inductive OwnershipRole where
  | observer | executor
deriving DecidableEq

def OwnershipRole.text : OwnershipRole → String
  | .observer => "OBSERVER"
  | .executor => "EXECUTOR"

def OwnershipRole.outcome : OwnershipRole → LifecycleAuthorityOutcome
  | .observer => .observer
  | .executor => .executor

inductive TradingBroker where
  | alpaca
deriving DecidableEq

inductive BrokerCredentialStatus where
  | needsVerification | active | invalid | revoked
deriving DecidableEq

def BrokerCredentialStatus.text : BrokerCredentialStatus → String
  | .needsVerification => "NEEDS_VERIFICATION"
  | .active => "ACTIVE"
  | .invalid => "INVALID"
  | .revoked => "REVOKED"

/-- What is read of a credential; its dates are the texts of `toISOString`. -/
structure CredentialEvidence where
  id : Nat
  status : BrokerCredentialStatus
  (verifiedAt revokedAt keyFingerprint : Option String)
  updatedAt : String

/-- What is read of a `TradingAccount`. -/
structure AccountRow where
  id : Nat
  broker : TradingBroker
  environment : Environment
  brokerAccountId : Option String
  credential : Option CredentialEvidence

structure AccountEvidence where
  account : Option AccountRow
  /-- The accounts with the same identity at the broker. -/
  mappings : List Nat

/-- An item of `PAPER_BROKER_WRITE_OWNERSHIP`. -/
structure Declaration where
  tradingAccountId : Nat
  role : OwnershipRole
  expectedBrokerAccountId : Option String

/-- An item of `PAPER_BROKER_WRITE_AUTHORIZATIONS`. -/
structure WriteAuthorization where
  (brokerAccountId keyFingerprint : String)

inductive DeploymentRole where
  | observationOnly | paperExecutor
deriving DecidableEq

def DeploymentRole.text : DeploymentRole → String
  | .observationOnly => "OBSERVATION_ONLY"
  | .paperExecutor => "PAPER_EXECUTOR"

/-- What the process reads of its environment. -/
structure AuthorityEnvironment where
  deploymentRole : DeploymentRole
  ownership : List Declaration
  authorizations : List WriteAuthorization

/-- A text that is neither missing nor empty. -/
def present : Option String → Bool
  | some text => text != ""
  | none => false

def policyAllows (role : OwnershipRole) (operation : LifecycleAuthorityOperation) : Bool :=
  match role with
  | .executor => lifecycleAuthorityOperations.contains operation
  | .observer => [.observe, .positionCreate, .positionMarketRefresh].contains operation

def deploymentAllows (env : AuthorityEnvironment) (role : OwnershipRole) : Bool :=
  role == .observer || env.deploymentRole == .paperExecutor

def executorFingerprintAuthorized (env : AuthorityEnvironment) (declaration : Declaration) (fingerprint : String) : Bool :=
  declaration.role != .executor || env.authorizations.any fun item =>
    some item.brokerAccountId == declaration.expectedBrokerAccountId && item.keyFingerprint == fingerprint

def CredentialEvidence.json (credential : CredentialEvidence) : Json :=
  .object [("id", .ofNat credential.id), ("status", .string credential.status.text),
    ("verifiedAt", .ofOption .string credential.verifiedAt), ("revokedAt", .ofOption .string credential.revokedAt),
    ("keyFingerprint", .ofOption .string credential.keyFingerprint), ("updatedAt", .string credential.updatedAt)]

def Declaration.json (declaration : Declaration) : Json :=
  .object ([("tradingAccountId", .ofNat declaration.tradingAccountId), ("role", .string declaration.role.text)] ++
    (declaration.expectedBrokerAccountId.map fun expected => ("expectedBrokerAccountId", Json.string expected)).toList)

def WriteAuthorization.json (item : WriteAuthorization) : Json :=
  .object [("brokerAccountId", .string item.brokerAccountId), ("keyFingerprint", .string item.keyFingerprint)]

def TradingBroker.text : TradingBroker → String
  | .alpaca => "ALPACA"

def environmentText : Environment → String
  | .paper => "PAPER"
  | .live => "LIVE"

/-- What the configuration revision is the hash of. -/
def configurationJson (env : AuthorityEnvironment) (account : AccountRow) (declaration : Declaration) : Json :=
  .object [("broker", .string account.broker.text), ("environment", .string (environmentText account.environment)),
    ("deploymentRole", .string env.deploymentRole.text), ("declaration", declaration.json),
    ("brokerAccountId", .ofOption .string account.brokerAccountId),
    ("credential", .ofOption CredentialEvidence.json account.credential),
    ("authorizations", .array (env.authorizations.map WriteAuthorization.json))]

/-- `sha256` is the digest in hexadecimal. -/
def configurationRevision (sha256 : String → String) (env : AuthorityEnvironment) (account : AccountRow)
    (declaration : Declaration) : String :=
  "sha256:" ++ sha256 (String.ofList (configurationJson env account declaration).text)

end Evidence

section Assessment

inductive PolicyDelegation where
  | paperLifecycleAuthority | liveIndependent

/-- An assessment without what is derived from its outcome. -/
structure AssessmentBase where
  tradingAccountId : Nat
  environment : Option Environment
  outcome : LifecycleAuthorityOutcome
  reasonCode : LifecycleAuthorityReasonCode
  reason : String
  (expectedBrokerAccountId storedBrokerAccountId observedBrokerAccountId : Option String)
  (credentialFingerprint configurationRevision : Option String)
  /-- Milliseconds of the wall clock. -/
  verifiedAt : Option Int
  expiresAt : Option Int
  policyDelegation : PolicyDelegation

/-- Why an operation is denied. -/
inductive DenialReasonCode where
  | observerStrategyOperationDenied
  | assessed (reasonCode : LifecycleAuthorityReasonCode)

structure LifecycleAuthorityAssessment extends AssessmentBase where
  allowedOperations : List LifecycleAuthorityOperation
  deniedOperations : List (LifecycleAuthorityOperation × DenialReasonCode)
  provenanceRequiredForStrategyOperations : List String

def LifecycleAuthorityOutcome.role : LifecycleAuthorityOutcome → Option OwnershipRole
  | .executor => some .executor
  | .observer => some .observer
  | _ => none

def immutableAssessment (base : AssessmentBase) : LifecycleAuthorityAssessment :=
  let role := base.outcome.role
  let allowed := fun operation => role.any fun role => policyAllows role operation
  { base with
    allowedOperations := lifecycleAuthorityOperations.filter allowed
    deniedOperations := (lifecycleAuthorityOperations.filter fun operation => !allowed operation).map fun operation =>
      (operation, if role = some .observer then .observerStrategyOperationDenied else .assessed base.reasonCode)
    provenanceRequiredForStrategyOperations := ["Exact local OrderIntent-to-broker-order/fill linkage",
      "Frozen Subscription and TradingAccountSubscription identity",
      "A reviewed append-only provenance decision with non-contradictory evidence"] }

def maxGrantTtlMs : Int := 5 * 60000

/-- When a verification started, as the number of attempt that it is. -/
structure VerificationTiming where
  startedAtMs : Int
  startedElapsedMs : ℚ
  attemptSequence : Nat

/-- The generations when an assessment started. -/
structure Generations where
  (account global : Nat)
deriving DecidableEq

structure InternalVerdict where
  assessment : LifecycleAuthorityAssessment
  role : Option OwnershipRole
  timing : Option VerificationTiming
  generations : Generations

def InternalVerdict.expiresAtMs (internal : InternalVerdict) : Option Int := internal.assessment.expiresAt

def assessmentTimingIsFresh (internal : InternalVerdict) (nowMs : Int) (nowElapsedMs : ℚ) : Bool :=
  match internal.timing, internal.expiresAtMs with
  | some timing, some expiresAtMs =>
    decide (0 ≤ nowElapsedMs - timing.startedElapsedMs) && decide (nowElapsedMs - timing.startedElapsedMs < maxGrantTtlMs) &&
      decide (timing.startedAtMs ≤ nowMs) && decide (nowMs < expiresAtMs)
  | _, _ => false

def baseFor (account : AccountRow) (outcome : LifecycleAuthorityOutcome) (reasonCode : LifecycleAuthorityReasonCode)
    (reason : String) : AssessmentBase where
  tradingAccountId := account.id
  environment := some account.environment
  outcome := outcome
  reasonCode := reasonCode
  reason := reason
  expectedBrokerAccountId := none
  storedBrokerAccountId := account.brokerAccountId
  observedBrokerAccountId := none
  credentialFingerprint := account.credential.bind (·.keyFingerprint)
  configurationRevision := none
  verifiedAt := none
  expiresAt := none
  policyDelegation := .paperLifecycleAuthority

def accountNotFound (tradingAccountId : Nat) : AssessmentBase where
  tradingAccountId := tradingAccountId
  environment := none
  outcome := .unknown
  reasonCode := .accountNotFound
  reason := "The local TradingAccount does not exist."
  expectedBrokerAccountId := none
  storedBrokerAccountId := none
  observedBrokerAccountId := none
  credentialFingerprint := none
  configurationRevision := none
  verifiedAt := none
  expiresAt := none
  policyDelegation := .paperLifecycleAuthority

/-- A refusal with the declared identity. -/
def declaredBase (account : AccountRow) (declaration : Declaration) (outcome : LifecycleAuthorityOutcome)
    (reasonCode : LifecycleAuthorityReasonCode) (reason : String) : AssessmentBase :=
  { baseFor account outcome reasonCode reason with expectedBrokerAccountId := declaration.expectedBrokerAccountId }

/-- What an account must have for its credential to be resolved. -/
structure CheckedAccount where
  account : AccountRow
  declaration : Declaration
  keyFingerprint : String

/-- The credential of a declared account. -/
def checkCredentialRow (account : AccountRow) (declaration : Declaration) : Except AssessmentBase CheckedAccount :=
  match account.credential with
  | none => .error (declaredBase account declaration .denied .credentialInactive "The account credential is inactive or revoked.")
  | some credential =>
    if credential.status ≠ .active ∨ credential.revokedAt.isSome then
      .error (declaredBase account declaration .denied .credentialInactive "The account credential is inactive or revoked.")
    else if credential.verifiedAt = none then
      .error (declaredBase account declaration .unknown .credentialUnverified "The active credential has not been verified.")
    else match credential.keyFingerprint with
      | none => .error (declaredBase account declaration .unknown .credentialFingerprintMissing
          "The verified credential fingerprint is missing.")
      | some keyFingerprint =>
        if keyFingerprint = "" then .error (declaredBase account declaration .unknown .credentialFingerprintMissing
          "The verified credential fingerprint is missing.")
        else .ok ⟨account, declaration, keyFingerprint⟩

/-- The checks of a declared account before its credential is looked at. -/
def checkDeclared (env : AuthorityEnvironment) (account : AccountRow) (mappings : List Nat) (declaration : Declaration) :
    Except AssessmentBase CheckedAccount :=
  -- An identity that is not declared is `undefined` there and `null` here.
  if env.ownership.any fun item => item.tradingAccountId != account.id && item.expectedBrokerAccountId.isSome &&
      item.expectedBrokerAccountId == declaration.expectedBrokerAccountId then
    .error (declaredBase account declaration .denied .ownershipIdentityContradictory
      "The expected brokerage identity is declared for another local account.")
  else if !deploymentAllows env declaration.role then
    .error (declaredBase account declaration .denied .deploymentRoleContradictory
      "The account ownership declaration contradicts the deployment role.")
  else if !present account.brokerAccountId then
    .error (declaredBase account declaration .unknown .storedBrokerIdentityMissing
      "The stored verified brokerage account identity is missing.")
  else if account.brokerAccountId ≠ declaration.expectedBrokerAccountId then
    .error (declaredBase account declaration .denied .storedBrokerIdentityMismatch
      "The stored brokerage identity does not match the ownership declaration.")
  else if mappings ≠ [account.id] then
    .error (declaredBase account declaration .denied .localBrokerIdentityDuplicate
      "The brokerage identity has duplicate or contradictory local mappings.")
  else checkCredentialRow account declaration

/-- The checks before the credential is resolved. -/
def checkEvidence (env : AuthorityEnvironment) (tradingAccountId : Nat) (evidence : AccountEvidence) :
    Except AssessmentBase CheckedAccount :=
  match evidence.account with
  | none => .error (accountNotFound tradingAccountId)
  | some account =>
    if account.environment = .live then
      .error { baseFor account .unknown .livePolicyIndependent
        "LIVE lifecycle authority remains governed by the independent LIVE safety architecture." with
        policyDelegation := .liveIndependent }
    else if account.broker ≠ .alpaca then
      .error (baseFor account .denied .unsupportedBroker "Lifecycle authority currently supports Alpaca accounts only.")
    else match env.ownership.filter fun item => item.tradingAccountId == account.id with
      | [] => .error (baseFor account .unknown .ownershipUndeclared
          "No explicit account-specific PAPER ownership declaration exists.")
      | [declaration] => checkDeclared env account evidence.mappings declaration
      | _ => .error (baseFor account .denied .ownershipDeclarationDuplicate
          "More than one PAPER ownership declaration targets this account.")

/-- What `resolveAlpacaConfigForTradingAccount` returns. -/
structure AlpacaConfig where
  keyFingerprint : Option String
  apiKey : String

/-- The checks of the resolved credential; it is missing when it could not be resolved. -/
def checkConfig (fingerprintSecret : String → String) (env : AuthorityEnvironment) (checked : CheckedAccount)
    (config : Option AlpacaConfig) : Except AssessmentBase Unit :=
  match config with
  | none => .error (declaredBase checked.account checked.declaration .unknown .credentialFingerprintMismatch
      "Credential material could not be resolved and verified.")
  | some config =>
    if config.keyFingerprint ≠ some checked.keyFingerprint ∨ fingerprintSecret config.apiKey ≠ checked.keyFingerprint then
      .error (declaredBase checked.account checked.declaration .denied .credentialFingerprintMismatch
        "Decrypted credential material does not match the stored fingerprint.")
    else if !executorFingerprintAuthorized env checked.declaration checked.keyFingerprint then
      .error (declaredBase checked.account checked.declaration .denied .executorFingerprintUnauthorized
        "Executor lifecycle authority lacks the existing exact fingerprint authorization.")
    else .ok ()

/-- The check of the identity that the broker reports; it is missing when the broker did not answer. -/
def checkObserved (checked : CheckedAccount) (observed : Option String) : Except AssessmentBase String :=
  match observed with
  | none => .error (declaredBase checked.account checked.declaration .unknown .brokerIdentityUnavailable
      "Fresh broker identity verification failed.")
  | some observed =>
    if some observed ≠ checked.declaration.expectedBrokerAccountId ∨ some observed ≠ checked.account.brokerAccountId then
      .error { declaredBase checked.account checked.declaration .denied .brokerIdentityMismatch
        "Broker-returned identity does not exactly match expected and stored identities." with
        observedBrokerAccountId := some observed }
    else .ok observed

def OwnershipRole.reasonCode : OwnershipRole → LifecycleAuthorityReasonCode
  | .executor => .verifiedExecutor
  | .observer => .verifiedObserver

def OwnershipRole.reason : OwnershipRole → String
  | .executor => "Exact PAPER identity and credential state are verified for executor lifecycle assessment."
  | .observer => "Exact PAPER identity and credential state are verified for observer lifecycle assessment."

/-- The verdict of a verification that passed every check. -/
def verifiedVerdict (revision : String) (checked : CheckedAccount) (observed : String) (timing : VerificationTiming)
    (generations : Generations) : InternalVerdict where
  assessment := immutableAssessment
    { declaredBase checked.account checked.declaration checked.declaration.role.outcome checked.declaration.role.reasonCode
        checked.declaration.role.reason with
      observedBrokerAccountId := some observed
      credentialFingerprint := some checked.keyFingerprint
      configurationRevision := some revision
      verifiedAt := some timing.startedAtMs
      expiresAt := some (timing.startedAtMs + maxGrantTtlMs) }
  role := some checked.declaration.role
  timing := some timing
  generations := generations

end Assessment

section Process

structure GrantState where
  tradingAccountId : Nat
  operation : LifecycleAuthorityOperation
  role : OwnershipRole
  (brokerAccountId credentialFingerprint configurationRevision : String)
  issuedAtMs : Int
  (expiresAtMs issuedElapsedMs expiresAfterMs : ℚ)
  lastObservedWallMs : Int
  generations : Generations
  permanentlyExpired : Bool

/-- What a validation meets when its evidence agrees with the grant. -/
structure Conclusion where
  (call grant tradingAccountId : Nat)
  operation : LifecycleAuthorityOperation
  account : AccountRow
  declaration : Declaration
  /-- The grant before its time is checked again. -/
  state : GrantState
  nowMs : Int
  elapsedMs : ℚ
  /-- The generations of the account and of all accounts. -/
  generations : Generations

/-- What happens in the process, in order. -/
inductive AuthorityEvent where
  | verificationStarted (tradingAccountId : Nat) (timing : VerificationTiming)
  | verified (attemptSequence : Nat) (env : AuthorityEnvironment) (checked : CheckedAccount) (observed : String)
  | assessedNegative (tradingAccountId : Nat)
  | invalidated (tradingAccountId : Nat)
  | invalidatedAll
  | issued (grant : Nat) (tradingAccountId : Nat) (operation : LifecycleAuthorityOperation) (attemptSequence : Nat)
  | timeFailed (grant : Nat)
  | concluded (conclusion : Conclusion)

/-- The database, the environment, the monotonic clock (its readings subtract exactly), the memory, and what has happened. -/
structure AuthorityStore where
  accounts : List AccountRow
  env : AuthorityEnvironment
  elapsedMs : ℚ
  grants : Nat → Option GrantState
  nextGrant : Nat
  assessmentCache : Nat → Option InternalVerdict
  accountGenerations : Nat → Nat
  assessmentAttemptSequences : Nat → Option Nat
  globalGeneration : Nat
  log : List AuthorityEvent

/-- A process that has just started. -/
def startedProcess (accounts : List AccountRow) (env : AuthorityEnvironment) (elapsedMs : ℚ) : AuthorityStore where
  accounts := accounts
  env := env
  elapsedMs := elapsedMs
  grants := fun _ => none
  nextGrant := 0
  assessmentCache := fun _ => none
  accountGenerations := fun _ => 0
  assessmentAttemptSequences := fun _ => none
  globalGeneration := 0
  log := []

def AuthorityStore.record (store : AuthorityStore) (event : AuthorityEvent) : AuthorityStore :=
  { store with log := store.log ++ [event] }

def AuthorityStore.generationsFor (store : AuthorityStore) (tradingAccountId : Nat) : Generations :=
  ⟨store.accountGenerations tradingAccountId, store.globalGeneration⟩

def invalidateAccount (tradingAccountId : Nat) (store : AuthorityStore) : AuthorityStore :=
  { store with
    accountGenerations := Function.update store.accountGenerations tradingAccountId
      (store.accountGenerations tradingAccountId + 1)
    assessmentCache := Function.update store.assessmentCache tradingAccountId none }

def negativeVerdict (tradingAccountId : Nat) (base : AssessmentBase) (forceRefresh : Bool) (store : AuthorityStore) :
    InternalVerdict × AuthorityStore :=
  let after :=
    if forceRefresh || (store.assessmentCache tradingAccountId).map (·.role) != some none then
      invalidateAccount tradingAccountId store
    else store
  (⟨immutableAssessment base, none, none, after.generationsFor tradingAccountId⟩,
    after.record (.assessedNegative tradingAccountId))

inductive EvidenceError where
  | databaseUnavailable

abbrev AuthorityProgram := Program AuthorityStore EvidenceError

/-- One reading of the wall clock, and how far the monotonic clock has gone on. -/
structure ClockReading where
  nowMs : Int
  advanceMs : ℚ≥0

/-- One stretch of the process, which reads both clocks once. -/
def stretch {β : Type} (body : Int → ℚ → AuthorityStore → β × AuthorityStore) : AuthorityProgram β := do
  let reading : ClockReading ← answer
  commit fun store =>
    let elapsedMs := store.elapsedMs + reading.advanceMs
    .ok (body reading.nowMs elapsedMs { store with elapsedMs := elapsedMs })

/-- A query, which may fail. -/
def query {β : Type} (view : AuthorityStore → β) : AuthorityProgram β := do
  let reached : Bool ← answer
  if reached then read view else throw .databaseUnavailable

def mappingsOf (account : AccountRow) (store : AuthorityStore) : List Nat :=
  (store.accounts.filter fun other => other.broker == account.broker && other.environment == account.environment &&
    other.brokerAccountId == account.brokerAccountId).map (·.id)

def readAccountEvidence (tradingAccountId : Nat) : AuthorityProgram AccountEvidence := do
  let account ← query fun store => store.accounts.find? fun row => row.id == tradingAccountId
  match account with
  | some row =>
    if present row.brokerAccountId then
      let mappings ← query (mappingsOf row)
      return ⟨some row, mappings⟩
    else return ⟨some row, []⟩
  | none => return ⟨none, []⟩

/-- A verification that has started. -/
structure StartedVerification where
  timing : VerificationTiming
  generations : Generations

/-- Take the cached verdict, or start a verification. -/
def beginAssessment (tradingAccountId : Nat) (forceRefresh : Bool) (nowMs : Int) (nowElapsedMs : ℚ)
    (store : AuthorityStore) : (InternalVerdict ⊕ StartedVerification) × AuthorityStore :=
  let cached := (store.assessmentCache tradingAccountId).filter fun cached =>
    !forceRefresh && assessmentTimingIsFresh cached nowMs nowElapsedMs &&
      cached.generations == store.generationsFor tradingAccountId
  match cached with
  | some cached => (.inl cached, store)
  | none =>
    let attemptSequence := (store.assessmentAttemptSequences tradingAccountId).getD 0 + 1
    let timing : VerificationTiming := ⟨nowMs, nowElapsedMs, attemptSequence⟩
    (.inr ⟨timing, store.generationsFor tradingAccountId⟩,
      { store with
        assessmentAttemptSequences := Function.update store.assessmentAttemptSequences tradingAccountId
          (some attemptSequence) }.record (.verificationStarted tradingAccountId timing))

/-- Go on when the check passes, else return a negative verdict. -/
def orNegative {β : Type} (tradingAccountId : Nat) (forceRefresh : Bool) (checked : Except AssessmentBase β)
    (store : AuthorityStore) : Except InternalVerdict β × AuthorityStore :=
  match checked with
  | .ok value => (.ok value, store)
  | .error base =>
    let (internal, after) := negativeVerdict tradingAccountId base forceRefresh store
    (.error internal, after)

/-- Check what the broker reports and cache the verdict, unless it has been overtaken. -/
def concludeVerification (sha256 : String → String) (tradingAccountId : Nat) (forceRefresh : Bool)
    (started : StartedVerification) (checked : CheckedAccount) (observed : Option String) (nowMs : Int) (nowElapsedMs : ℚ)
    (store : AuthorityStore) : InternalVerdict × AuthorityStore :=
  match checkObserved checked observed with
  | .error base => negativeVerdict tradingAccountId base forceRefresh store
  | .ok observed =>
    let revision := configurationRevision sha256 store.env checked.account checked.declaration
    let internal := verifiedVerdict revision checked observed started.timing started.generations
    let id := checked.account.id
    let after := store.record (.verified started.timing.attemptSequence store.env checked observed)
    if store.generationsFor id = started.generations ∧
        store.assessmentAttemptSequences id = some started.timing.attemptSequence ∧
        assessmentTimingIsFresh internal nowMs nowElapsedMs then
      (internal, { after with assessmentCache := Function.update after.assessmentCache id (some internal) })
    else (internal, after)

variable (sha256 fingerprintSecret : String → String)

def assessInternal (tradingAccountId : Nat) (forceRefresh : Bool) : AuthorityProgram InternalVerdict := do
  match ← stretch (beginAssessment tradingAccountId forceRefresh) with
  | .inl cached => return cached
  | .inr started =>
    let evidence ← readAccountEvidence tradingAccountId
    match ← stretch fun _ _ store =>
        orNegative tradingAccountId forceRefresh (checkEvidence store.env tradingAccountId evidence) store with
    | .error internal => return internal
    | .ok checked =>
      let config : Option AlpacaConfig ← answer
      match ← stretch fun _ _ store =>
          orNegative tradingAccountId forceRefresh (checkConfig fingerprintSecret store.env checked config) store with
      | .error internal => return internal
      | .ok () =>
        let observed : Option String ← answer
        stretch (concludeVerification sha256 tradingAccountId forceRefresh started checked observed)

def assessLifecycleAuthority (tradingAccountId : Nat) (forceRefresh : Bool) :
    AuthorityProgram LifecycleAuthorityAssessment := do
  let internal ← assessInternal sha256 fingerprintSecret tradingAccountId forceRefresh
  return internal.assessment

/-- A number that a caller passes. -/
inductive TtlArgument where
  | finite (ttlMs : ℚ)
  | notFinite

/-- What a grant derives from, when the verdict allows it. -/
structure IssuableVerdict where
  role : OwnershipRole
  timing : VerificationTiming
  (brokerAccountId credentialFingerprint configurationRevision : String)
  expiresAtMs : Int

/-- The checks of a verdict at the moment of issuance. -/
def issuable (tradingAccountId : Nat) (operation : LifecycleAuthorityOperation) (internal : InternalVerdict)
    (issuedAtMs : Int) (issuedElapsedMs : ℚ) (store : AuthorityStore) : Option IssuableVerdict :=
  match internal.role, internal.timing, internal.assessment.observedBrokerAccountId,
      internal.assessment.credentialFingerprint, internal.assessment.configurationRevision, internal.expiresAtMs with
  | some role, some timing, some brokerAccountId, some credentialFingerprint, some revision, some expiresAtMs =>
    if policyAllows role operation ∧ deploymentAllows store.env role ∧
        internal.generations = store.generationsFor tradingAccountId ∧
        store.assessmentAttemptSequences tradingAccountId = some timing.attemptSequence ∧
        assessmentTimingIsFresh internal issuedAtMs issuedElapsedMs ∧
        brokerAccountId ≠ "" ∧ credentialFingerprint ≠ "" ∧ revision ≠ "" then
      some ⟨role, timing, brokerAccountId, credentialFingerprint, revision, expiresAtMs⟩
    else none
  | _, _, _, _, _, _ => none

/-- Store the state of a new grant. -/
def issue (tradingAccountId : Nat) (operation : LifecycleAuthorityOperation) (ttlMs : ℚ) (internal : InternalVerdict)
    (issuedAtMs : Int) (issuedElapsedMs : ℚ) (store : AuthorityStore) : Option Nat × AuthorityStore :=
  match issuable tradingAccountId operation internal issuedAtMs issuedElapsedMs store with
  | none => (none, store)
  | some verdict =>
    let remainingMonotonicMs := maxGrantTtlMs - (issuedElapsedMs - verdict.timing.startedElapsedMs)
    let remainingWallMs : ℚ := verdict.expiresAtMs - issuedAtMs
    let expiresAfterMs := min ttlMs (min remainingMonotonicMs remainingWallMs)
    if remainingMonotonicMs ≤ 0 ∨ remainingWallMs ≤ 0 ∨ expiresAfterMs ≤ 0 then (none, store)
    else
      let state : GrantState :=
        { tradingAccountId, operation, role := verdict.role, brokerAccountId := verdict.brokerAccountId
          credentialFingerprint := verdict.credentialFingerprint, configurationRevision := verdict.configurationRevision
          issuedAtMs, expiresAtMs := min (issuedAtMs + expiresAfterMs) verdict.expiresAtMs, issuedElapsedMs
          expiresAfterMs, lastObservedWallMs := issuedAtMs, generations := internal.generations
          permanentlyExpired := false }
      (some store.nextGrant,
        { store with
          grants := Function.update store.grants store.nextGrant (some state)
          nextGrant := store.nextGrant + 1 }.record
            (.issued store.nextGrant tradingAccountId operation verdict.timing.attemptSequence))

structure GrantRequest where
  tradingAccountId : Nat
  operation : LifecycleAuthorityOperation
  ttlMs : Option TtlArgument

/-- The life time that is asked for, unless it is refused. -/
def GrantRequest.lifetimeMs (args : GrantRequest) : Option ℚ :=
  match args.ttlMs with
  | none => some maxGrantTtlMs
  | some (.finite ttlMs) => if ttlMs ≤ 0 then none else some (min ttlMs maxGrantTtlMs)
  | some .notFinite => none

/-- The grant is the number of its token. -/
def issueLifecycleAuthorityGrant (args : GrantRequest) : AuthorityProgram (Option Nat) := do
  match args.lifetimeMs with
  | none => return none
  | some ttlMs =>
    let internal ← assessInternal sha256 fingerprintSecret args.tradingAccountId false
    stretch (issue args.tradingAccountId args.operation ttlMs internal)

/-- The window of a grant, by both clocks. -/
def GrantState.covers (state : GrantState) (nowMs : Int) (nowElapsedMs : ℚ) : Bool :=
  decide (state.issuedAtMs ≤ nowMs) && decide (state.lastObservedWallMs ≤ nowMs) && decide ((nowMs : ℚ) < state.expiresAtMs) &&
    decide (0 ≤ nowElapsedMs - state.issuedElapsedMs) && decide (nowElapsedMs - state.issuedElapsedMs < state.expiresAfterMs) &&
    decide (state.expiresAfterMs ≤ maxGrantTtlMs)

def grantTimeIsValid (grant : Nat) (state : GrantState) (nowMs : Int) (nowElapsedMs : ℚ) (store : AuthorityStore) :
    Bool × AuthorityStore :=
  if state.covers nowMs nowElapsedMs then
    (true, { store with
      grants := Function.update store.grants grant (some { state with lastObservedWallMs := nowMs }) })
  else
    (false, { store with
      grants := Function.update store.grants grant (some { state with permanentlyExpired := true }) }.record
        (.timeFailed grant))

structure ValidationRequest where
  (grant tradingAccountId : Nat)
  operation : LifecycleAuthorityOperation

/-- The checks of a validation before it reads the evidence. -/
def beginValidation (args : ValidationRequest) (nowMs : Int) (nowElapsedMs : ℚ) (store : AuthorityStore) :
    Bool × AuthorityStore :=
  match store.grants args.grant with
  | none => (false, store)
  | some state =>
    if state.permanentlyExpired ∨ state.tradingAccountId ≠ args.tradingAccountId ∨ state.operation ≠ args.operation then
      (false, store)
    else
      let (timely, after) := grantTimeIsValid args.grant state nowMs nowElapsedMs store
      (timely && state.generations == store.generationsFor args.tradingAccountId, after)

/-- The account and the declaration that are read, when they agree with the grant. -/
def agreeingEvidence (env : AuthorityEnvironment) (state : GrantState) (operation : LifecycleAuthorityOperation)
    (evidence : AccountEvidence) : Option (AccountRow × Declaration) :=
  match evidence.account with
  | none => none
  | some account =>
    if account.broker ≠ .alpaca ∨ account.environment ≠ .paper ∨ account.brokerAccountId ≠ some state.brokerAccountId ∨
        evidence.mappings ≠ [account.id] then none
    else match env.ownership.filter fun item => item.tradingAccountId == account.id, account.credential with
      | [declaration], some credential =>
        if declaration.role = state.role ∧ deploymentAllows env declaration.role ∧
            policyAllows declaration.role operation ∧
            declaration.expectedBrokerAccountId = some state.brokerAccountId ∧
            credential.status = .active ∧ credential.revokedAt = none ∧ credential.verifiedAt.isSome ∧
            credential.keyFingerprint = some state.credentialFingerprint ∧
            executorFingerprintAuthorized env declaration state.credentialFingerprint ∧
            configurationRevision sha256 env account declaration = state.configurationRevision then
          some (account, declaration)
        else none
      | _, _ => none

/-- The checks of a validation after it has read the evidence. -/
def concludeValidation (call : Nat) (args : ValidationRequest) (evidence : AccountEvidence) (nowMs : Int)
    (nowElapsedMs : ℚ) (store : AuthorityStore) : Bool × AuthorityStore :=
  match store.grants args.grant with
  | none => (false, store)
  | some state =>
    match agreeingEvidence sha256 store.env state args.operation evidence with
    | none => (false, store)
    | some (account, declaration) =>
      let generations := store.generationsFor args.tradingAccountId
      let (timely, after) := grantTimeIsValid args.grant state nowMs nowElapsedMs
        (store.record (.concluded ⟨call, args.grant, args.tradingAccountId, args.operation, account, declaration, state,
          nowMs, nowElapsedMs, generations⟩))
      (timely && state.generations == generations, after)

/-- The part of a validation that reads the evidence; a failed read is a failed validation. -/
def validateAgainstEvidence (call : Nat) (args : ValidationRequest) : AuthorityProgram Bool := do
  match ← (readAccountEvidence args.tradingAccountId).attempt with
  | .error _ => return false
  | .ok evidence => stretch (concludeValidation sha256 call args evidence)

def validateLifecycleAuthorityGrant (call : Nat) (args : ValidationRequest) : AuthorityProgram Bool := do
  if ← stretch (beginValidation args) then validateAgainstEvidence sha256 call args else return false

/-- Invalidate one account, or all of them. -/
def invalidateCache (tradingAccountId : Option Nat) (store : AuthorityStore) : AuthorityStore :=
  match tradingAccountId with
  | none => { store with globalGeneration := store.globalGeneration + 1, assessmentCache := fun _ => none }.record
      .invalidatedAll
  | some id => (invalidateAccount id store).record (.invalidated id)

def invalidateLifecycleAuthorityCache (tradingAccountId : Option Nat) : AuthorityProgram Unit :=
  stretch fun _ _ store => ((), invalidateCache tradingAccountId store)

end Process

end AiTrader.Lifecycle
