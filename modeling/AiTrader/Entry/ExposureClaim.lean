import Mathlib.Data.Rat.Init
import AiTrader.Library.JsString
import AiTrader.Library.Program
import AiTrader.Entry.DeliveryEvidence

/-! # The entry lifecycle of one intent

The store holds every row that decides the delivery of one BUY `OrderIntent`, and the number of order-create POSTs issued
for it. -/

namespace AiTrader.Entry

open Library Program

inductive Environment where
  | paper | live
deriving DecidableEq

/-- The risk evaluation recorded in `rawRequestJson`. -/
structure RiskEvaluation where
  allowed : Bool
  reason : Option String

structure OrderIntent where
  id : Nat
  (tradingAccountId tradingAccountSubscriptionId subscriptionId : Option Nat)
  (symbol side : String)
  status : OrderStatus
  (clientOrderId blockReason : Option String)
  /-- The environment of the intent's account. -/
  environment : Option Environment
  liveEntryAcceptanceRunId : Option Nat
  riskEvaluation : Option RiskEvaluation
  updatedAt : Nat

structure EntryExposureClaim where
  (id tradingAccountId securityId : Nat)
  ownerKey : String
  status : ClaimStatus
  (trackedPositionId releasedAt : Option Nat)
  releaseReason : Option String
  lastDiagnosedAt : Option Nat
  events : List ClaimEvent

/-- A consumed broker-time authorization together with its decision. -/
structure DispatchConsumption where
  id : Nat
  clientOrderId : String
  (consumedAt decisionOrderIntentId decisionTradingAccountId : Nat)
  decisionSecurityId : Option Nat
  decisionClientOrderId : String

/-- A final un-enforced dispatch authorization. -/
structure UnenforcedDispatch where
  id : Nat
  clientOrderId : String
  (tradingAccountId securityId authorizedAt : Nat)

/-- A `CONSUMED` termination of a one-shot LIVE arming for the intent. -/
structure LiveArmingConsumption where
  id : Nat
  clientOrderId : Option String
  occurredAt : Nat

inductive OpportunityEventType where
  | adapterDispatchReached | brokerResponseConfirmed | brokerRejected | deliveryUncertain | recoveryFound
  | brokerOrderMaterialized | recoveryAbsenceConfirmed | recoveryInconclusive | definitelyNotSent | deferred
deriving DecidableEq

/-- A `BrokerOrder` row of the intent. -/
structure LocalBrokerOrder where
  brokerOrderId : String
  status : OrderStatus
deriving DecidableEq

/-- A `BrokerActivity` row of the intent; its quantity is taken as an exact rational. -/
structure LocalActivity where
  isBuyFill : Bool
  qty : ℚ

inductive PositionStatus where
  | opened | closing | closed
deriving DecidableEq

def activePositionStatuses : List PositionStatus := [.opened, .closing]

/-- Every row the lifecycle of one entry intent reads or writes. -/
structure EntryLifecycle where
  /-- Milliseconds since the epoch. -/
  clock : Nat
  /-- The registered securities. -/
  securities : List (String × Nat)
  intent : Option OrderIntent
  claim : Option EntryExposureClaim
  consumption : Option DispatchConsumption
  unenforcedDispatch : Option UnenforcedDispatch
  liveArmingConsumption : Option LiveArmingConsumption
  opportunityEvents : List OpportunityEventType
  /-- Broker orders of the intent. -/
  brokerOrders : List LocalBrokerOrder
  /-- Broker activities of the intent. -/
  brokerActivities : List LocalActivity
  /-- The tracked positions of the account and Security. -/
  pairPositions : List PositionStatus
  /-- The status of the position attached to the claim. -/
  attachedPosition : Option PositionStatus
  /-- The broker BUY orders of the account and Security. -/
  pairBuyOrders : List LocalBrokerOrder
  /-- The transaction times of BUY fills of the account and symbol that no intent owns. -/
  unattributedBuyFills : List (Option Nat)
  /-- The order-create POSTs issued for the intent. -/
  posts : Nat

/-- No row of the entry exists yet. -/
def EntryLifecycle.initial (clock : Nat) (securities : List (String × Nat)) : EntryLifecycle where
  clock := clock
  securities := securities
  intent := none
  claim := none
  consumption := none
  unenforcedDispatch := none
  liveArmingConsumption := none
  opportunityEvents := []
  brokerOrders := []
  brokerActivities := []
  pairPositions := []
  attachedPosition := none
  pairBuyOrders := []
  unattributedBuyFills := []
  posts := 0

/-- Codes of the conflicts (HTTP 409) the claim services raise. -/
inductive ConflictCode where
  | entryExposureUnresolved | entryExposureIdentityMismatch | invalidEntryExposureTransition
  | entryExposureStaleTransition | priorEntryDispatchEvidence | existingBrokerOrderIdentityMismatch
  | entryAdmissionAbandoned
deriving DecidableEq

inductive EntryError where
  | conflict (code : ConflictCode) (message : String)
  | brokerWrite (classification : BrokerWriteDeliveryClassification) (statusCode : Option Nat) (message : String)
  /-- `MarketPolicyBrokerDispatchRefusedError`. -/
  | dispatchRefused (technical : Bool) (outcome reasonCode : String) (decisionId : Option Nat)
  /-- `EntryDispatchRecordedNotSentError`. -/
  | dispatchRecordedNotSent (record : String) (recordId : Nat)
  /-- Any other exception: a database or network failure, a validation error. -/
  | technical (message : String)
deriving DecidableEq

/-- A statement or transaction fails with a technical error. -/
def EntryFault (error : EntryError) : Prop := ∃ message, error = .technical message

abbrev EntryProgram := Program EntryLifecycle EntryError

def trim (text : String) : List Char := strip text.toList

def normalizeSymbol (symbol : String) : String := String.ofList ((trim symbol).map Char.toUpper)

def normalizeSide (side : String) : String := String.ofList ((trim side).map Char.toLower)

namespace EntryLifecycle

section

variable (store : EntryLifecycle)

def securityId (symbol : String) : Option Nat :=
  store.securities.lookup (normalizeSymbol symbol)

def updateIntent (update : OrderIntent → OrderIntent) : EntryLifecycle :=
  { store with intent := store.intent.map fun intent => { update intent with updatedAt := store.clock } }

/-- Compare-and-set of the intent: `true` when its status was one of `sources`. -/
def updateIntentFrom (sources : List OrderStatus)
    (update : OrderIntent → OrderIntent) : Bool × EntryLifecycle :=
  if store.intent.any fun intent => sources.contains intent.status then (true, store.updateIntent update)
  else (false, store)

def updateClaim (update : EntryExposureClaim → EntryExposureClaim) : EntryLifecycle :=
  { store with claim := store.claim.map update }

/-- Append one event to the claim's log; ids of one claim ascend in commit order. -/
def appendEvent (eventType : ClaimEventType) (evidence : EvidenceFields) :
    EntryLifecycle :=
  store.updateClaim fun claim =>
    { claim with events := claim.events ++ [⟨claim.events.length + 1, eventType, evidence, store.clock⟩] }

end

/-- The claim's event log, oldest first. -/
def events (store : EntryLifecycle) : List ClaimEvent := store.claim.elim [] (·.events)

section

variable (store : EntryLifecycle)

def log : List ClaimEventType := store.events.map (·.eventType)

def deliveryEvents : List ClaimEvent :=
  store.events.filter fun event => deliveryEvidenceEventTypes.contains event.eventType

def claimStatus : Option ClaimStatus := store.claim.map (·.status)

def intentStatus : Option OrderStatus := store.intent.map (·.status)

/-- The claim exists and is released. -/
def released : Bool := store.claim.any fun claim => claim.releasedAt.isSome

end

end EntryLifecycle

open EntryLifecycle

/-- A statement on tables outside this store; it can only fail. -/
def elsewhere : EntryProgram Unit := read fun _ => ()

/-- Best-effort telemetry: its failure is swallowed. -/
def bestEffortAppendBrokerOpportunityEvent (eventType : OpportunityEventType) : EntryProgram Unit := do
  let _ ← (write fun store =>
    { store with opportunityEvents := store.opportunityEvents ++ [eventType] } : EntryProgram Unit).attempt
  pure ()

/-- The newest event of one type. -/
def lastEventOf (eventType : ClaimEventType) (claim : EntryExposureClaim) : Option ClaimEvent :=
  claim.events.reverse.find? fun event => event.eventType == eventType

def requireEntryExposureClaim (allowUnresolved : Bool) : EntryProgram EntryExposureClaim := do
  match ← read (·.claim) with
  | none => throw (.conflict .entryExposureUnresolved "Executable entry has no active exposure claim.")
  | some claim =>
    if claim.releasedAt.isSome then
      throw (.conflict .entryExposureUnresolved "Executable entry has no active exposure claim.")
    else if claim.status = .unresolved ∧ !allowUnresolved then
      throw (.conflict .entryExposureUnresolved
        "Entry exposure ownership is unresolved and cannot cross the broker boundary.")
    else pure claim

/-- The identity an entry presents at the broker boundary. -/
structure EntryIdentity where
  (orderIntentId tradingAccountId : Nat)
  (symbol clientOrderId : String)

/-- Whether the intent and its claim match the presented identity and are at the boundary. -/
def executableIdentity (identity : EntryIdentity) (claim : EntryExposureClaim)
    (intent : Option OrderIntent) (securityId : Option Nat) : Bool :=
  match intent with
  | none => false
  | some intent =>
    intent.tradingAccountId == some identity.tradingAccountId &&
    claim.tradingAccountId == identity.tradingAccountId &&
    securityId == some claim.securityId &&
    normalizeSymbol intent.symbol == normalizeSymbol identity.symbol &&
    normalizeSide intent.side == "buy" &&
    intent.clientOrderId == some identity.clientOrderId &&
    intent.status == .submitting &&
    claim.status == .entrySubmitting &&
    intent.environment.isSome

def requireExecutableEntryExposureClaim (identity : EntryIdentity) : EntryProgram EntryExposureClaim := do
  let claim ← requireEntryExposureClaim false
  let intent ← read (·.intent)
  let securityId ← read (·.securityId identity.symbol)
  if executableIdentity identity claim intent securityId then pure claim
  else throw (.conflict .entryExposureIdentityMismatch
    "Entry broker-boundary identity does not match its active claim.")

/-- Append the event unless the newest seen one of its type carries the same evidence. -/
def appendEventOnce (seen : EntryExposureClaim) (eventType : ClaimEventType) (evidence : EvidenceFields)
    (store : EntryLifecycle) : EntryLifecycle :=
  if (lastEventOf eventType seen).any fun prior => prior.evidence == evidence then store
  else store.appendEvent eventType evidence

/-- Compare-and-set of the claim status; only an unreleased claim changes. -/
def compareAndSetStatus (observed next : ClaimStatus) (store : EntryLifecycle) :
    Except EntryError (Bool × EntryLifecycle) :=
  match store.claim with
  | some claim =>
    if claim.status = observed ∧ claim.releasedAt = none then
      .ok (true, store.updateClaim fun claim => { claim with status := next })
    else .ok (false, store)
  | none => .ok (false, store)

/-- The `updateMany` missed: a released or unresolved claim absorbs the observation, else it is stale. -/
def acceptMissedTransition : EntryProgram Unit := do
  match ← read (·.claim) with
  | none => pure ()
  | some current =>
    if current.releasedAt.isSome ∨ current.status = .unresolved then pure ()
    else throw (.conflict .entryExposureStaleTransition
      "Entry exposure changed before this observation could be applied.")

def transitionEntryExposureClaim (status : ClaimStatus) (eventType : ClaimEventType)
    (evidence : EvidenceFields) : EntryProgram Unit := do
  let claim ← requireEntryExposureClaim true
  if claim.status = status then
    write (appendEventOnce claim eventType evidence)
  else if !canTransitionEntryExposureClaim claim.status status then
    throw (.conflict .invalidEntryExposureTransition "Entry exposure claim transition is not permitted.")
  else
    let changed ← commit (compareAndSetStatus claim.status status)
    if changed then write (·.appendEvent eventType evidence) else acceptMissedTransition

/-- Append a diagnostic unless the newest comparable one is identical, and mark the claim as diagnosed. -/
def appendClaimDiagnostic (eventType : ClaimEventType) (evidence : EvidenceFields) : EntryProgram Unit := do
  match ← read (·.claim) with
  | none => pure ()
  | some current =>
    if current.releasedAt.isSome then pure ()
    else
      let compared := if recoveryAttemptResultEventTypes.contains eventType
        then recoveryAttemptResultEventTypes else [eventType]
      let newest := current.events.reverse.find? fun event => compared.contains event.eventType
      write fun store =>
        if newest.any fun prior => prior.eventType == eventType && prior.evidence == evidence then store
        else store.appendEvent eventType evidence
      write fun store => store.updateClaim fun claim =>
        if claim.status = current.status ∧ claim.releasedAt = none then
          { claim with lastDiagnosedAt := some store.clock }
        else claim

/-- Keep ownership and take the claim out of every automatic path. -/
def markClaimUnresolved (eventType : ClaimEventType) (evidence : EvidenceFields) : EntryProgram Unit := do
  match ← read (·.claim) with
  | none => pure ()
  | some current =>
    if current.releasedAt.isSome then pure ()
    else
      let changed ← commit (compareAndSetStatus current.status .unresolved)
      if changed then write (appendEventOnce current eventType evidence) else pure ()

/-- The evidence counts the never-submitted release reads, one query each. -/
structure SubmissionEvidence where
  (brokerOrders brokerActivities brokerDispatchEvidence dispatchConsumptions unenforcedDispatches : Nat)
  liveArmingConsumptions : Nat
  attachedPosition : Option PositionStatus
deriving DecidableEq

def SubmissionEvidence.empty (evidence : SubmissionEvidence) : Bool :=
  evidence.brokerOrders == 0 && evidence.brokerActivities == 0 && evidence.brokerDispatchEvidence == 0 &&
  evidence.dispatchConsumptions == 0 && evidence.unenforcedDispatches == 0 &&
  evidence.liveArmingConsumptions == 0 && evidence.attachedPosition.all (· == .closed)

def dispatchEvidenceOpportunityEvents : List OpportunityEventType :=
  [.adapterDispatchReached, .brokerResponseConfirmed, .brokerRejected, .deliveryUncertain, .recoveryFound]

/-- Whether the observed rows allow the release, and on which basis. -/
def decideNeverSubmittedRelease (claim : EntryExposureClaim) (blockReason : Option String)
    (evidence : SubmissionEvidence) (deliveryEvents : List ClaimEvent) :
    Except EntryError NeverSubmittedBasis :=
  if !preDispatchClaimStatuses.contains claim.status then
    .error (.conflict .entryExposureUnresolved
      "A broker-exposed claim cannot be released by the admission path.")
  else
    match evaluateNeverSubmittedRelease claim.status (summarizeDeliveryEvidence deliveryEvents) blockReason with
    | .ok basis =>
      if evidence.empty then .ok basis
      else .error (.conflict .entryExposureUnresolved
        "Claim has broker, position or uncertain delivery evidence, or lacks recorded not-sent evidence, and cannot be released as unsubmitted.")
    | .error _ => .error (.conflict .entryExposureUnresolved
        "Claim has broker, position or uncertain delivery evidence, or lacks recorded not-sent evidence, and cannot be released as unsubmitted.")

/-- The compare-and-set release with its event. -/
def releaseClaim (observed : ClaimStatus) (reason : String) (eventType : ClaimEventType)
    (evidence : EvidenceFields) (store : EntryLifecycle) : EntryLifecycle :=
  match store.claim with
  | some claim =>
    if claim.status = observed ∧ claim.releasedAt = none then
      (store.updateClaim fun claim =>
        { claim with status := .released, releasedAt := some store.clock, releaseReason := some reason }).appendEvent
          eventType evidence
    else store
  | none => store

/-- What the release decided before its compare-and-set. -/
inductive ReleaseDecision where
  /-- No claim, or one that is already released. -/
  | nothing
  | release (observed : ClaimStatus)

/-- The reads of the never-submitted release, one statement each. -/
def readNeverSubmittedRelease (blockReasonOf : OrderIntent → Option String) : EntryProgram ReleaseDecision := do
  match ← read fun store => (store.claim, store.intent.bind blockReasonOf) with
  | (none, _) => pure .nothing
  | (some claim, blockReason) =>
    if claim.releasedAt.isSome then pure .nothing
    else
      let brokerOrders ← read (·.brokerOrders.length)
      let brokerActivities ← read (·.brokerActivities.length)
      let brokerDispatchEvidence ← read fun store =>
        (store.opportunityEvents.filter dispatchEvidenceOpportunityEvents.contains).length
      let dispatchConsumptions ← read (·.consumption.toList.length)
      let unenforcedDispatches ← read (·.unenforcedDispatch.toList.length)
      let liveArmingConsumptions ← read (·.liveArmingConsumption.toList.length)
      let attachedPosition ← read fun store =>
        if claim.trackedPositionId.isSome then store.attachedPosition else none
      let deliveryEvents ← read (·.deliveryEvents)
      match decideNeverSubmittedRelease claim blockReason
        { brokerOrders, brokerActivities, brokerDispatchEvidence, dispatchConsumptions, unenforcedDispatches,
          liveArmingConsumptions, attachedPosition } deliveryEvents with
      | .ok _ => pure (.release claim.status)
      | .error error => throw error

def applyReleaseDecision (reason : String) (decision : ReleaseDecision) (store : EntryLifecycle) :
    EntryLifecycle :=
  match decision with
  | .nothing => store
  | .release observed => releaseClaim observed reason .releasedNoBrokerExposure { detail := reason } store

/-- The claim as the release leaves it. -/
def releaseUnsubmittedEntryExposureClaim (reason : String) : EntryProgram (Option EntryExposureClaim) := do
  let decision ← readNeverSubmittedRelease (·.blockReason)
  write (applyReleaseDecision reason decision)
  read (·.claim)

/-- Whether a never-submitted release call committed the release it asked for. -/
def releasedByThisCall (claim : Option EntryExposureClaim) (reason : String) : Bool :=
  claim.any fun claim => claim.releasedAt.isSome && claim.releaseReason == some reason

end AiTrader.Entry
