import AiTrader.Entry.ExposureClaim

/-! # Evidence-based recovery of entry claims

No release decision runs before the delivery classification it depends on is durable. -/

namespace AiTrader.Entry

open Library EntryLifecycle Program

/-- Minimum time between a definitive HTTP rejection and the verification that may release it. -/
def entryDispatchRejectionSettleMs : Nat := 60000

/-- Minimum time between two recovery attempts for one claim. -/
def entryDispatchRecoveryRetryMs : Nat := 60000

def staleAdmissionThresholdMs : Nat := 15 * 60000

def staleSubmittingIntentThresholdMs : Nat := 5 * 60000

def definitiveBrokerRejectionStatusCodes : List Nat := [400, 401, 403, 404, 422, 429]

inductive DispatchReleaseBasis where
  | definiteLocalNonSend | confirmedBrokerRejection
deriving DecidableEq

/-- Why an assessment blocks a release. -/
inductive ReleaseBlocker where
  | claimAlreadyReleased | noDeliveryEvidence | dispatchOutcomeNotRecorded | deliveryOutcomeUncertain
  | brokerRejectionNotDefinitive | brokerRejectionSettling | claimStatusNotRecoverable
  | claimOutcomeNotRecorded | identityMismatch | intentNotTerminal | localBrokerOrderPresent
  | localBrokerActivityPresent | localPositionPresent | localExecutableBuyPresent
  | unattributedBuyFillPresent | brokerLookupFailed | brokerOrderIdentityConflict | brokerOrderFound
  | brokerBuyOrderPresent | brokerPositionPresent
  | claimStatusChanged | dispatchOutcomeChanged | dispatchRecordChanged
deriving DecidableEq

/-- The release basis of recorded outcomes; any uncertain outcome makes absence ambiguous. -/
def evaluateDispatchReleaseBasis (outcomes : List DeliveryOutcome) (now : Nat) :
    Except ReleaseBlocker DispatchReleaseBasis :=
  if outcomes = [] then .error .dispatchOutcomeNotRecorded
  else if outcomes.any fun outcome =>
      !outcome.classification.isLocalNonSend && outcome.classification != .brokerRejected then
    .error .deliveryOutcomeUncertain
  else
    let rejections := outcomes.filter fun outcome => outcome.classification == .brokerRejected
    if rejections = [] then .ok .definiteLocalNonSend
    else if rejections.any fun outcome =>
        !outcome.statusCode.any definitiveBrokerRejectionStatusCodes.contains then
      .error .brokerRejectionNotDefinitive
    else
      let lastRejection := (rejections.map (·.recordedAt)).foldl max 0
      if now < lastRejection + entryDispatchRejectionSettleMs then .error .brokerRejectionSettling
      else .ok .confirmedBrokerRejection

def dispatchOpportunityEventTypes : List OpportunityEventType :=
  [.adapterDispatchReached, .brokerResponseConfirmed, .brokerRejected, .deliveryUncertain]

/-- Durable evidence that a POST for the intent may have started. -/
structure EntryDispatchRecords where
  consumption : Option DispatchConsumption
  unenforced : Option UnenforcedDispatch
  dispatchEvents : Nat
  liveArming : Option LiveArmingConsumption

namespace EntryDispatchRecords

section

variable (records : EntryDispatchRecords)

/-- A market-policy dispatch record whose commit may have lost its acknowledgement. -/
def durable : Bool :=
  records.consumption.isSome || records.unenforced.isSome

def present : Bool :=
  records.consumption.isSome || records.unenforced.isSome || records.liveArming.isSome ||
    decide (0 < records.dispatchEvents)

def startedAt : Option Nat :=
  (records.consumption.map (·.consumedAt)).or
    ((records.unenforced.map (·.authorizedAt)).or (records.liveArming.map (·.occurredAt)))

end

end EntryDispatchRecords

/-- The dispatch records of the intent, one query each. -/
def loadEntryDispatchRecords : EntryProgram EntryDispatchRecords := do
  let consumption ← read (·.consumption)
  let unenforced ← read (·.unenforcedDispatch)
  let dispatchEvents ← read fun store =>
    (store.opportunityEvents.filter dispatchOpportunityEventTypes.contains).length
  let liveArming ← read (·.liveArmingConsumption)
  pure { consumption, unenforced, dispatchEvents, liveArming }

namespace EntryLifecycle

/-- The dispatch records as one transaction sees them. -/
def dispatchRecords (store : EntryLifecycle) : EntryDispatchRecords :=
  { consumption := store.consumption
    unenforced := store.unenforcedDispatch
    dispatchEvents := (store.opportunityEvents.filter dispatchOpportunityEventTypes.contains).length
    liveArming := store.liveArmingConsumption }

end EntryLifecycle

section Assessment

/-- The local rows that would contradict an unsubmitted entry. -/
structure LocalExposure where
  (brokerOrders brokerActivities activePositions localExecutableBuys unattributedFills : Nat)
  trackedPositionAttached : Bool

/-- A BUY fill after dispatch may have started, or at any time when the start is unknown. -/
def fillMayBelong (startedAt transactionTime : Option Nat) : Bool :=
  match startedAt with
  | none => true
  | some started => transactionTime.all fun time => decide (started - 60000 ≤ time)

def localExposure (claim : EntryExposureClaim) (startedAt : Option Nat) : EntryProgram LocalExposure := do
  let brokerOrders ← read (·.brokerOrders.length)
  let brokerActivities ← read (·.brokerActivities.length)
  let activePositions ← read fun store =>
    (store.pairPositions.filter activePositionStatuses.contains).length
  let localExecutableBuys ← read fun store =>
    (store.pairBuyOrders.filter fun order => !conclusivelyNonExecutableStatuses.contains order.status).length
  let unattributedFills ← read fun store =>
    (store.unattributedBuyFills.filter (fillMayBelong startedAt)).length
  pure { brokerOrders, brokerActivities, activePositions, localExecutableBuys, unattributedFills,
         trackedPositionAttached := claim.trackedPositionId.isSome }

def LocalExposure.blockers (exposure : LocalExposure) : List ReleaseBlocker :=
  (if exposure.brokerOrders ≠ 0 then [.localBrokerOrderPresent] else []) ++
  (if exposure.brokerActivities ≠ 0 then [.localBrokerActivityPresent] else []) ++
  (if exposure.activePositions ≠ 0 ∨ exposure.trackedPositionAttached then [.localPositionPresent] else []) ++
  (if exposure.localExecutableBuys ≠ 0 then [.localExecutableBuyPresent] else []) ++
  (if exposure.unattributedFills ≠ 0 then [.unattributedBuyFillPresent] else [])

/-- The fields of an Alpaca order an entry check reads. -/
structure AlpacaOrderView where
  (id clientOrderId symbol side : String)
  status : OrderStatus
  replacedBy : Option String
  /-- The filled quantity as an exact rational, zero when absent; `none` when the text is no finite number. -/
  filledQty : Option ℚ
deriving DecidableEq

structure AlpacaPositionView where
  (symbol side qty : String)
deriving DecidableEq

/-- What the broker lookups returned. -/
structure BrokerVerification where
  order : Option AlpacaOrderView
  openBuys : List AlpacaOrderView
  position : Option AlpacaPositionView
  lookupError : Option String

def BrokerVerification.none : BrokerVerification := ⟨Option.none, [], Option.none, Option.none⟩

/-- The stable client-order-ID lookup, the complete open-BUY inventory and the position. -/
def verifyAtBroker (clientOrderId : Option String) : EntryProgram BrokerVerification :=
  if clientOrderId.isSome then do
    match ← (answer : EntryProgram (Except String BrokerVerification)) with
    | .ok verification => pure { verification with lookupError := Option.none }
    | .error message => pure { BrokerVerification.none with lookupError := some message }
  else pure .none

def claimSymbol (securities : List (String × Nat)) (claim : EntryExposureClaim) : String :=
  ((securities.find? fun security => security.2 == claim.securityId).map (normalizeSymbol ·.1)).getD ""

inductive IdentityMismatch where
  | account | security | side | clientOrderIdMissing | consumption | unenforcedDispatch | liveArming

/-- Every identity the release expects, checked against the claim. -/
def identityMismatches (claim : EntryExposureClaim) (symbol : String) (intent : OrderIntent)
    (records : EntryDispatchRecords) : List IdentityMismatch :=
  (if intent.tradingAccountId ≠ some claim.tradingAccountId then [.account] else []) ++
  (if normalizeSymbol intent.symbol ≠ symbol then [.security] else []) ++
  (if normalizeSide intent.side ≠ "buy" then [.side] else []) ++
  (if intent.clientOrderId.all (· == "") then [.clientOrderIdMissing] else []) ++
  (if records.consumption.any fun consumption =>
      some consumption.clientOrderId != intent.clientOrderId ||
      some consumption.decisionClientOrderId != intent.clientOrderId ||
      consumption.decisionOrderIntentId != intent.id ||
      consumption.decisionTradingAccountId != claim.tradingAccountId ||
      consumption.decisionSecurityId.any (· != claim.securityId) then [.consumption] else []) ++
  (if records.unenforced.any fun unenforced =>
      some unenforced.clientOrderId != intent.clientOrderId ||
      unenforced.tradingAccountId != claim.tradingAccountId ||
      unenforced.securityId != claim.securityId then [.unenforcedDispatch] else []) ++
  (if records.liveArming.any fun liveArming =>
      liveArming.clientOrderId.isSome && liveArming.clientOrderId != intent.clientOrderId
    then [.liveArming] else [])

/-- A fresh assessment of whether an entry claim can be released. -/
structure EntryClaimAssessment where
  claim : EntryExposureClaim
  intent : OrderIntent
  symbol : String
  records : EntryDispatchRecords
  deliveryEvents : List ClaimEvent
  exposure : LocalExposure
  broker : BrokerVerification
  /-- The clock the settle window is measured against. -/
  now : Nat

namespace EntryClaimAssessment

variable (assessment : EntryClaimAssessment)

def summary : DeliveryEvidenceSummary := summarizeDeliveryEvidence assessment.deliveryEvents

def basis : Except ReleaseBlocker DispatchReleaseBasis :=
  evaluateDispatchReleaseBasis assessment.summary.outcomes assessment.now

def mismatches : List IdentityMismatch :=
  identityMismatches assessment.claim assessment.symbol assessment.intent assessment.records

def dispatchEvidence : Bool :=
  assessment.records.present || !assessment.summary.dispatchOutcomes.isEmpty

def brokerOrderConflicts (order : AlpacaOrderView) : Bool :=
  some order.clientOrderId != assessment.intent.clientOrderId ||
    normalizeSymbol order.symbol != assessment.symbol || normalizeSide order.side != "buy"

def brokerBlockers : List ReleaseBlocker :=
  (if assessment.broker.lookupError.isSome then [.brokerLookupFailed] else []) ++
  (match assessment.broker.order with
    | none => []
    | some order =>
      if assessment.brokerOrderConflicts order then [.brokerOrderIdentityConflict] else [.brokerOrderFound]) ++
  (if assessment.broker.openBuys ≠ [] then [.brokerBuyOrderPresent] else []) ++
  (if assessment.broker.position.isSome then [.brokerPositionPresent] else [])

def blockers : List ReleaseBlocker :=
  (if assessment.claim.releasedAt.isSome then [.claimAlreadyReleased] else []) ++
  (if assessment.summary.outcomes = [] ∧ !assessment.records.present then [.noDeliveryEvidence] else []) ++
  (match assessment.basis with
    | .ok _ => []
    | .error blocker =>
      if assessment.summary.outcomes ≠ [] ∨ assessment.records.present then [blocker] else []) ++
  (if !recoverableClaimStatuses.contains assessment.claim.status then [.claimStatusNotRecoverable]
    else if assessment.dispatchEvidence ∧ assessment.claim.status ≠ .unresolved then [.claimOutcomeNotRecorded]
    else []) ++
  (if assessment.mismatches ≠ [] then [.identityMismatch] else []) ++
  (if !terminalEntryIntentStatuses.contains assessment.intent.status then [.intentNotTerminal] else []) ++
  assessment.exposure.blockers ++ assessment.brokerBlockers

def eligible : Bool :=
  assessment.blockers.isEmpty && assessment.basis.toBool

end EntryClaimAssessment

/-- Read-only assessment, one statement for each query and the broker lookups between them. -/
def assessEntryClaimRelease (now : Nat) : EntryProgram EntryClaimAssessment := do
  match ← read fun store => (store.claim, store.intent, store.securities) with
  | (some claim, some intent, securities) =>
    let records ← loadEntryDispatchRecords
    let deliveryEvents ← read (·.deliveryEvents)
    let exposure ← localExposure claim records.startedAt
    let broker ← verifyAtBroker intent.clientOrderId
    pure { claim, intent, symbol := claimSymbol securities claim, records, deliveryEvents, exposure, broker, now }
  | _ => throw (.technical "No entry exposure claim exists for the OrderIntent.")

end Assessment

inductive ReleaseMode where
  | system
  | operator (actorUserId : Option Nat) (confirmationFingerprint : Option String)

inductive VerifiedReleaseOutcome where
  | released | claimAlreadyReleased | claimStatusChanged | confirmationFingerprintMismatch
  | blocked (blockers : List ReleaseBlocker)
deriving DecidableEq

/-- The facts the releasing transaction reads again. -/
def revalidationBlockers (assessment : EntryClaimAssessment) (current : EntryExposureClaim)
    (intentStatus : Option OrderStatus) (exposure : LocalExposure) (evidenceEvents : Nat)
    (records : EntryDispatchRecords) : List ReleaseBlocker :=
  (if current.status ≠ assessment.claim.status then [.claimStatusChanged] else []) ++
  (if !intentStatus.any terminalEntryIntentStatuses.contains then [.intentNotTerminal] else []) ++
  exposure.blockers ++
  (if evidenceEvents ≠ assessment.deliveryEvents.length then [.dispatchOutcomeChanged] else []) ++
  (if records.present ≠ assessment.records.present then [.dispatchRecordChanged] else [])

def ReleaseMode.isOperator : ReleaseMode → Bool
  | .system => false
  | .operator _ _ => true

def DispatchReleaseBasis.text : DispatchReleaseBasis → String
  | .definiteLocalNonSend => "DEFINITE_LOCAL_NON_SEND"
  | .confirmedBrokerRejection => "CONFIRMED_BROKER_REJECTION"

def verifiedReleaseReason (assessment : EntryClaimAssessment) : String :=
  (if assessment.records.present then "VERIFIED_DISPATCH_NO_EXPOSURE:"
    else "VERIFIED_NO_DISPATCH_RECORD_NO_EXPOSURE:") ++
  (match assessment.basis with
    | .ok basis => basis.text
    | .error _ => "null")

/-- The writes of the releasing transaction: the operator's authorization, then the compare-and-set. -/
def applyVerifiedRelease (mode : ReleaseMode) (assessment : EntryClaimAssessment) (store : EntryLifecycle) :
    Except EntryError (VerifiedReleaseOutcome × EntryLifecycle) :=
  let authorized := if mode.isOperator then store.appendEvent .operatorRemediationAuthorized {} else store
  match store.claim with
  | some claim =>
    if claim.status = assessment.claim.status ∧ claim.releasedAt = none then
      .ok (.released, releaseClaim assessment.claim.status (verifiedReleaseReason assessment)
        .releasedVerifiedDispatchNoExposure {} authorized)
    else .ok (.claimStatusChanged, authorized)
  | none => .ok (.claimStatusChanged, authorized)

/-- The releasing transaction: it re-reads under the entry-exposure lock, then compares and sets. -/
def verifiedReleaseTransaction (mode : ReleaseMode) (assessment : EntryClaimAssessment) :
    EntryProgram VerifiedReleaseOutcome := do
  match ← read fun store => (store.claim, store.intentStatus) with
  | (none, _) => pure .claimAlreadyReleased
  | (some current, intentStatus) =>
    if current.releasedAt.isSome then pure .claimAlreadyReleased
    else
      let exposure ← localExposure current assessment.records.startedAt
      let evidenceEvents ← read (·.deliveryEvents.length)
      let records ← loadEntryDispatchRecords
      let revalidation := revalidationBlockers assessment current intentStatus exposure evidenceEvents records
      if revalidation ≠ [] then
        appendClaimDiagnostic .dispatchRecoveryRevalidationBlocked {}
        pure (.blocked revalidation)
      else commit (applyVerifiedRelease mode assessment)

/-- `fingerprint` is the hash of the evidence an operator confirms. -/
def releaseVerifiedEntryExposureClaim (fingerprint : EntryClaimAssessment → String) (mode : ReleaseMode)
    (now : Nat) : EntryProgram VerifiedReleaseOutcome := do
  let assessment ← assessEntryClaimRelease now
  let confirmed := match mode with
    | .system => true
    | .operator actorUserId confirmationFingerprint =>
      actorUserId.any (· != 0) && confirmationFingerprint == some (fingerprint assessment)
  if !confirmed then pure .confirmationFingerprintMismatch
  else if !assessment.eligible then
    if !assessment.blockers.contains .claimAlreadyReleased then
      appendClaimDiagnostic .dispatchRecoveryReleaseBlocked {}
    else pure ()
    pure (.blocked assessment.blockers)
  else verifiedReleaseTransaction mode assessment

end AiTrader.Entry
