import Mathlib.Data.List.Sort
import AiTrader.Entry.LifecycleStatus

/-! # Delivery evidence

Claim events record what is known about the delivery of an entry; every release decision reads them, never the absence of
a record. -/

namespace AiTrader.Entry

/-- The types of `EntryExposureClaimEvent`. -/
inductive ClaimEventType where
  | acquired | workerClaimedForSubmission | adapterInvocationStarted | notSentEvidenceRecorded
  | dispatchOutcomeRecorded | brokerDeliveryUncertain
  | brokerOrderAccepted | brokerOrderRecovered | recoveryLinkedLocalBrokerOrder
  | recoveryFoundBrokerOrder | positionAttached | positionAttachmentConflict
  | positionAttachmentOrderIntentConflict | observedUnattributedBrokerPosition
  | brokerOrderFilledAwaitingPosition | closedPositionRequiresOperatorReview
  | authoritativeReleaseIdentityConflict | authoritativeReleaseRetryable | authoritativeReleaseBlocked
  | authoritativeReleaseFillsIncomplete | authoritativeReleaseRevalidationBlocked
  | releasedNoBrokerExposure | releasedVerifiedDispatchNoExposure | releasedAuthoritativeNoExposure
  | releasedOperatorVerifiedPositionOnly | operatorPositionOnlyReleaseRefused
  | operatorRemediationAuthorized
  | dispatchOutcomeNotApplied | dispatchRecoveryReleaseBlocked | dispatchRecoveryRevalidationBlocked
  | dispatchRecoveryError | recoveryAttemptFailed | unsubmittedReleaseRefused
  | preBoundaryFailureWithPriorDispatchRecord | dispatchRecoveryAttemptResult
  | staleAdmissionRecoveryBlocked
  | brokerOrderStatusObserved | submittedOrderLocalBrokerOrderMissing
deriving DecidableEq

/-- The classification recorded with an outcome or a not-sent record. -/
inductive DeliveryClassification where
  | notSentPreDispatch | notSentLocalBlocked | notSentLocalRetryable | notSentDispatchRecordAckLost
  | brokerRejected | deliveryUncertain | dispatchOutcomeUnknown
  /-- A text no current writer records. -/
  | unlisted (text : String)
deriving DecidableEq

/-- Classifications that prove no network request was issued for the claim's intent. -/
def localNonSendClassifications : List DeliveryClassification :=
  [.notSentPreDispatch, .notSentLocalBlocked, .notSentLocalRetryable, .notSentDispatchRecordAckLost]

def DeliveryClassification.isLocalNonSend (classification : DeliveryClassification) : Bool :=
  localNonSendClassifications.contains classification

inductive OutcomeObservation where
  | observed | inferred
deriving DecidableEq

inductive AdapterInvocation where
  | notInvoked | localGuardBeforeRequest | httpResponseReceived | unknown
deriving DecidableEq

inductive RecoverySource where
  | worker | staleRecovery | terminalClaimSweep | staleAdmissionRecovery | adapterInvocationMarker
deriving DecidableEq

/-- The fields of a claim event's `evidenceJson` that a decision reads; `detail` is the rest of it. -/
structure EvidenceFields where
  classification : Option DeliveryClassification := none
  statusCode : Option Nat := none
  observation : Option OutcomeObservation := none
  adapterInvocation : Option AdapterInvocation := none
  source : Option RecoverySource := none
  /-- Whether `markerProtocol` is `ADAPTER_MARKER_V1`. -/
  adapterMarkerProtocol : Bool := false
  detail : String := ""
deriving DecidableEq

/-- A row of `EntryExposureClaimEvent`. -/
structure ClaimEvent where
  id : Nat
  eventType : ClaimEventType
  evidence : EvidenceFields
  createdAt : Nat
deriving DecidableEq

def dispatchOutcomeEventTypes : List ClaimEventType := [.dispatchOutcomeRecorded, .brokerDeliveryUncertain]

def deliveryEvidenceEventTypes : List ClaimEventType :=
  dispatchOutcomeEventTypes ++
    [.notSentEvidenceRecorded, .adapterInvocationStarted, .workerClaimedForSubmission]

/-- Diagnostics that describe the result of one recovery attempt. -/
def recoveryAttemptResultEventTypes : List ClaimEventType :=
  [.dispatchRecoveryReleaseBlocked, .dispatchRecoveryRevalidationBlocked, .dispatchRecoveryError,
    .recoveryAttemptFailed, .unsubmittedReleaseRefused, .preBoundaryFailureWithPriorDispatchRecord,
    .dispatchRecoveryAttemptResult]

inductive OutcomeKind where
  | outcome | notSent | unpairedAdapterMarker
deriving DecidableEq

structure DeliveryOutcome where
  eventId : Nat
  kind : OutcomeKind
  classification : DeliveryClassification
  statusCode : Option Nat
  observation : OutcomeObservation
  adapterInvocation : AdapterInvocation
  source : Option RecoverySource
  recordedAt : Nat

/-- The outcome of a recorded event, with the defaults for events from before a field existed. -/
def outcomeOf (event : ClaimEvent) : DeliveryOutcome :=
  let evidence := event.evidence
  if event.eventType = .notSentEvidenceRecorded then
    { eventId := event.id
      kind := .notSent
      classification := evidence.classification.getD .notSentPreDispatch
      statusCode := none
      observation := .observed
      adapterInvocation :=
        if evidence.adapterInvocation = some .localGuardBeforeRequest then .localGuardBeforeRequest else .notInvoked
      source := evidence.source
      recordedAt := event.createdAt }
  else
    let legacyUncertain : Bool := event.eventType = .brokerDeliveryUncertain
    let classification :=
      if legacyUncertain then .deliveryUncertain else evidence.classification.getD .dispatchOutcomeUnknown
    let source := evidence.source.or (if legacyUncertain then some .worker else none)
    { eventId := event.id
      kind := .outcome
      classification
      statusCode := evidence.statusCode
      observation := evidence.observation.getD (if source = some .worker then .observed else .inferred)
      adapterInvocation := evidence.adapterInvocation.getD
        (match classification with
          | .brokerRejected => .httpResponseReceived
          | .notSentDispatchRecordAckLost => .notInvoked
          | .notSentLocalBlocked | .notSentLocalRetryable => .localGuardBeforeRequest
          | .unlisted text =>
            if "NOT_SENT_LOCAL".isPrefixOf text then .localGuardBeforeRequest else .unknown
          | _ => .unknown)
      source
      recordedAt := event.createdAt }

/-- The outcome of an adapter invocation that nothing closed before the next one. -/
def unpairedMarkerOutcome (marker : ClaimEvent) : DeliveryOutcome :=
  { eventId := marker.id
    kind := .unpairedAdapterMarker
    classification := .dispatchOutcomeUnknown
    statusCode := none
    observation := .inferred
    adapterInvocation := .unknown
    source := some .adapterInvocationMarker
    recordedAt := marker.createdAt }

/-- Markers without an outcome or not-sent record from the same attempt. -/
def unpairedMarkers (recorded : List DeliveryOutcome) : List ClaimEvent → List ClaimEvent
  | [] => []
  | marker :: rest =>
    let closed := recorded.any fun outcome =>
      decide (marker.id < outcome.eventId) && (rest.head?.all fun next => decide (outcome.eventId < next.id))
    if closed then unpairedMarkers recorded rest else marker :: unpairedMarkers recorded rest

structure DeliveryEvidenceSummary where
  (outcomes notSent dispatchOutcomes ambiguous : List DeliveryOutcome)
  adapterMarkers : Nat
  markerProtocol : Bool
  /-- The worker saw a failure after the adapter may have issued a request. -/
  adapterRequestObserved : Bool

def isRecordedOutcome (event : ClaimEvent) : Bool :=
  dispatchOutcomeEventTypes.contains event.eventType || event.eventType == .notSentEvidenceRecorded

/-- Summary of a claim's delivery evidence events, in any order and among any other events. -/
def summarizeDeliveryEvidence (events : List ClaimEvent) : DeliveryEvidenceSummary :=
  let sorted := events.insertionSort fun left right => left.id ≤ right.id
  let recorded := (sorted.filter isRecordedOutcome).map outcomeOf
  let markers := sorted.filter fun event => event.eventType == .adapterInvocationStarted
  let unpaired := (unpairedMarkers recorded markers).map unpairedMarkerOutcome
  let outcomes := (recorded ++ unpaired).insertionSort fun left right => left.eventId ≤ right.eventId
  { outcomes
    notSent := outcomes.filter fun outcome => outcome.kind == .notSent
    dispatchOutcomes := outcomes.filter fun outcome => outcome.kind != .notSent
    ambiguous := outcomes.filter fun outcome => !outcome.classification.isLocalNonSend
    adapterMarkers := markers.length
    markerProtocol := sorted.any fun event =>
      event.eventType == .workerClaimedForSubmission && event.evidence.adapterMarkerProtocol
    adapterRequestObserved := outcomes.any fun outcome =>
      outcome.observation == .observed &&
        [AdapterInvocation.httpResponseReceived, .unknown].contains outcome.adapterInvocation }

/-- The adapter's classification of a failed broker write. -/
inductive BrokerWriteDeliveryClassification where
  | notSentRetryable | notSentBlocked | brokerRejected | deliveryUncertain
deriving DecidableEq

def BrokerWriteDeliveryClassification.text : BrokerWriteDeliveryClassification → String
  | .notSentRetryable => "NOT_SENT_RETRYABLE"
  | .notSentBlocked => "NOT_SENT_BLOCKED"
  | .brokerRejected => "BROKER_REJECTED"
  | .deliveryUncertain => "DELIVERY_UNCERTAIN"

private def deliveryClassificationAt (text : List Char) : Option BrokerWriteDeliveryClassification :=
  [BrokerWriteDeliveryClassification.notSentRetryable, .notSentBlocked, .brokerRejected,
    .deliveryUncertain].find? fun classification =>
      ("BROKER_WRITE_DELIVERY:" ++ classification.text).toList.isPrefixOf text

private def firstDeliveryClassification : List Char → Option BrokerWriteDeliveryClassification
  | [] => none
  | head :: rest => (deliveryClassificationAt (head :: rest)).or (firstDeliveryClassification rest)

/-- The classification a block reason names anywhere in its text. -/
def blockReasonDeliveryClassification (blockReason : Option String) :
    Option BrokerWriteDeliveryClassification :=
  blockReason.bind fun reason => firstDeliveryClassification reason.toList

/-- A block reason that already carries delivery uncertainty, which later text must not replace. -/
def blockReasonCarriesDeliveryUncertainty (blockReason : Option String) : Bool :=
  let classification := blockReasonDeliveryClassification blockReason
  classification == some .brokerRejected || classification == some .deliveryUncertain ||
    ["DISPATCH_STARTED_OUTCOME_UNKNOWN", "STALE_SUBMISSION_OUTCOME_UNKNOWN"].any fun start =>
      start.toList.isPrefixOf (blockReason.getD "").toList

/-- Keep stronger existing delivery evidence in the block reason. -/
def preserveBlockReason (prior : Option String) (next : String) : Option String :=
  if blockReasonCarriesDeliveryUncertainty prior then prior else some next

inductive NeverSubmittedBasis where
  | claimNeverReachedBrokerBoundary | recordedNotSentEvidence
deriving DecidableEq

inductive NeverSubmittedBlocker where
  | deliveryEvidenceAmbiguous | blockReasonDeliveryUncertain | notSentEvidenceNotRecorded
deriving DecidableEq

/-- Whether the never-submitted release may run for a claim. -/
def evaluateNeverSubmittedRelease (claimStatus : ClaimStatus) (summary : DeliveryEvidenceSummary)
    (blockReason : Option String) : Except NeverSubmittedBlocker NeverSubmittedBasis :=
  if summary.ambiguous ≠ [] then .error .deliveryEvidenceAmbiguous
  else if blockReasonCarriesDeliveryUncertainty blockReason then .error .blockReasonDeliveryUncertain
  else if claimStatus.neverReachedBroker ∧ summary.adapterMarkers = 0 then
    .ok .claimNeverReachedBrokerBoundary
  else if summary.notSent ≠ [] then .ok .recordedNotSentEvidence
  else .error .notSentEvidenceNotRecorded

section Summary

/-- Membership in a log of an event of one type. -/
def Recorded (eventType : ClaimEventType) (events : List ClaimEvent) : Prop :=
  ∃ event ∈ events, event.eventType = eventType

theorem outcomeOf_kind_eq_notSent_iff {event : ClaimEvent} :
    (outcomeOf event).kind = .notSent ↔ event.eventType = .notSentEvidenceRecorded := by
  unfold outcomeOf
  split_ifs with same
  · simp [same]
  · simp [same]

variable {events : List ClaimEvent}

theorem recorded_notSent_of_summary (present : (summarizeDeliveryEvidence events).notSent ≠ []) :
    Recorded .notSentEvidenceRecorded events := by
  obtain ⟨outcome, member⟩ := List.exists_mem_of_ne_nil _ present
  simp only [summarizeDeliveryEvidence, List.mem_filter, List.mem_insertionSort, List.mem_append, List.mem_map,
    beq_iff_eq] at member
  obtain ⟨⟨event, ⟨sorted, _⟩, rfl⟩ | ⟨event, _, rfl⟩, notSent⟩ := member
  · exact ⟨event, sorted, outcomeOf_kind_eq_notSent_iff.mp notSent⟩
  · exact absurd notSent (by simp [unpairedMarkerOutcome])

theorem adapterMarkers_eq_zero_iff :
    (summarizeDeliveryEvidence events).adapterMarkers = 0 ↔ ¬ Recorded .adapterInvocationStarted events := by
  simp only [summarizeDeliveryEvidence, List.length_eq_zero_iff, List.filter_eq_nil_iff,
    List.mem_insertionSort, beq_iff_eq, Recorded, not_exists, not_and]

/-- A proven release rests on the claim state machine or on a recorded not-sent event. -/
theorem evaluateNeverSubmittedRelease_sound {claimStatus : ClaimStatus}
    {blockReason : Option String} {basis : NeverSubmittedBasis}
    (proven : evaluateNeverSubmittedRelease claimStatus (summarizeDeliveryEvidence events) blockReason = .ok basis) :
    claimStatus.neverReachedBroker = true ∨ Recorded .notSentEvidenceRecorded events := by
  unfold evaluateNeverSubmittedRelease at proven
  split_ifs at proven with _ _ early notSent
  · exact .inl early.1
  · exact .inr (recorded_notSent_of_summary notSent)

end Summary

end AiTrader.Entry
