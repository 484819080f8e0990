import AiTrader.Entry.DispatchRecovery

/-! # Recording delivery outcomes and routing refused releases

A failure after the broker boundary is recorded as an immutable outcome and moves the claim to `UNRESOLVED`. -/

namespace AiTrader.Entry

open Library EntryLifecycle

/-- The adapter's classification of a failure after the broker boundary. -/
def entryDispatchOutcomeFor : Option BrokerWriteDeliveryClassification → DeliveryClassification
  | some .notSentBlocked => .notSentLocalBlocked
  | some .notSentRetryable => .notSentLocalRetryable
  | some .brokerRejected => .brokerRejected
  | _ => .deliveryUncertain

def adapterInvocationFor : DeliveryClassification → AdapterInvocation
  | .notSentDispatchRecordAckLost => .notInvoked
  | .notSentLocalBlocked | .notSentLocalRetryable => .localGuardBeforeRequest
  | .brokerRejected => .httpResponseReceived
  | _ => .unknown

/-- What a caller records about one failed attempt. -/
structure DispatchOutcomeReport where
  classification : DeliveryClassification
  source : RecoverySource
  observation : OutcomeObservation
  statusCode : Option Nat := none
  message : String := ""

section

variable (report : DispatchOutcomeReport)

def DispatchOutcomeReport.evidence : EvidenceFields :=
  { classification := some report.classification
    statusCode := report.statusCode
    observation := some report.observation
    adapterInvocation := some (adapterInvocationFor report.classification)
    source := some report.source
    detail := report.message }

/-- Record an outcome and keep ownership as `UNRESOLVED`, in separate statements. -/
def recordEntryDispatchOutcome : EntryProgram Unit := do
  let _ ← loadEntryDispatchRecords
  match ← Program.read (·.claim) with
  | none => pure ()
  | some claim =>
    if claim.releasedAt.isSome then pure ()
    else if !recoverableClaimStatuses.contains claim.status then
      appendClaimDiagnostic .dispatchOutcomeNotApplied report.evidence
    else transitionEntryExposureClaim .unresolved .dispatchOutcomeRecorded report.evidence

/-- The same inside a caller's transaction, which saw `seen` before it commits. -/
def recordOutcomeWithin (seen : Option EntryExposureClaim)
    (store : EntryLifecycle) : Except EntryError EntryLifecycle :=
  match seen with
  | none => .ok store
  | some claim =>
    if claim.releasedAt.isSome then .ok store
    else if !recoverableClaimStatuses.contains claim.status then
      .ok (appendEventOnce claim .dispatchOutcomeNotApplied report.evidence store)
    else if claim.status = .unresolved then
      .ok (appendEventOnce claim .dispatchOutcomeRecorded report.evidence store)
    else
      match compareAndSetStatus claim.status .unresolved store with
      | .ok (true, changed) => .ok (changed.appendEvent .dispatchOutcomeRecorded report.evidence)
      | .ok (false, _) =>
        if store.claim.all fun current => current.releasedAt.isSome || current.status == .unresolved then .ok store
        else .error (.conflict .entryExposureStaleTransition
          "Entry exposure changed before this observation could be applied.")
      | .error error => .error error

end

/-- Structured proof that no network request was issued. -/
def appendNotSentEvidence (classification : DeliveryClassification) (source : RecoverySource)
    (producer reason : String) (store : EntryLifecycle) : EntryLifecycle :=
  store.appendEvent .notSentEvidenceRecorded
    { classification := some classification
      adapterInvocation := some
        (if classification = .notSentPreDispatch then .notInvoked else .localGuardBeforeRequest)
      source := some source
      detail := producer ++ ":" ++ reason }

/-- Error codes that are themselves evidence about delivery or ownership. -/
def preDispatchProofExcludedErrorCodes : List ConflictCode :=
  [.existingBrokerOrderIdentityMismatch, .priorEntryDispatchEvidence, .entryExposureIdentityMismatch,
    .entryExposureUnresolved, .invalidEntryExposureTransition, .entryExposureStaleTransition]

def isPreDispatchProofCandidateError : EntryError → Bool
  | .brokerWrite _ _ _ => false
  | .conflict code _ => !preDispatchProofExcludedErrorCodes.contains code
  | _ => true

/-- Durable proof, in the persistence transaction, that the attempt never invoked the adapter. -/
def proveWorkerPreDispatchNonDelivery (tradingAccountId : Nat) (store : EntryLifecycle) : Bool :=
  match store.claim, store.intent with
  | some claim, some intent =>
    let summary := summarizeDeliveryEvidence store.deliveryEvents
    let workerClaims := store.deliveryEvents.filter fun event => event.eventType == .workerClaimedForSubmission
    claim.releasedAt.isNone && claim.status == .entrySubmitting &&
    claim.tradingAccountId == tradingAccountId && intent.tradingAccountId == some tradingAccountId &&
    claim.trackedPositionId.isNone && intent.status == .submitting &&
    intent.blockReason.all (· == "") &&
    workerClaims.any (fun event => event.evidence.adapterMarkerProtocol) &&
    decide (workerClaims.length ≤ 1) && summary.adapterMarkers == 0 && summary.outcomes.isEmpty &&
    !store.dispatchRecords.present && store.brokerOrders.isEmpty && store.brokerActivities.isEmpty
  | _, _ => false

inductive UnsubmittedReleaseOutcome where
  | released | alreadyReleased | notReleased | routedToEvidenceRecovery | refusedRetained | retryableFailure
deriving DecidableEq

def recordRecoveryError : EntryProgram Unit := do
  match ← (Program.read (·.claim) : EntryProgram _).attempt with
  | .ok (some _) =>
    let _ ← (appendClaimDiagnostic .dispatchRecoveryError {}).attempt
    pure ()
  | _ => pure ()

/-- `.catch((error) => recordRecoveryError(...))`: the failure is recorded instead of raised. -/
def catchRecordingError {α : Type} (program : EntryProgram α) : EntryProgram Unit := do
  match ← program.attempt with
  | .ok _ => pure ()
  | .error _ => recordRecoveryError

/-- A definite local non-send is verified at once; anything else waits for the sweep. -/
def attemptReleaseAfterRecordedOutcome (fingerprint : EntryClaimAssessment → String)
    (classification : DeliveryClassification) : EntryProgram Bool :=
  if classification.isLocalNonSend then do
    let now ← Program.read (·.clock)
    match ← (releaseVerifiedEntryExposureClaim fingerprint .system now).attempt with
    | .ok outcome => pure (outcome == .released)
    | .error _ =>
      recordRecoveryError
      pure false
  else pure false

def routeEntryDispatchFailure (fingerprint : EntryClaimAssessment → String) (report : DispatchOutcomeReport) :
    EntryProgram Bool := do
  recordEntryDispatchOutcome report
  attemptReleaseAfterRecordedOutcome fingerprint report.classification

/-- A refusal for evidence, as opposed to a technical failure. -/
def isDomainEvidenceConflict : EntryError → Bool
  | .conflict code _ =>
    [ConflictCode.entryExposureUnresolved, .invalidEntryExposureTransition,
      .entryExposureStaleTransition].contains code
  | _ => false

/-- Release on durable non-dispatch evidence: a refusal keeps ownership as `UNRESOLVED`, a technical failure keeps the prior
state. -/
def releaseUnsubmittedOrRouteToRecovery (fingerprint : EntryClaimAssessment → String) (reason : String)
    (source : RecoverySource) (dispatchAttempted : Bool) (message : String) :
    EntryProgram UnsubmittedReleaseOutcome := do
  match ← (releaseUnsubmittedEntryExposureClaim reason).attempt with
  | .ok claim =>
    if releasedByThisCall claim reason then pure .released
    else if claim.any (·.releasedAt.isSome) then pure .alreadyReleased
    else pure .notReleased
  | .error error =>
    if !isDomainEvidenceConflict error then
      let _ ← (appendClaimDiagnostic .recoveryAttemptFailed { source := some source, detail := reason }).attempt
      pure .retryableFailure
    else
      let records ← loadEntryDispatchRecords.attempt
      if records.toOption.any (·.durable) && dispatchAttempted then
        catchRecordingError (routeEntryDispatchFailure fingerprint
          { classification := .notSentDispatchRecordAckLost, source, observation := .observed, message })
        pure .routedToEvidenceRecovery
      else if records.toOption.any (·.present) then
        catchRecordingError (appendClaimDiagnostic .preBoundaryFailureWithPriorDispatchRecord
          { source := some source, detail := reason })
        pure .refusedRetained
      else
        match ← (Program.read (·.claim) : EntryProgram _).attempt with
        | .ok (some claim) =>
          if claim.releasedAt.isSome then pure ()
          else
            catchRecordingError (transitionEntryExposureClaim .unresolved .unsubmittedReleaseRefused
              { source := some source, detail := reason })
        | _ => pure ()
        pure .refusedRetained

end AiTrader.Entry
