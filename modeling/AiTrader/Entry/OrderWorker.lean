import AiTrader.Entry.Submission

/-! # The order worker

One turn of the pending-order worker and of stale-submitting recovery for one BUY intent. -/

namespace AiTrader.Entry

open Library EntryLifecycle Program

section Failure

/-- The block reason of a failure. -/
def failureText : EntryError → String
  | .conflict _ message => message
  | .brokerWrite _ _ message => message
  | .dispatchRefused _ outcome reasonCode _ =>
    "Broker-time market policy refused the entry dispatch (" ++ outcome ++ ": " ++ reasonCode ++ ")."
  | .dispatchRecordedNotSent record _ =>
    "A " ++ record ++ " for this entry already committed; no further POST is permitted and this attempt did not invoke the adapter."
  | .technical message => message

def refusalBlockReason (outcome reasonCode : String) (decisionId : Option Nat) : String :=
  "MARKET_POLICY_BROKER_TIME:" ++ outcome ++ ":DEFINITELY_NOT_SENT:" ++ reasonCode ++
    decisionId.elim "" fun id => ":decision=" ++ toString id

/-- The delivery evidence of a failed worker attempt. -/
inductive WorkerFailureEvidencePlan where
  | notSent (classification : DeliveryClassification) (producer releaseReason : String) (dispatchAttempted : Bool)
  | outcome (classification : DeliveryClassification)

/-- A failed attempt: the phase is `none` before the broker boundary. -/
structure WorkerFailure where
  phase : Option EntryBrokerSubmissionPhase
  error : EntryError

namespace WorkerFailure

variable (failure : WorkerFailure)

def definitelyNotDispatched : Bool :=
  failure.phase.isNone || failure.phase == some .notDispatched

def preDispatchCandidate : Bool :=
  failure.phase == some .unclassified && isPreDispatchProofCandidateError failure.error

/-- The recorded-but-not-sent dispatch record, when the attempt was definitely not dispatched. -/
def recordedNotSent : Option (String × Nat) :=
  match failure.error with
  | .dispatchRecordedNotSent record recordId =>
    if failure.definitelyNotDispatched then some (record, recordId) else none
  | _ => none

/-- A broker-time refusal, when the attempt was definitely not dispatched. -/
def refusal : Option DispatchRefusal :=
  match failure.error with
  | .dispatchRefused technical outcome reasonCode decisionId =>
    if failure.definitelyNotDispatched then some ⟨technical, outcome, reasonCode, decisionId⟩ else none
  | _ => none

/-- The adapter's classification of the error. -/
def classification : Option BrokerWriteDeliveryClassification :=
  match failure.error with
  | .brokerWrite classification _ _ => some classification
  | _ => none

def statusCode : Option Nat :=
  match failure.error with
  | .brokerWrite _ statusCode _ => statusCode
  | _ => none

def deliveryUncertain : Bool :=
  !failure.definitelyNotDispatched &&
    (failure.classification == some .deliveryUncertain || failure.classification.isNone)

def policyDenied : Bool := failure.refusal.any fun refusal => !refusal.technical

def blockReasonText : String :=
  let message := failureText failure.error
  match failure.recordedNotSent, failure.refusal with
  | some (record, recordId), _ =>
    "ENTRY_DISPATCH_RECORDED_NOT_SENT:" ++ record ++ ":" ++ toString recordId
  | none, some refusal => refusalBlockReason refusal.outcome refusal.reasonCode refusal.decisionId
  | none, none =>
    if failure.definitelyNotDispatched then "LOCAL_PRE_DISPATCH_FAILURE:" ++ message
    else
      match failure.classification with
      | some classification => "BROKER_WRITE_DELIVERY:" ++ classification.text ++ ":" ++ message
      | none => "BROKER_WRITE_DELIVERY:DELIVERY_UNCERTAIN:" ++ message

/-- The plan before the durable pre-dispatch proof is consulted. -/
def conservativePlan (records : Option EntryDispatchRecords) : WorkerFailureEvidencePlan :=
  if failure.recordedNotSent.isSome then .outcome .notSentDispatchRecordAckLost
  else if failure.definitelyNotDispatched then
    .notSent .notSentPreDispatch
      (if failure.refusal.isSome then "BROKER_TIME_MARKET_POLICY_REFUSAL"
        else if failure.phase.isSome then "BROKER_BOUNDARY_NOT_DISPATCHED" else "WORKER_PRE_BOUNDARY_FAILURE")
      (failure.refusal.elim "WORKER_PROVEN_PRE_DISPATCH_LOCAL_FAILURE" fun refusal =>
        "BROKER_TIME_MARKET_POLICY_" ++ refusal.outcome ++ "_NOT_SENT")
      (failure.phase == some .notDispatched)
  else if (failure.classification == some .notSentBlocked || failure.classification == some .notSentRetryable) &&
      records.any (!·.present) then
    .notSent (if failure.classification = some .notSentBlocked then .notSentLocalBlocked else .notSentLocalRetryable)
      "ADAPTER_LOCAL_GUARD"
      (if failure.classification = some .notSentBlocked then "NOT_SENT_BLOCKED" else "NOT_SENT_RETRYABLE") false
  else .outcome (entryDispatchOutcomeFor failure.classification)

/-- The plan that commits, given whether the pre-dispatch proof held in the same transaction. -/
def plan (records : Option EntryDispatchRecords) (proven : Bool) : WorkerFailureEvidencePlan :=
  if proven then
    .notSent .notSentPreDispatch "WORKER_PRE_BOUNDARY_FAILURE" "WORKER_PROVEN_PRE_DISPATCH_BOUNDARY_FAILURE" false
  else failure.conservativePlan records

section

variable (intent : OrderIntent)

/-- The terminal status, except that an uncertain acceptance execution stays `submitting`. -/
def terminalStatus (proven : Bool) : OrderStatus :=
  if intent.liveEntryAcceptanceRunId.isSome then
    if !proven && failure.deliveryUncertain then .submitting
    else if failure.classification = some .notSentBlocked ∨ failure.policyDenied then .blocked
    else .failed
  else if failure.policyDenied then .blocked
  else .failed

/-- The durable pre-dispatch proof, read before any write of the persistence transaction. -/
def proven (seen : EntryLifecycle) : Bool :=
  failure.preDispatchCandidate &&
    intent.tradingAccountId.any fun tradingAccountId => proveWorkerPreDispatchNonDelivery tradingAccountId seen

/-- The intent's terminal state and the delivery classification commit together. -/
def persist (records : Option EntryDispatchRecords) (seen store : EntryLifecycle) :
    Except EntryError (WorkerFailureEvidencePlan × EntryLifecycle) :=
  let proven := failure.proven intent seen
  let plan := failure.plan records proven
  let terminal := store.updateIntent fun row =>
    { row with
      status := failure.terminalStatus intent proven
      blockReason := if proven then some ("LOCAL_PRE_DISPATCH_FAILURE:" ++ failureText failure.error)
        else preserveBlockReason intent.blockReason failure.blockReasonText }
  match plan with
  | .notSent classification producer releaseReason _ =>
    if seen.claim.any fun claim => claim.releasedAt.isNone && preDispatchClaimStatuses.contains claim.status then
      .ok (plan, appendNotSentEvidence classification .worker producer releaseReason terminal)
    else .ok (plan, terminal)
  | .outcome classification => do
    let recorded ← recordOutcomeWithin
      { classification, source := .worker, observation := .observed, statusCode := failure.statusCode,
        message := failureText failure.error } seen.claim terminal
    pure (plan, recorded)

end

/-- The dispatch records, which only a failure at or after the boundary looks at. -/
def loadRecords : EntryProgram (Option EntryDispatchRecords) :=
  if !failure.definitelyNotDispatched || failure.recordedNotSent.isSome then do
    let records ← loadEntryDispatchRecords.attempt
    pure records.toOption
  else pure none

/-- Persist the failure, and only then decide on a release from the durable evidence. -/
def persistAndRelease (fingerprint : EntryClaimAssessment → String) (intent : OrderIntent)
    (records : Option EntryDispatchRecords) : EntryProgram Unit := do
  match ← (transaction (fun store => store) (failure.persist intent records)).attempt with
  | .error _ => pure ()
  | .ok (.notSent _ _ releaseReason dispatchAttempted) =>
    let _ ← releaseUnsubmittedOrRouteToRecovery fingerprint releaseReason .worker dispatchAttempted
      (failureText failure.error)
    pure ()
  | .ok (.outcome classification) =>
    let _ ← (attemptReleaseAfterRecordedOutcome fingerprint classification).attempt
    pure ()

/-- The handling of one failed attempt. -/
def handle (fingerprint : EntryClaimAssessment → String) (intent : OrderIntent) : EntryProgram Unit := do
  let records ← failure.loadRecords
  failure.persistAndRelease fingerprint intent records

end WorkerFailure

end Failure

/-- What the worker reads from a recorded request that parses and whose assignment still matches. -/
inductive RecordedRequest where
  | exit | entry
deriving DecidableEq

/-- The worker-time risk recheck. -/
inductive RiskDecision where
  | allowed
  | refused (reason : String)

def recordOrderIntentRiskEvaluation (decision : RiskDecision) : EntryProgram Unit := do
  let present ← read (·.intent.isSome)
  if present then
    write fun store => store.updateIntent fun intent =>
      { intent with riskEvaluation := some (match decision with
        | .allowed => ⟨true, none⟩
        | .refused reason => ⟨false, some reason⟩) }
  else pure ()

/-- The worker-time risk recheck refused the entry, which is blocked with not-sent evidence. -/
def blockByRiskRecheck (fingerprint : EntryClaimAssessment → String) (reason : String) : EntryProgram Unit := do
  write fun store => appendNotSentEvidence .notSentPreDispatch .worker
    "WORKER_RISK_RECHECK" "WORKER_RISK_RECHECK_BLOCKED"
    (store.updateIntent fun row => { row with status := .blocked, blockReason := some reason })
  elsewhere
  let _ ← releaseUnsubmittedOrRouteToRecovery fingerprint "WORKER_RISK_RECHECK_BLOCKED" .worker false ""
  pure ()

/-- A SELL or an exit request is not the worker's to submit. -/
def blockExitRequest : EntryProgram Unit :=
  write fun store => store.updateIntent fun row =>
    { row with status := .blocked, blockReason := some "LONG_ONLY_SELL_REQUIRES_VERIFIED_EXIT_BOUNDARY" }

section

variable (fingerprint : EntryClaimAssessment → String)

/-- The worker-time risk recheck, `true` when the entry may cross the boundary. -/
def recheckRisk : EntryProgram Bool := do
  match ← (answer : EntryProgram (Except String RiskDecision)) with
  | .error message => throw (.technical message)
  | .ok decision =>
    recordOrderIntentRiskEvaluation decision
    match decision with
    | .allowed => pure true
    | .refused reason =>
      blockByRiskRecheck fingerprint reason
      pure false

/-- The checks of a claimed intent; `none` when the turn ends without crossing the boundary. -/
def recheckClaimedIntent (intent : OrderIntent) :
    EntryProgram (Option EntryIdentity) := do
  transitionEntryExposureClaim .entrySubmitting .workerClaimedForSubmission { adapterMarkerProtocol := true }
  match intent.clientOrderId, intent.tradingAccountId, intent.tradingAccountSubscriptionId with
  | some clientOrderId, some tradingAccountId, some _ =>
    let request ← (answer : EntryProgram (Except String RecordedRequest))
    match request with
    | .error message => throw (.technical message)
    | .ok request =>
      if intent.side ≠ "buy" ∨ request = .exit then
        blockExitRequest
        pure none
      else
        let allowed ← recheckRisk fingerprint
        pure (if allowed then some ⟨intent.id, tradingAccountId, intent.symbol, clientOrderId⟩ else none)
  | _, _, _ => throw (.technical "OrderIntent is missing its client order ID or account assignment identity.")

/-- The steps before the broker boundary, from the pending intent on. -/
def claimPendingIntent (intent : OrderIntent) :
    EntryProgram (Option EntryIdentity) := do
  let _ ← requireEntryExposureClaim false
  let claimed ← commit fun store =>
    .ok (store.updateIntentFrom [.pending] fun row => { row with status := .submitting })
  if claimed then recheckClaimedIntent fingerprint intent else pure none

end

section

variable (submission : EntrySubmission)

/-- The `BrokerOrder` row of a submission and the `submitted` intent, in one write. -/
def recordBrokerOrder (store : EntryLifecycle) : EntryLifecycle :=
  { store.updateIntent fun row => { row with status := .submitted } with
    brokerOrders := store.brokerOrders ++ [⟨submission.order.id, submission.order.status⟩]
    pairBuyOrders := store.pairBuyOrders ++ [⟨submission.order.id, submission.order.status⟩] }

def storeSubmission : EntryProgram Unit := do
  let existing ← read fun store =>
    store.brokerOrders.any fun order => order.brokerOrderId == submission.order.id
  if existing then
    elsewhere
    write fun store => store.updateIntent fun row => { row with status := .submitted }
  else
    write (recordBrokerOrder submission)
    elsewhere

/-- Record an accepted or recovered broker order. -/
def recordSubmittedOrder : EntryProgram Unit := do
  let _ ← (transitionEntryExposureClaim .brokerOrderActive
    (if submission.duplicate then .brokerOrderRecovered else .brokerOrderAccepted)
    { detail := submission.order.id }).attempt
  storeSubmission submission
  releaseConfirmedTerminalEntryClaim submission.order.status false

end

/-- One turn of `processPendingOrdersForAccount` for one intent. -/
def processPendingOrder (fingerprint : EntryClaimAssessment → String) : EntryProgram Unit := do
  match ← read (·.intent) with
  | none => pure ()
  | some intent =>
    if intent.status ≠ .pending then pure ()
    else
      match ← (claimPendingIntent fingerprint intent).attempt with
      | .error error => WorkerFailure.handle ⟨none, error⟩ fingerprint intent
      | .ok none => pure ()
      | .ok (some identity) =>
        match ← submitOrderToBroker identity with
        | (phase, .error error) => WorkerFailure.handle ⟨some phase, error⟩ fingerprint intent
        | (phase, .ok submission) =>
          match ← (recordSubmittedOrder submission).attempt with
          | .ok _ => pure ()
          | .error error => WorkerFailure.handle ⟨some phase, error⟩ fingerprint intent

/-- Whether recovery may record that the adapter was never invoked. -/
def staleProvenNotSent (records : EntryDispatchRecords) (seen : EntryLifecycle) : Bool :=
  !records.present && seen.claim.any fun claim =>
    let summary := summarizeDeliveryEvidence seen.deliveryEvents
    claim.releasedAt.isNone && summary.outcomes.isEmpty &&
      (claim.status.neverReachedBroker ||
        (claim.status == .entrySubmitting && summary.markerProtocol && summary.adapterMarkers == 0))

def staleBlockReason (records : EntryDispatchRecords) (proven : Bool) : String :=
  if proven then
    "Recovery confirmed no broker order and the broker adapter was never invoked; entry requires a new admission decision and was not requeued."
  else if records.present then
    "DISPATCH_STARTED_OUTCOME_UNKNOWN: a dispatch record exists and no broker order was found; claim retained for evidence-based recovery and never resent."
  else
    "STALE_SUBMISSION_OUTCOME_UNKNOWN: no durable dispatch record and no proof the request was not issued; claim retained for investigation and never resent."

/-- A stale submission's terminal state and evidence commit together; `true` when proven not sent. -/
def disposeStaleSubmission (intent : OrderIntent) (records : EntryDispatchRecords)
    (seen store : EntryLifecycle) : Except EntryError (Bool × EntryLifecycle) :=
  let proven := staleProvenNotSent records seen
  let (transitioned, terminal) := store.updateIntentFrom [.submitting] fun row =>
    { row with
      status := .failed
      blockReason := preserveBlockReason intent.blockReason (staleBlockReason records proven) }
  if !transitioned || seen.claim.all (·.releasedAt.isSome) then .ok (false, terminal)
  else if proven then
    .ok (true, if seen.claimStatus = some .entrySubmitting then
      appendNotSentEvidence .notSentPreDispatch .staleRecovery "STALE_RECOVERY_ADAPTER_NOT_INVOKED"
        "RECOVERY_CONFIRMED_NEVER_SUBMITTED" terminal
      else terminal)
  else do
    let recorded ← recordOutcomeWithin
      { classification := .dispatchOutcomeUnknown, source := .staleRecovery, observation := .inferred }
      seen.claim terminal
    pure (false, recorded)

/-- Link a broker order found by its stable client order ID. -/
def linkFoundOrder (order : AlpacaOrderView) (store : EntryLifecycle) : EntryLifecycle :=
  let linked := if store.brokerOrders.any fun row => row.brokerOrderId == order.id then store
    else { store with
      brokerOrders := store.brokerOrders ++ [⟨order.id, order.status⟩]
      pairBuyOrders := store.pairBuyOrders ++ [⟨order.id, order.status⟩] }
  (linked.updateIntentFrom [.submitting] fun row => { row with status := .submitted, blockReason := none }).2

/-- The recovery of one stale `submitting` intent. -/
def recoverStaleIntent (fingerprint : EntryClaimAssessment → String) (intent : OrderIntent)
    (persisted : Bool) : EntryProgram Unit := do
  match intent.clientOrderId with
  | none => pure ()
  | some clientOrderId =>
    let _ ← requireEntryExposureClaim true
    if persisted then
      bestEffortAppendBrokerOpportunityEvent .recoveryFound
      bestEffortAppendBrokerOpportunityEvent .brokerOrderMaterialized
      write fun store =>
        (store.updateIntentFrom [.submitting] fun row => { row with status := .submitted, blockReason := none }).2
      transitionEntryExposureClaim .brokerOrderActive .recoveryLinkedLocalBrokerOrder {}
    else
      let progressed ← read fun store => store.intentStatus == some .submitting
      if !progressed then pure ()
      else
        match ← (answer : EntryProgram (LookupAnswer (Option AlpacaOrderView))) with
        | .error message =>
          bestEffortAppendBrokerOpportunityEvent .recoveryInconclusive
          throw (.technical message)
        | .ok (some order) =>
          if order.clientOrderId ≠ clientOrderId ∨ normalizeSymbol order.symbol ≠ normalizeSymbol intent.symbol ∨
              normalizeSide order.side ≠ normalizeSide intent.side then
            throw (.technical "Broker order found by stable client order ID does not match OrderIntent identity.")
          else
            bestEffortAppendBrokerOpportunityEvent .recoveryFound
            bestEffortAppendBrokerOpportunityEvent .brokerOrderMaterialized
            write (linkFoundOrder order)
            elsewhere
            transitionEntryExposureClaim .brokerOrderActive .recoveryFoundBrokerOrder { detail := order.id }
        | .ok none =>
          bestEffortAppendBrokerOpportunityEvent .recoveryAbsenceConfirmed
          if intent.liveEntryAcceptanceRunId.isSome then
            write fun store => (store.updateIntentFrom [.submitting] fun row =>
              { row with
                blockReason := some (intent.blockReason.getD
                  "BROKER_WRITE_DELIVERY:DELIVERY_UNCERTAIN:acceptance broker lookup found no order") }).2
            elsewhere
          else
            let records ← loadEntryDispatchRecords
            let notSent ← transaction (fun store => store) (disposeStaleSubmission intent records)
            if notSent then
              let _ ← releaseUnsubmittedOrRouteToRecovery fingerprint "RECOVERY_CONFIRMED_NEVER_SUBMITTED"
                .staleRecovery false ""
              pure ()
            else pure ()

/-- One turn of `recoverStaleSubmittingIntentsForAccount` for one intent. -/
def recoverStaleSubmittingIntent (fingerprint : EntryClaimAssessment → String) : EntryProgram Unit := do
  let now ← read (·.clock)
  match ← read fun store => (store.intent, !store.brokerOrders.isEmpty) with
  | (none, _) => pure ()
  | (some intent, persisted) =>
    if intent.status ≠ .submitting ∨ now < intent.updatedAt + staleSubmittingIntentThresholdMs then pure ()
    else
      match ← (recoverStaleIntent fingerprint intent persisted).attempt with
      | .ok _ => pure ()
      | .error _ =>
        let _ ← elsewhere.attempt
        pure ()

end AiTrader.Entry
