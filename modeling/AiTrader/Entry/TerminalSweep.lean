import AiTrader.Entry.DispatchOutcome

/-! # Sweep of terminal intents and stale admissions

The sweep classifies each unreleased claim of a terminal intent from its evidence and takes at most one recovery attempt.
-/

namespace AiTrader.Entry

open Library EntryLifecycle Program

private def isUpperOrUnderscore (character : Char) : Bool := character.isUpper || character == '_'

/-- `^MARKET_POLICY_BROKER_TIME:[A-Z_]+:DEFINITELY_NOT_SENT`. -/
def startsWithBrokerTimeNotSent (reason : String) : Bool :=
  let start := "MARKET_POLICY_BROKER_TIME:".toList
  let rest := reason.toList.drop start.length
  start.isPrefixOf reason.toList && (rest.takeWhile isUpperOrUnderscore) != [] &&
    ":DEFINITELY_NOT_SENT".toList.isPrefixOf (rest.dropWhile isUpperOrUnderscore)

private def statusCodeAt (text : List Char) : Option Nat :=
  if "status ".toList.isPrefixOf text then
    match (text.drop "status ".length).take 3 with
    | [first, second, third] =>
      if first.isDigit && second.isDigit && third.isDigit then
        some ((first.toNat - 48) * 100 + (second.toNat - 48) * 10 + (third.toNat - 48))
      else none
    | _ => none
  else none

/-- The first `status (\d{3})` of a text. -/
def firstStatusCode : List Char → Option Nat
  | [] => none
  | head :: rest => (statusCodeAt (head :: rest)).or (firstStatusCode rest)

/-- The outcome of a terminal intent with a dispatch record but no recorded outcome. -/
def inferEntryDispatchOutcome (blockReason : Option String) : DeliveryClassification × Option Nat :=
  let reason := blockReason.getD ""
  match blockReasonDeliveryClassification (some reason) with
  | some write =>
    (entryDispatchOutcomeFor (some write),
      if write = .brokerRejected then firstStatusCode reason.toList else none)
  | none =>
    if startsWithBrokerTimeNotSent reason ||
        ["ENTRY_DISPATCH_RECORDED_NOT_SENT", "LOCAL_PRE_DISPATCH_FAILURE"].any fun start =>
          start.toList.isPrefixOf reason.toList then
      (.notSentDispatchRecordAckLost, none)
    else (.dispatchOutcomeUnknown, none)

inductive TerminalClaimRecoveryState where
  | automaticNeverSubmittedRelease | automaticNotSentEvidenceRecording | automaticOutcomeRecording
  | automaticVerifiedRelease | operatorInvestigation | protectedExposure
deriving DecidableEq

def TerminalClaimRecoveryState.automatic : TerminalClaimRecoveryState → Bool
  | .operatorInvestigation | .protectedExposure => false
  | _ => true

/-- The rows the sweep loads for one claim. -/
structure TerminalClaimCandidate where
  claim : EntryExposureClaim
  intent : OrderIntent
  records : EntryDispatchRecords
  brokerOrders : Nat
  events : List ClaimEvent

/-- Code-classified non-dispatch evidence of a claim written before structured evidence existed. -/
def legacyNotSentEvidence (intent : OrderIntent) : Option (DeliveryClassification × String) :=
  match blockReasonDeliveryClassification intent.blockReason with
  | some .notSentBlocked => some (.notSentLocalBlocked, "TERMINAL_SWEEP_LEGACY_LOCAL_CLASSIFICATION")
  | some .notSentRetryable => some (.notSentLocalRetryable, "TERMINAL_SWEEP_LEGACY_LOCAL_CLASSIFICATION")
  | _ =>
    let reason := intent.blockReason.getD ""
    if startsWithBrokerTimeNotSent reason || "LOCAL_PRE_DISPATCH_FAILURE:".toList.isPrefixOf reason.toList then
      some (.notSentPreDispatch, "TERMINAL_SWEEP_LEGACY_LOCAL_CLASSIFICATION")
    else if intent.riskEvaluation.any fun risk =>
        !risk.allowed && intent.status == .blocked && risk.reason.isSome && risk.reason == intent.blockReason then
      some (.notSentPreDispatch, "TERMINAL_SWEEP_RISK_EVALUATION_BLOCKED")
    else none

/-- What the sweep does with a claim, and the not-sent evidence it would record. -/
structure TerminalClaimClassification where
  state : TerminalClaimRecoveryState
  notSent : Option (DeliveryClassification × String) := none

def classifyTerminalEntryClaim (candidate : TerminalClaimCandidate) (now : Nat) : TerminalClaimClassification :=
  let summary := summarizeDeliveryEvidence candidate.events
  let claim := candidate.claim
  if candidate.brokerOrders ≠ 0 ∨ claim.trackedPositionId.isSome then ⟨.protectedExposure, none⟩
  else if preDispatchClaimStatuses.contains claim.status then
    if candidate.records.present ∨ summary.dispatchOutcomes ≠ [] then ⟨.automaticOutcomeRecording, none⟩
    else if (evaluateNeverSubmittedRelease claim.status summary candidate.intent.blockReason).toBool then
      ⟨.automaticNeverSubmittedRelease, none⟩
    else if claim.status = .entrySubmitting ∧ summary.markerProtocol ∧ summary.adapterMarkers = 0 then
      ⟨.automaticNotSentEvidenceRecording,
        some (.notSentPreDispatch, "TERMINAL_SWEEP_ADAPTER_NOT_INVOKED")⟩
    else
      match if summary.adapterMarkers = 0 then legacyNotSentEvidence candidate.intent else none with
      | some legacy => ⟨.automaticNotSentEvidenceRecording, some legacy⟩
      | none => ⟨.automaticOutcomeRecording, none⟩
  else if claim.status ≠ .unresolved then ⟨.protectedExposure, none⟩
  else if summary.outcomes = [] then
    ⟨if candidate.records.present then .automaticOutcomeRecording else .operatorInvestigation, none⟩
  else
    match evaluateDispatchReleaseBasis summary.outcomes now with
    | .ok _ | .error .brokerRejectionSettling => ⟨.automaticVerifiedRelease, none⟩
    | .error _ => ⟨.operatorInvestigation, none⟩

theorem classifyTerminalEntryClaim_notSent {candidate : TerminalClaimCandidate} {now : Nat}
    (nominated : (classifyTerminalEntryClaim candidate now).notSent ≠ none) :
    ¬ Recorded .adapterInvocationStarted candidate.events := by
  rw [← adapterMarkers_eq_zero_iff]
  unfold classifyTerminalEntryClaim at nominated
  dsimp only at nominated
  split_ifs at nominated with _ _ _ _ protocol markers
  all_goals first
    | exact absurd rfl nominated
    | exact protocol.2.2
    | exact markers
    | skip
  · split at nominated <;> exact absurd rfl nominated

def isDue (lastDiagnosedAt : Option Nat) (now : Nat) : Bool :=
  lastDiagnosedAt.all fun last => decide (last + entryDispatchRecoveryRetryMs ≤ now)

/-- Lease a claim for one attempt, only if it is still due and held. -/
def leaseRecoveryAttempt (now : Nat) : EntryProgram Bool :=
  commit fun store =>
    .ok (store.claim.any fun claim => claim.releasedAt.isNone && isDue claim.lastDiagnosedAt now,
      store.updateClaim fun claim =>
        if claim.releasedAt.isNone && isDue claim.lastDiagnosedAt now then
          { claim with lastDiagnosedAt := some now }
        else claim)

/-- The unreleased, position-free claim of a terminal intent, with all recovery inputs. -/
def loadTerminalClaimCandidate : EntryProgram (Option TerminalClaimCandidate) := do
  match ← read fun store => (store.claim, store.intent, store) with
  | (some claim, some intent, store) =>
    if claim.releasedAt.isNone && claim.trackedPositionId.isNone &&
        terminalEntryIntentStatuses.contains intent.status then
      let liveArming ← read (·.liveArmingConsumption)
      pure (some
        { claim, intent
          records := { store.dispatchRecords with liveArming }
          brokerOrders := store.brokerOrders.length
          events := store.deliveryEvents })
    else pure none
  | _ => pure none

/-- Record the evidence against exactly the log that was classified, then release. -/
def recordNotSentEvidenceAndRelease (fingerprint : EntryClaimAssessment → String)
    (candidate : TerminalClaimCandidate) (notSent : DeliveryClassification × String) :
    EntryProgram UnsubmittedReleaseOutcome := do
  let recorded ← transaction
    (fun store => (store.claim, store.deliveryEvents.length))
    fun seen store =>
      match seen.1 with
      | none => .ok (false, store)
      | some current =>
        if current.releasedAt.isSome ∨ current.status ≠ candidate.claim.status ∨
            seen.2 ≠ candidate.events.length then .ok (false, store)
        else .ok (true, appendNotSentEvidence notSent.1 .terminalClaimSweep notSent.2
          "TERMINAL_INTENT_VERIFIED_NEVER_SUBMITTED" store)
  if recorded then
    releaseUnsubmittedOrRouteToRecovery fingerprint "TERMINAL_INTENT_VERIFIED_NEVER_SUBMITTED"
      .terminalClaimSweep false ""
  else pure .notReleased

/-- The outcome the sweep records when the worker recorded none. -/
def sweepOutcomeReport (candidate : TerminalClaimCandidate) : DispatchOutcomeReport :=
  let prior := (summarizeDeliveryEvidence candidate.events).outcomes.reverse.find? fun outcome =>
    outcome.kind == .outcome
  let inferred := match prior with
    | some outcome => (outcome.classification, outcome.statusCode)
    | none =>
      if candidate.records.present then inferEntryDispatchOutcome candidate.intent.blockReason
      else (.dispatchOutcomeUnknown, none)
  { classification := inferred.1
    statusCode := inferred.2
    source := .terminalClaimSweep
    observation := .inferred
    message := candidate.intent.blockReason.getD "" }

/-- One recovery attempt of one claim. -/
def attemptTerminalClaim (fingerprint : EntryClaimAssessment → String) (candidate : TerminalClaimCandidate)
    (now : Nat) : EntryProgram Unit := do
  let classification := classifyTerminalEntryClaim candidate now
  match classification.state, classification.notSent with
  | .automaticNeverSubmittedRelease, _ =>
    let _ ← releaseUnsubmittedOrRouteToRecovery fingerprint "TERMINAL_INTENT_VERIFIED_NEVER_SUBMITTED"
      .terminalClaimSweep false ""
    pure ()
  | .automaticNotSentEvidenceRecording, some notSent =>
    let _ ← recordNotSentEvidenceAndRelease fingerprint candidate notSent
    pure ()
  | .automaticOutcomeRecording, _ =>
    recordEntryDispatchOutcome (sweepOutcomeReport candidate)
    if candidate.records.present then
      let _ ← releaseVerifiedEntryExposureClaim fingerprint .system now
      pure ()
    else pure ()
  | _, _ =>
    let _ ← releaseVerifiedEntryExposureClaim fingerprint .system now
    pure ()

/-- The sweep's turn for one claim. The caller holds the lifecycle-mutation lock. -/
def recoverTerminalEntryClaim (fingerprint : EntryClaimAssessment → String) : EntryProgram Unit := do
  let now ← read (·.clock)
  match ← loadTerminalClaimCandidate with
  | none => pure ()
  | some candidate =>
    if !(classifyTerminalEntryClaim candidate now).state.automatic || !isDue candidate.claim.lastDiagnosedAt now then
      pure ()
    else
      match ← (leaseRecoveryAttempt now).attempt with
      | .ok true =>
        catchRecordingError (attemptTerminalClaim fingerprint candidate now)
        let _ ← (appendClaimDiagnostic .dispatchRecoveryAttemptResult {}).attempt
        let _ ← (write fun store => store.updateClaim fun claim =>
          if claim.releasedAt.isNone && claim.lastDiagnosedAt.any (· < now) then
            { claim with lastDiagnosedAt := some now }
          else claim : EntryProgram Unit).attempt
        pure ()
      | _ => pure ()

/-- The facts that keep an abandoned admission from being failed. -/
def staleAdmissionBlocked (tradingAccountId cutoff : Nat) (store : EntryLifecycle) (claim : EntryExposureClaim) : Bool :=
  let summary := summarizeDeliveryEvidence store.deliveryEvents
  claim.status != .entryPending || claim.trackedPositionId.isSome ||
  store.intent.all (fun intent =>
    intent.status != .received || decide (cutoff < intent.updatedAt) ||
    normalizeSide intent.side != "buy" || intent.tradingAccountId != some tradingAccountId ||
    intent.liveEntryAcceptanceRunId.isSome) ||
  claim.tradingAccountId != tradingAccountId ||
  store.deliveryEvents.any (fun event => event.eventType == .workerClaimedForSubmission) ||
  decide (0 < summary.adapterMarkers) || !summary.outcomes.isEmpty || store.dispatchRecords.present ||
  !store.brokerOrders.isEmpty || !store.brokerActivities.isEmpty

inductive StaleAdmissionVerdict where
  | gone | blocked | recorded

/-- Fail the abandoned intent by compare-and-set together with not-sent evidence. -/
def failStaleAdmission (tradingAccountId cutoff : Nat) : EntryProgram StaleAdmissionVerdict :=
  transaction (fun store => store) fun seen store =>
    match seen.claim with
    | none => .ok (.gone, store)
    | some claim =>
      if claim.releasedAt.isSome then .ok (.gone, store)
      else if staleAdmissionBlocked tradingAccountId cutoff seen claim then
        .ok (.blocked, store.appendEvent .staleAdmissionRecoveryBlocked {})
      else if store.intent.any fun intent => intent.status == .received && decide (intent.updatedAt ≤ cutoff) then
        .ok (.recorded, appendNotSentEvidence .notSentPreDispatch .staleAdmissionRecovery
          "STALE_ADMISSION_NEVER_EXECUTABLE" "STALE_ADMISSION_NEVER_SUBMITTED"
          (store.updateIntent fun intent =>
            { intent with
              status := .failed
              blockReason := some "STALE_ADMISSION_NEVER_DISPATCHED: the admission did not complete and its intent never became executable; it was not requeued and a new entry requires a new admission decision." }))
      else .ok (.blocked, store)

/-- Fail one stale admission and release its claim from the recorded evidence. -/
def disposeStaleAdmission (fingerprint : EntryClaimAssessment → String) (tradingAccountId cutoff : Nat) :
    EntryProgram Unit := do
  match ← failStaleAdmission tradingAccountId cutoff with
  | .recorded =>
    let _ ← releaseUnsubmittedOrRouteToRecovery fingerprint "STALE_ADMISSION_NEVER_SUBMITTED"
      .staleAdmissionRecovery false ""
    pure ()
  | _ => pure ()

/-- The turn of one stale admission. The caller holds the lifecycle-mutation lock. -/
def recoverStaleAdmissionClaim (fingerprint : EntryClaimAssessment → String) (tradingAccountId : Nat) :
    EntryProgram Unit := do
  let now ← read (·.clock)
  let cutoff := now - staleAdmissionThresholdMs
  let candidate ← read fun store =>
    store.claim.any (fun claim => claim.releasedAt.isNone && claim.status == .entryPending &&
      claim.trackedPositionId.isNone && isDue claim.lastDiagnosedAt now) &&
    store.intent.any fun intent => intent.status == .received && decide (intent.updatedAt ≤ cutoff)
  if !candidate then pure ()
  else
    match ← (leaseRecoveryAttempt now).attempt with
    | .ok true => catchRecordingError (disposeStaleAdmission fingerprint tradingAccountId cutoff)
    | _ => pure ()

end AiTrader.Entry
