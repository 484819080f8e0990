import AiTrader.Entry.BoundaryContracts
import AiTrader.Entry.OrderWorker
import AiTrader.Entry.SubmittedOrderSync

/-! # The worker posts once

The worker's turn meets the boundary contract and stale recovery never posts. -/

namespace AiTrader.Entry

open Library Library.Program EntryLifecycle

variable (fingerprint : EntryClaimAssessment → String)

variable {seen : EntryLifecycle} {intent : OrderIntent}

namespace WorkerFailure

variable {failure : WorkerFailure} {store : EntryLifecycle}

/-- The failure is known to have sent nothing: from its phase or from the adapter's local guard. -/
def claimsNoRequest (failure : WorkerFailure) : Bool :=
  failure.definitelyNotDispatched || failure.preDispatchCandidate ||
    (failure.classification == some .notSentBlocked || failure.classification == some .notSentRetryable)

/-- What the failure handling needs to know about the attempt. -/
structure Truthful (failure : WorkerFailure) (store : EntryLifecycle) : Prop where
  unsent : failure.claimsNoRequest = true → store.posts = 0
  undecided : failure.definitelyNotDispatched = false → .notSentEvidenceRecorded ∉ store.log

variable {after : EntryLifecycle}

theorem Truthful.lockFree (truthful : failure.Truthful store) (free : LockFree store after) : failure.Truthful after where
  unsent := fun claims => free.unposted.trans (truthful.unsent claims)
  undecided := fun dispatched => undecided_lockFree (truthful.undecided dispatched) free

theorem Truthful.recording (truthful : failure.Truthful store) (kept : Recording store after) : failure.Truthful after where
  unsent := fun claims => kept.unposted.trans (truthful.unsent claims)
  undecided := fun dispatched => kept.same_log ▸ truthful.undecided dispatched

variable {records : Option EntryDispatchRecords} {classification : DeliveryClassification}

variable {proven dispatchAttempted : Bool} {releaseReason : String}

/-- Not-sent evidence is planned only for a failure that sent nothing. -/
theorem claimsNoRequest_of_plan {producer : String} (candidate : proven = true → failure.preDispatchCandidate = true)
    (planned : failure.plan records proven = .notSent classification producer releaseReason dispatchAttempted) :
    failure.claimsNoRequest = true := by
  unfold plan conservativePlan at planned
  unfold claimsNoRequest
  split at planned
  case isTrue held => simp [candidate held]
  split at planned
  · cases planned
  split at planned
  case isTrue dispatched => simp [dispatched]
  split at planned
  case isTrue guarded =>
    rw [Bool.and_eq_true] at guarded
    simp [guarded.1]
  · cases planned

theorem settled_of_plan {producer : String}
    (planned : failure.plan records proven = .notSent classification producer releaseReason dispatchAttempted) :
    (failure.terminalStatus intent proven).Settled := by
  have certain : (!proven && failure.deliveryUncertain) = false := by
    unfold plan conservativePlan at planned
    split at planned
    case isTrue held => simp [held]
    split at planned
    · cases planned
    split at planned
    case isTrue dispatched => simp [deliveryUncertain, dispatched]
    split at planned
    case isTrue guarded =>
      simp only [Bool.and_eq_true, Bool.or_eq_true, beq_iff_eq] at guarded
      rcases guarded.1 with blocked | retryable
      · simp [deliveryUncertain, blocked]
      · simp [deliveryUncertain, retryable]
    · cases planned
  unfold terminalStatus
  simp only [certain, Bool.false_eq_true, if_false]
  split_ifs <;> decide

theorem terminalStatus_settled_or : (failure.terminalStatus intent proven).Settled ∨
      (failure.terminalStatus intent proven = .submitting ∧ failure.definitelyNotDispatched = false) := by
  unfold terminalStatus
  split_ifs with acceptance uncertain blocked denied
  · refine .inr ⟨rfl, ?_⟩
    simp only [deliveryUncertain, Bool.and_eq_true, Bool.not_eq_true'] at uncertain
    exact uncertain.2.1
  all_goals exact .inl (by decide)

/-- The persistence transaction keeps the log true. -/
theorem silent_persist {plan : WorkerFailureEvidencePlan} (truthful : failure.Truthful store) (consistent : store.Consistent)
    (success : failure.persist intent records seen store = .ok (plan, after)) :
    Silent store after ∧ after.Consistent := by
  have candidate : failure.proven intent seen = true → failure.preDispatchCandidate = true := by
    intro held
    rw [proven, Bool.and_eq_true] at held
    exact held.1
  unfold persist at success
  generalize failure.proven intent seen = proven at success candidate
  dsimp only at success
  generalize shape : (fun row : OrderIntent => { row with
      status := failure.terminalStatus intent proven
      blockReason := if proven then some ("LOCAL_PRE_DISPATCH_FAILURE:" ++ failureText failure.error)
        else preserveBlockReason intent.blockReason failure.blockReasonText }) = update at success
  have status : ∀ row, (update row).status = failure.terminalStatus intent proven := fun row => by rw [← shape]
  obtain ⟨silent, kept⟩ : Silent store (store.updateIntent update) ∧ (store.updateIntent update).Consistent := by
    refine silent_updateIntent consistent (fun row _ waiting => ?_) fun row _ submitting => ?_
    · rw [status] at waiting
      rcases terminalStatus_settled_or with settled | ⟨submitting, _⟩
      · rcases waiting with received | pending
        · exact absurd received settled.1
        · exact absurd pending settled.2.1
      · rw [submitting] at waiting
        exact absurd waiting (by decide)
    · rw [status] at submitting
      rcases terminalStatus_settled_or with settled | ⟨_, dispatched⟩
      · exact absurd submitting settled.2.2
      · exact truthful.undecided dispatched
  cases planned : failure.plan records proven with
  | notSent classification producer releaseReason dispatchAttempted =>
    simp only [planned] at success
    split at success
    · cases success
      have settled : ∀ row, (update row).status.Settled := fun row => by
        rw [status]
        exact settled_of_plan planned
      obtain ⟨waiting, submitting⟩ := settled_updateIntent store settled
      obtain ⟨appended, final⟩ := silent_appendNotSent _ kept
        (silent.unposted.trans (truthful.unsent (claimsNoRequest_of_plan candidate planned))) waiting submitting
      exact ⟨silent.trans appended, final⟩
    · cases success
      exact ⟨silent, kept⟩
  | outcome classification =>
    simp only [planned] at success
    generalize written : recordOutcomeWithin _ seen.claim (store.updateIntent update) = recorded at success
    cases recorded with
    | error error => cases success
    | ok recorded =>
      cases success
      obtain ⟨outcome, final⟩ := bookkeeping_recordOutcomeWithin kept written
      exact ⟨silent.trans outcome.toSilent, final⟩

theorem silent_persistAndRelease {records : Option EntryDispatchRecords} (truthful : failure.Truthful store) :
    (failure.persistAndRelease fingerprint intent records).Assured silentContract EntryFault (fun _ _ => True)
      store := by
  refine Assured.bind (Assured.attempt (assured_transaction
    fun seen current relied _ later consistent => ⟨fun plan after success => ?_, fun _ _ => trivial, fun _ _ => trivial⟩))
  obtain ⟨silent, kept⟩ := silent_persist ((truthful.lockFree relied).lockFree later) consistent success
  refine ⟨silent, kept, ?_, fun _ _ => trivial⟩
  cases plan with
  | notSent classification producer releaseReason dispatchAttempted =>
    exact (silent_releaseUnsubmittedOrRouteToRecovery _ _ _ _ _).bind (fun _ => harmless_pure) after
  | outcome classification =>
    exact (silent_attemptReleaseAfterRecordedOutcome _ _).attempt.bind (fun _ => harmless_pure) after

/-- Handling a truthful failure never posts. -/
theorem silent_handle (intent : OrderIntent) (truthful : failure.Truthful store) :
    (failure.handle fingerprint intent).Assured silentContract EntryFault (fun _ _ => True) store := by
  have loaded : failure.loadRecords.Harmless recordingContract EntryFault :=
    harmless_ite (harmless_loadEntryDispatchRecords.attempt.bind fun _ => harmless_pure)
      harmless_pure
  refine loaded.before silentContract failure.Truthful rfl rfl (fun _ _ kept => kept.toBookkeeping.toSilent)
    (fun _ _ free held => held.lockFree free) (fun _ _ kept held => held.recording kept) truthful
    (fun records _ held => silent_persistAndRelease fingerprint held) fun _ _ _ => trivial

end WorkerFailure

variable {update : OrderIntent → OrderIntent}

section Pending

variable {store : EntryLifecycle}

/-- A change of the intent that leaves its status alone keeps the attempt. -/
theorem EntryLifecycle.InAttempt.updateIntent (attempt : store.InAttempt)
    (consistent : store.Consistent) (same : ∀ intent, (update intent).status = intent.status) :
    Silent store (store.updateIntent update) ∧ (store.updateIntent update).Consistent ∧
      (store.updateIntent update).InAttempt := by
  obtain ⟨silent, kept⟩ := silent_settleOrKeepIntent consistent fun intent => .inr (same intent)
  refine ⟨silent, kept, attempt.unposted, ?_, attempt.undecided⟩
  rw [intentStatus_updateIntent]
  simp only [same]
  exact attempt.submitting

theorem assured_recordOrderIntentRiskEvaluation (decision : RiskDecision) (attempt : store.InAttempt) :
    (recordOrderIntentRiskEvaluation decision).Assured silentContract EntryFault
      (fun _ current => current.InAttempt) store := by
  refine Assured.readThen fun current free _ => ⟨?_, fun _ _ => attempt.lockFree free⟩
  replace attempt := attempt.lockFree free
  split
  case isFalse => exact attempt
  case isTrue =>
    refine assured_write_keeps fun current free consistent => ?_
    replace attempt := attempt.lockFree free
    exact ⟨attempt, attempt.updateIntent consistent fun _ => rfl⟩

/-- The result of the steps before the boundary: nothing was sent, and an identity means an attempt. -/
def Claimed (result : Except EntryError (Option EntryIdentity)) (store : EntryLifecycle) : Prop :=
  store.posts = 0 ∧ ∀ identity, result = .ok (some identity) → store.InAttempt

variable {error : EntryError}

theorem claimed_error (unposted : store.posts = 0) : Claimed (.error error) store :=
  ⟨unposted, nofun⟩

theorem claimed_none (unposted : store.posts = 0) : Claimed (.ok none) store :=
  ⟨unposted, nofun⟩

/-- Taking a waiting intent starts an attempt that has decided and sent nothing. -/
theorem inAttempt_of_waiting (update : OrderIntent → OrderIntent) (consistent : store.Consistent)
    (waiting : store.Waiting) (submitting : ∀ intent, (update intent).status = .submitting) :
    Silent store (store.updateIntent update) ∧ (store.updateIntent update).Consistent ∧
      (store.updateIntent update).InAttempt := by
  obtain ⟨silent, kept⟩ := silent_updateIntent consistent (fun _ _ _ => waiting) fun _ _ _ =>
    consistent.waiting_undecided waiting
  refine ⟨silent, kept, consistent.waiting_unposted waiting, ?_, consistent.waiting_undecided waiting⟩
  rw [intentStatus_updateIntent]
  simp only [submitting]
  cases present : store.intent with
  | none => simp [Waiting, intentStatus, present] at waiting
  | some intent => rfl

/-- Blocking a claimed intent keeps it unposted and settles it. -/
theorem EntryLifecycle.InAttempt.settleIntent (attempt : store.InAttempt)
    (consistent : store.Consistent) (settled : ∀ intent, (update intent).status.Settled) :
    Silent store (store.updateIntent update) ∧ (store.updateIntent update).Consistent ∧
      (store.updateIntent update).posts = 0 := by
  obtain ⟨silent, kept⟩ := silent_settleIntent consistent settled
  exact ⟨silent, kept, attempt.unposted⟩

/-- Blocking a claimed intent together with not-sent evidence. -/
theorem EntryLifecycle.InAttempt.settleAsNotSent (attempt : store.InAttempt)
    (consistent : store.Consistent) (settled : ∀ intent, (update intent).status.Settled)
    (classification : DeliveryClassification) (source : RecoverySource) (producer reason : String) :
    Silent store (appendNotSentEvidence classification source producer reason (store.updateIntent update)) ∧
      (appendNotSentEvidence classification source producer reason (store.updateIntent update)).Consistent ∧
      (appendNotSentEvidence classification source producer reason (store.updateIntent update)).posts = 0 := by
  obtain ⟨silent, kept, unposted⟩ := attempt.settleIntent consistent settled
  obtain ⟨waiting, submitting⟩ := settled_updateIntent store settled
  obtain ⟨appended, final⟩ := silent_appendNotSent _ kept unposted waiting submitting
  exact ⟨silent.trans appended, final, unposted⟩

theorem assured_blockByRiskRecheck (reason : String) (attempt : store.InAttempt) :
    (blockByRiskRecheck fingerprint reason).Assured silentContract EntryFault
      (fun _ current => current.posts = 0) store := by
  have blocked : (Program.write fun store => appendNotSentEvidence .notSentPreDispatch .worker
      "WORKER_RISK_RECHECK" "WORKER_RISK_RECHECK_BLOCKED"
      (store.updateIntent fun row => { row with status := .blocked, blockReason := some reason }) :
      EntryProgram Unit).Assured silentContract EntryFault (fun _ current => current.posts = 0) store := by
    refine assured_write_keeps fun current free consistent => ?_
    replace attempt := attempt.lockFree free
    exact ⟨attempt.unposted, attempt.settleAsNotSent consistent (fun _ => (by decide : OrderStatus.blocked.Settled)) _ _ _ _⟩
  refine Assured.bind (blocked.mono fun result current unposted => ?_)
  cases result with
  | error error => exact unposted
  | ok value =>
    exact unposted_of_silent (harmless_elsewhere.bind fun _ =>
      (silent_releaseUnsubmittedOrRouteToRecovery _ _ _ _ _).bind fun _ => harmless_pure) unposted

theorem assured_blockExitRequest (attempt : store.InAttempt) :
    blockExitRequest.Assured silentContract EntryFault (fun _ current => current.posts = 0) store := by
  refine assured_write_keeps fun current free consistent => ?_
  replace attempt := attempt.lockFree free
  exact ⟨attempt.unposted, attempt.settleIntent consistent fun _ => (by decide : OrderStatus.blocked.Settled)⟩

theorem assured_recheckRisk (attempt : store.InAttempt) : (recheckRisk fingerprint).Assured silentContract EntryFault
      (fun result current => current.posts = 0 ∧ (result = .ok true → current.InAttempt)) store := by
  rintro (message | decision)
  · exact ⟨attempt.unposted, nofun⟩
  refine Assured.bind ((assured_recordOrderIntentRiskEvaluation decision attempt).mono
    fun result current attempt => ?_)
  cases result with
  | error error => exact ⟨attempt.unposted, nofun⟩
  | ok value =>
    cases decision with
    | allowed => exact ⟨attempt.unposted, fun _ => attempt⟩
    | refused reason =>
      refine Assured.bind ((assured_blockByRiskRecheck fingerprint reason attempt).mono
        fun result current unposted => ?_)
      cases result with
      | error error => exact ⟨unposted, nofun⟩
      | ok value => exact ⟨unposted, nofun⟩

theorem assured_recheckClaimedIntent (intent : OrderIntent) (attempt : store.InAttempt) :
    (recheckClaimedIntent fingerprint intent).Assured silentContract EntryFault Claimed store := by
  refine (bookkeeping_transition (by decide)).before silentContract InAttempt rfl rfl (fun _ _ kept => kept.toSilent)
    (fun _ _ free held => held.lockFree free) (fun _ _ kept held => held.bookkeeping kept) attempt
    (fun _ current attempt => ?_) fun _ _ attempt => claimed_error attempt.unposted
  split
  case h_2 => exact claimed_error attempt.unposted
  case h_1 clientOrderId tradingAccountId _ _ _ _ =>
    rintro (message | request)
    · exact claimed_error attempt.unposted
    refine assured_ite (fun _ => ?_) fun _ => ?_
    · refine Assured.bind ((assured_blockExitRequest attempt).mono fun result current unposted => ?_)
      cases result with
      | error error => exact claimed_error unposted
      | ok value => exact claimed_none unposted
    · refine Assured.bind ((assured_recheckRisk fingerprint attempt).mono fun result current held => ?_)
      rcases result with error | _ | _
      · exact claimed_error held.1
      · exact claimed_none held.1
      · exact ⟨held.1, fun _ _ => held.2 rfl⟩

/-- The steps before the boundary send nothing; an identity means that the worker holds the intent. -/
theorem assured_claimPendingIntent (intent : OrderIntent) (unposted : store.posts = 0) :
    (claimPendingIntent fingerprint intent).Assured silentContract EntryFault Claimed store := by
  refine Harmless.before (harmless_requireEntryExposureClaim false) silentContract (fun current => current.posts = 0)
    rfl rfl (fun _ _ kept => kept) (fun _ _ free held => free.unposted.trans held)
    (fun _ _ kept held => kept.unposted.trans held) unposted (fun _ current unposted => ?_)
    fun _ _ unposted => claimed_error unposted
  refine Assured.bind (assured_commit fun current free consistent => ?_)
  replace unposted : current.posts = 0 := free.unposted.trans unposted
  refine ⟨fun claimed after success => ?_, nofun, fun _ _ => claimed_error unposted⟩
  rw [updateIntentFrom] at success
  split at success
  case isFalse =>
    cases success
    exact ⟨Silent.refl current, consistent, claimed_none unposted, fun _ _ => claimed_error unposted⟩
  case isTrue pending =>
    cases success
    have waiting : current.Waiting := by
      cases present : current.intent with
      | none => simp [present] at pending
      | some row => exact .inr (by simpa [intentStatus, present] using pending)
    generalize shape : (fun row : OrderIntent => { row with status := OrderStatus.submitting }) = update
    obtain ⟨silent, kept, attempt⟩ := inAttempt_of_waiting update consistent waiting
      fun row => by rw [← shape]
    exact ⟨silent, kept, assured_recheckClaimedIntent fingerprint intent attempt,
      fun _ _ => claimed_error attempt.unposted⟩

/-- Errors that carry no adapter classification. -/
def Unclassified (error : EntryError) : Prop :=
  ∀ classification statusCode message, error ≠ .brokerWrite classification statusCode message

theorem unclassified_of_fault (error : EntryError) (faulty : EntryFault error) : Unclassified error := by
  obtain ⟨message, rfl⟩ := faulty
  exact nofun

theorem unclassified_conflict {code : ConflictCode} {message : String} : Unclassified (.conflict code message) :=
  nofun

theorem raises_read {α : Type} {view : EntryLifecycle → α} :
    (Program.read view : EntryProgram α).Raises EntryFault Unclassified :=
  Program.raises_read unclassified_of_fault

theorem raises_write {update : EntryLifecycle → EntryLifecycle} :
    (Program.write update : EntryProgram Unit).Raises EntryFault Unclassified :=
  Program.raises_write unclassified_of_fault

theorem raises_compareAndSetStatus {observed next : ClaimStatus} :
    (Program.commit (compareAndSetStatus observed next)).Raises EntryFault Unclassified := by
  refine raises_commit unclassified_of_fault fun store error failure => ?_
  unfold compareAndSetStatus at failure
  split at failure
  · split_ifs at failure
  · cases failure

variable (eventType : ClaimEventType)

theorem raises_appendClaimDiagnostic {evidence : EvidenceFields} :
    (appendClaimDiagnostic eventType evidence).Raises EntryFault Unclassified := by
  refine raises_read.bind fun claim => ?_
  cases claim with
  | none => exact raises_pure
  | some current =>
    exact raises_ite raises_pure (raises_write.bind fun _ => raises_write)

theorem raises_transitionEntryExposureClaim (status : ClaimStatus) (eventType : ClaimEventType)
    (evidence : EvidenceFields) :
    (transitionEntryExposureClaim status eventType evidence).Raises EntryFault Unclassified := by
  have required : (requireEntryExposureClaim true).Raises EntryFault Unclassified := by
    refine raises_read.bind fun claim => ?_
    cases claim with
    | none => exact raises_throw (unclassified_conflict)
    | some claim =>
      exact raises_ite (raises_throw unclassified_conflict)
        (raises_ite (raises_throw unclassified_conflict) raises_pure)
  refine required.bind fun claim => ?_
  refine raises_ite raises_write (raises_ite (raises_throw unclassified_conflict) ?_)
  refine raises_compareAndSetStatus.bind fun changed => raises_ite raises_write ?_
  refine raises_read.bind fun current => ?_
  cases current with
  | none => exact raises_pure
  | some current =>
    exact raises_ite raises_pure (raises_throw unclassified_conflict)

theorem raises_markClaimUnresolved (evidence : EvidenceFields) :
    (markClaimUnresolved eventType evidence).Raises EntryFault Unclassified := by
  refine raises_read.bind fun claim => ?_
  cases claim with
  | none => exact raises_pure
  | some current =>
    refine raises_ite raises_pure ?_
    exact raises_compareAndSetStatus.bind fun changed => raises_ite raises_write raises_pure

theorem raises_confirmedTerminalTransaction (evidence : TerminalBrokerEvidence) (order : AlpacaOrderView)
    (brokerFilled : ℚ) : (confirmedTerminalTransaction evidence order brokerFilled).Raises EntryFault Unclassified := by
  refine raises_read.bind fun claim => ?_
  cases claim with
  | none => exact raises_pure
  | some current =>
    refine raises_ite raises_pure (raises_read.bind fun _ => raises_read.bind fun _ =>
      raises_read.bind fun _ => ?_)
    exact raises_ite (raises_appendClaimDiagnostic _) raises_write

theorem raises_releaseConfirmedTerminalEntryClaim (brokerStatus : OrderStatus) (allowUnresolved : Bool) :
    (releaseConfirmedTerminalEntryClaim brokerStatus allowUnresolved).Raises EntryFault Unclassified := by
  refine raises_ite raises_pure ?_
  refine raises_read.bind fun rows => ?_
  rcases rows with ⟨_ | claim, attached, intent, securities⟩
  · exact raises_pure
  refine raises_ite raises_pure (raises_ite ?_ (raises_ite raises_pure ?_))
  · exact raises_transitionEntryExposureClaim _ _ _
  refine raises_read.bind fun localOrder => ?_
  refine raises_attempt.bind fun acquired => ?_
  cases acquired with
  | error error => exact raises_appendClaimDiagnostic _
  | ok evidence =>
    refine raises_ite (raises_markClaimUnresolved _ _) ?_
    rcases evidence with ⟨chain, _ | order, position, openOrders⟩
    · exact raises_appendClaimDiagnostic _
    refine raises_ite (raises_appendClaimDiagnostic _) ?_
    refine raises_read.bind fun activities => ?_
    split
    · exact raises_appendClaimDiagnostic _
    · exact raises_ite (raises_appendClaimDiagnostic _) (raises_confirmedTerminalTransaction _ _ _)

theorem inconclusive_settleIntent (consistent : store.Consistent) (settled : ∀ intent, (update intent).status.Settled) :
    Inconclusive store (store.updateIntent update) ∧ (store.updateIntent update).Consistent := by
  obtain ⟨silent, kept⟩ := silent_settleIntent consistent settled
  exact ⟨⟨silent, id⟩, kept⟩

variable (submission : EntrySubmission)

theorem inconclusive_storeSubmission : (storeSubmission submission).Harmless inconclusiveContract EntryFault := by
  have submitted : OrderStatus.submitted.Settled := by decide
  refine harmless_read.bind fun existing => harmless_ite ?_ ?_
  · exact harmless_elsewhere.bind fun _ => harmless_write fun _ consistent =>
      inconclusive_settleIntent consistent fun _ => submitted
  · refine (harmless_write fun store consistent => ?_).bind fun _ => harmless_elsewhere
    generalize shape : (store.updateIntent fun row => { row with status := .submitted }) = updated
    obtain ⟨moved, kept⟩ : Inconclusive store updated ∧ updated.Consistent := by
      rw [← shape]
      exact inconclusive_settleIntent consistent fun _ => submitted
    rw [recordBrokerOrder, shape]
    have recorded : Bookkeeping updated { updated with
          brokerOrders := store.brokerOrders ++ [⟨submission.order.id, submission.order.status⟩]
          pairBuyOrders := store.pairBuyOrders ++ [⟨submission.order.id, submission.order.status⟩] } ∧ _ :=
      bookkeeping_of_same kept rfl rfl rfl
    exact ⟨moved.trans recorded.1.toInconclusive, recorded.2⟩

theorem inconclusive_recordSubmittedOrder : (recordSubmittedOrder submission).Harmless inconclusiveContract EntryFault := by
  have transitioned : (transitionEntryExposureClaim .brokerOrderActive
      (if submission.duplicate then .brokerOrderRecovered else .brokerOrderAccepted)
      { detail := submission.order.id }).Harmless inconclusiveContract EntryFault := by
    refine inconclusive_of_bookkeeping (bookkeeping_transition ?_)
    split_ifs <;> decide
  exact transitioned.attempt.bind fun _ => (inconclusive_storeSubmission submission).bind fun _ =>
    inconclusive_releaseConfirmedTerminalEntryClaim _ _

theorem raises_recordSubmittedOrder : (recordSubmittedOrder submission).Raises EntryFault Unclassified := by
  refine raises_attempt.bind fun _ => Raises.bind ?_ fun _ =>
    raises_releaseConfirmedTerminalEntryClaim _ _
  exact raises_read.bind fun existing => raises_ite (raises_read.bind fun _ => raises_write)
    (raises_write.bind fun _ => raises_read)

theorem Crossing.truthful {phase : EntryBrokerSubmissionPhase}
    (crossing : Crossing (phase, .error error) store) : (WorkerFailure.mk (some phase) error).Truthful store where
  unsent := by
    intro claims
    simp only [WorkerFailure.claimsNoRequest, WorkerFailure.definitelyNotDispatched,
      WorkerFailure.preDispatchCandidate, Option.isNone_some, Bool.false_or, Bool.or_eq_true, Bool.and_eq_true,
      beq_iff_eq, Option.some.injEq] at claims
    rcases claims with (rfl | ⟨rfl, _⟩) | guarded
    · exact crossing.unsent nofun nofun
    · exact crossing.unsent nofun nofun
    · cases error with
      | brokerWrite classification statusCode message =>
        refine crossing.guarded classification statusCode message rfl ?_
        simpa [WorkerFailure.classification] using guarded
      | conflict code message => simp [WorkerFailure.classification] at guarded
      | dispatchRefused technical outcome reasonCode decisionId => simp [WorkerFailure.classification] at guarded
      | dispatchRecordedNotSent record recordId => simp [WorkerFailure.classification] at guarded
      | technical message => simp [WorkerFailure.classification] at guarded
  undecided := fun _ => crossing.undecided

theorem truthful_beforeBoundary (unposted : store.posts = 0) : (WorkerFailure.mk none error).Truthful store where
  unsent := fun _ => unposted
  undecided := fun dispatched => by simp [WorkerFailure.definitelyNotDispatched] at dispatched

theorem boundary_processPendingOrder : (processPendingOrder fingerprint).Harmless boundaryContract EntryFault := by
  intro store
  refine Assured.readThen fun current _ consistent => ⟨?_, fun _ _ => trivial⟩
  cases present : current.intent with
  | none => trivial
  | some intent =>
    refine assured_ite (fun _ => trivial) fun pending => ?_
    have waiting : current.Waiting := .inr (by simpa [intentStatus, present] using pending)
    have claimed := (assured_claimPendingIntent fingerprint intent (consistent.waiting_unposted waiting)).weaken
      boundaryContract rfl rfl fun _ _ kept => kept.toAdvance
    have handled : ∀ (failure : WorkerFailure) (current : EntryLifecycle), failure.Truthful current →
        (failure.handle fingerprint intent).Assured boundaryContract EntryFault (fun _ _ => True) current :=
      fun failure current truthful => (WorkerFailure.silent_handle fingerprint intent truthful).weaken boundaryContract
        rfl rfl fun _ _ kept => kept.toAdvance
    refine Assured.bind (Assured.attempt (claimed.mono fun result current claimed => ?_))
    rcases result with error | _ | identity
    · exact handled _ current (truthful_beforeBoundary claimed.1)
    · trivial
    refine Assured.bind ((assured_submitOrderToBroker identity (claimed.2 identity rfl)).mono
      fun result current crossed => ?_)
    rcases result with error | ⟨phase, error | submission⟩
    · trivial
    · exact handled _ current (crossed _ rfl).truthful
    have crossing := crossed _ rfl
    have recorded := ((inconclusive_recordSubmittedOrder submission).frame boundaryContract
      (fun current => .notSentEvidenceRecorded ∉ current.log ∧
        (phase ≠ .dispatchStarted → phase ≠ .brokerResponded → current.posts = 0))
      rfl rfl (fun _ _ kept => kept.toAdvance)
      (fun _ _ free held => ⟨undecided_lockFree held.1 free, fun started responded =>
        free.unposted.trans (held.2 started responded)⟩)
      (fun _ _ kept held => ⟨fun member => held.1 (kept.undecided member), fun started responded =>
        kept.unposted.trans (held.2 started responded)⟩)
      ⟨crossing.undecided, crossing.unsent⟩).raising (raises_recordSubmittedOrder submission)
    refine Assured.bind (Assured.attempt (recorded.mono fun result current held => ?_))
    cases result with
    | ok value => trivial
    | error error =>
      refine handled _ current (Crossing.truthful ⟨held.1.1, held.1.2, fun _ _ _ same _ => ?_⟩)
      cases same
      exact absurd rfl (held.2 _ rfl _ _ _)

end Pending

section StaleSubmitting

variable {store : EntryLifecycle}

/-- A compare-and-set of the intent that settles it or leaves its status alone. -/
theorem silent_updateIntentFrom {sources : List OrderStatus} (consistent : store.Consistent)
    (each : ∀ intent, (update intent).status.Settled ∨ (update intent).status = intent.status) :
    Silent store (store.updateIntentFrom sources update).2 ∧ (store.updateIntentFrom sources update).2.Consistent := by
  unfold updateIntentFrom
  split
  · exact silent_settleOrKeepIntent consistent each
  · exact ⟨Silent.refl store, consistent⟩

theorem silent_linkFoundOrder (order : AlpacaOrderView) (consistent : store.Consistent) :
    Silent store (linkFoundOrder order store) ∧ (linkFoundOrder order store).Consistent := by
  unfold linkFoundOrder
  split
  · exact silent_updateIntentFrom consistent fun _ => .inl (by decide : OrderStatus.submitted.Settled)
  · generalize shape : ({ store with
        brokerOrders := store.brokerOrders ++ [⟨order.id, order.status⟩]
        pairBuyOrders := store.pairBuyOrders ++ [⟨order.id, order.status⟩] } : EntryLifecycle) = linked
    obtain ⟨recorded, kept⟩ : Bookkeeping store linked ∧ linked.Consistent := by
      rw [← shape]
      exact bookkeeping_of_same consistent rfl rfl rfl
    obtain ⟨moved, final⟩ : Silent linked (linked.updateIntentFrom [.submitting] fun row =>
        { row with status := .submitted, blockReason := none }).2 ∧ _ :=
      silent_updateIntentFrom kept fun _ => .inl (by decide : OrderStatus.submitted.Settled)
    exact ⟨recorded.toSilent.trans moved, final⟩

variable {records : EntryDispatchRecords}

theorem unmarked_of_staleProven
    (proven : staleProvenNotSent records seen = true) (claimed : seen.claimStatus = some .entrySubmitting) :
    .adapterInvocationStarted ∉ seen.log := by
  rw [mem_log_iff_deliveryEvents (by decide), ← Recorded, ← adapterMarkers_eq_zero_iff]
  cases present : seen.claim with
  | none => simp [claimStatus, present] at claimed
  | some claim =>
    have status : claim.status = .entrySubmitting := by simpa [claimStatus, present] using claimed
    simp only [staleProvenNotSent, present, Option.any_some, Bool.and_eq_true, Bool.or_eq_true, beq_iff_eq,
      status] at proven
    rcases proven.2.2 with early | ⟨_, markers⟩
    · exact absurd early (by decide)
    · exact markers

/-- Recovery records not-sent evidence only when its log has no marker. -/
theorem silent_disposeStaleSubmission
    {after : EntryLifecycle} {notSent : Bool} (free : LockFree seen store) (consistent : store.Consistent)
    (success : disposeStaleSubmission intent records seen store = .ok (notSent, after)) :
    Silent store after ∧ after.Consistent := by
  unfold disposeStaleSubmission updateIntentFrom at success
  dsimp only at success
  generalize shape : (fun row : OrderIntent => { row with
    status := OrderStatus.failed
    blockReason := preserveBlockReason intent.blockReason (staleBlockReason records (staleProvenNotSent records seen)) })
      = update at success
  have settled : ∀ row, (update row).status.Settled := fun row => by
    rw [← shape]
    exact (by decide : OrderStatus.failed.Settled)
  by_cases submitted : store.intent.any fun intent => [OrderStatus.submitting].contains intent.status
  case neg =>
    simp only [submitted, Bool.false_eq_true, if_false, Bool.not_false, Bool.true_or, if_true] at success
    cases success
    exact ⟨Silent.refl store, consistent⟩
  case pos =>
    simp only [submitted, if_true, Bool.not_true, Bool.false_or] at success
    obtain ⟨silent, kept⟩ := silent_settleIntent consistent settled
    obtain ⟨waiting, submitting⟩ := settled_updateIntent store settled
    split at success
    · cases success
      exact ⟨silent, kept⟩
    split at success
    case isTrue proven =>
      cases success
      split
      case isTrue claimed =>
        have unmarked : .adapterInvocationStarted ∉ store.log := by
          rw [free.recorded_iff (by decide)]
          exact unmarked_of_staleProven proven claimed
        have unposted : store.posts = 0 := by
          by_contra posted
          exact unmarked (consistent.marked posted)
        obtain ⟨appended, final⟩ := silent_appendNotSent _ kept (silent.unposted.trans unposted) waiting submitting
        exact ⟨silent.trans appended, final⟩
      case isFalse => exact ⟨silent, kept⟩
    case isFalse =>
      generalize written : recordOutcomeWithin _ seen.claim (store.updateIntent update) = recorded at success
      cases recorded with
      | error error => cases success
      | ok recorded =>
        cases success
        obtain ⟨outcome, final⟩ := bookkeeping_recordOutcomeWithin kept written
        exact ⟨silent.trans outcome.toSilent, final⟩

/-- Stale recovery never posts. -/
theorem silent_recoverStaleIntent {persisted : Bool} :
    (recoverStaleIntent fingerprint intent persisted).Harmless silentContract EntryFault := by
  have telemetry : ∀ eventType, (bestEffortAppendBrokerOpportunityEvent eventType).Harmless silentContract EntryFault :=
    fun eventType => silent_of_bookkeeping (bookkeeping_bestEffort eventType)
  unfold recoverStaleIntent
  cases intent.clientOrderId with
  | none => exact harmless_pure
  | some clientOrderId =>
    refine (harmless_requireEntryExposureClaim true).bind fun _ => harmless_ite ?_ ?_
    · refine (telemetry _).bind fun _ => (telemetry _).bind fun _ => ?_
      refine (harmless_write fun store consistent => silent_updateIntentFrom consistent fun _ =>
        .inl (by decide : OrderStatus.submitted.Settled)).bind fun _ => ?_
      exact silent_of_bookkeeping (bookkeeping_transition (by decide))
    refine harmless_read.bind fun progressed => harmless_ite harmless_pure ?_
    refine harmless_answer.bind fun found => ?_
    rcases found with message | _ | order
    · exact (telemetry _).bind fun _ => harmless_throw
    · refine (telemetry _).bind fun _ => harmless_ite ?_ ?_
      · refine (harmless_write fun store consistent => silent_updateIntentFrom consistent
          (by exact fun _ => .inr rfl)).bind fun _ => harmless_elsewhere
      refine harmless_loadEntryDispatchRecords.bind fun records => ?_
      refine (harmless_transaction fun seen store notSent after _ free consistent success =>
        silent_disposeStaleSubmission free consistent success).bind fun notSent => ?_
      exact harmless_ite ((silent_releaseUnsubmittedOrRouteToRecovery _ _ _ _ _).bind fun _ =>
        harmless_pure) harmless_pure
    · refine harmless_ite harmless_throw ?_
      refine (telemetry _).bind fun _ => (telemetry _).bind fun _ => ?_
      refine (harmless_write fun store consistent => silent_linkFoundOrder order consistent).bind fun _ => ?_
      exact harmless_elsewhere.bind fun _ => silent_of_bookkeeping (bookkeeping_transition (by decide))

theorem silent_recoverStaleSubmittingIntent :
    (recoverStaleSubmittingIntent fingerprint).Harmless silentContract EntryFault := by
  refine harmless_read.bind fun now => harmless_read.bind fun rows => ?_
  rcases rows with ⟨_ | intent, persisted⟩
  · exact harmless_pure
  refine harmless_ite harmless_pure ?_
  refine (silent_recoverStaleIntent fingerprint).attempt.bind fun recovered => ?_
  cases recovered with
  | ok value => exact harmless_pure
  | error error => exact harmless_elsewhere.attempt.bind fun _ => harmless_pure

end StaleSubmitting

theorem ReportedOrder.settled (reported : ReportedOrder) : reported.order.status.Settled := by
  have foreign := reported.reported
  simp only [preBrokerIntentStatuses, List.mem_cons, List.not_mem_nil, or_false, not_or] at foreign
  exact foreign

theorem inconclusive_applyObservedStatus (observed : LocalBrokerOrder) {next : OrderStatus} (settled : next.Settled) :
    (applyObservedStatus observed next).Harmless inconclusiveContract EntryFault := by
  refine (harmless_commit fun store _ after consistent success => ?_).bind fun updated => ?_
  · cases success
    obtain ⟨recorded, kept⟩ : Bookkeeping store { store with
        brokerOrders := store.brokerOrders.map fun order =>
          if order = observed then { order with status := next } else order } ∧ _ :=
      bookkeeping_of_same consistent rfl rfl rfl
    exact ⟨recorded.toInconclusive, kept⟩
  refine harmless_ite harmless_pure ?_
  refine (harmless_write fun store consistent =>
    inconclusive_settleIntent consistent (by exact fun _ => settled)).bind fun _ => ?_
  refine (inconclusive_of_bookkeeping (bookkeeping_transition (by decide))).attempt.bind fun _ => ?_
  exact (inconclusive_releaseConfirmedTerminalEntryClaim _ _).bind fun _ => harmless_elsewhere

/-- The submitted-order sync never posts. -/
theorem silent_syncSubmittedOrder : syncSubmittedOrder.Harmless silentContract EntryFault := by
  have silent : ∀ {program : EntryProgram Unit}, program.Harmless inconclusiveContract EntryFault →
      program.Harmless silentContract EntryFault := fun harmless =>
    harmless.weaken rfl rfl fun _ _ kept => kept.toSilent
  refine harmless_read.bind fun selected => ?_
  rcases selected with ⟨_ | _, localOrder⟩
  · exact harmless_pure
  refine (harmless_write fun store consistent =>
    silent_settleOrKeepIntent consistent fun _ => .inr rfl).bind fun _ => ?_
  cases localOrder with
  | none =>
    exact (silent_of_bookkeeping (bookkeeping_appendClaimDiagnostic (by decide))).attempt.bind fun _ =>
      harmless_pure
  | some observed =>
    refine harmless_lookup.bind fun reported => ?_
    cases reported with
    | none => exact harmless_pure
    | some reported =>
      refine harmless_elsewhere.bind fun _ => harmless_ite ?_ ?_
      · exact silent (inconclusive_applyObservedStatus observed reported.settled)
      · exact harmless_ite (silent (inconclusive_releaseConfirmedTerminalEntryClaim _ _)) harmless_pure

end AiTrader.Entry
