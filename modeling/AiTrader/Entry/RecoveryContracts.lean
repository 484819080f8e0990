import AiTrader.Entry.LifecycleContracts
import AiTrader.Entry.ConfirmedTerminal
import AiTrader.Entry.TerminalSweep

/-! # Recovery never posts

Every recovery service keeps `Consistent` and issues no POST; not-sent evidence is recorded for an entry that was never
sent. -/

namespace AiTrader.Entry

open Library Library.Program EntryLifecycle

section Reads

variable {contract : Contract EntryLifecycle}

theorem harmless_loadEntryDispatchRecords : loadEntryDispatchRecords.Harmless contract EntryFault := by
  refine harmless_read.bind fun _ => ?_
  refine harmless_read.bind fun _ => ?_
  refine harmless_read.bind fun _ => ?_
  exact harmless_read.bind fun _ => harmless_pure

theorem harmless_localExposure (claim : EntryExposureClaim) (startedAt : Option Nat) :
    (localExposure claim startedAt).Harmless contract EntryFault := by
  refine harmless_read.bind fun _ => ?_
  refine harmless_read.bind fun _ => ?_
  refine harmless_read.bind fun _ => ?_
  refine harmless_read.bind fun _ => ?_
  exact harmless_read.bind fun _ => harmless_pure

theorem harmless_verifyAtBroker (clientOrderId : Option String) :
    (verifyAtBroker clientOrderId).Harmless contract EntryFault := by
  refine harmless_ite ?_ harmless_pure
  refine harmless_answer.bind fun verification => ?_
  cases verification with
  | ok verification => exact harmless_pure
  | error message => exact harmless_pure

theorem harmless_assessEntryClaimRelease (now : Nat) :
    (assessEntryClaimRelease now).Harmless contract EntryFault := by
  refine harmless_read.bind fun rows => ?_
  rcases rows with ⟨_ | claim, _ | intent, securities⟩
  · exact harmless_throw
  · exact harmless_throw
  · exact harmless_throw
  · refine harmless_loadEntryDispatchRecords.bind fun records => ?_
    refine harmless_read.bind fun _ => ?_
    refine (harmless_localExposure claim _).bind fun _ => ?_
    exact (harmless_verifyAtBroker _).bind fun _ => harmless_pure

theorem harmless_lookup {α : Type} : (lookup : EntryProgram α).Harmless contract EntryFault := by
  refine harmless_answer.bind fun reply => ?_
  cases reply with
  | ok value => exact harmless_pure
  | error message => exact harmless_throw

theorem harmless_followReplacements (depth : Nat) : ∀ (chain : List AlpacaOrderView) (order : AlpacaOrderView),
    (followReplacements chain order depth).Harmless contract EntryFault := by
  induction depth with
  | zero =>
    exact fun _ _ => harmless_ite harmless_throw harmless_pure
  | succ depth ih =>
    intro chain order
    refine harmless_ite harmless_pure ?_
    refine harmless_lookup.bind fun replacement => ?_
    cases replacement with
    | none => exact harmless_throw
    | some replacement => exact harmless_ite harmless_throw <| ih _ _

theorem harmless_lookupReplacementChain : lookupReplacementChain.Harmless contract EntryFault := by
  refine harmless_lookup.bind fun found => ?_
  cases found with
  | none => exact harmless_pure
  | some order => exact (harmless_followReplacements 10 [order] order).bind fun _ => harmless_pure

theorem harmless_acquireTerminalBrokerEvidence (identified : Bool) :
    (acquireTerminalBrokerEvidence identified).Harmless contract EntryFault := by
  refine Harmless.bind ?_ fun _ => harmless_lookup.bind fun _ => harmless_lookup.bind fun _ =>
    harmless_pure
  exact harmless_ite harmless_lookupReplacementChain harmless_pure

end Reads

/-- A release on broker evidence is not a never-submitted release. -/
theorem inconclusive_confirmedTerminalTransaction (evidence : TerminalBrokerEvidence) (order : AlpacaOrderView)
    (brokerFilled : ℚ) :
    (confirmedTerminalTransaction evidence order brokerFilled).Harmless inconclusiveContract EntryFault := by
  refine harmless_read.bind fun claim => ?_
  cases claim with
  | none => exact harmless_pure
  | some current =>
    refine harmless_ite harmless_pure ?_
    refine harmless_read.bind fun inactive => ?_
    refine harmless_read.bind fun unopened => ?_
    refine harmless_read.bind fun accounted => ?_
    refine harmless_ite ?_ <| harmless_write fun store consistent => ?_
    · exact inconclusive_of_bookkeeping (bookkeeping_appendClaimDiagnostic (by decide))
    · obtain ⟨kept, later, _⟩ := silent_releaseClaim consistent
        (.inl (show ClaimEventType.releasedAuthoritativeNoExposure ∉ decisiveEventTypes by decide))
      refine ⟨⟨kept, fun member => ?_⟩, later⟩
      exact (mem_log_releaseClaim member).resolve_right (by decide)

theorem inconclusive_releaseConfirmedTerminalEntryClaim (brokerStatus : OrderStatus) (allowUnresolved : Bool) :
    (releaseConfirmedTerminalEntryClaim brokerStatus allowUnresolved).Harmless inconclusiveContract EntryFault := by
  have diagnosed : ∀ eventType ∉ decisiveEventTypes,
      (appendClaimDiagnostic eventType {}).Harmless inconclusiveContract EntryFault :=
    fun _ undecisive => inconclusive_of_bookkeeping (bookkeeping_appendClaimDiagnostic undecisive)
  refine harmless_ite harmless_pure ?_
  refine harmless_read.bind fun rows => ?_
  rcases rows with ⟨_ | claim, attached, intent, securities⟩
  · exact harmless_pure
  refine harmless_ite harmless_pure ?_
  refine harmless_ite ?_ ?_
  · exact inconclusive_of_bookkeeping (bookkeeping_transition (by decide))
  refine harmless_ite harmless_pure ?_
  refine harmless_read.bind fun localOrder => ?_
  refine (harmless_acquireTerminalBrokerEvidence _).attempt.bind fun acquired => ?_
  cases acquired with
  | error error => exact diagnosed _ (by decide)
  | ok evidence =>
    refine harmless_ite ?_ ?_
    · exact inconclusive_of_bookkeeping (bookkeeping_markClaimUnresolved (by decide))
    rcases evidence with ⟨chain, _ | order, position, openOrders⟩
    · exact diagnosed _ (by decide)
    refine harmless_ite (diagnosed _ (by decide)) ?_
    refine harmless_read.bind fun activities => ?_
    split
    · exact diagnosed _ (by decide)
    · exact harmless_ite (diagnosed _ (by decide)) <|
        inconclusive_confirmedTerminalTransaction _ _ _

variable (fingerprint : EntryClaimAssessment → String)

section VerifiedRelease

variable {mode : ReleaseMode} {assessment : EntryClaimAssessment}

theorem silent_applyVerifiedRelease :
    (Program.commit (applyVerifiedRelease mode assessment)).Harmless silentContract EntryFault := by
  refine harmless_commit fun store _ after consistent success => ?_
  obtain ⟨authorized, shape⟩ : ∃ authorized, (if mode.isOperator then
      store.appendEvent .operatorRemediationAuthorized {} else store) = authorized := ⟨_, rfl⟩
  have kept : Bookkeeping store authorized ∧ authorized.Consistent := by
    rw [← shape]
    split_ifs
    · exact bookkeeping_appendEvent _ consistent (by decide)
    · exact ⟨Bookkeeping.refl store, consistent⟩
  simp only [applyVerifiedRelease, shape] at success
  split at success
  · split_ifs at success
    · cases success
      obtain ⟨silent, later, _⟩ := silent_releaseClaim kept.2
        (.inl (show ClaimEventType.releasedVerifiedDispatchNoExposure ∉ decisiveEventTypes by decide))
      exact ⟨kept.1.toSilent.trans silent, later⟩
    · cases success
      exact ⟨kept.1.toSilent, kept.2⟩
  · cases success
    exact ⟨kept.1.toSilent, kept.2⟩

theorem silent_verifiedReleaseTransaction :
    (verifiedReleaseTransaction mode assessment).Harmless silentContract EntryFault := by
  refine harmless_read.bind fun rows => ?_
  rcases rows with ⟨_ | current, intentStatus⟩
  · exact harmless_pure
  refine harmless_ite harmless_pure ?_
  refine (harmless_localExposure _ _).bind fun exposure => ?_
  refine harmless_read.bind fun evidenceEvents => ?_
  refine harmless_loadEntryDispatchRecords.bind fun records => ?_
  refine harmless_ite ?_ silent_applyVerifiedRelease
  exact (silent_of_bookkeeping (bookkeeping_appendClaimDiagnostic (by decide))).bind fun _ =>
    harmless_pure

theorem silent_releaseVerifiedEntryExposureClaim {now : Nat} :
    (releaseVerifiedEntryExposureClaim fingerprint mode now).Harmless silentContract EntryFault := by
  refine (harmless_assessEntryClaimRelease now).bind fun assessment => ?_
  refine harmless_ite harmless_pure ?_
  refine harmless_ite ?_ silent_verifiedReleaseTransaction
  refine harmless_ite ?_ harmless_pure
  exact (silent_of_bookkeeping (bookkeeping_appendClaimDiagnostic (by decide))).bind fun _ =>
    harmless_pure

end VerifiedRelease

variable {store after : EntryLifecycle}

theorem bookkeeping_recordEntryDispatchOutcome (report : DispatchOutcomeReport) :
    (recordEntryDispatchOutcome report).Harmless bookkeepingContract EntryFault := by
  refine harmless_loadEntryDispatchRecords.bind fun records => ?_
  refine harmless_read.bind fun claim => ?_
  cases claim with
  | none => exact harmless_pure
  | some claim =>
    refine harmless_ite harmless_pure ?_
    exact harmless_ite (bookkeeping_appendClaimDiagnostic (by decide)) <|
      bookkeeping_transition (by decide)

/-- Recording an outcome inside a transaction is bookkeeping on the store the transaction commits to. -/
theorem bookkeeping_recordOutcomeWithin {report : DispatchOutcomeReport} {seen : Option EntryExposureClaim}
    (consistent : store.Consistent)
    (success : recordOutcomeWithin report seen store = .ok after) :
    Bookkeeping store after ∧ after.Consistent := by
  unfold recordOutcomeWithin at success
  split at success
  · cases success
    exact ⟨Bookkeeping.refl store, consistent⟩
  split at success
  · cases success
    exact ⟨Bookkeeping.refl store, consistent⟩
  split at success
  · cases success
    exact bookkeeping_appendEventOnce consistent _ _ (by decide)
  split at success
  · cases success
    exact bookkeeping_appendEventOnce consistent _ _ (by decide)
  · split at success
    · cases success
      rename_i compared
      obtain ⟨changed, later⟩ := bookkeeping_compareAndSetStatus
        (ClaimStatus.onward_unresolved _) consistent compared
      obtain ⟨appended, final⟩ := bookkeeping_appendEvent report.evidence later
        (show ClaimEventType.dispatchOutcomeRecorded ∉ decisiveEventTypes by decide)
      exact ⟨changed.trans appended, final⟩
    · split_ifs at success
      cases success
      exact ⟨Bookkeeping.refl store, consistent⟩
    · cases success

theorem bookkeeping_recordRecoveryError : recordRecoveryError.Harmless bookkeepingContract EntryFault := by
  refine harmless_read.attempt.bind fun claim => ?_
  rcases claim with error | _ | claim
  · exact harmless_pure
  · exact harmless_pure
  · exact (bookkeeping_appendClaimDiagnostic (by decide)).attempt.bind fun _ => harmless_pure

theorem silent_attemptReleaseAfterRecordedOutcome (classification : DeliveryClassification) :
    (attemptReleaseAfterRecordedOutcome fingerprint classification).Harmless silentContract EntryFault := by
  refine harmless_ite ?_ harmless_pure
  refine harmless_read.bind fun now => ?_
  refine (silent_releaseVerifiedEntryExposureClaim fingerprint).attempt.bind fun outcome => ?_
  cases outcome with
  | ok outcome => exact harmless_pure
  | error error => exact (silent_of_bookkeeping bookkeeping_recordRecoveryError).bind fun _ => harmless_pure

theorem silent_routeEntryDispatchFailure (report : DispatchOutcomeReport) :
    (routeEntryDispatchFailure fingerprint report).Harmless silentContract EntryFault :=
  (silent_of_bookkeeping (bookkeeping_recordEntryDispatchOutcome report)).bind fun _ =>
    silent_attemptReleaseAfterRecordedOutcome fingerprint report.classification

theorem silent_catchRecordingError {α : Type} {program : EntryProgram α}
    (harmless : program.Harmless silentContract EntryFault) :
    (catchRecordingError program).Harmless silentContract EntryFault := by
  refine harmless.attempt.bind fun result => ?_
  cases result with
  | ok value => exact harmless_pure
  | error error => exact silent_of_bookkeeping bookkeeping_recordRecoveryError

theorem silent_releaseUnsubmittedOrRouteToRecovery (reason : String)
    (source : RecoverySource) (dispatchAttempted : Bool) (message : String) :
    (releaseUnsubmittedOrRouteToRecovery fingerprint reason source dispatchAttempted message).Harmless
      silentContract EntryFault := by
  refine (silent_releaseUnsubmitted reason).attempt.bind fun claim => ?_
  cases claim with
  | ok claim =>
    exact harmless_ite harmless_pure <|
      harmless_ite harmless_pure harmless_pure
  | error error =>
    refine harmless_ite ?_ ?_
    · exact (silent_of_bookkeeping (bookkeeping_appendClaimDiagnostic (by decide))).attempt.bind fun _ =>
        harmless_pure
    refine harmless_loadEntryDispatchRecords.attempt.bind fun records => ?_
    refine harmless_ite ?_ <| harmless_ite ?_ ?_
    · exact (silent_catchRecordingError (silent_routeEntryDispatchFailure fingerprint _)).bind fun _ =>
        harmless_pure
    · exact (silent_catchRecordingError
        (silent_of_bookkeeping (bookkeeping_appendClaimDiagnostic (by decide)))).bind fun _ => harmless_pure
    refine harmless_read.attempt.bind fun claim => ?_
    rcases claim with error | _ | claim
    · exact harmless_pure
    · exact harmless_pure
    · refine harmless_ite harmless_pure ?_
      exact (silent_catchRecordingError
        (silent_of_bookkeeping (bookkeeping_transition (by decide)))).bind fun _ => harmless_pure

section Abandoned

/-- Nothing was posted for the intent, and no worker can take it again. -/
structure EntryLifecycle.Abandoned (store : EntryLifecycle) : Prop where
  unposted : store.posts = 0
  present : store.intent.isSome
  settled : ¬ store.Waiting
  terminal : store.intentStatus ≠ some .submitting

theorem EntryLifecycle.Abandoned.lockFree (abandoned : store.Abandoned) (free : LockFree store after) : after.Abandoned := by
  have same := free.settled abandoned.present abandoned.settled
  refine ⟨free.unposted.trans abandoned.unposted, ?_, ?_, ?_⟩
  · rw [← isSome_intentStatus, same, isSome_intentStatus]
    exact abandoned.present
  · rw [Waiting, same]
    exact abandoned.settled
  · rw [same]
    exact abandoned.terminal

theorem EntryLifecycle.Abandoned.bookkeeping (abandoned : store.Abandoned)
    (kept : Bookkeeping store after) : after.Abandoned := by
  have same : after.intentStatus = store.intentStatus := by
    rw [intentStatus, kept.same_intent, intentStatus]
  refine ⟨kept.unposted.trans abandoned.unposted, kept.same_intent ▸ abandoned.present, ?_, ?_⟩
  · rw [Waiting, same]
    exact abandoned.settled
  · rw [same]
    exact abandoned.terminal

/-- A status from which no worker takes the intent. -/
def OrderStatus.Settled (status : OrderStatus) : Prop :=
  status ≠ .received ∧ status ≠ .pending ∧ status ≠ .submitting

instance (status : OrderStatus) : Decidable status.Settled := inferInstanceAs (Decidable (_ ∧ _ ∧ _))

variable {update : OrderIntent → OrderIntent}

/-- A change of the intent that settles it or leaves its status alone. -/
theorem silent_settleOrKeepIntent (consistent : store.Consistent)
    (each : ∀ intent, (update intent).status.Settled ∨ (update intent).status = intent.status) :
    Silent store (store.updateIntent update) ∧ (store.updateIntent update).Consistent := by
  refine silent_updateIntent consistent (fun intent present waiting => ?_) fun intent present submitting => ?_
  · rcases each intent with settled | same
    · rcases waiting with received | pending
      · exact absurd received settled.1
      · exact absurd pending settled.2.1
    · rw [same] at waiting
      simpa [Waiting, intentStatus, present] using waiting
  · rcases each intent with settled | same
    · exact absurd submitting settled.2.2
    · exact consistent.submitting_undecided (by simp [intentStatus, present, ← same, submitting])

theorem silent_settleIntent (consistent : store.Consistent) (settled : ∀ intent, (update intent).status.Settled) :
    Silent store (store.updateIntent update) ∧ (store.updateIntent update).Consistent :=
  silent_settleOrKeepIntent consistent fun intent => .inl (settled intent)

theorem settled_updateIntent (store : EntryLifecycle) {update : OrderIntent → OrderIntent}
    (settled : ∀ intent, (update intent).status.Settled) :
    ¬ (store.updateIntent update).Waiting ∧ (store.updateIntent update).intentStatus ≠ some .submitting := by
  rw [Waiting, intentStatus_updateIntent]
  cases store.intent with
  | none => simp
  | some intent =>
    obtain ⟨received, pending, submitting⟩ := settled intent
    simp [received, pending, submitting]

end Abandoned

section Sweep

theorem bookkeeping_leaseRecoveryAttempt (now : Nat) :
    (leaseRecoveryAttempt now).Harmless bookkeepingContract EntryFault := by
  refine harmless_commit fun store _ after consistent success => ?_
  cases success
  exact bookkeeping_stamp consistent _

/-- A candidate whose log has no adapter marker is one of an abandoned entry. -/
def TerminalClaimCandidate.Faithful (candidate : TerminalClaimCandidate) (store : EntryLifecycle) : Prop :=
  ¬ Recorded .adapterInvocationStarted candidate.events → store.Abandoned

theorem terminal_settled {status : OrderStatus} (terminal : status ∈ terminalEntryIntentStatuses) :
    status.Settled := by
  simp only [terminalEntryIntentStatuses, List.mem_cons, List.not_mem_nil, or_false] at terminal
  rcases terminal with rfl | rfl | rfl | rfl | rfl | rfl <;> decide

/-- A terminal intent without an adapter marker was never sent. -/
theorem abandoned_of_terminal {intent : OrderIntent} (consistent : store.Consistent)
    (present : store.intent = some intent) (terminal : intent.status ∈ terminalEntryIntentStatuses)
    (unmarked : ¬ Recorded .adapterInvocationStarted store.deliveryEvents) : store.Abandoned := by
  obtain ⟨received, pending, submitting⟩ := terminal_settled terminal
  refine ⟨?_, by simp [present], ?_, by simpa [intentStatus, present] using submitting⟩
  · by_contra posted
    exact unmarked ((mem_log_iff_deliveryEvents (by decide)).mp (consistent.marked posted))
  · simp [Waiting, intentStatus, present, received, pending]

theorem assured_loadTerminalClaimCandidate : loadTerminalClaimCandidate.Assured silentContract EntryFault
      (fun result current => ∀ candidate, result = .ok (some candidate) → candidate.Faithful current) store := by
  refine Assured.readThen fun seen _ consistent => ⟨?_, fun _ _ _ impossible => by cases impossible⟩
  cases claimed : seen.claim with
  | none => exact fun _ impossible => by cases impossible
  | some claim =>
    cases present : seen.intent with
    | none => exact fun _ impossible => by cases impossible
    | some intent =>
      dsimp only
      split_ifs with eligible
      · refine Assured.readThen fun current relied _ => ⟨?_, fun _ _ _ impossible => by cases impossible⟩
        rintro candidate ⟨⟩ unmarked
        simp only [Bool.and_eq_true, List.contains_eq_mem, decide_eq_true_eq] at eligible
        exact (abandoned_of_terminal consistent present eligible.2 unmarked).lockFree relied
      · exact fun _ impossible => by cases impossible

variable {candidate : TerminalClaimCandidate}

theorem silent_recordNotSentEvidenceAndRelease {notSent : DeliveryClassification × String}
    (abandoned : store.Abandoned) :
    (recordNotSentEvidenceAndRelease fingerprint candidate notSent).Assured silentContract EntryFault
      (fun _ _ => True) store := by
  have rest : ∀ recorded : Bool, (if recorded then
      releaseUnsubmittedOrRouteToRecovery fingerprint "TERMINAL_INTENT_VERIFIED_NEVER_SUBMITTED"
        .terminalClaimSweep false ""
      else pure .notReleased).Harmless silentContract EntryFault := fun _ =>
    harmless_ite (silent_releaseUnsubmittedOrRouteToRecovery _ _ _ _ _) harmless_pure
  refine Assured.bind (assured_transaction fun seen current relied _ later consistent => ?_)
  refine ⟨fun recorded after success => ?_, fun _ _ => trivial, fun _ _ => trivial⟩
  have still : current.Abandoned := (abandoned.lockFree relied).lockFree later
  split at success
  · cases success
    exact ⟨Silent.refl current, consistent, rest false _, fun _ _ => trivial⟩
  · split_ifs at success
    · cases success
      exact ⟨Silent.refl current, consistent, rest false _, fun _ _ => trivial⟩
    · cases success
      obtain ⟨silent, kept⟩ := silent_appendNotSent _ consistent still.unposted still.settled
        still.terminal
      exact ⟨silent, kept, rest true _, fun _ _ => trivial⟩

theorem silent_attemptTerminalClaim {now : Nat} (faithful : candidate.Faithful store) :
    (attemptTerminalClaim fingerprint candidate now).Assured silentContract EntryFault (fun _ _ => True) store := by
  have verified : ∀ current, (do
      let _ ← releaseVerifiedEntryExposureClaim fingerprint .system now
      pure () : EntryProgram Unit).Assured silentContract EntryFault (fun _ _ => True) current :=
    (silent_releaseVerifiedEntryExposureClaim fingerprint).bind fun _ => harmless_pure
  have nominated := @classifyTerminalEntryClaim_notSent candidate now
  unfold attemptTerminalClaim
  cases classified : classifyTerminalEntryClaim candidate now with
  | mk state notSent =>
    rw [classified] at nominated
    cases state with
    | automaticNeverSubmittedRelease =>
      exact (silent_releaseUnsubmittedOrRouteToRecovery _ _ _ _ _).bind (fun _ => harmless_pure) _
    | automaticNotSentEvidenceRecording =>
      cases notSent with
      | none => exact verified _
      | some notSent =>
        refine Assured.bind ((silent_recordNotSentEvidenceAndRelease fingerprint
          (faithful (nominated (by simp)))).mono fun result _ _ => ?_)
        cases result <;> trivial
    | automaticOutcomeRecording =>
      refine (silent_of_bookkeeping (bookkeeping_recordEntryDispatchOutcome _)).bind (fun _ => ?_) _
      exact harmless_ite verified harmless_pure
    | automaticVerifiedRelease => exact verified _
    | operatorInvestigation => exact verified _
    | protectedExposure => exact verified _

theorem TerminalClaimCandidate.Faithful.bookkeeping (kept : Bookkeeping store after) (faithful : candidate.Faithful store) :
    candidate.Faithful after := fun unmarked => (faithful unmarked).bookkeeping kept

theorem TerminalClaimCandidate.Faithful.lockFree (free : LockFree store after) (faithful : candidate.Faithful store) :
    candidate.Faithful after := fun unmarked => (faithful unmarked).lockFree free

/-- The sweep's turn never posts. -/
theorem silent_recoverTerminalEntryClaim : (recoverTerminalEntryClaim fingerprint).Harmless silentContract EntryFault := by
  refine harmless_read.bind fun now store => ?_
  refine Assured.bind (assured_loadTerminalClaimCandidate.mono fun result current faithful => ?_)
  rcases result with error | _ | candidate
  · trivial
  · trivial
  dsimp only
  split_ifs
  · trivial
  refine (bookkeeping_leaseRecoveryAttempt now).attempt.before silentContract candidate.Faithful rfl rfl
    (fun _ _ kept => kept.toSilent) (fun _ _ => TerminalClaimCandidate.Faithful.lockFree)
    (fun _ _ => TerminalClaimCandidate.Faithful.bookkeeping) (faithful candidate rfl) ?_ fun _ _ _ => trivial
  intro leased current faithful
  rcases leased with error | _ | _
  · trivial
  · trivial
  have attempted : (catchRecordingError (attemptTerminalClaim fingerprint candidate now)).Assured silentContract EntryFault
      (fun _ _ => True) current := by
    refine Assured.bind (Assured.attempt ((silent_attemptTerminalClaim fingerprint faithful).mono fun result later _ => ?_))
    cases result with
    | error error => exact silent_of_bookkeeping bookkeeping_recordRecoveryError later
    | ok value => trivial
  refine Assured.bind (attempted.mono fun result later _ => ?_)
  cases result with
  | error error => trivial
  | ok _ =>
    refine silent_of_bookkeeping ?_ later
    refine (bookkeeping_appendClaimDiagnostic (by decide)).attempt.bind fun _ => ?_
    exact (bookkeeping_write fun store consistent => bookkeeping_stamp consistent _).attempt.bind fun _ => harmless_pure

end Sweep

/-- A stale admission is failed only while its intent is still `received`, so nothing was posted. -/
theorem silent_failStaleAdmission (tradingAccountId cutoff : Nat) :
    (failStaleAdmission tradingAccountId cutoff).Harmless silentContract EntryFault := by
  refine harmless_transaction fun seen store verdict after _ _ consistent success => ?_
  split at success
  · cases success
    exact ⟨Silent.refl store, consistent⟩
  split at success
  · cases success
    exact ⟨Silent.refl store, consistent⟩
  split at success
  · cases success
    obtain ⟨kept, later⟩ := bookkeeping_appendEvent {} consistent
      (show ClaimEventType.staleAdmissionRecoveryBlocked ∉ decisiveEventTypes by decide)
    exact ⟨kept.toSilent, later⟩
  split at success
  case isFalse =>
    cases success
    exact ⟨Silent.refl store, consistent⟩
  case isTrue waiting =>
    cases success
    obtain ⟨intent, present⟩ : ∃ intent, store.intent = some intent := by
      cases found : store.intent with
      | none => simp [found] at waiting
      | some intent => exact ⟨intent, rfl⟩
    have received : store.intentStatus = some .received := by
      simp only [present, Option.any_some, Bool.and_eq_true, beq_iff_eq] at waiting
      simp [intentStatus, present, waiting.1]
    have unposted := consistent.waiting_unposted (.inl received)
    generalize shape : (fun intent : OrderIntent => { intent with
      status := OrderStatus.failed
      blockReason := some "STALE_ADMISSION_NEVER_DISPATCHED: the admission did not complete and its intent never became executable; it was not requeued and a new entry requires a new admission decision." }) = update
    have settled : ∀ intent, (update intent).status.Settled := fun intent => by
      rw [← shape]
      exact (by decide : OrderStatus.failed.Settled)
    obtain ⟨updated, changed⟩ := silent_settleIntent consistent settled
    obtain ⟨waiting, submitting⟩ := settled_updateIntent store settled
    obtain ⟨appended, final⟩ := silent_appendNotSent _ changed (updated.unposted.trans unposted) waiting submitting
    exact ⟨updated.trans appended, final⟩

/-- The turn of one stale admission never posts. -/
theorem silent_recoverStaleAdmissionClaim (tradingAccountId : Nat) :
    (recoverStaleAdmissionClaim fingerprint tradingAccountId).Harmless silentContract EntryFault := by
  refine harmless_read.bind fun now => ?_
  refine harmless_read.bind fun candidate => ?_
  refine harmless_ite harmless_pure ?_
  refine (silent_of_bookkeeping (bookkeeping_leaseRecoveryAttempt now)).attempt.bind fun leased => ?_
  rcases leased with error | _ | _
  · exact harmless_pure
  · exact harmless_pure
  refine silent_catchRecordingError ((silent_failStaleAdmission _ _).bind fun verdict => ?_)
  cases verdict with
  | gone => exact harmless_pure
  | blocked => exact harmless_pure
  | recorded =>
    exact (silent_releaseUnsubmittedOrRouteToRecovery _ _ _ _ _).bind fun _ => harmless_pure

end AiTrader.Entry
