import AiTrader.Entry.WorkerContracts
import AiTrader.Entry.Admission

/-! # Writers without the lifecycle-mutation lock

Admission and LIVE disarm touch a waiting intent only, and release only a claim no worker took or one
with recorded not-sent evidence. -/

namespace AiTrader.Entry

open Library Library.Program EntryLifecycle

namespace EntryLifecycle

variable {store after : EntryLifecycle}

/-- A transaction on rows that decide nothing keeps every promise to the lock holder. -/
theorem Recording.shared (kept : Recording store after) : Shared store after where
  silent := kept.toBookkeeping.toSilent
  free :=
    { events := kept.same_events ▸ List.prefix_rfl
      unposted := kept.unposted
      evidence := by rw [deliveryEvents, kept.same_events, deliveryEvents]
      settled := fun _ _ => kept.same_intentStatus
      submitting := fun held => kept.same_intentStatus ▸ held
      claimed := fun _ held _ _ => ⟨kept.same_claimStatus.trans held, kept.same_released⟩ }

variable {update : OrderIntent → OrderIntent}

/-- A change of the intent that leaves its status alone. -/
theorem shared_keepIntent (consistent : store.Consistent) (same : ∀ intent, (update intent).status = intent.status) :
    Shared store (store.updateIntent update) ∧ (store.updateIntent update).Consistent := by
  obtain ⟨silent, kept⟩ := silent_settleOrKeepIntent consistent fun intent => .inr (same intent)
  have status : (store.updateIntent update).intentStatus = store.intentStatus := by
    rw [intentStatus_updateIntent, intentStatus]
    simp only [same]
  exact ⟨⟨silent, ⟨silent.events, silent.unposted, rfl, fun _ _ => status, fun held => status ▸ held,
    fun _ held _ _ => ⟨held, rfl⟩⟩⟩, kept⟩

/-- A change of a waiting intent that does not hand it to the worker. -/
theorem shared_updateWaiting (consistent : store.Consistent)
    (waiting : store.Waiting) (kept : ∀ intent, (update intent).status ≠ .submitting) :
    Shared store (store.updateIntent update) ∧ (store.updateIntent update).Consistent := by
  obtain ⟨silent, later⟩ := silent_updateIntent consistent (fun _ _ _ => waiting)
    fun intent _ submitting => absurd submitting (kept intent)
  refine ⟨⟨silent, ⟨silent.events, silent.unposted, rfl, fun _ settled => absurd waiting settled, ?_,
    fun _ held _ _ => ⟨held, rfl⟩⟩⟩, later⟩
  intro held
  rw [intentStatus_updateIntent] at held
  cases present : store.intent with
  | none => simp [present] at held
  | some intent => exact absurd (by simpa [present] using held) (kept intent)

theorem waiting_of_any {sources : List OrderStatus} (sub : ∀ status ∈ sources, status = .received ∨ status = .pending)
    (matched : (store.intent.any fun intent => sources.contains intent.status) = true) : store.Waiting := by
  cases present : store.intent with
  | none => simp [present] at matched
  | some intent =>
    rw [present, Option.any_some, List.contains_iff_mem] at matched
    simpa [Waiting, intentStatus, present] using sub _ matched

/-- A compare-and-set of the intent from waiting statuses. -/
theorem shared_updateIntentFrom {sources : List OrderStatus}
    (consistent : store.Consistent) (sub : ∀ status ∈ sources, status = .received ∨ status = .pending)
    (kept : ∀ intent, (update intent).status ≠ .submitting) :
    Shared store (store.updateIntentFrom sources update).2 ∧ (store.updateIntentFrom sources update).2.Consistent := by
  unfold updateIntentFrom
  split
  case isTrue matched => exact shared_updateWaiting consistent (waiting_of_any sub matched) kept
  case isFalse => exact ⟨Shared.refl store, consistent⟩

end EntryLifecycle

theorem shared_write {update : EntryLifecycle → EntryLifecycle}
    (held : ∀ store : EntryLifecycle, store.Consistent → Shared store (update store) ∧ (update store).Consistent) :
    (Program.write update : EntryProgram Unit).Harmless sharedContract EntryFault :=
  harmless_write held

/-- The rows of one admission appear together, before anything was sent. -/
theorem shared_admitEntryOrderIntent {admission : EntryAdmission} {tradingAccountId : Nat} :
    (admitEntryOrderIntent admission tradingAccountId).Harmless sharedContract EntryFault := by
  refine harmless_commit fun store _ after consistent success => ?_
  split at success
  · cases success
    exact ⟨Shared.refl store, consistent⟩
  case isFalse absent =>
    cases success
    rw [Option.not_isSome_iff_eq_none] at absent
    have unclaimed : store.claim = none := by
      cases present : store.claim with
      | none => rfl
      | some claim => simpa [absent] using consistent.claimed (by simp [present])
    have empty : store.events = [] := by simp [EntryLifecycle.events, unclaimed]
    have unposted : store.posts = 0 := by
      by_contra posted
      simpa [log, empty] using consistent.marked posted
    have closed : ¬ store.Waiting := by simp [Waiting, intentStatus, absent]
    refine ⟨⟨⟨⟨?_, .inl rfl, fun _ => rfl, fun _ present => ?_, ?_, ?_⟩, rfl⟩, ?_⟩, ?_⟩
    · rw [empty]
      exact List.nil_prefix
    · simp [absent] at present
    · simp [released, unclaimed]
    · simp [claimStatus, unclaimed]
    · refine ⟨?_, rfl, ?_, fun present => ?_, ?_, ?_⟩
      · rw [empty]
        exact List.nil_prefix
      · rw [deliveryEvents, deliveryEvents, empty]
        rfl
      · simp [absent] at present
      · simp [intentStatus]
      · simp [claimStatus, unclaimed]
    · constructor
      · simp
      · exact consistent.at_most_one
      · exact fun posted => absurd unposted posted
      · exact fun _ => unposted
      · exact fun _ _ _ => unposted
      · simp [log, EntryLifecycle.events]
      · simp [log, EntryLifecycle.events]
      · simp [log, EntryLifecycle.events]
      · simp [log, EntryLifecycle.events]

theorem shared_recordOrderIntentRiskEvaluation (decision : RiskDecision) :
    (recordOrderIntentRiskEvaluation decision).Harmless sharedContract EntryFault :=
  harmless_read.bind fun _ => harmless_ite (shared_write fun _ consistent =>
    shared_keepIntent consistent (by exact fun _ => rfl)) harmless_pure

theorem shared_transitionOrderIntentStatusFrom {target : OrderStatus} {blockReason : Option String}
    (kept : target ≠ .submitting) :
    (transitionOrderIntentStatusFrom .received target blockReason).Harmless sharedContract EntryFault := by
  refine harmless_commit fun store matched after consistent success => ?_
  have same := congrArg Prod.snd (Except.ok.inj success)
  dsimp only at same
  rw [← same]
  exact shared_updateIntentFrom consistent (by simp) fun _ => kept

theorem harmless_requireAdmissionStillReceived {contract : Contract EntryLifecycle} (transitioned : Bool) :
    (requireAdmissionStillReceived transitioned).Harmless contract EntryFault :=
  harmless_ite harmless_pure harmless_throw

/-- Blocking and releasing in one transaction: the release rests on what its own reads saw. -/
theorem shared_blockAndRelease {status : OrderStatus} (kept : status ≠ .submitting)
    {blockReason releaseReason : String} {onlyBlocked : Bool} :
    (blockAndRelease status blockReason releaseReason onlyBlocked).Harmless sharedContract EntryFault := by
  refine harmless_read.bind fun blocks => harmless_ite harmless_pure ?_
  intro store
  refine Assured.bind (assured_readNeverSubmittedRelease.mono fun result seen grounded => ?_)
  cases result with
  | error error => trivial
  | ok decision =>
    refine assured_commit fun current relied consistent => ⟨fun value after success => ?_,
      fun _ _ => trivial, fun _ _ => trivial⟩
    have later := (grounded decision rfl).later relied
    generalize shape : current.updateIntentFrom executableIntentStatuses (fun row =>
      { row with status, blockReason := some blockReason }) = attempted at success
    obtain ⟨matched, blocked⟩ := attempted
    obtain ⟨moved, still⟩ : Shared current blocked ∧ blocked.Consistent := by
      rw [show blocked = (matched, blocked).2 from rfl, ← shape]
      exact shared_updateIntentFrom consistent (by simp [executableIntentStatuses]) fun _ => kept
    dsimp only at success
    split at success
    case isFalse => cases success
    case isTrue =>
      cases success
      have ground := later.later moved.silent.events
      obtain ⟨silent, final, _⟩ := silent_applyReleaseDecision releaseReason ground still
      exact ⟨moved.trans ⟨silent, lockFree_applyReleaseDecision releaseReason ground still⟩, final, trivial,
        fun _ _ => trivial⟩

theorem shared_disarmEntry (reason : String) : (disarmEntry reason).Harmless sharedContract EntryFault :=
  shared_blockAndRelease (by decide)

theorem shared_finishAdmission : finishAdmission.Harmless sharedContract EntryFault := by
  refine harmless_elsewhere.bind fun _ => harmless_answer.bind fun decision => ?_
  rcases decision with message | _ | reason
  · exact harmless_throw
  · refine (shared_recordOrderIntentRiskEvaluation _).bind fun _ => ?_
    exact (shared_transitionOrderIntentStatusFrom (by decide)).bind fun _ => harmless_requireAdmissionStillReceived _
  · refine (shared_recordOrderIntentRiskEvaluation _).bind fun _ => ?_
    refine (shared_transitionOrderIntentStatusFrom (by decide)).bind fun _ => ?_
    refine (harmless_requireAdmissionStillReceived _).bind fun _ => ?_
    exact (shared_releaseUnsubmitted _).bind fun _ => harmless_elsewhere.bind fun _ => harmless_throw

/-- Admission never posts, at any point where it may fail. -/
theorem shared_submitOrder (admission : EntryAdmission) (tradingAccountId : Nat) :
    (submitOrder admission tradingAccountId).Harmless sharedContract EntryFault := by
  refine (shared_admitEntryOrderIntent).bind fun admitted => ?_
  cases admitted with
  | none => exact harmless_pure
  | some intent =>
    refine shared_finishAdmission.attempt.bind fun finished => ?_
    cases finished with
    | ok value => exact harmless_pure
    | error error =>
      exact (shared_blockAndRelease (by decide)).attempt.bind fun _ => harmless_throw

/-- Attaching a position moves the claim onward and keeps an unresolved claim unresolved. -/
theorem bookkeeping_attach (trackedPositionId : Nat) (position : PositionStatus) (expectedOrderIntentId : Option Nat) :
    (attachEntryExposureClaimToPosition trackedPositionId position expectedOrderIntentId).Harmless
      bookkeepingContract EntryFault := by
  have unresolved : ∀ store : EntryLifecycle, store.Consistent →
      Bookkeeping store (store.updateClaim fun claim => { claim with status := .unresolved }) ∧
        (store.updateClaim fun claim => { claim with status := .unresolved }).Consistent := fun store consistent =>
    bookkeeping_updateClaim consistent (fun _ => rfl) (fun _ _ released => released) (fun _ _ _ => .inl rfl)
      (fun _ _ reached => absurd reached (by simp [ClaimStatus.neverReachedBroker]))
  refine harmless_commit fun store _ after consistent success => ?_
  split at success
  case h_2 =>
    cases success
    exact ⟨Bookkeeping.refl store, consistent⟩
  case h_1 active intent present _ =>
    split at success
    · cases success
      exact ⟨Bookkeeping.refl store, consistent⟩
    split at success
    · cases success
      obtain ⟨moved, kept⟩ := unresolved store consistent
      obtain ⟨recorded, final⟩ := bookkeeping_appendEventOnce kept active { detail := toString trackedPositionId }
        (show ClaimEventType.positionAttachmentOrderIntentConflict ∉ decisiveEventTypes by decide)
      exact ⟨moved.trans recorded, final⟩
    split at success
    · cases success
      exact bookkeeping_appendEventOnce consistent active _ (by decide)
    case isFalse resolved =>
      split at success
      · cases success
        exact ⟨Bookkeeping.refl store, consistent⟩
      split at success
      · cases success
        obtain ⟨moved, kept⟩ := unresolved store consistent
        obtain ⟨recorded, final⟩ := bookkeeping_appendEvent { detail := toString trackedPositionId } kept
          (show ClaimEventType.positionAttachmentConflict ∉ decisiveEventTypes by decide)
        exact ⟨moved.trans recorded, final⟩
      · cases success
        generalize shape : (store.updateClaim fun claim =>
          { claim with trackedPositionId := some trackedPositionId, status := .positionOpen }) = attached
        obtain ⟨moved, kept⟩ : Bookkeeping store attached ∧ attached.Consistent := by
          rw [← shape]
          refine bookkeeping_updateClaim consistent (fun _ => rfl) (fun _ _ released => released) ?_ ?_
          · intro claim held unresolved
            rw [present] at held
            cases held
            exact absurd unresolved resolved
          · exact fun _ _ reached => absurd reached (by simp [ClaimStatus.neverReachedBroker])
        obtain ⟨recorded, final⟩ := bookkeeping_appendEvent { detail := toString trackedPositionId } kept
          (show ClaimEventType.positionAttached ∉ decisiveEventTypes by decide)
        exact (moved.trans recorded).thenSame final rfl rfl rfl

end AiTrader.Entry
