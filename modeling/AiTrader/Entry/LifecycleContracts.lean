import AiTrader.Library.Workforce
import AiTrader.Entry.DeliveryInvariant

/-! # Contracts of the lifecycle programs

Programs under the lifecycle-mutation lock rely on what lock-free writers may do. -/

namespace AiTrader.Entry

open Library Library.Program EntryLifecycle

variable {store after : EntryLifecycle} {eventType : ClaimEventType}

namespace EntryLifecycle

/-- What a writer without the lifecycle-mutation lock may do. -/
structure LockFree (store after : EntryLifecycle) : Prop where
  events : store.events <+: after.events
  unposted : after.posts = store.posts
  /-- It records no delivery evidence. -/
  evidence : after.deliveryEvents = store.deliveryEvents
  /-- It leaves an intent alone once the worker took it or it ended. -/
  settled : store.intent.isSome → ¬ store.Waiting → after.intentStatus = store.intentStatus
  submitting : after.intentStatus = some .submitting → store.intentStatus = some .submitting
  /-- It leaves a claim at or past the boundary alone while no not-sent evidence is recorded. -/
  claimed : ∀ status, store.claimStatus = some status → status.neverReachedBroker = false →
    .notSentEvidenceRecorded ∉ store.log → after.claimStatus = some status ∧ after.released = store.released

theorem mem_log_iff_deliveryEvents (delivery : eventType ∈ deliveryEvidenceEventTypes) :
    eventType ∈ store.log ↔ ∃ event ∈ store.deliveryEvents, event.eventType = eventType := by
  simp only [log, List.mem_map, deliveryEvents, List.mem_filter, List.contains_eq_mem, decide_eq_true_eq]
  constructor
  · rintro ⟨event, member, rfl⟩
    exact ⟨event, ⟨member, delivery⟩, rfl⟩
  · rintro ⟨event, ⟨member, _⟩, rfl⟩
    exact ⟨event, member, rfl⟩

theorem LockFree.recorded_iff (free : LockFree store after)
    {eventType : ClaimEventType} (delivery : eventType ∈ deliveryEvidenceEventTypes) :
    eventType ∈ after.log ↔ eventType ∈ store.log := by
  rw [mem_log_iff_deliveryEvents delivery, mem_log_iff_deliveryEvents delivery, free.evidence]

theorem LockFree.refl (store : EntryLifecycle) : LockFree store store :=
  ⟨List.prefix_rfl, rfl, rfl, fun _ _ => rfl, id, fun _ held _ _ => ⟨held, rfl⟩⟩

variable {second first third : EntryLifecycle}

theorem LockFree.trans (former : LockFree first second) (latter : LockFree second third) : LockFree first third where
  events := former.events.trans latter.events
  unposted := latter.unposted.trans former.unposted
  evidence := latter.evidence.trans former.evidence
  settled := by
    intro present waiting
    have same := former.settled present waiting
    have still : second.intent.isSome := by
      rwa [← isSome_intentStatus, same, isSome_intentStatus]
    refine (latter.settled still ?_).trans same
    rwa [Waiting, same]
  submitting := fun held => former.submitting (latter.submitting held)
  claimed := by
    intro status held reached undecided
    obtain ⟨same, released⟩ := former.claimed status held reached undecided
    have still : .notSentEvidenceRecorded ∉ second.log := by
      rwa [former.recorded_iff (by decide)]
    obtain ⟨last, final⟩ := latter.claimed status same reached still
    exact ⟨last, final.trans released⟩

/-- A transaction of a writer without the lock. -/
structure Shared (store after : EntryLifecycle) : Prop where
  silent : Silent store after
  free : LockFree store after

theorem Shared.refl (store : EntryLifecycle) : Shared store store := ⟨Silent.refl store, LockFree.refl store⟩

theorem Shared.trans (former : Shared first second) (latter : Shared second third) : Shared first third :=
  ⟨former.silent.trans latter.silent, former.free.trans latter.free⟩

end EntryLifecycle

/-- The contract of a lock holder with the given guarantee. -/
def holderContract (guarantee : EntryLifecycle → EntryLifecycle → Prop)
    (refl : ∀ store, guarantee store store) : Contract EntryLifecycle where
  invariant := Consistent
  rely := LockFree
  guarantee := guarantee
  rely_refl := LockFree.refl
  rely_trans := LockFree.trans
  guarantee_refl := refl

/-- The order worker: it may cross the broker boundary. -/
abbrev boundaryContract : Contract EntryLifecycle := holderContract Advance Advance.refl

/-- Recovery: it never posts. -/
abbrev silentContract : Contract EntryLifecycle := holderContract Silent Silent.refl

/-- Recovery on broker evidence: it records no not-sent evidence. -/
abbrev inconclusiveContract : Contract EntryLifecycle := holderContract Inconclusive Inconclusive.refl

/-- The claim services: they decide nothing about delivery. -/
abbrev bookkeepingContract : Contract EntryLifecycle := holderContract Bookkeeping Bookkeeping.refl

/-- A writer without the lock: it relies on the log being append-only. -/
abbrev sharedContract : Contract EntryLifecycle where
  invariant := Consistent
  rely := fun store after => store.events <+: after.events
  guarantee := Shared
  rely_refl := fun _ => List.prefix_rfl
  rely_trans := List.IsPrefix.trans
  guarantee_refl := Shared.refl

section Weakening

variable {α : Type} {program : EntryProgram α}

theorem silent_of_bookkeeping (harmless : program.Harmless bookkeepingContract EntryFault) :
    program.Harmless silentContract EntryFault :=
  harmless.weaken rfl rfl fun _ _ kept => kept.toSilent

theorem inconclusive_of_bookkeeping (harmless : program.Harmless bookkeepingContract EntryFault) :
    program.Harmless inconclusiveContract EntryFault :=
  harmless.weaken rfl rfl fun _ _ kept => kept.toInconclusive

theorem boundary_of_silent (harmless : program.Harmless silentContract EntryFault) :
    program.Harmless boundaryContract EntryFault :=
  harmless.weaken rfl rfl fun _ _ kept => kept.toAdvance

theorem unposted_of_silent (harmless : program.Harmless silentContract EntryFault) (unposted : store.posts = 0) :
    program.Assured silentContract EntryFault (fun _ current => current.posts = 0) store :=
  harmless.frame silentContract (fun current => current.posts = 0) rfl rfl (fun _ _ kept => kept)
    (fun _ _ relied held => relied.unposted.trans held) (fun _ _ kept held => kept.unposted.trans held) unposted

end Weakening

variable {evidence : EvidenceFields}

section ClaimServices

theorem harmless_elsewhere {contract : Contract EntryLifecycle} : elsewhere.Harmless contract EntryFault :=
  harmless_read

theorem bookkeeping_write {update : EntryLifecycle → EntryLifecycle}
    (held : ∀ store : EntryLifecycle, store.Consistent →
      Bookkeeping store (update store) ∧ (update store).Consistent) :
    (Program.write update : EntryProgram Unit).Harmless bookkeepingContract EntryFault :=
  harmless_write held

theorem bookkeeping_bestEffort (eventType : OpportunityEventType) :
    (bestEffortAppendBrokerOpportunityEvent eventType).Harmless bookkeepingContract EntryFault := by
  refine Harmless.bind (Harmless.attempt ?_) fun _ => harmless_pure
  exact bookkeeping_write fun _ consistent => bookkeeping_of_same consistent rfl rfl rfl

theorem harmless_requireEntryExposureClaim {contract : Contract EntryLifecycle} (allowUnresolved : Bool) :
    (requireEntryExposureClaim allowUnresolved).Harmless contract EntryFault := by
  refine harmless_read.bind fun claim => ?_
  cases claim with
  | none => exact harmless_throw
  | some claim =>
    dsimp only
    split_ifs
    · exact harmless_throw
    · exact harmless_throw
    · exact harmless_pure

theorem bookkeeping_appendEventOnce (consistent : store.Consistent)
    (seen : EntryExposureClaim) {eventType : ClaimEventType} (evidence : EvidenceFields)
    (undecisive : eventType ∉ decisiveEventTypes) :
    Bookkeeping store (appendEventOnce seen eventType evidence store) ∧
      (appendEventOnce seen eventType evidence store).Consistent := by
  unfold appendEventOnce
  split_ifs
  · exact ⟨Bookkeeping.refl store, consistent⟩
  · exact bookkeeping_appendEvent _ consistent undecisive

variable {observed : ClaimStatus}

/-- A compare-and-set of the claim status never takes the claim back before the broker boundary. -/
theorem bookkeeping_compareAndSetStatus {next : ClaimStatus}
    {changed : Bool} (permitted : observed.Onward next) (consistent : store.Consistent)
    (success : compareAndSetStatus observed next store = .ok (changed, after)) :
    Bookkeeping store after ∧ after.Consistent := by
  unfold compareAndSetStatus at success
  split at success
  case h_2 =>
    cases success
    exact ⟨Bookkeeping.refl store, consistent⟩
  case h_1 claim present =>
    split_ifs at success with unchanged
    · cases success
      refine bookkeeping_updateClaim consistent (fun _ => rfl) (fun _ _ released => released) ?_ ?_
      · intro current held unresolved
        rw [present] at held
        cases held
        exact .inl (permitted.unresolved (unchanged.1.symm.trans unresolved))
      · intro current held reached
        rw [present] at held
        cases held
        rw [unchanged.1]
        exact permitted.early reached
    · cases success
      exact ⟨Bookkeeping.refl store, consistent⟩

theorem bookkeeping_commit_compareAndSet {next : ClaimStatus} (permitted : observed.Onward next) :
    (Program.commit (compareAndSetStatus observed next)).Harmless bookkeepingContract EntryFault :=
  harmless_commit fun _ _ _ consistent success =>
    bookkeeping_compareAndSetStatus permitted consistent success

section

variable (undecisive : eventType ∉ decisiveEventTypes)
include undecisive

theorem bookkeeping_transition {status : ClaimStatus} :
    (transitionEntryExposureClaim status eventType evidence).Harmless bookkeepingContract EntryFault := by
  refine (harmless_requireEntryExposureClaim true).bind fun claim => ?_
  split_ifs with same refused
  · exact bookkeeping_write fun _ consistent => bookkeeping_appendEventOnce consistent claim evidence undecisive
  · exact harmless_throw
  · rw [Bool.not_eq_true', Bool.not_eq_false] at refused
    refine (bookkeeping_commit_compareAndSet
      (ClaimStatus.onward_of_transition refused)).bind fun changed => ?_
    split_ifs
    · exact bookkeeping_write fun _ consistent => bookkeeping_appendEvent _ consistent undecisive
    · refine harmless_read.bind fun current => ?_
      cases current with
      | none => exact harmless_pure
      | some current =>
        exact harmless_ite harmless_pure harmless_throw

theorem bookkeeping_appendClaimDiagnostic :
    (appendClaimDiagnostic eventType evidence).Harmless bookkeepingContract EntryFault := by
  refine harmless_read.bind fun claim => ?_
  cases claim with
  | none => exact harmless_pure
  | some current =>
    by_cases released : current.releasedAt.isSome
    · simp only [released, if_true]
      exact harmless_pure
    · simp only [released, if_false, Bool.false_eq_true]
      refine (bookkeeping_write fun store consistent => ?_).bind fun _ =>
        bookkeeping_write fun store consistent => bookkeeping_stamp consistent _
      by_cases repeated : (current.events.reverse.find? fun event =>
          (if recoveryAttemptResultEventTypes.contains eventType
            then recoveryAttemptResultEventTypes else [eventType]).contains event.eventType).any
          fun prior => prior.eventType == eventType && prior.evidence == evidence
      · rw [if_pos repeated]
        exact ⟨Bookkeeping.refl store, consistent⟩
      · rw [if_neg repeated]
        exact bookkeeping_appendEvent _ consistent undecisive

theorem bookkeeping_markClaimUnresolved :
    (markClaimUnresolved eventType evidence).Harmless bookkeepingContract EntryFault := by
  refine harmless_read.bind fun claim => ?_
  cases claim with
  | none => exact harmless_pure
  | some current =>
    dsimp only
    split_ifs
    · exact harmless_pure
    · refine (bookkeeping_commit_compareAndSet (ClaimStatus.onward_unresolved _)).bind fun changed => ?_
      split_ifs
      · exact bookkeeping_write fun _ consistent => bookkeeping_appendEventOnce consistent current evidence undecisive
      · exact harmless_pure

end

end ClaimServices

section NeverSubmitted

/-- A decided release rests on a claim before the boundary or on recorded not-sent evidence. -/
def ReleaseDecision.Grounded (decision : ReleaseDecision) (store : EntryLifecycle) : Prop :=
  ∀ observed, decision = .release observed →
    observed.neverReachedBroker = true ∨ .notSentEvidenceRecorded ∈ store.log

theorem decideNeverSubmittedRelease_grounded {claim : EntryExposureClaim} {blockReason : Option String}
    {evidence : SubmissionEvidence} {basis : NeverSubmittedBasis}
    (decided : decideNeverSubmittedRelease claim blockReason evidence store.deliveryEvents = .ok basis) :
    claim.status.neverReachedBroker = true ∨ .notSentEvidenceRecorded ∈ store.log := by
  unfold decideNeverSubmittedRelease at decided
  split at decided
  · cases decided
  split at decided
  case h_2 => cases decided
  case h_1 proven =>
    rcases evaluateNeverSubmittedRelease_sound proven with early | ⟨event, member, kind⟩
    · exact .inl early
    · exact .inr (kind ▸ List.mem_map_of_mem (List.mem_of_mem_filter member))

variable {contract : Contract EntryLifecycle}

theorem assured_readNeverSubmittedRelease {blockReasonOf : OrderIntent → Option String} :
    (readNeverSubmittedRelease blockReasonOf).Assured contract EntryFault
      (fun result current => ∀ decision, result = .ok decision → decision.Grounded current) store := by
  have read {α : Type} {view : EntryLifecycle → α} {next : α → EntryProgram ReleaseDecision} {store : EntryLifecycle}
      (rest : ∀ current, (next (view current)).Assured contract EntryFault
        (fun result current => ∀ decision, result = .ok decision → decision.Grounded current) current) :
      (Program.read view >>= next).Assured contract EntryFault
        (fun result current => ∀ decision, result = .ok decision → decision.Grounded current) store :=
    Assured.readThen fun current _ _ => ⟨rest current, fun _ _ _ impossible => nomatch impossible⟩
  refine read fun current => ?_
  split
  · rintro _ ⟨⟩ _ impossible
    cases impossible
  · split
    · rintro _ ⟨⟩ _ impossible
      cases impossible
    · refine read fun _ => read fun _ => read fun _ => read fun _ => read fun _ => read fun _ => read fun _ => read fun current => ?_
      split
      case h_1 decided =>
        rintro _ ⟨⟩ observed released
        cases released
        exact decideNeverSubmittedRelease_grounded decided
      case h_2 =>
        rintro _ ⟨⟩

variable {decision : ReleaseDecision}

theorem ReleaseDecision.Grounded.later (grounded : decision.Grounded store) (relied : store.events <+: after.events) :
    decision.Grounded after := fun observed released =>
  (grounded observed released).imp id fun notSent => (relied.map (·.eventType)).subset notSent

variable (reason : String)

/-- Applying a grounded decision releases only a claim that posted nothing. -/
theorem silent_applyReleaseDecision (grounded : decision.Grounded store) (consistent : store.Consistent) :
    Silent store (applyReleaseDecision reason decision store) ∧
      (applyReleaseDecision reason decision store).Consistent ∧
      (applyReleaseDecision reason decision store).intent = store.intent := by
  cases decision with
  | nothing => exact ⟨Silent.refl store, consistent, rfl⟩
  | release observed =>
    refine silent_releaseClaim consistent (.inr ⟨rfl, fun held => ?_⟩)
    rcases grounded observed rfl with early | notSent
    · exact consistent.early observed held early
    · exact consistent.not_sent notSent

theorem deliveryEvents_appendEvent (undelivered : eventType ∉ deliveryEvidenceEventTypes) :
    (store.appendEvent eventType evidence).deliveryEvents = store.deliveryEvents := by
  obtain ⟨added, events, kinds, _⟩ := events_appendEvent store eventType evidence
  have dropped : added.filter (fun event => deliveryEvidenceEventTypes.contains event.eventType) = [] := by
    refine List.filter_eq_nil_iff.mpr fun event member => ?_
    rw [kinds event member]
    simpa using undelivered
  rw [EntryLifecycle.deliveryEvents, events, List.filter_append, dropped, List.append_nil,
    EntryLifecycle.deliveryEvents]

/-- A grounded decision leaves a claim at the boundary alone while no not-sent evidence is recorded. -/
theorem lockFree_applyReleaseDecision (grounded : decision.Grounded store) (consistent : store.Consistent) :
    LockFree store (applyReleaseDecision reason decision store) := by
  obtain ⟨silent, _, intent⟩ := silent_applyReleaseDecision reason grounded consistent
  have status : (applyReleaseDecision reason decision store).intentStatus = store.intentStatus := by
    rw [intentStatus, intent, intentStatus]
  refine ⟨silent.events, silent.unposted, ?_, fun _ _ => status, fun held => status ▸ held, ?_⟩
  · cases decision with
    | nothing => rfl
    | release observed =>
      rw [applyReleaseDecision, releaseClaim]
      split
      case h_2 => rfl
      case h_1 claim present =>
        split_ifs
        · rw [deliveryEvents_appendEvent (by decide), deliveryEvents, events_updateClaim, deliveryEvents]
          exact fun _ => rfl
        · rfl
  · intro prior held reached undecided
    cases decision with
    | nothing => exact ⟨held, rfl⟩
    | release observed =>
      rw [applyReleaseDecision, releaseClaim]
      split
      case h_2 => exact ⟨held, rfl⟩
      case h_1 claim present =>
        split_ifs with unchanged
        · have same : claim.status = prior := by simpa [claimStatus, present] using held
          rcases grounded observed rfl with early | notSent
          · rw [← unchanged.1, same, reached] at early
            exact absurd early (by decide)
          · exact absurd notSent undecided
        · exact ⟨held, rfl⟩

/-- The never-submitted release under any contract over `Consistent` whose log is append-only. -/
theorem harmless_releaseUnsubmitted (kept : contract.invariant = Consistent)
    (appendOnly : ∀ {store after}, contract.rely store after → store.events <+: after.events)
    (applied : ∀ (decision : ReleaseDecision) (store : EntryLifecycle), decision.Grounded store →
      store.Consistent → contract.guarantee store (applyReleaseDecision reason decision store)) :
    (releaseUnsubmittedEntryExposureClaim reason).Harmless contract EntryFault := fun _ => by
  refine Assured.bind (assured_readNeverSubmittedRelease.mono fun result seen grounded => ?_)
  cases result with
  | error error => trivial
  | ok decision =>
    refine Assured.bind (assured_write fun current relied invariant => ?_)
    have consistent : current.Consistent := kept ▸ invariant
    have later := (grounded decision rfl).later (appendOnly relied)
    refine ⟨applied decision current later consistent, ?_, ?_, fun _ _ => trivial, fun _ _ => trivial⟩
    · rw [kept]
      exact (silent_applyReleaseDecision reason later consistent).2.1
    · exact harmless_read _

theorem silent_releaseUnsubmitted : (releaseUnsubmittedEntryExposureClaim reason).Harmless silentContract EntryFault :=
  harmless_releaseUnsubmitted reason rfl (fun relied => relied.events)
    fun _ _ grounded consistent => (silent_applyReleaseDecision reason grounded consistent).1

theorem shared_releaseUnsubmitted : (releaseUnsubmittedEntryExposureClaim reason).Harmless sharedContract EntryFault :=
  harmless_releaseUnsubmitted reason rfl id fun _ _ grounded consistent =>
    ⟨(silent_applyReleaseDecision reason grounded consistent).1, lockFree_applyReleaseDecision reason grounded consistent⟩

end NeverSubmitted

end AiTrader.Entry
