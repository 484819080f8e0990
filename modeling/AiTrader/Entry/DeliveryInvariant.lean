import AiTrader.Library.Assurance
import AiTrader.Entry.ExposureClaim

/-! # What the event log says about the network

`Consistent` ties the append-only log, the claim and the intent to the number of POSTs issued; every transaction keeps it.
-/

namespace AiTrader.Entry

open Library

namespace EntryLifecycle

/-- The intent can still be taken by the worker. -/
def Waiting (store : EntryLifecycle) : Prop :=
  store.intentStatus = some .received ∨ store.intentStatus = some .pending

/-- Event types that speak about the network or a never-submitted release. -/
def decisiveEventTypes : List ClaimEventType :=
  [.adapterInvocationStarted, .notSentEvidenceRecorded, .releasedNoBrokerExposure]

section Projections

variable (store : EntryLifecycle) (updateIntentRow : OrderIntent → OrderIntent)
  (updateClaimRow : EntryExposureClaim → EntryExposureClaim) (eventType : ClaimEventType)
  (evidence : EvidenceFields)

theorem intentStatus_updateIntent : (store.updateIntent updateIntentRow).intentStatus =
    store.intent.map fun intent => (updateIntentRow intent).status := by
  simp [updateIntent, intentStatus, Function.comp_def]

@[simp] theorem isSome_intent_updateIntent :
    (store.updateIntent updateIntentRow).intent.isSome = store.intent.isSome := by
  simp [updateIntent]

theorem isSome_intentStatus : store.intentStatus.isSome = store.intent.isSome := by
  simp [intentStatus]

@[simp] theorem claimStatus_appendEvent :
    (store.appendEvent eventType evidence).claimStatus = store.claimStatus := by
  simp [appendEvent, updateClaim, claimStatus, Function.comp_def]

@[simp] theorem released_appendEvent :
    (store.appendEvent eventType evidence).released = store.released := by
  cases present : store.claim <;> simp [appendEvent, updateClaim, released, present]

/-- An append is lost only when there is no claim to append to. -/
theorem events_appendEvent : ∃ added, (store.appendEvent eventType evidence).events = store.events ++ added ∧
    (∀ event ∈ added, event.eventType = eventType) ∧ (store.claim.isSome → added ≠ []) := by
  cases present : store.claim with
  | none => exact ⟨[], by simp [appendEvent, updateClaim, events, present], by simp, by simp⟩
  | some claim =>
    exact ⟨[⟨claim.events.length + 1, eventType, evidence, store.clock⟩],
      by simp [appendEvent, updateClaim, events, present], by simp, by simp⟩

theorem mem_log_appendEvent {recorded : ClaimEventType} :
    recorded ∈ (store.appendEvent eventType evidence).log ↔
      recorded ∈ store.log ∨ (recorded = eventType ∧ store.claim.isSome) := by
  cases present : store.claim with
  | none => simp [appendEvent, updateClaim, log, events, present]
  | some claim => simp [appendEvent, updateClaim, log, events, present, eq_comm]

theorem events_updateClaim (same : ∀ claim, (updateClaimRow claim).events = claim.events) :
    (store.updateClaim updateClaimRow).events = store.events := by
  cases present : store.claim <;> simp [updateClaim, events, present, same]

end Projections

/-- The log, the claim and the intent agree with what was sent. -/
structure Consistent (store : EntryLifecycle) : Prop where
  /-- A claim never exists without its intent. -/
  claimed : store.claim.isSome → store.intent.isSome
  at_most_one : store.posts ≤ 1
  /-- The marker commits before the POST. -/
  marked : store.posts ≠ 0 → .adapterInvocationStarted ∈ store.log
  /-- Not-sent evidence is never recorded for an entry that was posted, and excludes a later POST. -/
  not_sent : .notSentEvidenceRecorded ∈ store.log → store.posts = 0
  /-- A claim before the broker boundary has posted nothing. -/
  early : ∀ status, store.claimStatus = some status → status.neverReachedBroker = true → store.posts = 0
  waiting_unmarked : store.Waiting → .adapterInvocationStarted ∉ store.log
  waiting_undecided : store.Waiting → .notSentEvidenceRecorded ∉ store.log
  submitting_undecided : store.intentStatus = some .submitting → .notSentEvidenceRecorded ∉ store.log
  /-- A never-submitted release is final. -/
  never_submitted : .releasedNoBrokerExposure ∈ store.log → store.posts = 0 ∧ store.released = true

variable {store : EntryLifecycle}

theorem Consistent.waiting_unposted (consistent : store.Consistent) (waiting : store.Waiting) : store.posts = 0 := by
  by_contra posted
  exact consistent.waiting_unmarked waiting (consistent.marked posted)

/-- What any transaction of the lifecycle may do. -/
structure Advance (store after : EntryLifecycle) : Prop where
  /-- The event log is append-only. -/
  events : store.events <+: after.events
  /-- A POST is the first one, of an unreleased claim at the boundary. -/
  post : after.posts = store.posts ∨ (store.posts = 0 ∧ after.posts = 1 ∧
    store.claimStatus = some .entrySubmitting ∧ store.released = false)
  present : store.intent.isSome → after.intent.isSome
  /-- An intent that left `received` and `pending` does not come back. -/
  requeue : after.Waiting → store.intent.isSome → store.Waiting
  released : store.released = true → after.released = true
  /-- An unresolved claim can only be released. -/
  retired : store.claimStatus = some .unresolved → after.claimStatus = some .unresolved ∨ after.released = true

/-- A transaction that issues no POST. -/
structure Silent (store after : EntryLifecycle) : Prop extends Advance store after where
  unposted : after.posts = store.posts

/-- A transaction that issues no POST and records no not-sent evidence. -/
structure Inconclusive (store after : EntryLifecycle) : Prop extends Silent store after where
  undecided : .notSentEvidenceRecorded ∈ after.log → .notSentEvidenceRecorded ∈ store.log

/-- A transaction on the claim alone that records nothing decisive. -/
structure Bookkeeping (store after : EntryLifecycle) : Prop extends Silent store after where
  same_intent : after.intent = store.intent
  undecisive : ∀ eventType ∈ decisiveEventTypes, eventType ∈ after.log → eventType ∈ store.log

theorem Advance.refl (store : EntryLifecycle) : Advance store store :=
  ⟨List.prefix_rfl, .inl rfl, id, fun waiting _ => waiting, id, .inl⟩

theorem Silent.refl (store : EntryLifecycle) : Silent store store := ⟨Advance.refl store, rfl⟩

theorem Bookkeeping.refl (store : EntryLifecycle) : Bookkeeping store store :=
  ⟨Silent.refl store, rfl, fun _ _ => id⟩

theorem Inconclusive.refl (store : EntryLifecycle) : Inconclusive store store := ⟨Silent.refl store, id⟩

variable {after : EntryLifecycle}

theorem Bookkeeping.toInconclusive (kept : Bookkeeping store after) :
    Inconclusive store after := ⟨kept.toSilent, kept.undecisive _ (by decide)⟩

variable {first second third : EntryLifecycle}

theorem Silent.trans (former : Silent first second) (latter : Silent second third) : Silent first third where
  events := former.events.trans latter.events
  post := .inl (latter.unposted.trans former.unposted)
  present := fun present => latter.present (former.present present)
  requeue := fun waiting present => former.requeue (latter.requeue waiting (former.present present)) present
  released := fun released => latter.released (former.released released)
  retired := fun unresolved => (former.retired unresolved).elim latter.retired
    fun released => .inr (latter.released released)
  unposted := latter.unposted.trans former.unposted

theorem Inconclusive.trans (former : Inconclusive first second)
    (latter : Inconclusive second third) : Inconclusive first third where
  toSilent := former.toSilent.trans latter.toSilent
  undecided := fun member => former.undecided (latter.undecided member)

theorem Bookkeeping.trans (former : Bookkeeping first second)
    (latter : Bookkeeping second third) : Bookkeeping first third where
  toSilent := former.toSilent.trans latter.toSilent
  same_intent := latter.same_intent.trans former.same_intent
  undecisive := fun eventType decisive member =>
    former.undecisive eventType decisive (latter.undecisive eventType decisive member)

theorem Advance.log (advance : Advance store after) : store.log <+: after.log := advance.events.map _

theorem Advance.recorded (advance : Advance store after)
    {eventType : ClaimEventType} (member : eventType ∈ store.log) : eventType ∈ after.log :=
  advance.log.subset member

section Updates

theorem mem_log_of_append {added : List ClaimEvent} (events : after.events = store.events ++ added)
    {eventType : ClaimEventType} :
    eventType ∈ after.log ↔ eventType ∈ store.log ∨ ∃ event ∈ added, event.eventType = eventType := by
  simp only [log, events, List.map_append, List.mem_append, List.mem_map]

/-- An update that issues no POST appends events; a decisive one needs that nothing was posted and the intent cannot be taken
again. -/
theorem Consistent.silent (consistent : store.Consistent) (added : List ClaimEvent)
    (events : after.events = store.events ++ added) (posts : after.posts = store.posts)
    (present : store.intent.isSome → after.intent.isSome)
    (claimed : after.claim.isSome → after.intent.isSome)
    (waiting : after.Waiting → store.Waiting)
    (submitting : after.intentStatus = some .submitting → .notSentEvidenceRecorded ∉ store.log)
    (released : store.released = true → after.released = true)
    (retired : store.claimStatus = some .unresolved → after.claimStatus = some .unresolved ∨ after.released = true)
    (early : ∀ status, after.claimStatus = some status → status.neverReachedBroker = true → store.posts = 0)
    (decisive : ∀ event ∈ added, event.eventType ∈ decisiveEventTypes → store.posts = 0 ∧
      (event.eventType = .adapterInvocationStarted → ¬ after.Waiting) ∧
      (event.eventType = .notSentEvidenceRecorded → ¬ after.Waiting ∧ after.intentStatus ≠ some .submitting) ∧
      (event.eventType = .releasedNoBrokerExposure → after.released = true)) :
    Silent store after ∧ after.Consistent := by
  have mem := @mem_log_of_append store after added events
  refine ⟨⟨⟨⟨added, events.symm⟩, .inl posts, present, fun held _ => waiting held, released, retired⟩, posts⟩, ?_⟩
  constructor
  · exact claimed
  · exact posts ▸ consistent.at_most_one
  · exact fun posted => mem.mpr (.inl (consistent.marked (posts ▸ posted)))
  · intro member
    rcases mem.mp member with old | ⟨event, new, kind⟩
    · exact posts.trans (consistent.not_sent old)
    · exact posts.trans (decisive event new (by simp [kind, decisiveEventTypes])).1
  · exact fun status held reached => posts.trans (early status held reached)
  · intro held member
    rcases mem.mp member with old | ⟨event, new, kind⟩
    · exact consistent.waiting_unmarked (waiting held) old
    · exact (decisive event new (by simp [kind, decisiveEventTypes])).2.1 kind held
  · intro held member
    rcases mem.mp member with old | ⟨event, new, kind⟩
    · exact consistent.waiting_undecided (waiting held) old
    · exact ((decisive event new (by simp [kind, decisiveEventTypes])).2.2.1 kind).1 held
  · intro held member
    rcases mem.mp member with old | ⟨event, new, kind⟩
    · exact submitting held old
    · exact ((decisive event new (by simp [kind, decisiveEventTypes])).2.2.1 kind).2 held
  · intro member
    rcases mem.mp member with old | ⟨event, new, kind⟩
    · obtain ⟨unposted, held⟩ := consistent.never_submitted old
      exact ⟨posts.trans unposted, released held⟩
    · obtain ⟨unposted, _, _, held⟩ := decisive event new (by simp [kind, decisiveEventTypes])
      exact ⟨posts.trans unposted, held kind⟩

/-- An update of the claim and of rows that decide nothing. -/
theorem Consistent.bookkeeping (consistent : store.Consistent) (added : List ClaimEvent)
    (events : after.events = store.events ++ added) (posts : after.posts = store.posts)
    (intent : after.intent = store.intent) (claimed : after.claim.isSome → store.claim.isSome)
    (released : store.released = true → after.released = true)
    (retired : store.claimStatus = some .unresolved → after.claimStatus = some .unresolved ∨ after.released = true)
    (early : ∀ status, after.claimStatus = some status → status.neverReachedBroker = true →
      ∃ prior, store.claimStatus = some prior ∧ prior.neverReachedBroker = true)
    (undecisive : ∀ event ∈ added, event.eventType ∉ decisiveEventTypes) :
    Bookkeeping store after ∧ after.Consistent := by
  have status : after.intentStatus = store.intentStatus := by
    rw [EntryLifecycle.intentStatus, intent, EntryLifecycle.intentStatus]
  obtain ⟨silent, kept⟩ := consistent.silent added events posts (fun present => intent ▸ present)
    (fun present => intent ▸ consistent.claimed (claimed present))
    (fun held => by rwa [Waiting, status] at held)
    (fun held => consistent.submitting_undecided (status ▸ held)) released retired
    (fun next held reached => by
      obtain ⟨prior, was, early⟩ := early next held reached
      exact consistent.early prior was early)
    (fun event member decisive => absurd decisive (undecisive event member))
  refine ⟨⟨silent, intent, fun eventType decisive member => ?_⟩, kept⟩
  rcases (mem_log_of_append events).mp member with old | ⟨event, new, kind⟩
  · exact old
  · exact absurd (kind ▸ decisive) (undecisive event new)

/-- A change of rows that decide nothing about delivery. -/
theorem bookkeeping_of_same (consistent : store.Consistent) (claim : after.claim = store.claim)
    (intent : after.intent = store.intent) (posts : after.posts = store.posts) :
    Bookkeeping store after ∧ after.Consistent := by
  refine consistent.bookkeeping [] ?_ posts intent (fun present => claim ▸ present) ?_ ?_ ?_ (by simp)
  · rw [EntryLifecycle.events, claim, EntryLifecycle.events, List.append_nil]
  · rw [EntryLifecycle.released, EntryLifecycle.released, claim]
    exact id
  · intro unresolved
    rw [EntryLifecycle.claimStatus, claim]
    exact .inl unresolved
  · intro status held reached
    rw [EntryLifecycle.claimStatus, claim] at held
    exact ⟨status, held, reached⟩

/-- Rows that decide nothing may change in the same transaction. -/
theorem Bookkeeping.thenSame (kept : Bookkeeping first store)
    (consistent : store.Consistent) (claim : after.claim = store.claim) (intent : after.intent = store.intent)
    (posts : after.posts = store.posts) : Bookkeeping first after ∧ after.Consistent := by
  obtain ⟨same, final⟩ := bookkeeping_of_same consistent claim intent posts
  exact ⟨kept.trans same, final⟩

variable {update : EntryExposureClaim → EntryExposureClaim}

/-- A change of the claim row that neither un-releases it nor takes it back before the boundary. -/
theorem bookkeeping_updateClaim (consistent : store.Consistent) (events : ∀ claim, (update claim).events = claim.events)
    (released : ∀ claim, store.claim = some claim →
      claim.releasedAt.isSome = true → (update claim).releasedAt.isSome = true)
    (retired : ∀ claim, store.claim = some claim → claim.status = .unresolved →
      (update claim).status = .unresolved ∨ (update claim).releasedAt.isSome = true)
    (early : ∀ claim, store.claim = some claim → (update claim).status.neverReachedBroker = true →
      claim.status.neverReachedBroker = true) :
    Bookkeeping store (store.updateClaim update) ∧ (store.updateClaim update).Consistent := by
  refine consistent.bookkeeping [] ?_ rfl rfl (by simp [updateClaim]) ?_ ?_ ?_ (by simp)
  · rw [events_updateClaim store update events, List.append_nil]
  · cases present : store.claim with
    | none => simp [EntryLifecycle.released, present]
    | some claim => simpa [EntryLifecycle.released, present, updateClaim] using released claim present
  · cases present : store.claim with
    | none => simp [claimStatus, present]
    | some claim =>
      simpa [EntryLifecycle.released, claimStatus, present, updateClaim] using retired claim present
  · intro status held reached
    cases present : store.claim with
    | none => simp [claimStatus, updateClaim, present] at held
    | some claim =>
      have changed : (update claim).status = status := by simpa [claimStatus, updateClaim, present] using held
      exact ⟨claim.status, by simp [claimStatus, present], early claim present (changed ▸ reached)⟩

/-- Stamping the claim is bookkeeping. -/
theorem bookkeeping_stamp (consistent : store.Consistent) {due : EntryExposureClaim → Prop} {_ : DecidablePred due}
    (time : Option Nat) :
    let after := store.updateClaim fun claim => if due claim then { claim with lastDiagnosedAt := time } else claim
    Bookkeeping store after ∧ after.Consistent := by
  refine bookkeeping_updateClaim consistent ?_ ?_ ?_ ?_
  · intro claim
    split_ifs <;> rfl
  · intro claim _ released
    split_ifs <;> exact released
  · intro claim _ unresolved
    split_ifs <;> exact .inl unresolved
  · intro claim _ reached
    split_ifs at reached <;> exact reached

variable {eventType : ClaimEventType}

variable (evidence : EvidenceFields)

/-- An event that decides nothing. -/
theorem bookkeeping_appendEvent (consistent : store.Consistent) (undecisive : eventType ∉ decisiveEventTypes) :
    Bookkeeping store (store.appendEvent eventType evidence) ∧
      (store.appendEvent eventType evidence).Consistent := by
  obtain ⟨added, events, kinds, _⟩ := events_appendEvent store eventType evidence
  refine consistent.bookkeeping added events rfl rfl (by simp [appendEvent, updateClaim]) ?_ ?_ ?_ ?_
  · exact fun held => (released_appendEvent store eventType evidence).trans held
  · exact fun held => .inl ((claimStatus_appendEvent store eventType evidence).trans held)
  · intro status held reached
    exact ⟨status, (claimStatus_appendEvent store eventType evidence) ▸ held, reached⟩
  · exact fun event member => (kinds event member) ▸ undecisive

/-- A change of the intent's status away from the worker. -/
theorem silent_updateIntent {update : OrderIntent → OrderIntent} (consistent : store.Consistent)
    (settled : ∀ intent, store.intent = some intent →
      ((update intent).status = .received ∨ (update intent).status = .pending) → store.Waiting)
    (submitting : ∀ intent, store.intent = some intent →
      (update intent).status = .submitting → .notSentEvidenceRecorded ∉ store.log) :
    Silent store (store.updateIntent update) ∧ (store.updateIntent update).Consistent := by
  have status := intentStatus_updateIntent store update
  refine consistent.silent [] (List.append_nil _).symm rfl (by simp) ?_ ?_ ?_ id .inl ?_ (by simp)
  · intro present
    rw [isSome_intent_updateIntent]
    exact consistent.claimed present
  · intro held
    rw [Waiting, status] at held
    cases present : store.intent with
    | none => simp [present] at held
    | some intent => exact settled intent present (by simpa [present] using held)
  · intro held
    rw [status] at held
    cases present : store.intent with
    | none => simp [present] at held
    | some intent => exact submitting intent present (by simpa [present] using held)
  · exact fun early held reached => consistent.early early held reached

/-- A decisive event, of an entry that posted nothing and that no worker can take again. -/
theorem silent_appendEvent (consistent : store.Consistent) (unposted : store.posts = 0) (settled : ¬ store.Waiting)
    (terminal : eventType = .notSentEvidenceRecorded → store.intentStatus ≠ some .submitting)
    (held : eventType ≠ .releasedNoBrokerExposure) :
    Silent store (store.appendEvent eventType evidence) ∧ (store.appendEvent eventType evidence).Consistent := by
  obtain ⟨added, events, kinds, _⟩ := events_appendEvent store eventType evidence
  refine consistent.silent added events rfl id ?_ id consistent.submitting_undecided ?_ ?_ ?_ ?_
  · intro present
    exact consistent.claimed (by simpa [appendEvent, updateClaim] using present)
  · exact fun held => (released_appendEvent store _ evidence).trans held
  · exact fun held => .inl ((claimStatus_appendEvent store _ evidence).trans held)
  · exact fun status held reached => consistent.early status ((claimStatus_appendEvent store _ evidence) ▸ held) reached
  · intro event member _
    rw [kinds event member]
    exact ⟨unposted, fun _ => settled, fun kind => ⟨settled, terminal kind⟩, fun kind => absurd kind held⟩

theorem silent_appendNotSent (consistent : store.Consistent)
    (unposted : store.posts = 0) (settled : ¬ store.Waiting) (terminal : store.intentStatus ≠ some .submitting) :
    Silent store (store.appendEvent .notSentEvidenceRecorded evidence) ∧
      (store.appendEvent .notSentEvidenceRecorded evidence).Consistent :=
  silent_appendEvent evidence consistent unposted settled (fun _ => terminal) (by decide)

theorem mem_log_updateClaim (same : ∀ claim, (update claim).events = claim.events) :
    eventType ∈ (store.updateClaim update).log ↔ eventType ∈ store.log := by
  rw [log, events_updateClaim store update same, log]

variable {observed : ClaimStatus}

/-- A release records its own event and no other. -/
theorem mem_log_releaseClaim {reason : String} {recorded : ClaimEventType} {evidence : EvidenceFields}
    (member : recorded ∈ (releaseClaim observed reason eventType evidence store).log) :
    recorded ∈ store.log ∨ recorded = eventType := by
  unfold releaseClaim at member
  split at member
  case h_2 => exact .inl member
  case h_1 =>
    split_ifs at member
    · rcases (mem_log_appendEvent _ _ _).mp member with old | new
      · exact .inl ((mem_log_updateClaim (by exact fun _ => rfl)).mp old)
      · exact .inr new.1
    · exact .inl member

/-- The release of a claim, which is never-submitted only for an entry that posted nothing. -/
theorem silent_releaseClaim {reason : String} {evidence : EvidenceFields} (consistent : store.Consistent)
    (decided : eventType ∉ decisiveEventTypes ∨ (eventType = .releasedNoBrokerExposure ∧
      (store.claimStatus = some observed → store.posts = 0))) :
    Silent store (releaseClaim observed reason eventType evidence store) ∧
      (releaseClaim observed reason eventType evidence store).Consistent ∧
      (releaseClaim observed reason eventType evidence store).intent = store.intent := by
  unfold releaseClaim
  split
  case h_2 => exact ⟨Silent.refl store, consistent, rfl⟩
  case h_1 claim present =>
    split_ifs with unchanged
    case neg => exact ⟨Silent.refl store, consistent, rfl⟩
    have status : store.claimStatus = some observed := by simp [claimStatus, present, unchanged.1]
    generalize shape : (store.updateClaim fun claim : EntryExposureClaim =>
      { claim with status := .released, releasedAt := some store.clock, releaseReason := some reason }) = released
    obtain ⟨kept, later⟩ : Bookkeeping store released ∧ released.Consistent := by
      rw [← shape]
      exact bookkeeping_updateClaim consistent (fun _ => rfl) (fun _ _ _ => rfl) (fun _ _ _ => .inr rfl)
        (fun _ _ reached => by simp [ClaimStatus.neverReachedBroker] at reached)
    have held : released.released = true := by
      rw [← shape]
      simp [EntryLifecycle.released, updateClaim, present]
    obtain ⟨added, events, kinds, _⟩ := events_appendEvent released eventType evidence
    obtain ⟨silent, final⟩ : Silent released (released.appendEvent eventType evidence) ∧
        (released.appendEvent eventType evidence).Consistent := by
      refine later.silent added events rfl id ?_ id later.submitting_undecided ?_ ?_ ?_ ?_
      · intro present
        exact later.claimed (by simpa [appendEvent, updateClaim] using present)
      · exact fun held => (released_appendEvent released _ evidence).trans held
      · exact fun held => .inl ((claimStatus_appendEvent released _ evidence).trans held)
      · exact fun status held reached =>
          later.early status ((claimStatus_appendEvent released _ evidence) ▸ held) reached
      · intro event member decisive
        rw [kinds event member] at decisive ⊢
        rcases decided with undecisive | ⟨rfl, unposted⟩
        · exact absurd decisive undecisive
        · exact ⟨kept.unposted.trans (unposted status), by simp, by simp,
            fun _ => (released_appendEvent released _ evidence).trans held⟩
    exact ⟨kept.toSilent.trans silent, final, kept.same_intent⟩

end Updates

end EntryLifecycle

end AiTrader.Entry
