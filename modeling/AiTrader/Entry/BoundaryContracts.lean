import AiTrader.Entry.RecoveryContracts
import AiTrader.Entry.Submission

/-! # One crossing of the broker boundary

From the worker's claim of an intent to the answer of the adapter: the crossing posts at most once,
only after the durable marker and only while the claim is unreleased at the boundary. -/

namespace AiTrader.Entry

open Library Library.Program EntryLifecycle

variable {after store : EntryLifecycle}

namespace EntryLifecycle

/-- A transaction that leaves the intent, the claim and the number of POSTs alone. -/
structure Recording (store after : EntryLifecycle) : Prop where
  same_claim : after.claim = store.claim
  same_intent : after.intent = store.intent
  unposted : after.posts = store.posts

theorem Recording.refl (store : EntryLifecycle) : Recording store store := ⟨rfl, rfl, rfl⟩

section

variable (kept : Recording store after)
include kept

theorem Recording.same_events : after.events = store.events := by
  rw [EntryLifecycle.events, kept.same_claim, EntryLifecycle.events]

theorem Recording.same_log : after.log = store.log := by
  rw [EntryLifecycle.log, kept.same_events, EntryLifecycle.log]

theorem Recording.same_intentStatus : after.intentStatus = store.intentStatus := by
  rw [intentStatus, kept.same_intent, intentStatus]

theorem Recording.same_claimStatus : after.claimStatus = store.claimStatus := by
  rw [claimStatus, kept.same_claim, claimStatus]

theorem Recording.same_released : after.released = store.released := by
  rw [EntryLifecycle.released, kept.same_claim, EntryLifecycle.released]

theorem Recording.toBookkeeping : Bookkeeping store after where
  events := kept.same_events ▸ List.prefix_rfl
  post := .inl kept.unposted
  present := fun present => kept.same_intent ▸ present
  requeue := fun waiting _ => by rwa [Waiting, kept.same_intentStatus] at waiting
  released := fun released => kept.same_released.trans released
  retired := fun unresolved => .inl (kept.same_claimStatus.trans unresolved)
  unposted := kept.unposted
  same_intent := kept.same_intent
  undecisive := fun _ _ member => kept.same_log ▸ member

end

/-- The worker took the intent, and nothing has been decided or sent since. -/
structure InAttempt (store : EntryLifecycle) : Prop where
  unposted : store.posts = 0
  submitting : store.intentStatus = some .submitting
  undecided : .notSentEvidenceRecorded ∉ store.log

/-- The claim is unreleased at the boundary as well. -/
structure AtBoundary (store : EntryLifecycle) : Prop extends InAttempt store where
  claimed : store.claimStatus = some .entrySubmitting
  unreleased : store.released = false

/-- The durable marker is recorded too. -/
structure Marked (store : EntryLifecycle) : Prop extends AtBoundary store where
  marker : .adapterInvocationStarted ∈ store.log

theorem undecided_lockFree (undecided : .notSentEvidenceRecorded ∉ store.log) (free : LockFree store after) :
    .notSentEvidenceRecorded ∉ after.log := by
  rwa [free.recorded_iff (by decide)]

section

variable (attempt : store.InAttempt)
include attempt

theorem InAttempt.present : store.intent.isSome := by
  rw [← isSome_intentStatus, attempt.submitting]
  rfl

theorem InAttempt.not_waiting : ¬ store.Waiting := by
  simp [Waiting, attempt.submitting]

theorem InAttempt.lockFree (free : LockFree store after) : after.InAttempt where
  unposted := free.unposted.trans attempt.unposted
  submitting := (free.settled attempt.present attempt.not_waiting).trans attempt.submitting
  undecided := undecided_lockFree attempt.undecided free

theorem InAttempt.bookkeeping (kept : Bookkeeping store after) : after.InAttempt where
  unposted := kept.unposted.trans attempt.unposted
  submitting := by
    rw [intentStatus, kept.same_intent]
    exact attempt.submitting
  undecided := fun member => attempt.undecided (kept.undecisive _ (by decide) member)

end

theorem AtBoundary.lockFree (boundary : store.AtBoundary) (free : LockFree store after) : after.AtBoundary where
  toInAttempt := boundary.toInAttempt.lockFree free
  claimed := (free.claimed _ boundary.claimed (by decide) boundary.undecided).1
  unreleased := (free.claimed _ boundary.claimed (by decide) boundary.undecided).2.trans boundary.unreleased

theorem AtBoundary.recording (boundary : store.AtBoundary) (kept : Recording store after) : after.AtBoundary where
  toInAttempt := boundary.toInAttempt.bookkeeping kept.toBookkeeping
  claimed := kept.same_claimStatus.trans boundary.claimed
  unreleased := kept.same_released.trans boundary.unreleased

theorem Marked.lockFree (marked : store.Marked) (free : LockFree store after) : after.Marked where
  toAtBoundary := marked.toAtBoundary.lockFree free
  marker := (free.recorded_iff (by decide)).mpr marked.marker

theorem Marked.recording (marked : store.Marked) (kept : Recording store after) : after.Marked where
  toAtBoundary := marked.toAtBoundary.recording kept
  marker := kept.same_log ▸ marked.marker

/-- The marker keeps the boundary and records itself. -/
theorem AtBoundary.appendMarker (boundary : store.AtBoundary) (consistent : store.Consistent)
    (evidence : EvidenceFields) :
    Silent store (store.appendEvent .adapterInvocationStarted evidence) ∧
      (store.appendEvent .adapterInvocationStarted evidence).Consistent ∧
      (store.appendEvent .adapterInvocationStarted evidence).Marked := by
  obtain ⟨silent, kept⟩ := silent_appendEvent evidence consistent boundary.unposted
    boundary.toInAttempt.not_waiting (fun kind : .adapterInvocationStarted = _ => by cases kind) (by decide)
  have claimed : store.claim.isSome := by
    have status := boundary.claimed
    cases present : store.claim with
    | none => simp [claimStatus, present] at status
    | some claim => rfl
  refine ⟨silent, kept, ⟨⟨⟨boundary.unposted, boundary.submitting, ?_⟩, ?_, ?_⟩, ?_⟩⟩
  · rw [mem_log_appendEvent]
    simpa using boundary.undecided
  · exact (claimStatus_appendEvent store _ evidence).trans boundary.claimed
  · exact (released_appendEvent store _ evidence).trans boundary.unreleased
  · exact (mem_log_appendEvent store _ evidence).mpr (.inr ⟨rfl, claimed⟩)

/-- The POST of a marked entry is the first one. -/
theorem Marked.post (marked : store.Marked) (consistent : store.Consistent) :
    Advance store { store with posts := store.posts + 1 } ∧
      ({ store with posts := store.posts + 1 } : EntryLifecycle).Consistent := by
  refine ⟨⟨List.prefix_rfl, .inr ⟨marked.unposted, ?_, marked.claimed, marked.unreleased⟩, id,
    fun waiting _ => waiting, id, .inl⟩, ?_⟩
  · exact congrArg (· + 1) marked.unposted
  constructor
  · exact consistent.claimed
  · exact (congrArg (· + 1) marked.unposted).le
  · exact fun _ => marked.marker
  · exact fun member => absurd member marked.undecided
  · intro status held reached
    have same : some ClaimStatus.entrySubmitting = some status := marked.claimed.symm.trans held
    cases same
    exact absurd reached (by decide)
  · exact consistent.waiting_unmarked
  · exact consistent.waiting_undecided
  · exact consistent.submitting_undecided
  · intro member
    have released := (consistent.never_submitted member).2
    rw [marked.unreleased] at released
    exact absurd released (by decide)

end EntryLifecycle

/-- The records of the dispatch authorization: they touch neither the intent nor the claim. -/
abbrev recordingContract : Contract EntryLifecycle := holderContract Recording Recording.refl

variable (identity : EntryIdentity)

section Authorization

theorem recording_write {update : EntryLifecycle → EntryLifecycle}
    (held : ∀ store : EntryLifecycle, Recording store (update store)) :
    (Program.write update : EntryProgram Unit).Harmless recordingContract EntryFault :=
  harmless_write fun store consistent =>
    ⟨held store, (bookkeeping_of_same consistent (held store).same_claim (held store).same_intent
      (held store).unposted).2⟩

theorem recording_commit {α : Type} {body : EntryLifecycle → Except EntryError (α × EntryLifecycle)}
    (held : ∀ store value after, body store = .ok (value, after) → Recording store after) :
    (Program.commit body).Harmless recordingContract EntryFault :=
  harmless_commit fun store value after consistent success =>
    have kept := held store value after success
    ⟨kept, (bookkeeping_of_same consistent kept.same_claim kept.same_intent kept.unposted).2⟩

theorem recording_bestEffort (eventType : OpportunityEventType) :
    (bestEffortAppendBrokerOpportunityEvent eventType).Harmless recordingContract EntryFault := by
  refine Harmless.bind (Harmless.attempt ?_) fun _ => harmless_pure
  exact recording_write fun _ => ⟨rfl, rfl, rfl⟩

variable {contract : Contract EntryLifecycle}

theorem harmless_evaluateMarketPolicy {α : Type} : (evaluateMarketPolicy : EntryProgram α).Harmless contract EntryFault := by
  refine harmless_answer.bind fun verdict => ?_
  cases verdict with
  | ok value => exact harmless_pure
  | error refusal => exact harmless_throw

theorem harmless_prepareEntryBrokerDispatch : prepareEntryBrokerDispatch.Harmless contract EntryFault := by
  refine harmless_read.attempt.bind fun environment => ?_
  rcases environment with error | _ | _ | _
  · exact harmless_throw
  · exact harmless_pure
  · exact harmless_evaluateMarketPolicy.bind fun _ => harmless_pure
  · exact harmless_pure

theorem harmless_throwIfDispatchRecorded : throwIfDispatchRecorded.Harmless contract EntryFault := by
  refine harmless_read.attempt.bind fun consumption => ?_
  refine harmless_read.attempt.bind fun unenforced => ?_
  rcases consumption with _ | _ | _ <;> rcases unenforced with _ | _ | _ <;>
    first | exact harmless_pure | exact harmless_throw

theorem recording_recordUnenforcedDispatch (recordId : Nat) :
    (Program.commit (recordUnenforcedDispatch identity recordId)).Harmless recordingContract EntryFault := by
  refine recording_commit fun store value after success => ?_
  unfold recordUnenforcedDispatch at success
  split at success
  · split_ifs at success
    cases success
    exact ⟨rfl, rfl, rfl⟩
  · cases success

theorem recording_attemptConsumption : (attemptConsumption identity).Harmless recordingContract EntryFault := by
  refine harmless_answer.bind fun recordId => Harmless.attempt ?_
  refine recording_commit fun store value after success => ?_
  unfold consumeDecision at success
  split at success
  · split_ifs at success
    cases success
    exact ⟨rfl, rfl, rfl⟩
  · cases success

theorem recording_authorizeDispatch (dispatch : PreparedDispatch) :
    (authorizeDispatch identity dispatch).Harmless recordingContract EntryFault := by
  cases dispatch with
  | notApplicable => exact harmless_pure
  | unobligated =>
    refine harmless_answer.bind fun recordId => ?_
    refine Harmless.bind (Harmless.attempt ?_) fun recorded => ?_
    · refine harmless_answer.bind fun quarantined => ?_
      refine harmless_ite ?_ ?_
      · exact (recording_recordUnenforcedDispatch identity recordId).bind fun _ => harmless_pure
      · exact harmless_pure
    · rcases recorded with error | _ | refusal
      · exact harmless_throwIfDispatchRecorded.bind fun _ => harmless_throw
      · exact harmless_pure
      · exact harmless_throw
  | frozenObligation =>
    refine (recording_attemptConsumption identity).bind fun consumed => ?_
    cases consumed with
    | ok value => exact harmless_pure
    | error error =>
      refine harmless_throwIfDispatchRecorded.bind fun _ => harmless_evaluateMarketPolicy.bind fun _ => ?_
      refine (recording_attemptConsumption identity).bind fun again => ?_
      cases again with
      | ok value => exact harmless_pure
      | error error => exact harmless_throwIfDispatchRecorded.bind fun _ => harmless_throw

theorem recording_authorizeAndConsumeNewPositionEntry :
    (authorizeAndConsumeNewPositionEntry identity).Harmless recordingContract EntryFault := by
  refine harmless_answer.bind fun authorized => ?_
  cases authorized with
  | error message => exact harmless_throw
  | ok terminationId =>
    refine recording_commit fun store value after success => ?_
    split_ifs at success
    cases success
    exact ⟨rfl, rfl, rfl⟩

theorem harmless_passLocalGuards : passLocalGuards.Harmless contract EntryFault := by
  refine harmless_answer.bind fun guarded => ?_
  cases guarded with
  | none => exact harmless_pure
  | some guarded => exact harmless_throw

theorem recording_passLiveEntryGuard : (passLiveEntryGuard identity).Harmless recordingContract EntryFault := by
  refine harmless_read.bind fun live => ?_
  refine harmless_ite ?_ harmless_pure
  refine (recording_authorizeAndConsumeNewPositionEntry identity).attempt.bind fun consumed => ?_
  cases consumed with
  | ok value => exact harmless_pure
  | error error => exact harmless_throw

theorem harmless_assertNoLocalEntryDispatchEvidence : assertNoLocalEntryDispatchEvidence.Harmless contract EntryFault := by
  refine harmless_read.bind fun _ => harmless_read.bind fun _ => ?_
  refine harmless_read.bind fun _ => harmless_read.bind fun _ => ?_
  exact harmless_ite harmless_throw harmless_pure

end Authorization

section Crossing

/-- A store in which the claim was read as `claim` while the worker holds the intent. -/
def ReadAs (claim : EntryExposureClaim) (store : EntryLifecycle) : Prop :=
  store.InAttempt ∧ (claim.status = .entrySubmitting → store.AtBoundary)

theorem ReadAs.lockFree {claim : EntryExposureClaim} (held : ReadAs claim store)
    (free : LockFree store after) : ReadAs claim after :=
  ⟨held.1.lockFree free, fun same => (held.2 same).lockFree free⟩

theorem assured_requireEntryExposureClaim (attempt : store.InAttempt) :
    (requireEntryExposureClaim false).Assured recordingContract EntryFault
      (fun result current => current.InAttempt ∧ ∀ claim, result = .ok claim → ReadAs claim current) store := by
  refine Assured.readThen fun current free _ => ?_
  have still := attempt.lockFree free
  refine ⟨?_, fun _ _ => ⟨still, nofun⟩⟩
  cases present : current.claim with
  | none => exact ⟨still, nofun⟩
  | some claim =>
    dsimp only
    split
    · exact ⟨still, nofun⟩
    split
    · exact ⟨still, nofun⟩
    rename_i unreleased _
    refine ⟨still, ?_⟩
    rintro _ ⟨⟩
    refine ⟨still, fun same => ⟨still, by simp [claimStatus, present, same], ?_⟩⟩
    simpa [released, present] using unreleased

/-- The identity check passes only at the boundary. -/
theorem assured_requireExecutableEntryExposureClaim (attempt : store.InAttempt) :
    (requireExecutableEntryExposureClaim identity).Assured recordingContract EntryFault
      (fun result current => current.InAttempt ∧ ∀ claim, result = .ok claim → current.AtBoundary) store := by
  have failed : ∀ (error : EntryError) (current : EntryLifecycle), current.InAttempt → current.InAttempt ∧
      ∀ claim : EntryExposureClaim, Except.error error = .ok claim → current.AtBoundary :=
    fun _ _ still => ⟨still, nofun⟩
  refine Assured.bind ((assured_requireEntryExposureClaim attempt).mono fun result first held => ?_)
  cases result with
  | error error => exact failed error first held.1
  | ok claim =>
    have read := held.2 claim rfl
    refine Assured.readThen fun second free _ => ⟨?_, fun error _ => failed error second (read.lockFree free).1⟩
    replace read := read.lockFree free
    refine Assured.readThen fun third free _ => ⟨?_, fun error _ => failed error third (read.lockFree free).1⟩
    replace read := read.lockFree free
    split
    case isFalse => exact failed _ third read.1
    case isTrue executable =>
      refine ⟨read.1, fun _ _ => read.2 ?_⟩
      unfold executableIdentity at executable
      split at executable
      · cases executable
      · simp only [Bool.and_eq_true, beq_iff_eq] at executable
        exact executable.1.2

theorem assured_lookupExistingEntryOrder (attempt : store.InAttempt) :
    (lookupExistingEntryOrder identity).Assured recordingContract EntryFault
      (fun result current => current.InAttempt ∧ ∀ order, result = .ok order → current.AtBoundary) store := by
  refine Assured.bind ((assured_requireExecutableEntryExposureClaim identity attempt).mono
    fun result current held => ?_)
  cases result with
  | error error => exact ⟨held.1, nofun⟩
  | ok claim =>
    have boundary := held.2 claim rfl
    rintro (message | order)
    · exact ⟨held.1, nofun⟩
    · exact ⟨held.1, fun _ _ => boundary⟩

section Steps

variable {α β : Type} {program : EntryProgram α} {next : α → EntryProgram β} {post : Except EntryError β → EntryLifecycle → Prop}

/-- A recording program keeps the boundary for what follows. -/
theorem EntryLifecycle.AtBoundary.before (boundary : store.AtBoundary) (harmless : program.Harmless recordingContract EntryFault)
    (rest : ∀ value current, current.AtBoundary → (next value).Assured boundaryContract EntryFault post current)
    (thrown : ∀ error current, current.AtBoundary → post (.error error) current) :
    (program >>= next).Assured boundaryContract EntryFault post store :=
  harmless.before boundaryContract AtBoundary rfl rfl (fun _ _ kept => kept.toBookkeeping.toAdvance)
    (fun _ _ free held => held.lockFree free) (fun _ _ kept held => held.recording kept) boundary rest thrown

/-- A recording program keeps the marked boundary for what follows. -/
theorem EntryLifecycle.Marked.before (marked : store.Marked) (harmless : program.Harmless recordingContract EntryFault)
    (rest : ∀ value current, current.Marked → (next value).Assured boundaryContract EntryFault post current)
    (thrown : ∀ error current, current.Marked → post (.error error) current) :
    (program >>= next).Assured boundaryContract EntryFault post store :=
  harmless.before boundaryContract Marked rfl rfl (fun _ _ kept => kept.toBookkeeping.toAdvance)
    (fun _ _ free held => held.lockFree free) (fun _ _ kept held => held.recording kept) marked rest thrown

/-- Telemetry never fails and changes nothing that counts. -/
theorem bestEffort_before {eventType : OpportunityEventType} {kept : EntryLifecycle → Prop}
    {next : Unit → EntryProgram β}
    (lockFree : ∀ current after, LockFree current after → kept current → kept after)
    (recording : ∀ current after, Recording current after → kept current → kept after) (initial : kept store)
    (rest : ∀ current, kept current → (next ()).Assured boundaryContract EntryFault post current) :
    (bestEffortAppendBrokerOpportunityEvent eventType >>= next).Assured boundaryContract EntryFault post store := by
  have raises : (bestEffortAppendBrokerOpportunityEvent eventType).Raises EntryFault (fun _ => False) :=
    Raises.bind raises_attempt fun _ => raises_pure
  have framed := (recording_bestEffort eventType).frame boundaryContract kept rfl rfl
    (fun _ _ held => held.toBookkeeping.toAdvance) lockFree recording initial
  refine Assured.bind ((framed.raising raises).mono fun result current held => ?_)
  cases result with
  | ok value => exact rest current held.1
  | error error => exact (held.2 error rfl).elim

end Steps

/-- Authorization and marker: a return means that the marker is durable. -/
theorem assured_authorizeAndMark (boundary : store.AtBoundary) :
    (authorizeAndMark identity).Assured boundaryContract EntryFault
      (fun result current => current.AtBoundary ∧ (result = .ok () → current.Marked)) store := by
  have failed : ∀ (error : EntryError) (current : EntryLifecycle), current.AtBoundary → current.AtBoundary ∧
      (Except.error error = .ok () → current.Marked) := fun _ _ held => ⟨held, nofun⟩
  refine boundary.before harmless_prepareEntryBrokerDispatch (fun dispatch _ boundary => ?_) failed
  refine boundary.before (recording_authorizeDispatch identity dispatch) (fun _ _ boundary => ?_) failed
  refine assured_write fun current free consistent => ?_
  have still := boundary.lockFree free
  obtain ⟨silent, kept, marked⟩ := still.appendMarker consistent { adapterMarkerProtocol := true }
  exact ⟨silent.toAdvance, kept, ⟨marked.toAtBoundary, fun _ => marked⟩, fun error _ => failed error _ marked.toAtBoundary,
    fun error _ => failed error _ still⟩

/-- Only a local guard tells that a failed adapter call sent nothing. -/
structure AdapterOutcome (result : Except EntryError AlpacaOrderView) (store : EntryLifecycle) : Prop where
  undecided : .notSentEvidenceRecorded ∉ store.log
  guarded : ∀ classification statusCode message,
    result = .error (.brokerWrite classification statusCode message) →
    classification = .notSentBlocked ∨ classification = .notSentRetryable → store.posts = 0

variable {result : Except EntryError AlpacaOrderView}

theorem AdapterOutcome.lockFree
    (outcome : AdapterOutcome result store) (free : LockFree store after) : AdapterOutcome result after where
  undecided := undecided_lockFree outcome.undecided free
  guarded := fun classification statusCode message same guarded =>
    free.unposted.trans (outcome.guarded classification statusCode message same guarded)

theorem AdapterOutcome.recording
    (outcome : AdapterOutcome result store) (kept : Recording store after) : AdapterOutcome result after where
  undecided := kept.same_log ▸ outcome.undecided
  guarded := fun classification statusCode message same guarded =>
    kept.unposted.trans (outcome.guarded classification statusCode message same guarded)

theorem EntryLifecycle.Marked.adapterOutcome (marked : store.Marked) (result : Except EntryError AlpacaOrderView) :
    AdapterOutcome result store := ⟨marked.undecided, fun _ _ _ _ _ => marked.unposted⟩

/-- After `fetch` no failure is classified as a local guard. -/
theorem classifyPostResponse_not_guarded {response : PostResponse} {classification : BrokerWriteDeliveryClassification}
    {statusCode : Option Nat} {message : String}
    (failed : classifyPostResponse response = .error (.brokerWrite classification statusCode message)) :
    ¬ (classification = .notSentBlocked ∨ classification = .notSentRetryable) := by
  unfold classifyPostResponse at failed
  split at failed
  · cases failed
  · split_ifs at failed <;> cases failed <;> decide
  · cases failed
    decide
  · cases failed

/-- The adapter posts at most once, and only for a marked entry. -/
theorem assured_postOrder (marked : store.Marked) :
    postOrder.Assured boundaryContract EntryFault (fun result current => AdapterOutcome result current) store := by
  have uncertain : ∀ current : EntryLifecycle, .notSentEvidenceRecorded ∉ current.log →
      AdapterOutcome (.error (.brokerWrite .deliveryUncertain none
        "Broker write delivery is uncertain after a network or response failure.")) current := fun _ undecided =>
    ⟨undecided, fun _ _ _ same guarded => by cases same; exact absurd guarded (by decide)⟩
  refine Assured.bind (Assured.attempt (assured_write fun current free consistent => ?_))
  have still := marked.lockFree free
  obtain ⟨advance, kept⟩ := still.post consistent
  refine ⟨advance, kept, fun response => ?_, fun _ _ => uncertain _ still.undecided,
    fun _ _ => uncertain _ still.undecided⟩
  exact ⟨still.undecided, fun _ _ _ same guarded => absurd guarded (classifyPostResponse_not_guarded same)⟩

theorem assured_submitAlpacaEntryOrder (marked : store.Marked) :
    (submitAlpacaEntryOrder identity).Assured boundaryContract EntryFault
      (fun result current => AdapterOutcome result current) store := by
  refine marked.before harmless_passLocalGuards (fun _ _ marked => ?_) fun _ _ marked => marked.adapterOutcome _
  refine marked.before (recording_passLiveEntryGuard identity) (fun _ _ marked => ?_) fun _ _ marked =>
    marked.adapterOutcome _
  exact marked.before harmless_passLocalGuards (fun _ _ marked => assured_postOrder marked) fun _ _ marked =>
    marked.adapterOutcome _

theorem assured_dispatchToAdapter (marked : store.Marked) : (dispatchToAdapter identity).Assured boundaryContract EntryFault
      (fun result current => AdapterOutcome result current) store := by
  refine bestEffort_before (fun _ _ free held => held.lockFree free) (fun _ _ kept held => held.recording kept)
    marked fun _ marked => ?_
  refine Assured.bind (Assured.attempt ((assured_submitAlpacaEntryOrder identity marked).mono
    fun result current outcome => ?_))
  cases result with
  | ok order => exact outcome
  | error error =>
    exact bestEffort_before (fun _ _ free held => held.lockFree free) (fun _ _ kept held => held.recording kept)
      outcome fun _ held => held

/-- What the phase and the result of a crossing tell about the network. -/
structure Crossing (crossed : EntryBrokerSubmissionPhase × Except EntryError EntrySubmission)
    (store : EntryLifecycle) : Prop where
  undecided : .notSentEvidenceRecorded ∉ store.log
  unsent : crossed.1 ≠ .dispatchStarted → crossed.1 ≠ .brokerResponded → store.posts = 0
  guarded : ∀ classification statusCode message,
    crossed.2 = .error (.brokerWrite classification statusCode message) →
    classification = .notSentBlocked ∨ classification = .notSentRetryable → store.posts = 0

theorem EntryLifecycle.InAttempt.crossing (attempt : store.InAttempt)
    (crossed : EntryBrokerSubmissionPhase × Except EntryError EntrySubmission) : Crossing crossed store :=
  ⟨attempt.undecided, fun _ _ => attempt.unposted, fun _ _ _ _ _ => attempt.unposted⟩

/-- Every crossing of an attempt tells the truth about the network. -/
theorem assured_submitOrderToBroker (attempt : store.InAttempt) :
    (submitOrderToBroker identity).Assured boundaryContract EntryFault
      (fun result current => ∀ crossed, result = .ok crossed → Crossing crossed current) store := by
  have looked := (assured_lookupExistingEntryOrder identity attempt).frame boundaryContract (fun _ => True) rfl rfl
    (fun _ _ kept => kept.toBookkeeping.toAdvance) (fun _ _ _ _ => trivial) (fun _ _ _ _ => trivial) trivial
  refine Assured.bind (Assured.attempt (looked.mono fun result current held => ?_))
  obtain ⟨⟨attempt, found⟩, _⟩ := held
  have failed : ∀ (error : EntryError) (current : EntryLifecycle), current.AtBoundary →
      ∀ crossed, Except.error error = .ok crossed → Crossing crossed current := fun _ _ _ _ impossible => by
    cases impossible
  rcases result with error | _ | existing
  · rintro _ ⟨⟩
    exact attempt.crossing _
  · refine (found _ rfl).before harmless_assertNoLocalEntryDispatchEvidence.attempt (fun checked _ boundary => ?_) failed
    cases checked with
    | error error =>
      rintro _ ⟨⟩
      exact boundary.toInAttempt.crossing _
    | ok value =>
      refine Assured.bind (Assured.attempt ((assured_authorizeAndMark identity boundary).mono
        fun result current held => ?_))
      cases result with
      | error error =>
        rintro _ ⟨⟩
        exact held.1.toInAttempt.crossing _
      | ok value =>
        refine Assured.bind (Assured.attempt ((assured_dispatchToAdapter identity (held.2 rfl)).mono
          fun result current outcome => ?_))
        cases result with
        | error error =>
          rintro _ ⟨⟩
          refine ⟨outcome.undecided, fun started => absurd rfl started, fun _ _ _ same guarded => ?_⟩
          cases same
          exact outcome.guarded _ _ _ rfl guarded
        | ok order =>
          refine bestEffort_before (fun _ _ free held => held.lockFree free)
            (fun _ _ kept held => held.recording kept) outcome fun _ outcome => ?_
          refine bestEffort_before (fun _ _ free held => held.lockFree free)
            (fun _ _ kept held => held.recording kept) outcome fun _ outcome => ?_
          rintro _ ⟨⟩
          exact ⟨outcome.undecided, fun _ responded => absurd rfl responded, nofun⟩
  · refine (found _ rfl).before (harmless_ite harmless_throw harmless_pure).attempt (fun checked _ boundary => ?_) failed
    cases checked with
    | error error =>
      rintro _ ⟨⟩
      exact boundary.toInAttempt.crossing _
    | ok value =>
      refine boundary.before (recording_bestEffort _) (fun _ _ boundary => ?_) failed
      rintro _ ⟨⟩
      exact boundary.toInAttempt.crossing _

end Crossing

end AiTrader.Entry
