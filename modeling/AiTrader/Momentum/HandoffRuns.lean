import AiTrader.Library.History
import AiTrader.Library.Returns
import AiTrader.Library.Separated
import AiTrader.Momentum.ScannerHandoff
import Mathlib.Data.Fintype.EquivFin

/-! # Runs of the scanner handoffs

Prepare, cancellation and mark calls run next to each other while the candidates evolve. -/

namespace AiTrader.Momentum

open Library Library.Program Interleaving

-- What a program returns is proved by its rules; unfolding it would run the program.
attribute [local irreducible] Program.Returns

variable {event : HandoffEvent} {longer : List HandoffEvent}

section Statuses

variable {log : List HandoffEvent} {id : Cuid}

/-- The status of a handoff after one more event. -/
def HandoffEvent.status (id : Cuid) (status : Option MomentumScannerHandoffStatus) :
    HandoffEvent → Option MomentumScannerHandoffStatus
  | .prepared _ handoff => if handoff.id = id then some .pending else status
  | .cancelled _ handoff => if handoff = id then some .cancelled else status
  | .marked handoff given => if handoff = id then some given else status
  | .lookedUp _ | .listed .. => status

/-- The status of a handoff after all events. -/
def statusOf (log : List HandoffEvent) (id : Cuid) : Option MomentumScannerHandoffStatus :=
  log.foldl (fun status event => event.status id status) none

theorem statusOf_concat : statusOf (log ++ [event]) id = event.status id (statusOf log id) := by
  simp only [statusOf, List.foldl_append, List.foldl_cons, List.foldl_nil]

/-- The handoff has been cancelled, and not prepared since. -/
def Void (log : List HandoffEvent) (id : Cuid) : Prop :=
  ∃ early call late, log = early ++ .cancelled call id :: late ∧
    ∀ call handoff, .prepared call handoff ∈ late → handoff.id ≠ id

/-- What every event records, in any order of steps. -/
def Recorded (before : List HandoffEvent) : HandoffEvent → Prop
  | .lookedUp lookup =>
    (∃ payloadVersion, lookup.payload = buildMomentumScannerPayloadFromCandidate lookup.candidate payloadVersion) ∧
      ∀ handoff, lookup.existing = some handoff → handoff.status.isActive = true → lookup.active = true
  | .prepared _ handoff => handoff.status = .pending
  | .listed _ handoffs => ∀ id ∈ handoffs, statusOf before id = some .pending
  | .cancelled call id => ∃ handoffs, .listed call handoffs ∈ before ∧ id ∈ handoffs
  | .marked .. => True

/-- An unforced call finds nothing, or an active handoff prepared meanwhile. -/
def Unspent (force : Bool) (existing : Option MomentumScannerHandoff) (payload : HandoffPayload) : Prop :=
  force = false → ∀ handoff, existing = some handoff → handoff.status.isActive = true ∧ handoff.payload = payload

/-- The order of steps in which the laws of the handoffs hold. -/
def Orderly (before : List HandoffEvent) : HandoffEvent → Prop
  | .lookedUp lookup => Unspent lookup.force lookup.existing lookup.payload
  /- Nobody marks a handoff between its listing and its cancellation. -/
  | .cancelled call id => ∀ early handoffs late, before = early ++ .listed call handoffs :: late → id ∈ handoffs →
      ∀ status, .marked id status ∉ late
  /- Nobody marks a cancelled handoff. -/
  | .marked id _ => statusOf before id ≠ some .cancelled
  | .prepared .. | .listed .. => True

theorem statusOf_unmarked {late : List HandoffEvent} (before : statusOf log id = some .pending)
    (unmarked : ∀ status, .marked id status ∉ late) :
    statusOf (log ++ late) id = some .pending ∨ statusOf (log ++ late) id = some .cancelled := by
  induction late using List.reverseRecOn with
  | nil => exact .inl (by rwa [List.append_nil])
  | append_singleton late event ih =>
    have earlier := ih fun status member => unmarked status (List.mem_append_left _ member)
    rw [← List.append_assoc, statusOf_concat]
    cases event with
    | lookedUp | listed => exact earlier
    | prepared _ handoff =>
      by_cases same : handoff.id = id
      · exact .inl (if_pos same)
      · simpa only [HandoffEvent.status, if_neg same] using earlier
    | cancelled _ handoff =>
      by_cases same : handoff = id
      · exact .inr (if_pos same)
      · simpa only [HandoffEvent.status, if_neg same] using earlier
    | marked handoff status =>
      have other : handoff ≠ id := fun same => unmarked status (by simp [same])
      simpa only [HandoffEvent.status, if_neg other] using earlier

theorem statusOf_void (orderly : Throughout Orderly log) (void : Void log id) : statusOf log id = some .cancelled := by
  obtain ⟨early, call, late, rfl, unprepared⟩ := void
  induction late using List.reverseRecOn with
  | nil => exact (statusOf_concat).trans (if_pos rfl)
  | append_singleton late event ih =>
    rw [← List.cons_append, ← List.append_assoc] at orderly ⊢
    obtain ⟨earlier, last⟩ := throughout_concat.mp orderly
    have cancelled := ih (fun call handoff member => unprepared call handoff (List.mem_append_left _ member)) earlier
    rw [statusOf_concat, cancelled]
    cases event with
    | lookedUp | listed => rfl
    | prepared call handoff => exact if_neg (unprepared call handoff (by simp))
    | cancelled => exact ite_self _
    | marked handoff status =>
      refine if_neg fun same => ?_
      subst same
      exact last cancelled

/-- Where every event is recorded and the run is orderly, only pending handoffs are cancelled. -/
theorem cancelled_of_pending (recorded : Throughout Recorded log) (orderly : Throughout Orderly log) :
    Throughout (fun before event => ∀ call id, event = .cancelled call id →
      statusOf before id = some .pending ∨ statusOf before id = some .cancelled) log := by
  rintro before event after same call id rfl
  obtain ⟨handoffs, listed, member⟩ := recorded before _ after same
  obtain ⟨early, late, split⟩ := List.append_of_mem listed
  have pending : statusOf early id = some .pending := by
    have listing := recorded early (.listed call handoffs) (late ++ .cancelled call id :: after)
      (by rw [same, split, List.append_assoc, List.cons_append])
    exact listing id member
  have unmarked := orderly before _ after same early handoffs late split member
  have listing : statusOf (early ++ [.listed call handoffs]) id = some .pending := (statusOf_concat).trans pending
  rw [split, ← List.singleton_append, ← List.append_assoc]
  exact statusOf_unmarked listing unmarked

/-- In orderly runs, a cancelled handoff is prepared again before it is sent or acknowledged. -/
theorem marked_of_valid (orderly : Throughout Orderly log) :
    Throughout (fun before event => ∀ id status, event = .marked id status → ¬ Void before id) log := by
  rintro before event after same id status rfl void
  have earlier : Throughout Orderly before := orderly.of_prefix ⟨_, same.symm⟩
  exact orderly before _ after same (statusOf_void earlier void)

end Statuses

variable {row : MomentumScannerHandoff}

variable {candidateId : Cuid} {store after : HandoffStore}

theorem Cuid.text_injective : Function.Injective Cuid.text := by
  rintro ⟨text, _⟩ ⟨_, _⟩ rfl
  rfl

/-- The key determines the candidate and the version. -/
theorem buildIdempotencyKey_injective {other : Cuid} {payloadVersion version : String}
    (same : buildIdempotencyKey candidateId payloadVersion = buildIdempotencyKey other version) :
    candidateId = other ∧ payloadVersion = version := by
  unfold buildIdempotencyKey at same
  have letters := congrArg String.toList same
  have colon : ":".toList = [':'] := rfl
  iterate 6 rw [String.toList_append] at letters
  iterate 4 rw [List.append_assoc] at letters
  rw [colon] at letters
  obtain ⟨texts, versions⟩ := Separated.head_inj candidateId.plain other.plain (List.append_cancel_left letters)
  exact ⟨Cuid.text_injective (String.toList_inj.mp texts), String.toList_inj.mp versions⟩

/-- The rows agree with the log, and their ids and keys are unique. -/
structure Consistent (store : HandoffStore) : Prop where
  statuses : ∀ row ∈ store.handoffs, statusOf store.log row.id = some row.status
  keys : ∀ row ∈ store.handoffs, row.idempotencyKey = buildIdempotencyKey row.momentumCandidateId row.payloadVersion
  ids : (store.handoffs.map (·.id)).Nodup
  distinct : (store.handoffs.map (·.idempotencyKey)).Nodup
  recorded : Throughout Recorded store.log

/-- A table without handoffs. -/
theorem consistent_empty (candidates : List MomentumCandidate) : Consistent ⟨candidates, [], []⟩ where
  statuses := fun _ member => by cases member
  keys := fun _ member => by cases member
  ids := List.nodup_nil
  distinct := List.nodup_nil
  recorded := throughout_nil

theorem Consistent.unique (consistent : Consistent store) {row other : MomentumScannerHandoff}
    (present : row ∈ store.handoffs) (found : other ∈ store.handoffs)
    (candidate : row.momentumCandidateId = other.momentumCandidateId) (version : row.payloadVersion = other.payloadVersion) :
    row = other := by
  refine List.inj_on_of_nodup_map consistent.distinct present found ?_
  rw [consistent.keys row present, consistent.keys other found, candidate, version]

theorem Consistent.record (consistent : Consistent store)
    (silent : ∀ id status, event.status id status = status) (recorded : Recorded store.log event) :
    Consistent (store.record event) where
  statuses := fun row present => by
    rw [← consistent.statuses row present]
    exact (statusOf_concat).trans (silent _ _)
  keys := consistent.keys
  ids := consistent.ids
  distinct := consistent.distinct
  recorded := throughout_concat.mpr ⟨consistent.recorded, recorded⟩

theorem mem_of_find {id : String} (found : store.find id = some row) : row ∈ store.handoffs ∧ row.id.text = id :=
  ⟨List.mem_of_find?_eq_some found, by simpa using List.find?_some found⟩

/-- A statement that writes one row and says so. -/
theorem Consistent.change {changed : MomentumScannerHandoff} (consistent : Consistent store)
    (present : row ∈ store.handoffs) (id : changed.id = row.id) (key : changed.idempotencyKey = row.idempotencyKey)
    (candidate : changed.momentumCandidateId = row.momentumCandidateId) (version : changed.payloadVersion = row.payloadVersion)
    (written : ∀ status, event.status row.id status = some changed.status)
    (frame : ∀ other status, other ≠ row.id → event.status other status = status) (recorded : Recorded store.log event) :
    Consistent ((store.update row.id fun _ => changed).record event) := by
  have same : ∀ {β : Type} (field : MomentumScannerHandoff → β), field changed = field row →
      (store.update row.id fun _ => changed).handoffs.map field = store.handoffs.map field := by
    intro β field agree
    simp only [HandoffStore.update, List.map_map]
    refine List.map_congr_left fun other member => ?_
    simp only [Function.comp_apply]
    split_ifs with found
    · obtain rfl := List.inj_on_of_nodup_map consistent.ids member present found
      exact agree
    · rfl
  constructor
  · intro other member
    obtain ⟨old, kept, rfl⟩ := List.mem_map.mp member
    rw [HandoffStore.record, statusOf_concat]
    split_ifs with found
    · rw [id]
      exact written _
    · rw [← consistent.statuses old kept]
      exact frame _ _ found
  · intro other member
    obtain ⟨old, kept, rfl⟩ := List.mem_map.mp member
    split_ifs with found
    · rw [key, candidate, version]
      exact consistent.keys row present
    · exact consistent.keys old kept
  · exact (same (·.id) id).symm ▸ consistent.ids
  · exact (same (·.idempotencyKey) key).symm ▸ consistent.distinct
  · exact throughout_concat.mpr ⟨consistent.recorded, recorded⟩

/-- The log only grows. -/
def Grown (store after : HandoffStore) : Prop := store.log <+: after.log

theorem Grown.trans {first second third : HandoffStore} (early : Grown first second) (late : Grown second third) :
    Grown first third := List.IsPrefix.trans early late

theorem grown_record (event : HandoffEvent) : Grown store (store.record event) := List.prefix_append _ _

/-- The candidates change in any way; a handoff is deleted with its candidate. -/
def Evolves (store after : HandoffStore) : Prop :=
  ∃ candidates : List MomentumCandidate, after = { store with
    candidates
    handoffs := store.handoffs.filter fun row => candidates.any (·.id == row.momentumCandidateId) }

theorem Consistent.evolves (consistent : Consistent store) (evolves : Evolves store after) :
    Consistent after ∧ Grown store after := by
  obtain ⟨candidates, rfl⟩ := evolves
  refine ⟨⟨?_, ?_, ?_, ?_, consistent.recorded⟩, List.prefix_rfl⟩
  · exact fun row member => consistent.statuses row (List.mem_of_mem_filter member)
  · exact fun row member => consistent.keys row (List.mem_of_mem_filter member)
  · exact consistent.ids.sublist (List.filter_sublist.map _)
  · exact consistent.distinct.sublist (List.filter_sublist.map _)

variable {handoff existing : MomentumScannerHandoff} {listed : List HandoffForEligibility} {candidate : MomentumCandidate}
  {env : HandoffEnvironment} {call : Nat} {now : Int}

section Statements

variable {payload : HandoffPayload} {payloadVersion : String}

/-- What a returned handoff has to do with the look-up of its call. -/
def Delivered (handoff : MomentumScannerHandoff) (lookup : Lookup) : Prop :=
  lookup.force = false ∧ lookup.existing = some handoff ∨ handoff.status = .pending ∧ handoff.payload = lookup.payload

theorem isSome_activeHandoff : (store.activeHandoff candidateId).isSome = true ↔
    ∃ row ∈ store.handoffs, row.momentumCandidateId = candidateId ∧ row.status.isActive = true := by
  rw [HandoffStore.activeHandoff, List.isSome_head?, ← List.length_pos_iff, List.length_mergeSort, List.length_pos_iff_exists_mem]
  simp only [List.mem_filter, Bool.and_eq_true, beq_iff_eq]

theorem mem_of_keyed {key : String} (found : store.keyed key = some row) : row ∈ store.handoffs ∧ row.idempotencyKey = key :=
  ⟨List.mem_of_find?_eq_some found, by simpa using List.find?_some found⟩

section

variable (consistent : Consistent store)
include consistent

theorem lookUp_ok {force : Bool} {existing : Option MomentumScannerHandoff}
    (built : payload = buildMomentumScannerPayloadFromCandidate candidate payloadVersion)
    (ran : lookUp call force candidate payload store = .ok (existing, after)) :
    Consistent after ∧ Grown store after ∧ ∃ lookup : Lookup, .lookedUp lookup ∈ after.log ∧ lookup.call = call ∧
      lookup.force = force ∧ lookup.candidate = candidate ∧ lookup.payload = payload ∧ lookup.existing = existing := by
  cases ran
  refine ⟨consistent.record (fun _ _ => rfl) ⟨⟨payloadVersion, built⟩, ?_⟩, grown_record _, _,
    List.mem_concat_self, rfl, rfl, rfl, rfl, rfl⟩
  intro handoff found active
  obtain ⟨present, key⟩ := mem_of_keyed found
  rw [consistent.keys handoff present, built] at key
  exact isSome_activeHandoff.mpr ⟨handoff, present, (buildIdempotencyKey_injective key).1, active⟩

theorem refreshHandoff_ok (ran : refreshHandoff env call existing payload now store = .ok (handoff, after)) :
    Consistent after ∧ Grown store after ∧ handoff.status = .pending ∧ handoff.payload = payload := by
  unfold refreshHandoff at ran
  cases found : store.find existing.id.text with
  | none =>
    rw [found] at ran
    cases ran
  | some row =>
    rw [found] at ran
    cases ran
    refine ⟨?_, grown_record _, rfl, rfl⟩
    exact consistent.change (mem_of_find found).1 rfl rfl rfl rfl (fun _ => if_pos rfl)
      (fun _ _ other => if_neg other.symm) rfl

theorem createHandoff_ok {id : Cuid} (built : payload = buildMomentumScannerPayloadFromCandidate candidate payloadVersion)
    (ran : createHandoff call id candidate payload payloadVersion now store = .ok (handoff, after)) :
    Consistent after ∧ Grown store after ∧ handoff.status = .pending ∧ handoff.payload = payload := by
  unfold createHandoff at ran
  split_ifs at ran with taken orphan
  cases ran
  have fresh : ∀ row ∈ store.handoffs, row.id ≠ id ∧ row.idempotencyKey ≠ payload.idempotencyKey := by
    simpa using taken
  refine ⟨⟨?_, ?_, ?_, ?_, ?_⟩, grown_record _, rfl, rfl⟩
  · intro row member
    rcases List.mem_append.mp member with old | new
    · have other := (fresh row old).1
      exact (statusOf_concat).trans ((if_neg (Ne.symm other)).trans (consistent.statuses row old))
    · obtain rfl := List.mem_singleton.mp new
      exact (statusOf_concat).trans (if_pos rfl)
  · intro row member
    rcases List.mem_append.mp member with old | new
    · exact consistent.keys row old
    · obtain rfl := List.mem_singleton.mp new
      rw [built]
      rfl
  · simpa [HandoffStore.record, List.nodup_append] using ⟨consistent.ids, fun row member => (fresh row member).1⟩
  · simpa [HandoffStore.record, List.nodup_append] using ⟨consistent.distinct, fun row member => (fresh row member).2⟩
  · exact throughout_concat.mpr ⟨consistent.recorded, rfl⟩

theorem listPending_ok {candidateId symbol : Option String} {limit : Nat}
    (ran : listPending call candidateId symbol limit store = .ok (listed, after)) :
    Consistent after ∧ Grown store after ∧
      ∃ ids, .listed call ids ∈ after.log ∧ ∀ item ∈ listed, item.handoff.id ∈ ids := by
  cases ran
  refine ⟨consistent.record (fun _ _ => rfl) ?_, grown_record _, _, List.mem_concat_self, ?_⟩
  · intro id member
    obtain ⟨row, taken, rfl⟩ := List.mem_map.mp member
    have sorted := List.mem_mergeSort.mp (List.mem_of_mem_take taken)
    obtain ⟨present, selected⟩ := List.mem_filter.mp (List.mem_reverse.mp sorted)
    have pending : row.status = .pending := by
      simp only [Bool.and_eq_true, beq_iff_eq] at selected
      exact selected.1.1
    exact pending ▸ consistent.statuses row present
  · intro item member
    obtain ⟨row, taken, rfl⟩ := List.mem_map.mp member
    exact List.mem_map_of_mem taken

theorem cancelHandoff_ok {cancelled : MomentumScannerHandoff} {reason : MomentumScannerHandoffStaleReason}
    {ids : List Cuid} (listed : .listed call ids ∈ store.log) (member : handoff.id ∈ ids)
    (ran : cancelHandoff env call handoff reason now store = .ok (cancelled, after)) :
    Consistent after ∧ Grown store after := by
  unfold cancelHandoff at ran
  cases found : store.find handoff.id.text with
  | none =>
    rw [found] at ran
    cases ran
  | some row =>
    rw [found] at ran
    cases ran
    obtain ⟨present, text⟩ := mem_of_find found
    have same : row.id = handoff.id := Cuid.text_injective text
    refine ⟨?_, grown_record _⟩
    exact consistent.change present rfl rfl rfl rfl (fun _ => if_pos rfl) (fun _ _ other => if_neg other.symm)
      ⟨ids, listed, same ▸ member⟩

end

end Statements

variable {log : List HandoffEvent} {fault : HandoffError → Prop} {options : PrepareOptions}

section Calls

/-- Every call keeps the rows consistent and the log growing. -/
def handoffContract : Contract HandoffStore :=
  growth Consistent Grown (fun _ => List.prefix_rfl) fun early late => early.trans late

/-- The call has looked up the handoff that it returned. -/
def Sourced (call : Nat) (log : List HandoffEvent) (handoff : MomentumScannerHandoff) : Prop :=
  ∃ lookup : Lookup, .lookedUp lookup ∈ log ∧ lookup.call = call ∧ Delivered handoff lookup

/-- A result that is not skipped has a handoff, which carries the payload looked up. -/
def PreparedResult (call : Nat) (log : List HandoffEvent) (result : PrepareResult) : Prop :=
  (result.skipped = false → result.handoff.isSome = true) ∧ ∀ handoff, result.handoff = some handoff →
    ∃ lookup : Lookup, .lookedUp lookup ∈ log ∧ lookup.call = call ∧ lookup.candidate = result.candidate ∧
      Delivered handoff lookup

variable {result : PrepareResult}

theorem PreparedResult.later
    (prepared : PreparedResult call log result) (grown : log <+: longer) : PreparedResult call longer result := by
  refine ⟨prepared.1, fun handoff returned => ?_⟩
  obtain ⟨lookup, looked, rest⟩ := prepared.2 handoff returned
  exact ⟨lookup, grown.subset looked, rest⟩

theorem PreparedResult.sourced
    (prepared : PreparedResult call log result) (returned : result.handoff = some handoff) : Sourced call log handoff := by
  obtain ⟨lookup, looked, own, _, delivered⟩ := prepared.2 handoff returned
  exact ⟨lookup, looked, own, delivered⟩

theorem Sourced.later (sourced : Sourced call log handoff) (grown : log <+: longer) : Sourced call longer handoff := by
  obtain ⟨lookup, looked, rest⟩ := sourced
  exact ⟨lookup, grown.subset looked, rest⟩

theorem nowOr_returns {now : Option Int} :
    (nowOr now).Returns handoffContract fault (fun _ _ => True) store := by
  cases now with
  | none => exact returns_answer fun _ => trivial
  | some now => exact returns_pure trivial

/-- A statement that writes the handoff of a look-up ends the call. -/
theorem written_returns {body : HandoffStore → Except HandoffError (MomentumScannerHandoff × HandoffStore)}
    {eligibility : MomentumCandidateEligibility} {lookup : Lookup}
    (meets : ∀ current handoff after, Consistent current → body current = .ok (handoff, after) →
      Consistent after ∧ Grown current after ∧ handoff.status = .pending ∧ handoff.payload = lookup.payload)
    (recorded : .lookedUp lookup ∈ store.log) (own : lookup.call = call) (same : lookup.candidate = candidate) :
    (do
      let handoff ← commit body
      return ⟨false, none, some handoff, candidate, eligibility⟩ : HandoffProgram PrepareResult).Returns handoffContract fault
        (fun result current => PreparedResult call current.log result) store := by
  have writes : (commit body).Returns handoffContract fault (fun handoff current => store.log <+: current.log ∧
      handoff.status = .pending ∧ handoff.payload = lookup.payload) store :=
    returns_commit fun current handoff after relied consistent ran => by
      obtain ⟨kept, grown, written⟩ := meets current handoff after consistent ran
      exact ⟨grown, kept, List.IsPrefix.trans relied grown, written⟩
  refine Returns.bind writes fun handoff current held => returns_pure ⟨fun _ => rfl, fun _ returned => ?_⟩
  cases returned
  exact ⟨lookup, held.1.subset recorded, own, same, .inr held.2⟩

theorem prepareForCandidate_returns : (prepareForCandidate env call candidate options now).Returns handoffContract fault
      (fun result current => PreparedResult call current.log result) store := by
  have reading : (read fun store : HandoffStore => store.activeHandoff candidate.id).Returns handoffContract fault
      (fun _ _ => True) store := returns_read fun _ _ _ => trivial
  refine Returns.bind reading fun active current _ => ?_
  cases getIneligibilityReason candidate active options.force (normalizeScore env options.minScore) now with
  | some reason => exact returns_pure ⟨(fun skipped => by cases skipped), fun _ none => by cases none⟩
  | none =>
    set version := normalizePayloadVersion env options.payloadVersion
    set payload := buildMomentumScannerPayloadFromCandidate candidate version with built
    have looking : (commit (lookUp call options.force candidate payload)).Returns handoffContract fault
        (fun existing current => ∃ lookup : Lookup, .lookedUp lookup ∈ current.log ∧ lookup.call = call ∧
          lookup.force = options.force ∧ lookup.candidate = candidate ∧ lookup.payload = payload ∧
          lookup.existing = existing) current :=
      returns_commit fun _ _ _ _ consistent ran =>
        have ⟨kept, grown, looked⟩ := lookUp_ok consistent built ran
        ⟨grown, kept, looked⟩
    refine Returns.bind looking fun existing looked held => ?_
    obtain ⟨lookup, recorded, own, forced, same, carried, found⟩ := held
    cases existing with
    | some existing =>
      refine returns_ite (fun _ => ?_) fun unforced => ?_
      · refine written_returns (fun _ _ _ consistent ran => ?_) recorded own same
        rw [carried]
        exact refreshHandoff_ok consistent ran
      · refine returns_pure ⟨fun _ => rfl, fun _ returned => ?_⟩
        cases returned
        have free : lookup.force = false := forced.trans (Bool.eq_false_iff.mpr unforced)
        exact ⟨lookup, recorded, own, same, .inl ⟨free, found⟩⟩
    | none =>
      have answering : (answer : HandoffProgram Cuid).Returns handoffContract fault
          (fun _ later => .lookedUp lookup ∈ later.log) looked := returns_answer fun _ => recorded
      refine Returns.bind answering fun id later still => ?_
      refine written_returns (fun _ _ _ consistent ran => ?_) still own same
      rw [carried]
      exact createHandoff_ok consistent built ran

theorem prepareMomentumScannerHandoff_returns {candidateId : String} :
    (prepareMomentumScannerHandoff env call candidateId options).Returns handoffContract fault
      (fun result current => PreparedResult call current.log result) store := by
  have naming : (done (normalizeId candidateId "Momentum candidate id") : HandoffProgram String).Returns handoffContract
      fault (fun _ _ => True) store := returns_done fun _ _ => trivial
  refine Returns.bind naming fun id _ _ => Returns.bind (nowOr_returns) fun now current _ => ?_
  have reading : (read fun store : HandoffStore => store.candidate id).Returns handoffContract fault
      (fun _ _ => True) current := returns_read fun _ _ _ => trivial
  refine Returns.bind reading fun found _ _ => ?_
  cases found with
  | none => exact returns_throw
  | some candidate => exact prepareForCandidate_returns

/-- Cancelling what was listed. -/
theorem cancelListed_returns {minScore : Int} {ids : List Cuid}
    (recorded : .listed call ids ∈ store.log) (members : ∀ item ∈ listed, item.handoff.id ∈ ids) :
    (cancelListed env call minScore now listed).Returns handoffContract fault (fun _ _ => True) store := by
  induction listed generalizing store with
  | nil => exact returns_pure trivial
  | cons item rest ih =>
    obtain ⟨member, others⟩ := List.forall_mem_cons.mp members
    unfold cancelListed
    cases getStalePendingReason item.momentumCandidate minScore now with
    | none => exact ih recorded others
    | some reason =>
      have cancelling : (commit (cancelHandoff env call item.handoff reason now)).Returns handoffContract fault
          (fun _ current => .listed call ids ∈ current.log) store :=
        returns_commit fun current _ _ relied consistent ran => by
          have known : .listed call ids ∈ current.log := List.IsPrefix.subset relied recorded
          obtain ⟨kept, grown⟩ := cancelHandoff_ok consistent known member ran
          exact ⟨grown, kept, List.IsPrefix.subset grown known⟩
      refine Returns.bind cancelling fun _ _ still => ?_
      exact Returns.bind (ih still others) fun _ _ _ => returns_pure trivial

theorem cancelStalePendingHandoffs_returns {options : CancelOptions} :
    (cancelStalePendingHandoffs env call options).Returns handoffContract fault (fun _ _ => True) store := by
  refine Returns.bind (nowOr_returns) fun now current _ => ?_
  have naming : (done (normalizeIdOption options.candidateId "Momentum candidate id") :
      HandoffProgram (Option String)).Returns handoffContract fault (fun _ _ => True) current :=
    returns_done fun _ _ => trivial
  refine Returns.bind naming fun candidateId current _ => ?_
  have listing : (commit (listPending call candidateId (normalizeSymbolOption options.symbol)
      (normalizePositiveInteger options.limit maxLimit maxLimit))).Returns handoffContract fault
        (fun listed current => ∃ ids, .listed call ids ∈ current.log ∧ ∀ item ∈ listed, item.handoff.id ∈ ids) current :=
    returns_commit fun _ _ _ _ consistent ran =>
      have ⟨kept, grown, found⟩ := listPending_ok consistent ran
      ⟨grown, kept, found⟩
  refine Returns.bind listing fun listed current held => ?_
  obtain ⟨ids, recorded, members⟩ := held
  exact Returns.bind (cancelListed_returns recorded members) fun _ _ _ => returns_pure trivial

variable {candidates : List MomentumCandidate}

/-- The handoffs of a batch are those of its prepare calls. -/
theorem prepareCandidates_returns {maxCandidates : Nat} {selected : Nat} {summary : BatchSummary}
    (sourced : ∀ handoff ∈ summary.handoffs, Sourced call store.log handoff) :
    (prepareCandidates env call options now maxCandidates candidates selected summary).Returns handoffContract fault
      (fun summary current => ∀ handoff ∈ summary.handoffs, Sourced call current.log handoff) store := by
  induction candidates generalizing selected summary store with
  | nil => exact returns_pure sourced
  | cons candidate rest ih =>
    refine returns_ite (fun _ => ih sourced) fun _ => returns_ite (fun _ => returns_pure sourced) fun _ => ?_
    have kept : ∀ current after : HandoffStore, Grown current after →
        (∀ handoff ∈ summary.handoffs, Sourced call current.log handoff) →
        ∀ handoff ∈ summary.handoffs, Sourced call after.log handoff :=
      fun _ _ grown known handoff member => (known handoff member).later grown
    refine Returns.bind ((prepareMomentumScannerHandoff_returns).keeping kept kept sourced)
      fun result current held => ih ?_
    split_ifs with skipped
    · exact held.2
    · intro handoff member
      rcases List.mem_append.mp member with old | new
      · exact held.2 handoff old
      · exact held.1.sourced (Option.mem_toList.mp new)

theorem prepareReadyMomentumScannerHandoffs_returns (options : BatchOptions) :
    (prepareReadyMomentumScannerHandoffs env call options).Returns handoffContract fault
      (fun summary current => ∀ handoff ∈ summary.handoffs, Sourced call current.log handoff) store := by
  refine Returns.bind (cancelStalePendingHandoffs_returns) fun _ current _ => ?_
  cases options.candidateId with
  | some candidateId =>
    refine Returns.bind (prepareMomentumScannerHandoff_returns) fun result later held => ?_
    refine returns_pure fun handoff member => held.sourced ?_
    have one : handoff ∈ result.handoff.toList := by
      cases skipped : result.skipped <;> simpa only [skipped, if_true, Bool.false_eq_true, if_false] using member
    exact Option.mem_toList.mp one
  | none =>
    refine Returns.bind (nowOr_returns) fun now later _ => ?_
    have reading : (read (readyCandidates options.force (normalizeScore env options.minScore) now
        (min (normalizePositiveInteger options.maxCandidates env.maxCandidates 100 * 5) maxLimit))).Returns
          handoffContract fault (fun _ _ => True) later := returns_read fun _ _ _ => trivial
    exact Returns.bind reading fun candidates _ _ => prepareCandidates_returns fun _ none => by cases none

theorem markHandoff_returns {id : String} {status : MomentumScannerHandoffStatus} {now : Option Int}
    {change : Int → MomentumScannerHandoff → MomentumScannerHandoff} {metadata : Option Json}
    (keeps : ∀ now row, (change now row).id = row.id ∧ (change now row).idempotencyKey = row.idempotencyKey ∧
      (change now row).momentumCandidateId = row.momentumCandidateId ∧ (change now row).payloadVersion = row.payloadVersion) :
    (markHandoff id status now change metadata).Returns handoffContract fault (fun _ _ => True) store := by
  refine Returns.bind (nowOr_returns) fun now current _ => ?_
  have naming : (done (normalizeId id "Momentum scanner handoff id") : HandoffProgram String).Returns handoffContract fault
      (fun _ _ => True) current := returns_done fun _ _ => trivial
  refine Returns.bind naming fun id current _ => returns_commit fun later handoff after _ consistent ran => ?_
  cases found : later.find id with
  | none =>
    rw [found] at ran
    cases ran
  | some row =>
    rw [found] at ran
    cases ran
    obtain ⟨sameId, key, candidate, version⟩ := keeps now row
    refine ⟨grown_record _, ?_, trivial⟩
    exact consistent.change (mem_of_find found).1 sameId key candidate version (fun _ => if_pos rfl)
      (fun _ _ other => if_neg other.symm) trivial

/-- What a call answers. -/
inductive HandoffAnswer where
  | prepared (result : PrepareResult)
  | batch (summary : BatchSummary)
  | cancelled (result : CancelResult)
  | marked (handoff : MomentumScannerHandoff)

/-- The calls, any number of each. -/
inductive HandoffJob (env : HandoffEnvironment) (call : Nat) : HandoffProgram HandoffAnswer → Prop where
  | prepare (candidateId : String) (options : PrepareOptions) : HandoffJob env call do
      return .prepared (← prepareMomentumScannerHandoff env call candidateId options)
  | prepareReady (options : BatchOptions) : HandoffJob env call do
      return .batch (← prepareReadyMomentumScannerHandoffs env call options)
  | cancelStale (options : CancelOptions) : HandoffJob env call do
      return .cancelled (← cancelStalePendingHandoffs env call options)
  | markSent (id : String) (now : Option Int) (metadata : Option Json) : HandoffJob env call do
      return .marked (← markMomentumScannerHandoffSent id now metadata)
  | markAcknowledged (id : String) (now : Option Int) (metadata : Option Json) : HandoffJob env call do
      return .marked (← markMomentumScannerHandoffAcknowledged id now metadata)
  | markFailed (id error : String) (now : Option Int) (metadata : Option Json) : HandoffJob env call do
      return .marked (← markMomentumScannerHandoffFailed id error now metadata)

/-- What an answer says about the log. -/
def Answered (call : Nat) (answer : HandoffAnswer) (log : List HandoffEvent) : Prop :=
  match answer with
  | .prepared result => PreparedResult call log result
  | .batch summary => ∀ handoff ∈ summary.handoffs, Sourced call log handoff
  | .cancelled _ | .marked _ => True

theorem Answered.later {answer : HandoffAnswer} (answered : Answered call answer log)
    (grown : log <+: longer) : Answered call answer longer := by
  cases answer with
  | prepared => exact PreparedResult.later answered grown
  | batch => exact fun handoff member => (answered handoff member).later grown
  | cancelled | marked => trivial

theorem handoffJob_returns {program : HandoffProgram HandoffAnswer} (listed : HandoffJob env call program) :
    program.Returns handoffContract fault (fun answer current => Answered call answer current.log) store := by
  cases listed with
  | prepare candidateId options =>
    exact Returns.bind (prepareMomentumScannerHandoff_returns) fun _ _ held => returns_pure held
  | prepareReady options =>
    exact Returns.bind (prepareReadyMomentumScannerHandoffs_returns options) fun _ _ held => returns_pure held
  | cancelStale options =>
    exact Returns.bind (cancelStalePendingHandoffs_returns) fun _ _ _ => returns_pure trivial
  | markSent | markAcknowledged | markFailed =>
    exact Returns.bind (markHandoff_returns fun _ _ => ⟨rfl, rfl, rfl, rfl⟩) fun _ _ _ => returns_pure trivial

/-- Calls next to each other, from a table without handoffs, while the candidates evolve. -/
abbrev HandoffRun (env : HandoffEnvironment) (candidates : List MomentumCandidate)
    (crew : Crew HandoffStore HandoffError HandoffAnswer) : Prop :=
  Crew.Run (· = .databaseUnavailable) (HandoffJob env) Evolves (Crew.idle ⟨candidates, [], []⟩) crew

theorem consistent_of_run {crew : Crew HandoffStore HandoffError HandoffAnswer}
    (run : HandoffRun env candidates crew) : Consistent crew.store ∧
      ∀ member answer, crew.running member = some (.done (.ok answer)) → Answered member answer crew.store.log := by
  have others : ∀ {store after}, Consistent store → Evolves store after → Consistent after ∧ Grown store after :=
    fun consistent evolves => consistent.evolves evolves
  have lasting : ∀ {member answer} {store after : HandoffStore}, Grown store after → Answered member answer store.log →
      Answered member answer after.log := fun grown answered => answered.later grown
  have sound := @Crew.grown_of_run _ _ _ _ _ _ _ _ Consistent Grown _ _
    (fun member answer store => Answered member answer store.log) others lasting handoffJob_returns
    (consistent_empty candidates) run
  exact ⟨sound.1, sound.2.2⟩

end Calls

section Laws

variable {others : HandoffStore → HandoffStore → Prop}

/-- What a prepare call builds. -/
def payloadOf (env : HandoffEnvironment) (options : PrepareOptions) (candidate : MomentumCandidate) : HandoffPayload :=
  buildMomentumScannerPayloadFromCandidate candidate (normalizePayloadVersion env options.payloadVersion)

/-- The candidate passes the checks of a prepare call. -/
structure Eligible (env : HandoffEnvironment) (options : PrepareOptions) (now : Int) (candidateId : String)
    (candidate : MomentumCandidate) (store : HandoffStore) : Prop where
  named : ∃ id, normalizeId candidateId "Momentum candidate id" = .ok id ∧ store.candidate id = some candidate
  clock : ∀ given, options.now = some given → given = now
  passed : getIneligibilityReason candidate (store.activeHandoff candidate.id) options.force
    (normalizeScore env options.minScore) now = none

theorem nowOr_runs (clock : ∀ given, options.now = some given → given = now) :
    Interleaving fault others (nowOr options.now, store) (done (.ok now), store) := by
  cases given : options.now with
  | none => exact .single (.own (.ask now))
  | some instant =>
    rw [clock instant given]
    exact .refl

variable {candidateId : String}

section

variable (eligible : Eligible env options now candidateId candidate store)
include eligible

theorem Eligible.prepare_runs {final : HandoffProgram PrepareResult}
    (rest : Interleaving fault others (prepareForCandidate env call candidate options now, store) (final, after)) :
    Interleaving fault others (prepareMomentumScannerHandoff env call candidateId options, store) (final, after) := by
  obtain ⟨id, named, present⟩ := eligible.named
  unfold prepareMomentumScannerHandoff
  rw [named, done_bind]
  refine andThen (nowOr_runs eligible.clock) (read ?_)
  rw [present]
  exact rest

/-- An unforced call returns the handoff that it finds under its key. -/
theorem Eligible.prepare_finds (unforced : options.force = false)
    (looked : lookUp call false candidate (payloadOf env options candidate) store = .ok (some existing, after)) :
    Interleaving fault others (prepareMomentumScannerHandoff env call candidateId options, store)
      (done (.ok ⟨false, none, some existing, candidate,
        evaluateMomentumHandoffEligibility (handoffEligibilityContext candidate) now⟩), after) := by
  refine eligible.prepare_runs (read ?_)
  rw [eligible.passed]
  rw [← unforced] at looked
  refine andThen (.single (.own (.commit looked))) ?_
  rw [unforced]
  exact .refl

variable {looked : HandoffStore}

/-- A forced call prepares the handoff again that it finds under its key. -/
theorem Eligible.prepare_refreshes (forced : options.force = true)
    (looks : lookUp call options.force candidate (payloadOf env options candidate) store = .ok (some existing, looked))
    (refreshed : refreshHandoff env call existing (payloadOf env options candidate) now looked = .ok (handoff, after)) :
    Interleaving fault others (prepareMomentumScannerHandoff env call candidateId options, store)
      (done (.ok ⟨false, none, some handoff, candidate,
        evaluateMomentumHandoffEligibility (handoffEligibilityContext candidate) now⟩), after) := by
  refine eligible.prepare_runs (read ?_)
  rw [eligible.passed]
  refine andThen (.single (.own (.commit looks))) ?_
  dsimp only
  rw [if_pos forced]
  exact andThen (.single (.own (.commit refreshed))) .refl

/-- A call that finds nothing creates a handoff. -/
theorem Eligible.prepare_creates {id : Cuid}
    (looks : lookUp call options.force candidate (payloadOf env options candidate) store = .ok (none, looked))
    (created : createHandoff call id candidate (payloadOf env options candidate)
      (normalizePayloadVersion env options.payloadVersion) now looked = .ok (handoff, after)) :
    Interleaving fault others (prepareMomentumScannerHandoff env call candidateId options, store)
      (done (.ok ⟨false, none, some handoff, candidate,
        evaluateMomentumHandoffEligibility (handoffEligibilityContext candidate) now⟩), after) := by
  refine eligible.prepare_runs (read ?_)
  rw [eligible.passed]
  refine andThen (.single (.own (.commit looks))) ?_
  exact answer id (andThen (.single (.own (.commit created))) .refl)

end

instance : Infinite Cuid :=
  Infinite.of_injective (fun length => ⟨String.ofList (List.replicate length 'a'), by simp⟩) fun first second same => by
    have texts : List.replicate first 'a' = List.replicate second 'a' := String.ofList_injective (Cuid.mk.inj same)
    simpa using congrArg List.length texts

/-- What is found of a candidate without an active handoff is only prepared again by force. -/
theorem forced_of_found (consistent : Consistent store) (free : store.activeHandoff candidate.id = none)
    (unspent : Unspent options.force (store.keyed (payloadOf env options candidate).idempotencyKey)
      (payloadOf env options candidate))
    (found : store.keyed (payloadOf env options candidate).idempotencyKey = some existing) : options.force = true := by
  by_contra unforced
  obtain ⟨member, key⟩ := mem_of_keyed found
  have active := (unspent (Bool.eq_false_iff.mpr unforced) existing found).1
  rw [consistent.keys existing member] at key
  have there := isSome_activeHandoff.mpr ⟨existing, member, (buildIdempotencyKey_injective key).1, active⟩
  rw [free] at there
  cases there

/-- Whatever the clock says, an undisturbed call of a candidate that is then eligible obtains a pending handoff. -/
theorem prepare_obtains (consistent : Consistent store)
    (eligible : ∀ now, (∀ given, options.now = some given → given = now) →
      Eligible env options now candidateId candidate store) (free : store.activeHandoff candidate.id = none)
    (unspent : Unspent options.force (store.keyed (payloadOf env options candidate).idempotencyKey)
      (payloadOf env options candidate)) :
    (prepareMomentumScannerHandoff env call candidateId options).Returns Contract.alone fault
      (fun result _ => result.skipped = false ∧ ∃ handoff, result.handoff = some handoff ∧ handoff.status = .pending ∧
        handoff.payload = payloadOf env options candidate) store := by
  obtain ⟨id, named, present⟩ := (eligible (options.now.getD 0) fun given same => by simp [same]).named
  unfold prepareMomentumScannerHandoff
  rw [named, done_bind]
  have reading : (nowOr options.now).Returns Contract.alone fault
      (fun now current => current = store ∧ ∀ given, options.now = some given → given = now) store := by
    cases options.now with
    | none => exact returns_answer fun _ => ⟨rfl, fun _ impossible => by cases impossible⟩
    | some now => exact returns_pure ⟨rfl, fun _ same => (Option.some.inj same).symm⟩
  refine reading.bind fun now current held => ?_
  obtain ⟨rfl, clock⟩ := held
  refine returns_alone_readThen ?_
  rw [present]
  refine returns_alone_readThen ?_
  rw [(eligible now clock).passed]
  have looking : (commit (lookUp call options.force candidate (payloadOf env options candidate))).Returns Contract.alone fault
      (fun found after => found = current.keyed (payloadOf env options candidate).idempotencyKey ∧ Consistent after) current :=
    returns_commit fun _ _ _ same _ ran => by
      cases same
      exact ⟨trivial, trivial, by cases ran; rfl, (lookUp_ok consistent rfl ran).1⟩
  refine looking.bind fun found looked held => ?_
  obtain ⟨rfl, kept⟩ := held
  cases found : current.keyed (payloadOf env options candidate).idempotencyKey with
  | none =>
    have asking : (answer : HandoffProgram Cuid).Returns Contract.alone fault (fun _ after => after = looked) looked :=
      returns_answer fun _ => rfl
    refine asking.bind fun fresh after same => ?_
    refine Returns.bind (returns_commit fun _ _ _ same' _ ran => ?_) fun handoff _ written => returns_pure ⟨rfl, handoff, rfl, written⟩
    cases same
    cases same'
    exact ⟨trivial, trivial, (createHandoff_ok kept rfl ran).2.2⟩
  | some existing =>
    dsimp only
    rw [if_pos (forced_of_found consistent free unspent found)]
    refine Returns.bind (returns_commit fun _ _ _ same _ ran => ?_) fun handoff _ written => returns_pure ⟨rfl, handoff, rfl, written⟩
    cases same
    exact ⟨trivial, trivial, (refreshHandoff_ok kept ran).2.2⟩

/-- An eligible candidate obtains a pending handoff, unless the call finds a spent one. -/
theorem Eligible.prepare_pending (consistent : Consistent store)
    (eligible : Eligible env options now candidateId candidate store) (free : store.activeHandoff candidate.id = none)
    (unspent : Unspent options.force (store.keyed (payloadOf env options candidate).idempotencyKey)
      (payloadOf env options candidate)) :
    ∃ handoff after, Interleaving fault others (prepareMomentumScannerHandoff env call candidateId options, store)
        (done (.ok ⟨false, none, some handoff, candidate,
          evaluateMomentumHandoffEligibility (handoffEligibilityContext candidate) now⟩), after) ∧
      handoff.status = .pending ∧ handoff.payload = payloadOf env options candidate := by
  obtain ⟨id, named, present⟩ := eligible.named
  have inactive : ¬ (store.activeHandoff candidate.id).isSome = true := by simp [free]
  cases found : store.keyed (payloadOf env options candidate).idempotencyKey with
  | none =>
    obtain ⟨fresh, new⟩ := Infinite.exists_notMem_finset (store.handoffs.map (·.id)).toFinset
    have untaken : ¬ (store.handoffs.any fun row =>
        row.id == fresh || row.idempotencyKey == (payloadOf env options candidate).idempotencyKey) = true := by
      have keys := List.find?_eq_none.mp found
      simp only [List.any_eq_true, not_exists, not_and, Bool.or_eq_true, beq_iff_eq, not_or]
      intro row member
      refine ⟨fun same => new ?_, fun same => keys row member (by simpa using same)⟩
      exact List.mem_toFinset.mpr (List.mem_map.mpr ⟨row, member, same⟩)
    have known : ¬ (store.candidates.all fun row => row.id != candidate.id) = true := by
      have member := List.mem_of_find?_eq_some present
      simp only [List.all_eq_true, bne_iff_ne, not_forall]
      exact ⟨candidate, member, fun other => other rfl⟩
    let looked := store.record
      (.lookedUp ⟨call, options.force, candidate, payloadOf env options candidate, none, (store.activeHandoff candidate.id).isSome⟩)
    have looks : lookUp call options.force candidate (payloadOf env options candidate) store = .ok (none, looked) := by
      rw [lookUp, found]
    obtain ⟨handoff, after, created⟩ : ∃ handoff after, createHandoff call fresh candidate (payloadOf env options candidate)
        (normalizePayloadVersion env options.payloadVersion) now looked = .ok (handoff, after) := by
      unfold createHandoff
      rw [if_neg (by exact untaken), if_neg (by exact known)]
      exact ⟨_, _, rfl⟩
    have kept := lookUp_ok consistent rfl looks
    have written := createHandoff_ok kept.1 rfl created
    exact ⟨handoff, after, eligible.prepare_creates looks created, written.2.2⟩
  | some existing =>
    obtain ⟨member, key⟩ := mem_of_keyed found
    have forced := forced_of_found consistent free unspent found
    let looked := store.record (.lookedUp
      ⟨call, options.force, candidate, payloadOf env options candidate, some existing, (store.activeHandoff candidate.id).isSome⟩)
    have looks : lookUp call options.force candidate (payloadOf env options candidate) store = .ok (some existing, looked) := by
      rw [lookUp, found]
    have stored : ∃ row, looked.find existing.id.text = some row := by
      have some : (store.find existing.id.text).isSome = true :=
        List.find?_isSome.mpr ⟨existing, member, beq_self_eq_true _⟩
      exact Option.isSome_iff_exists.mp some
    obtain ⟨row, stored⟩ := stored
    obtain ⟨handoff, after, refreshed⟩ : ∃ handoff after,
        refreshHandoff env call existing (payloadOf env options candidate) now looked = .ok (handoff, after) := by
      rw [refreshHandoff, stored]
      exact ⟨_, _, rfl⟩
    have kept := lookUp_ok consistent rfl looks
    have written := refreshHandoff_ok kept.1 refreshed
    exact ⟨handoff, after, eligible.prepare_refreshes forced looks refreshed, written.2.2⟩

/-- The handoff is active with the payload that the call read, and pending if the candidate had none active. -/
structure Deliverable (log : List HandoffEvent) (call : Nat) (candidate : MomentumCandidate) (handoff : MomentumScannerHandoff) :
    Prop where
  active : handoff.status.isActive = true
  payload : ∃ payloadVersion, handoff.payload = buildMomentumScannerPayloadFromCandidate candidate payloadVersion
  pending : ∃ lookup : Lookup, .lookedUp lookup ∈ log ∧ lookup.call = call ∧ lookup.candidate = candidate ∧
    handoff.payload = lookup.payload ∧ (lookup.active = false → handoff.status = .pending)

/-- The laws of the scanner handoffs. -/
structure HandoffLaws (env : HandoffEnvironment) (crew : Crew HandoffStore HandoffError HandoffAnswer) : Prop where
  /-- What a call reports as not skipped. -/
  returned : ∀ call result, crew.running call = some (done (.ok (.prepared result))) → result.skipped = false →
    ∃ handoff, result.handoff = some handoff ∧ Deliverable crew.store.log call result.candidate handoff
  batch : ∀ call summary, crew.running call = some (done (.ok (.batch summary))) → ∀ handoff ∈ summary.handoffs,
    ∃ candidate, Deliverable crew.store.log call candidate handoff
  /-- The next call of an eligible candidate without an active handoff obtains a pending one. -/
  obtains : ∀ call candidateId candidate options now, Eligible env options now candidateId candidate crew.store →
    crew.store.activeHandoff candidate.id = none →
    Unspent options.force (crew.store.keyed (payloadOf env options candidate).idempotencyKey) (payloadOf env options candidate) →
    ∃ handoff after, Interleaving (· = .databaseUnavailable) Evolves
        (prepareMomentumScannerHandoff env call candidateId options, crew.store)
        (done (.ok ⟨false, none, some handoff, candidate,
          evaluateMomentumHandoffEligibility (handoffEligibilityContext candidate) now⟩), after) ∧
      handoff.status = .pending ∧ handoff.payload = payloadOf env options candidate
  /-- So does every undisturbed call that returns, whatever instants it may read. -/
  obtainsAlways : ∀ call candidateId candidate options result after,
    (∀ now, (∀ given, options.now = some given → given = now) → Eligible env options now candidateId candidate crew.store) →
    crew.store.activeHandoff candidate.id = none →
    Unspent options.force (crew.store.keyed (payloadOf env options candidate).idempotencyKey) (payloadOf env options candidate) →
    Interleaving (· = .databaseUnavailable) (fun _ _ => False)
        (prepareMomentumScannerHandoff env call candidateId options, crew.store) (done (.ok result), after) →
      result.skipped = false ∧ ∃ handoff, result.handoff = some handoff ∧ handoff.status = .pending ∧
        handoff.payload = payloadOf env options candidate
  /-- The log tells the status of every handoff. -/
  statuses : ∀ handoff ∈ crew.store.handoffs, statusOf crew.store.log handoff.id = some handoff.status
  cancelled : Throughout (fun before event => ∀ call id, event = .cancelled call id →
    statusOf before id = some .pending ∨ statusOf before id = some .cancelled) crew.store.log
  revived : Throughout (fun before event => ∀ id status, event = .marked id status → ¬ Void before id) crew.store.log
  unique : ∀ handoff ∈ crew.store.handoffs, ∀ other ∈ crew.store.handoffs,
    handoff.momentumCandidateId = other.momentumCandidateId → handoff.payloadVersion = other.payloadVersion → handoff = other

theorem deliverable_of_delivered {lookup : Lookup}
    (recorded : Throughout Recorded log) (orderly : Throughout Orderly log) (looked : .lookedUp lookup ∈ log)
    (delivered : Delivered handoff lookup) : Deliverable log lookup.call lookup.candidate handoff := by
  obtain ⟨before, after, split⟩ := List.append_of_mem looked
  obtain ⟨⟨payloadVersion, built⟩, active⟩ := recorded before _ after split
  have unspent := orderly before _ after split
  rcases delivered with ⟨unforced, existing⟩ | ⟨pending, payload⟩
  · obtain ⟨standing, payload⟩ := unspent unforced handoff existing
    refine ⟨standing, ⟨payloadVersion, payload.trans built⟩, lookup, looked, rfl, rfl, payload, fun inactive => ?_⟩
    rw [active handoff existing standing] at inactive
    cases inactive
  · refine ⟨by rw [pending]; rfl, ⟨payloadVersion, payload.trans built⟩, lookup, looked, rfl, rfl, payload, fun _ => pending⟩

/-- In every run whose steps are orderly, the laws of the handoffs hold. -/
theorem handoffLaws_of_orderly {candidates : List MomentumCandidate}
    {crew : Crew HandoffStore HandoffError HandoffAnswer} (run : HandoffRun env candidates crew)
    (orderly : Throughout Orderly crew.store.log) : HandoffLaws env crew := by
  obtain ⟨consistent, answered⟩ := consistent_of_run run
  constructor
  · intro call result returns unskipped
    obtain ⟨some, sourced⟩ := answered call (.prepared result) returns
    obtain ⟨handoff, returned⟩ := Option.isSome_iff_exists.mp (some unskipped)
    obtain ⟨lookup, looked, rfl, same, delivered⟩ := sourced handoff returned
    exact ⟨handoff, returned, same ▸ deliverable_of_delivered consistent.recorded orderly looked delivered⟩
  · intro call summary returns handoff member
    obtain ⟨lookup, looked, rfl, delivered⟩ := answered call (.batch summary) returns handoff member
    exact ⟨_, deliverable_of_delivered consistent.recorded orderly looked delivered⟩
  · exact fun call candidateId candidate options now eligible free unspent => eligible.prepare_pending consistent free unspent
  · intro call candidateId candidate options result after eligible free unspent run
    have returns := @prepare_obtains _ _ env call (· = .databaseUnavailable) _ _ consistent eligible free unspent
    unfold Returns at returns
    exact Assured.alone returns run result rfl
  · exact consistent.statuses
  · exact cancelled_of_pending consistent.recorded orderly
  · exact marked_of_valid orderly
  · exact fun handoff member other found => consistent.unique member found

end Laws

section Samples

theorem activeHandoff_eq_none (inactive : ∀ row ∈ store.handoffs, row.status.isActive = false) :
    store.activeHandoff candidateId = none := by
  rw [← Option.not_isSome_iff_eq_none, isSome_activeHandoff]
  rintro ⟨row, member, _, active⟩
  rw [inactive row member] at active
  cases active

/-- A candidate of a security with one enabled momentum subscription. -/
def candidateIn (state : MomentumCandidateState) (totalScore : Int) : MomentumCandidate where
  id := ⟨"c", by decide⟩
  symbol := "AAA"
  state := state
  totalScore := totalScore
  catalystScore := 0
  priceActionScore := 0
  volumeScore := 0
  riskScore := 0
  reason := none
  blockedReason := none
  discoveredAt := 0
  lastEvaluatedAt := none
  expiresAt := none
  catalystEvent := none
  catalystImpact := none
  latestPriceCheck := some ⟨"p", 0, none, none, none, none, none, none, none, none, none, none, none, none, none, true,
    none, none⟩
  security := some ⟨1, some ⟨true, true⟩, [⟨1, "m", true, 1, "momentum_stock", true, [⟨1, true, true, 1, .active, none⟩]⟩]⟩

def sampleEnvironment : HandoffEnvironment := ⟨70, 5, "1", fun _ => ""⟩

def unforced : PrepareOptions := ⟨false, none, some 0, none⟩

def forced : PrepareOptions := { unforced with force := true }

def samplePayload (totalScore : Int) : HandoffPayload :=
  payloadOf sampleEnvironment unforced (candidateIn .entryReady totalScore)

/-- The handoff of the candidate with a score of 90. -/
def firstHandoff : MomentumScannerHandoff :=
  ⟨⟨"h", by decide⟩, (candidateIn .entryReady 90).id, "AAA", .pending, "1", samplePayload 90, 0, none, none, none, 0, none,
    (samplePayload 90).idempotencyKey,
    some (.object [("phase", .string "momentum_scanner_handoff_phase_5"), ("tradingAllowed", .bool false)])⟩

def cancelledHandoff : MomentumScannerHandoff :=
  { firstHandoff with
    status := .cancelled
    lastError := some "CANDIDATE_NO_LONGER_ENTRY_READY"
    metadata := some (buildStaleCancellationMetadata sampleEnvironment.toISOString firstHandoff.metadata
      .candidateNoLongerEntryReady 0) }

def preparedLog : List HandoffEvent :=
  [] ++ [.lookedUp ⟨0, false, candidateIn .entryReady 90, samplePayload 90, none, false⟩] ++ [.prepared 0 firstHandoff]

/-- The candidate no longer passes, and a call lists its handoff. -/
def listedStore : HandoffStore :=
  ⟨[candidateIn .watching 90], [firstHandoff], preparedLog ++ [.listed 1 [firstHandoff.id]]⟩

def cancelledLog : List HandoffEvent := listedStore.log ++ [.cancelled 1 firstHandoff.id]

def cancelAll : CancelOptions := ⟨none, none, none, none, some 0⟩

def resultOf (handoff : MomentumScannerHandoff) (totalScore : Int) : PrepareResult :=
  ⟨false, none, some handoff, candidateIn .entryReady totalScore,
    evaluateMomentumHandoffEligibility (handoffEligibilityContext (candidateIn .entryReady totalScore)) 0⟩

theorem lookUp_inactive {call : Nat} {force : Bool} {candidate : MomentumCandidate} {payload : HandoffPayload}
    (inactive : ∀ row ∈ store.handoffs, row.status.isActive = false) : lookUp call force candidate payload store =
      .ok (store.keyed payload.idempotencyKey, store.record
        (.lookedUp ⟨call, force, candidate, payload, store.keyed payload.idempotencyKey, false⟩)) := by
  rw [lookUp, activeHandoff_eq_none inactive]
  rfl

theorem eligible_candidateIn {force : Bool} {totalScore : Int} (enough : 70 ≤ totalScore)
    {handoffs : List MomentumScannerHandoff} {log : List HandoffEvent}
    (inactive : ∀ row ∈ handoffs, row.status.isActive = false) :
    Eligible sampleEnvironment { unforced with force } 0 "c" (candidateIn .entryReady totalScore)
      ⟨[candidateIn .entryReady totalScore], handoffs, log⟩ := by
  refine ⟨⟨"c", rfl, rfl⟩, fun _ given => (Option.some.inj given).symm, ?_⟩
  rw [activeHandoff_eq_none inactive]
  have eligible : (evaluateMomentumHandoffEligibility (handoffEligibilityContext (candidateIn .entryReady totalScore)) 0).eligible
      = true := rfl
  have high : ¬ (candidateIn .entryReady totalScore).totalScore < normalizeScore sampleEnvironment unforced.minScore :=
    not_lt.mpr enough
  simp [getIneligibilityReason, eligible, high]

theorem prepared_sample : HandoffRun sampleEnvironment [candidateIn .entryReady 90]
    ⟨⟨[candidateIn .entryReady 90], [firstHandoff], preparedLog⟩, 1,
      Function.update (fun _ => none) 0 (some (done (.ok (.prepared (resultOf firstHandoff 90)))))⟩ := by
  have eligible := @eligible_candidateIn false 90 (by decide) [] [] (by simp)
  have created : createHandoff 0 firstHandoff.id (candidateIn .entryReady 90) (samplePayload 90) "1" 0
      ⟨[candidateIn .entryReady 90], [], preparedLog.take 1⟩ =
        .ok (firstHandoff, ⟨[candidateIn .entryReady 90], [firstHandoff], preparedLog⟩) := rfl
  exact Crew.run_of_call (.prepare "c" unforced)
    ((eligible.prepare_creates (lookUp_inactive (by simp)) created).bind _)

theorem cancelled_sample : ∃ running : Nat → Option (HandoffProgram HandoffAnswer),
    HandoffRun sampleEnvironment [candidateIn .entryReady 90]
      ⟨⟨[candidateIn .watching 90], [cancelledHandoff], cancelledLog⟩, 2, running⟩ := by
  have cooled := prepared_sample.tail (.world ⟨[candidateIn .watching 90], rfl⟩)
  have listed : listPending 1 none none 500 ⟨[candidateIn .watching 90], [firstHandoff], preparedLog⟩ =
      .ok ([⟨firstHandoff, some (candidateIn .watching 90)⟩], listedStore) := by
    simp [listPending, firstHandoff, HandoffStore.candidate, candidateIn, HandoffStore.record, listedStore]
  have cancels : cancelHandoff sampleEnvironment 1 firstHandoff .candidateNoLongerEntryReady 0 listedStore =
      .ok (cancelledHandoff, ⟨[candidateIn .watching 90], [cancelledHandoff], cancelledLog⟩) := rfl
  have stale : getStalePendingReason (some (candidateIn .watching 90)) 70 0 = some .candidateNoLongerEntryReady := by decide
  have runs : Interleaving (· = .databaseUnavailable) (fun _ _ => False)
      (cancelStalePendingHandoffs sampleEnvironment 1 cancelAll,
        ⟨[candidateIn .watching 90], [firstHandoff], preparedLog⟩)
      (done (.ok ⟨1, [cancelledHandoff]⟩), ⟨[candidateIn .watching 90], [cancelledHandoff], cancelledLog⟩) := by
    refine andThen .refl (andThen .refl ?_)
    refine andThen (.single (.own (.commit listed))) ?_
    have cancelled : Interleaving (· = .databaseUnavailable) (fun _ _ => False)
        (cancelListed sampleEnvironment 1 70 0 [⟨firstHandoff, some (candidateIn .watching 90)⟩], listedStore)
        (done (.ok [cancelledHandoff]), ⟨[candidateIn .watching 90], [cancelledHandoff], cancelledLog⟩) := by
      unfold cancelListed
      rw [stale]
      exact andThen (.single (.own (.commit cancels))) .refl
    exact andThen cancelled .refl
  exact ⟨_, cooled.trans (Crew.run_of_call (.cancelStale cancelAll) (runs.bind _))⟩

theorem inactive_sample : ∀ row ∈ [cancelledHandoff], row.status.isActive = false := by
  simp [cancelledHandoff]
  rfl

/-- The candidate recovers, and a call returns the cancelled handoff with its old payload as not skipped. -/
theorem prepare_returns_cancelled : ∃ (candidates : List MomentumCandidate)
    (crew : Crew HandoffStore HandoffError HandoffAnswer) (result : PrepareResult) (handoff : MomentumScannerHandoff),
    HandoffRun sampleEnvironment candidates crew ∧ crew.running 2 = some (done (.ok (.prepared result))) ∧
      result.skipped = false ∧ result.handoff = some handoff ∧ handoff.status = .cancelled ∧
      handoff.payload.candidate.totalScore = 90 ∧ result.candidate.totalScore = 95 := by
  obtain ⟨running, cancelled⟩ := cancelled_sample
  have recovered := cancelled.tail (.world ⟨[candidateIn .entryReady 95], rfl⟩)
  have eligible := @eligible_candidateIn false 95 (by decide) [cancelledHandoff] cancelledLog inactive_sample
  have run := recovered.trans
    (Crew.run_of_call (.prepare "c" unforced) ((eligible.prepare_finds rfl (lookUp_inactive inactive_sample)).bind _))
  refine ⟨_, _, resultOf cancelledHandoff 95, cancelledHandoff, run, ?_, rfl, rfl, rfl, rfl, rfl⟩
  exact @Function.update_self ℕ (fun _ => Option (HandoffProgram HandoffAnswer)) _ 2 _ running

/-- The laws hold after a handoff was cancelled, prepared again by force, and sent. -/
theorem handoffLaws_sample : ∃ crew lookup handoff, HandoffRun sampleEnvironment [candidateIn .entryReady 90] crew ∧
    crew.store.log = cancelledLog ++ [.lookedUp lookup] ++ [.prepared 2 handoff] ++ [.marked firstHandoff.id .sent] ∧
      HandoffLaws sampleEnvironment crew := by
  obtain ⟨running, cancelled⟩ := cancelled_sample
  have recovered := cancelled.tail (.world ⟨[candidateIn .entryReady 95], rfl⟩)
  have eligible := @eligible_candidateIn true 95 (by decide) [cancelledHandoff] cancelledLog inactive_sample
  have prepared := recovered.trans (Crew.run_of_call (.prepare "c" forced)
    ((eligible.prepare_refreshes rfl (lookUp_inactive inactive_sample) rfl).bind _))
  have marked : HandoffRun sampleEnvironment _ _ := prepared.trans (Crew.run_of_call (.markSent "h" (some 0) none)
    ((andThen .refl (andThen .refl (.single (.own (.commit rfl))))).bind _))
  refine ⟨_, _, _, marked, rfl, handoffLaws_of_orderly marked ?_⟩
  refine (@throughout_concat _ (_ ++ [_] ++ [_]) _ _).mpr
    ⟨throughout_concat.mpr ⟨throughout_concat.mpr ⟨?_, nofun⟩, trivial⟩, nofun⟩
  unfold cancelledLog listedStore preparedLog
  refine throughout_concat.mpr ⟨(@throughout_concat _ ([] ++ [_] ++ [_]) _ _).mpr ⟨throughout_concat.mpr ⟨throughout_concat.mpr
    ⟨throughout_nil, fun _ _ => nofun⟩, trivial⟩, trivial⟩, fun _ _ _ same _ _ member => ?_⟩
  have earlier := same ▸ List.mem_append_right _ (List.mem_cons_of_mem _ member)
  simp at earlier

end Samples

end AiTrader.Momentum
