import AiTrader.MarketPolicy.Enrollment
import AiTrader.MarketPolicy.RevisionRuns

/-! # Runs of the enrollment requests

Enrollment requests are interleaved with arbitrary changes of the policy, the accounts, the assignments and the owners. -/

namespace AiTrader.MarketPolicy

open Library Table

variable {digests : Digests}

/-- The tables that enrollment reads and those it writes. -/
structure EnrollmentSystem where
  context : EnrollmentContext
  store : EnrollmentStore

/-- A served request, or a change that other services make. -/
inductive EnrollmentEvent where
  | call (request : EnrollmentRequest)
  | elsewhere (context : EnrollmentContext)

def EnrollmentEvent.Accepted (digests : Digests) (event : EnrollmentEvent) (system after : EnrollmentSystem) : Prop :=
  match event with
  | .call request => after.context = system.context ∧
      ∃ now answer, request.serve digests system.context now system.store = .ok (answer, after.store)
  | .elsewhere context => after = { system with context }

def EnrollmentStore.status (store : EnrollmentStore) (id : Nat) : Option EnrollmentStatus :=
  (store.generations.find? (·.id = id)).map (·.status)

/-- The statuses of a generation so far, with its status now. -/
def observeStatus (path : List EnrollmentStatus) (status : Option EnrollmentStatus) : List EnrollmentStatus :=
  match status with
  | none => path
  | some status => if path.getLast? = some status then path else path ++ [status]

/-- A system with the statuses that each generation has gone through. -/
structure ObservedEnrollment where
  system : EnrollmentSystem
  path : Nat → List EnrollmentStatus

/-- One event, after which the status of every generation is observed. -/
def Observes (digests : Digests) (event : EnrollmentEvent) (before after : ObservedEnrollment) : Prop :=
  event.Accepted digests before.system after.system ∧
    after.path = fun id => observeStatus (before.path id) (after.system.store.status id)

/-- No enrollment. -/
def ObservedEnrollment.empty (context : EnrollmentContext) : ObservedEnrollment := ⟨⟨context, ⟨[], [], []⟩⟩, fun _ => []⟩

section Invariant

/-- What a log row tells of a change of status. -/
def EnrollmentTransition.shape (transition : EnrollmentTransition) :
    Nat × TransitionAction × Option EnrollmentStatus × EnrollmentStatus :=
  (transition.sequence, transition.action, transition.fromStatus, transition.toStatus)

/-- The logs of a generation with this status. -/
def Logged : EnrollmentStatus → List (Nat × TransitionAction × Option EnrollmentStatus × EnrollmentStatus) → Prop
  | .prepared, log => log = [(1, .prepare, none, .prepared)]
  | .active, log => log = [(1, .prepare, none, .prepared), (2, .activate, some .prepared, .active)]
  | .disabled, log => log = [(1, .prepare, none, .prepared), (2, .disable, some .prepared, .disabled)] ∨
      log = [(1, .prepare, none, .prepared), (2, .activate, some .prepared, .active), (3, .disable, some .active, .disabled)]

/-- What holds of the tables between any two events. -/
structure EnrollmentSound (store : EnrollmentStore) : Prop where
  enrollments : (store.enrollments.map (·.id)).Nodup
  assignments : (store.enrollments.map (·.accountSubscriptionId)).Nodup
  generations : (store.generations.map (·.id)).Nodup
  owned : ∀ row ∈ store.generations, ∃ enrollment ∈ store.enrollments, enrollment.id = row.enrollmentId ∧
    enrollment.accountSubscriptionId = row.accountSubscriptionId
  numbered : ∀ enrollmentId, ∃ count, (store.generationsOf enrollmentId).map (·.generation) = List.range' 1 count
  one : ∀ first ∈ store.generations, ∀ second ∈ store.generations, first.enrollmentId = second.enrollmentId →
    first.status ≠ .disabled → second.status ≠ .disabled → first.id = second.id
  logged : ∀ row ∈ store.generations, Logged row.status ((store.transitionsOf row.id).map (·.shape))
  referenced : ∀ transition ∈ store.transitions, transition.generationId ∈ store.generations.map (·.id)

theorem EnrollmentSound.empty : EnrollmentSound ⟨[], [], []⟩ :=
  ⟨List.nodup_nil, List.nodup_nil, List.nodup_nil, (fun _ member => nomatch member), (fun _ => ⟨0, rfl⟩),
    (fun _ member => nomatch member), (fun _ member => nomatch member), fun _ member => nomatch member⟩

variable {store after : EnrollmentStore} {context : EnrollmentContext} {now : Int} {answer : EnrollmentGeneration}

theorem EnrollmentSound.eq_of_id (sound : EnrollmentSound store) {first second : EnrollmentGeneration}
    (one : first ∈ store.generations) (two : second ∈ store.generations) (same : first.id = second.id) : first = second :=
  List.inj_on_of_nodup_map sound.generations one two same

/-- An assignment has one enrollment afterwards, and the generations are left alone. -/
theorem EnrollmentSound.upsert (sound : EnrollmentSound store) (accountSubscriptionId : Nat) :
    EnrollmentSound (store.upsertEnrollment accountSubscriptionId).2 ∧
      (store.upsertEnrollment accountSubscriptionId).1 ∈ (store.upsertEnrollment accountSubscriptionId).2.enrollments ∧
      (store.upsertEnrollment accountSubscriptionId).1.accountSubscriptionId = accountSubscriptionId ∧
      (store.upsertEnrollment accountSubscriptionId).2.generations = store.generations ∧
      (store.upsertEnrollment accountSubscriptionId).2.transitions = store.transitions := by
  unfold EnrollmentStore.upsertEnrollment
  cases found : store.findEnrollment accountSubscriptionId with
  | some enrollment =>
    have held := List.find?_some found
    exact ⟨sound, List.mem_of_find?_eq_some found, of_decide_eq_true held, rfl, rfl⟩
  | none =>
    have unused : accountSubscriptionId ∉ store.enrollments.map (·.accountSubscriptionId) := fun member => by
      obtain ⟨enrollment, listed, same⟩ := List.mem_map.mp member
      exact List.find?_eq_none.mp found enrollment listed (decide_eq_true same)
    refine ⟨⟨nodup_append_new sound.enrollments (nextId_not_mem _),
      nodup_append_new sound.assignments unused, sound.generations,
      fun row member => ?_, sound.numbered, sound.one, sound.logged, sound.referenced⟩,
      List.mem_concat_self, rfl, rfl, rfl⟩
    obtain ⟨enrollment, listed, same⟩ := sound.owned row member
    exact ⟨enrollment, List.mem_append_left _ listed, same⟩

theorem newRow_fresh (sound : EnrollmentSound store) :
    nextId (store.generations.map (·.id)) ∉ store.generations.map (·.id) ∧
      store.transitionsOf (nextId (store.generations.map (·.id))) = [] := by
  have fresh := nextId_not_mem (store.generations.map (·.id))
  refine ⟨fresh, List.filter_eq_nil_iff.mpr fun transition member same => ?_⟩
  exact fresh (of_decide_eq_true same ▸ sound.referenced transition member)

theorem transitionsOf_append {transitions : List EnrollmentTransition} (transition : EnrollmentTransition) (id : Nat) :
    (transitions ++ [transition]).filter (·.generationId = id) =
      transitions.filter (·.generationId = id) ++ if transition.generationId = id then [transition] else [] := by
  rw [List.filter_append]
  by_cases own : transition.generationId = id <;> simp [own]

/-- A prepared generation joins an enrollment that has no current one, with the next number. -/
theorem EnrollmentSound.insert (sound : EnrollmentSound store) {row : EnrollmentGeneration} {actorUserId count : Nat}
    {enrollment : Enrollment} (fresh : row.id = nextId (store.generations.map (·.id)))
    (prepared : row.status = .prepared) (member : enrollment ∈ store.enrollments) (owned : enrollment.id = row.enrollmentId)
    (assigned : enrollment.accountSubscriptionId = row.accountSubscriptionId)
    (numbers : (store.generationsOf row.enrollmentId).map (·.generation) = List.range' 1 count)
    (next : row.generation = count + 1)
    (idle : ∀ other ∈ store.generations, other.enrollmentId = row.enrollmentId → other.status = .disabled) :
    EnrollmentSound { store with
      generations := store.generations ++ [row]
      transitions := store.transitions ++ [row.transition 1 .prepare none .prepared actorUserId none] } := by
  obtain ⟨unused, unlogged⟩ := newRow_fresh sound
  rw [← fresh] at unused unlogged
  refine ⟨sound.enrollments, sound.assignments, ?_, ?_, fun enrollmentId => ?_, ?_, ?_, ?_⟩
  · exact nodup_append_new sound.generations unused
  · intro other listed
    rcases List.mem_append.mp listed with listed | listed
    · exact sound.owned other listed
    · rw [List.mem_singleton.mp listed]
      exact ⟨enrollment, member, owned, assigned⟩
  · show ∃ count, ((store.generations ++ [row]).filter (·.enrollmentId = enrollmentId)).map (·.generation) = List.range' 1 count
    rw [List.filter_append, List.map_append]
    by_cases own : row.enrollmentId = enrollmentId
    · subst own
      have first : (store.generations.filter (·.enrollmentId = row.enrollmentId)).map (·.generation) = List.range' 1 count :=
        numbers
      refine ⟨count + 1, ?_⟩
      rw [first, List.filter_cons_of_pos (by simp), List.filter_nil, List.range'_concat, List.map_singleton, next]
      simp [Nat.add_comm]
    · obtain ⟨found, same⟩ := sound.numbered enrollmentId
      have first : (store.generations.filter (·.enrollmentId = enrollmentId)).map (·.generation) = List.range' 1 found := same
      exact ⟨found, by rw [first, List.filter_cons_of_neg (by simp [own]), List.filter_nil, List.map_nil, List.append_nil]⟩
  · intro first listed second other owner current current'
    rcases List.mem_append.mp listed with listed | listed <;> rcases List.mem_append.mp other with other | other
    · exact sound.one first listed second other owner current current'
    · rw [List.mem_singleton.mp other] at owner
      exact absurd (idle first listed owner) current
    · rw [List.mem_singleton.mp listed] at owner
      exact absurd (idle second other owner.symm) current'
    · rw [List.mem_singleton.mp listed, List.mem_singleton.mp other]
  · intro other listed
    show Logged other.status (((store.transitions ++ [row.transition 1 .prepare none .prepared actorUserId none]).filter
      (·.generationId = other.id)).map (·.shape))
    rw [transitionsOf_append]
    rcases List.mem_append.mp listed with listed | listed
    · have different : row.id ≠ other.id := fun same => unused (same ▸ List.mem_map_of_mem listed)
      have apart : (row.transition 1 .prepare none .prepared actorUserId none).generationId ≠ other.id := different
      rw [if_neg apart, List.append_nil]
      exact sound.logged other listed
    · obtain rfl := List.mem_singleton.mp listed
      have none : store.transitions.filter (·.generationId = other.id) = [] := unlogged
      rw [none, prepared]
      exact congrArg _ (if_pos rfl)
  · intro transition listed
    rw [List.map_append]
    rcases List.mem_append.mp listed with listed | listed
    · exact List.mem_append_left _ (sound.referenced transition listed)
    · rw [List.mem_singleton.mp listed]
      exact List.mem_concat_self

/-- A generation changes its status along its log. -/
theorem EnrollmentSound.update (sound : EnrollmentSound store) {row : EnrollmentGeneration}
    {change : EnrollmentGeneration → EnrollmentGeneration} {transition : EnrollmentTransition}
    (member : row ∈ store.generations) (own : transition.generationId = row.id)
    (same : ∀ row, (change row).id = row.id ∧ (change row).enrollmentId = row.enrollmentId ∧
      (change row).generation = row.generation ∧ (change row).accountSubscriptionId = row.accountSubscriptionId)
    (current : row.status ≠ .disabled)
    (logged : ∀ log, Logged row.status log → Logged (change row).status (log ++ [transition.shape])) :
    EnrollmentSound (store.updateGeneration row.id change transition) := by
  have listed : ∀ other ∈ updateWhere (·.id = row.id) change store.generations,
      other = change row ∨ other ∈ store.generations ∧ other.id ≠ row.id := fun _ found =>
    eq_or_mem_of_updateWhere sound.generations member found
  refine ⟨sound.enrollments, sound.assignments, ?_, ?_, fun enrollmentId => ?_, ?_, ?_, ?_⟩
  · have kept : (updateWhere (·.id = row.id) change store.generations).map (·.id) = store.generations.map (·.id) :=
      map_updateWhere fun old _ => (same old).1
    exact kept ▸ sound.generations
  · intro other found
    rcases listed other found with rfl | ⟨present, _⟩
    · rw [(same row).2.1, (same row).2.2.2]
      exact sound.owned row member
    · exact sound.owned other present
  · obtain ⟨count, numbers⟩ := sound.numbered enrollmentId
    have pairs : ∀ rows : List EnrollmentGeneration, (rows.filter (·.enrollmentId = enrollmentId)).map (·.generation) =
        ((rows.map fun row => (row.enrollmentId, row.generation)).filter (·.1 = enrollmentId)).map (·.2) := by
      intro rows
      rw [List.filter_map, List.map_map]
      rfl
    have kept : (updateWhere (·.id = row.id) change store.generations).map (fun row => (row.enrollmentId, row.generation)) =
        store.generations.map fun row => (row.enrollmentId, row.generation) :=
      map_updateWhere fun old _ => by rw [(same old).2.1, (same old).2.2.1]
    refine ⟨count, ?_⟩
    show ((updateWhere (·.id = row.id) change store.generations).filter (·.enrollmentId = enrollmentId)).map _ = _
    rw [pairs, kept, ← pairs]
    exact numbers
  · intro first found second other owner running running'
    rcases listed first found with rfl | ⟨present, _⟩ <;> rcases listed second other with rfl | ⟨present', _⟩
    · rfl
    · rw [(same row).2.1] at owner
      rw [(same row).1]
      exact sound.one row member second present' owner current running'
    · rw [(same row).2.1] at owner
      rw [(same row).1]
      exact sound.one first present row member owner running current
    · exact sound.one first present second present' owner running running'
  · intro other found
    show Logged other.status (((store.transitions ++ [transition]).filter (·.generationId = other.id)).map (·.shape))
    rw [transitionsOf_append, own]
    rcases listed other found with rfl | ⟨present, different⟩
    · rw [(same row).1, if_pos rfl, List.map_append]
      exact logged _ (sound.logged row member)
    · rw [if_neg different.symm, List.append_nil]
      exact sound.logged other present
  · intro other found
    have kept : (updateWhere (·.id = row.id) change store.generations).map (·.id) = store.generations.map (·.id) :=
      map_updateWhere fun old _ => (same old).1
    show other.generationId ∈ (updateWhere (·.id = row.id) change store.generations).map (·.id)
    rw [kept]
    rcases List.mem_append.mp found with found | found
    · exact sound.referenced other found
    · rw [List.mem_singleton.mp found, own]
      exact List.mem_map_of_mem member

end Invariant

section Steps

variable {store after : EnrollmentStore} {context : EnrollmentContext} {now : Int} {answer : EnrollmentGeneration}

/-- What a later version of a generation keeps: its identity, and everything once it is disabled. -/
structure GenerationKept (row later : EnrollmentGeneration) : Prop where
  id : later.id = row.id
  enrollmentId : later.enrollmentId = row.enrollmentId
  generation : later.generation = row.generation
  policyRevisionId : later.policyRevisionId = row.policyRevisionId
  accountHolderUserId : later.accountHolderUserId = row.accountHolderUserId
  configurationFingerprint : later.configurationFingerprint = row.configurationFingerprint
  disabled : row.status = .disabled → later = row

theorem GenerationKept.refl (row : EnrollmentGeneration) : GenerationKept row row :=
  ⟨rfl, rfl, rfl, rfl, rfl, rfl, fun _ => rfl⟩

theorem GenerationKept.trans {first second third : EnrollmentGeneration} (one : GenerationKept first second)
    (two : GenerationKept second third) : GenerationKept first third := by
  refine ⟨two.id.trans one.id, two.enrollmentId.trans one.enrollmentId, two.generation.trans one.generation,
    two.policyRevisionId.trans one.policyRevisionId, two.accountHolderUserId.trans one.accountHolderUserId,
    two.configurationFingerprint.trans one.configurationFingerprint, fun disabled => ?_⟩
  obtain rfl := one.disabled disabled
  exact two.disabled disabled

/-- What an activation has seen and made of a generation. -/
structure ActivatedGeneration (context : EnrollmentContext) (store : EnrollmentStore) (args : ActivateEnrollment)
    (selected : SelectedAssignment) (row later : EnrollmentGeneration) : Prop where
  found : context.findAssignment args.accountId args.assignmentId = some selected
  stored : row ∈ store.generations
  id : row.id = args.generationId
  assignment : row.accountSubscriptionId = args.assignmentId
  prepared : row.status = .prepared
  fingerprint : row.configurationFingerprint = args.expectedConfigurationFingerprint
  holder : selected.account.accountHolderUserId = row.accountHolderUserId
  revision : selected.activeRevision.map (·.id) = some row.policyRevisionId
  kept : GenerationKept row later

/-- What a served request leaves. -/
structure Enrolled (context : EnrollmentContext) (request : EnrollmentRequest) (store after : EnrollmentStore) : Prop where
  sound : EnrollmentSound after
  logged : ∃ transition, after.transitions = store.transitions ++ [transition]
  kept : ∀ row ∈ store.generations, ∃ later ∈ after.generations, GenerationKept row later
  active : ∀ later ∈ after.generations, later.status = .active → later ∈ store.generations ∨
    ∃ args selected row, request = .activate args ∧ ActivatedGeneration context store args selected row later

variable {row : EnrollmentGeneration}

theorem mem_of_findGeneration {generationId assignmentId : Nat}
    (found : store.findGeneration generationId assignmentId = some row) :
    row ∈ store.generations ∧ row.id = generationId ∧ row.accountSubscriptionId = assignmentId := by
  have held := List.find?_some found
  exact ⟨List.mem_of_find?_eq_some found, (of_decide_eq_true held).1, (of_decide_eq_true held).2⟩

theorem kept_of_update {change : EnrollmentGeneration → EnrollmentGeneration}
    {transition : EnrollmentTransition} (same : ∀ row, row.status ≠ .disabled → GenerationKept row (change row))
    (sound : EnrollmentSound store) (stored : row ∈ store.generations) (current : row.status ≠ .disabled) :
    ∀ other ∈ store.generations, ∃ later ∈ (store.updateGeneration row.id change transition).generations,
      GenerationKept other later := by
  intro other member
  refine ⟨_, List.mem_map_of_mem member, ?_⟩
  by_cases own : other.id = row.id
  · obtain rfl := sound.eq_of_id member stored own
    rw [if_pos (decide_eq_true rfl)]
    exact same other current
  · rw [if_neg (by simpa using own)]
    exact .refl other

section

variable (sound : EnrollmentSound store)
include sound

theorem prepare_enrolled {args : PrepareEnrollment}
    (served : prepareAssignmentMarketPolicyEnrollment digests context args store = .ok (answer, after)) :
    Enrolled context (.prepare args) store after := by
  obtain ⟨_, served⟩ := require_bind_eq_ok.mp served
  obtain ⟨selected, found, served⟩ := requireSome_bind_eq_ok.mp served
  obtain ⟨_, served⟩ := require_bind_eq_ok.mp served
  obtain ⟨revision, _, served⟩ := requireSome_bind_eq_ok.mp served
  obtain ⟨_, served⟩ := require_bind_eq_ok.mp served
  obtain ⟨soundEnrolled, member, assigned, generations, transitions⟩ := sound.upsert args.assignmentId
  generalize store.upsertEnrollment args.assignmentId = upserted at served soundEnrolled member assigned generations transitions
  obtain ⟨enrollment, enrolled⟩ := upserted
  obtain ⟨idle, served⟩ := require_bind_eq_ok.mp served
  cases served
  have selectedId : selected.assignment.id = args.assignmentId := by
    obtain ⟨assignment, located, rest⟩ := Option.bind_eq_some_iff.mp found
    obtain ⟨account, _, rest⟩ := Option.bind_eq_some_iff.mp rest
    cases rest
    have held := List.find?_some located
    exact (of_decide_eq_true held).1
  obtain ⟨count, numbers⟩ := soundEnrolled.numbered enrollment.id
  have next : ((latest (·.generation) (enrolled.generationsOf enrollment.id)).map (·.generation)).getD 0 = count :=
    latest_of_numbered numbers
  refine ⟨soundEnrolled.insert rfl rfl member rfl (assigned.trans selectedId.symm) numbers (congrArg (· + 1) next)
    fun other listed owned => ?_, ?_, fun row listed => ⟨row, ?_, .refl row⟩, fun later listed active => ?_⟩
  · have quiet := List.any_eq_false.mp ((Bool.not_eq_true' _).mp idle) other
      (List.mem_filter.mpr ⟨listed, decide_eq_true owned⟩)
    cases status : other.status with
    | disabled => rfl
    | prepared => simp [status] at quiet
    | active => simp [status] at quiet
  · exact ⟨_, congrArg (· ++ _) transitions⟩
  · exact List.mem_append_left _ (generations.symm ▸ listed)
  · rcases List.mem_append.mp listed with listed | listed
    · exact .inl (generations ▸ listed)
    · rw [List.mem_singleton.mp listed] at active
      cases active

theorem activate_enrolled {args : ActivateEnrollment}
    (served : activateAssignmentMarketPolicyEnrollment context now args store = .ok (answer, after)) :
    Enrolled context (.activate args) store after := by
  obtain ⟨_, served⟩ := require_bind_eq_ok.mp served
  obtain ⟨selected, found, served⟩ := requireSome_bind_eq_ok.mp served
  obtain ⟨row, located, served⟩ := requireSome_bind_eq_ok.mp served
  obtain ⟨prepared, served⟩ := require_bind_eq_ok.mp served
  obtain ⟨fingerprint, served⟩ := require_bind_eq_ok.mp served
  obtain ⟨_, served⟩ := require_bind_eq_ok.mp served
  obtain ⟨holder, served⟩ := require_bind_eq_ok.mp served
  obtain ⟨revision, served⟩ := require_bind_eq_ok.mp served
  cases served
  obtain ⟨stored, id, assignment⟩ := mem_of_findGeneration located
  have status := of_decide_eq_true prepared
  have current : row.status ≠ .disabled := by
    rw [status]
    decide
  refine ⟨sound.update stored rfl (fun _ => ⟨rfl, rfl, rfl, rfl⟩) current fun log logged => ?_, ⟨_, rfl⟩,
    kept_of_update (fun _ running => ⟨rfl, rfl, rfl, rfl, rfl, rfl, fun disabled => absurd disabled running⟩) sound stored
      current, fun later listed active => ?_⟩
  · rw [status] at logged
    rw [show log = _ from logged]
    rfl
  · rcases eq_or_mem_of_updateWhere sound.generations stored listed with rfl | ⟨present, _⟩
    · exact .inr ⟨args, selected, row, rfl, found, stored, id, assignment, status, of_decide_eq_true fingerprint,
        of_decide_eq_true holder, of_decide_eq_true revision,
        ⟨rfl, rfl, rfl, rfl, rfl, rfl, fun disabled => absurd disabled current⟩⟩
    · exact .inl present

theorem disable_enrolled {args : DisableEnrollment}
    (served : disableAssignmentMarketPolicyEnrollment context now args store = .ok (answer, after)) :
    Enrolled context (.disable args) store after := by
  obtain ⟨_, served⟩ := require_bind_eq_ok.mp served
  obtain ⟨_, _, served⟩ := requireSome_bind_eq_ok.mp served
  obtain ⟨row, located, served⟩ := requireSome_bind_eq_ok.mp served
  obtain ⟨running, served⟩ := require_bind_eq_ok.mp served
  cases served
  obtain ⟨stored, _, _⟩ := mem_of_findGeneration located
  have current : row.status ≠ .disabled := of_decide_eq_true running
  refine ⟨sound.update stored rfl (fun _ => ⟨rfl, rfl, rfl, rfl⟩) current fun log logged => ?_, ⟨_, rfl⟩,
    kept_of_update (fun _ running => ⟨rfl, rfl, rfl, rfl, rfl, rfl, fun disabled => absurd disabled running⟩) sound stored
      current, fun later listed active => ?_⟩
  · cases status : row.status with
    | disabled => exact absurd status current
    | prepared =>
      rw [status] at logged
      rw [show log = _ from logged]
      exact .inl (by simp [EnrollmentTransition.shape, EnrollmentGeneration.transition])
    | active =>
      rw [status] at logged
      rw [show log = _ from logged]
      exact .inr (by simp [EnrollmentTransition.shape, EnrollmentGeneration.transition])
  · rcases eq_or_mem_of_updateWhere sound.generations stored listed with rfl | ⟨present, _⟩
    · cases active
    · exact .inl present

theorem serve_enrolled {request : EnrollmentRequest}
    (served : request.serve digests context now store = .ok (answer, after)) : Enrolled context request store after := by
  cases request with
  | prepare args => exact prepare_enrolled sound served
  | activate args => exact activate_enrolled sound served
  | disable args => exact disable_enrolled sound served

end

end Steps

/-- The statuses that a log goes through. -/
def statuses (log : List (Nat × TransitionAction × Option EnrollmentStatus × EnrollmentStatus)) : List EnrollmentStatus :=
  log.map (·.2.2.2)

/-- A log with at most one new row tells the statuses that are observed. -/
theorem observe_of_logged {status : EnrollmentStatus}
    {log more : List (Nat × TransitionAction × Option EnrollmentStatus × EnrollmentStatus)}
    (logged : Logged status (log ++ more)) (short : more.length ≤ 1) :
    observeStatus (statuses log) (some status) = statuses (log ++ more) := by
  match more with
  | [] =>
    rw [List.append_nil] at logged ⊢
    cases status with
    | prepared => rw [show log = _ from logged]; rfl
    | active => rw [show log = _ from logged]; rfl
    | disabled => rcases logged with whole | whole <;> rw [whole] <;> rfl
  | [last] =>
    have ends : ∀ {front : List _} {final : Nat × TransitionAction × Option EnrollmentStatus × EnrollmentStatus},
        log ++ [last] = front ++ [final] → log = front ∧ last = final := by
      intro front final whole
      obtain ⟨same, one⟩ := List.append_inj' whole rfl
      exact ⟨same, List.singleton_inj.mp one⟩
    cases status with
    | prepared =>
      obtain ⟨rfl, rfl⟩ := @ends [] _ logged
      rfl
    | active =>
      obtain ⟨rfl, rfl⟩ := @ends [_] _ logged
      rfl
    | disabled =>
      rcases logged with whole | whole
      · obtain ⟨rfl, rfl⟩ := @ends [_] _ whole
        rfl
      · obtain ⟨rfl, rfl⟩ := @ends [_, _] _ whole
        rfl
  | first :: second :: rest => simp at short

/-- A log's rows are numbered from one, each starts where the one before ended, and the last ends with the generation's
status. -/
structure Chained (status : EnrollmentStatus) (log : List EnrollmentTransition) : Prop where
  sequence : log.map (·.sequence) = List.range' 1 log.length
  fromStatus : log.map (·.fromStatus) = none :: (log.map (·.toStatus)).dropLast.map some
  toStatus : (log.map (·.toStatus)).getLast? = some status

theorem chained_of_logged {status : EnrollmentStatus} {log : List EnrollmentTransition}
    (logged : Logged status (log.map (·.shape))) : Chained status log := by
  have parts : ∀ {shapes : List (Nat × TransitionAction × Option EnrollmentStatus × EnrollmentStatus)},
      log.map (·.shape) = shapes → log.map (·.sequence) = shapes.map (·.1) ∧
        log.map (·.fromStatus) = shapes.map (·.2.2.1) ∧ log.map (·.toStatus) = shapes.map (·.2.2.2) ∧
        log.length = shapes.length := by
    rintro _ rfl
    simp [EnrollmentTransition.shape]
  have chain : ∀ {shapes : List (Nat × TransitionAction × Option EnrollmentStatus × EnrollmentStatus)},
      log.map (·.shape) = shapes → shapes.map (·.1) = List.range' 1 shapes.length →
      shapes.map (·.2.2.1) = none :: (shapes.map (·.2.2.2)).dropLast.map some →
      (shapes.map (·.2.2.2)).getLast? = some status → Chained status log := by
    intro shapes whole sequence fromStatus toStatus
    obtain ⟨first, second, third, length⟩ := parts whole
    exact ⟨by rw [first, length, sequence], by rw [second, third, fromStatus], by rw [third, toStatus]⟩
  cases status with
  | prepared => exact chain logged rfl rfl rfl
  | active => exact chain logged rfl rfl rfl
  | disabled =>
    rcases logged with whole | whole
    · exact chain whole rfl rfl rfl
    · exact chain whole rfl rfl rfl

section Lifecycle

variable {observed after : ObservedEnrollment}

/-- The path that is observed is the path that is logged. -/
structure ObservedSound (observed : ObservedEnrollment) : Prop where
  sound : EnrollmentSound observed.system.store
  path : ∀ id, observed.path id = (observed.system.store.transitionsOf id).map (·.toStatus)

variable {store : EnrollmentStore}

theorem ObservedSound.next {path : Nat → List EnrollmentStatus} {more : List EnrollmentTransition}
    (before : ∀ id, path id = ((store.transitionsOf id).map (·.toStatus))) (sound : EnrollmentSound after.system.store)
    (transitions : after.system.store.transitions = store.transitions ++ more) (short : more.length ≤ 1)
    (observes : after.path = fun id => observeStatus (path id) (after.system.store.status id)) : ObservedSound after := by
  refine ⟨sound, fun id => ?_⟩
  have split : after.system.store.transitionsOf id = store.transitionsOf id ++ more.filter (·.generationId = id) := by
    unfold EnrollmentStore.transitionsOf
    rw [transitions, List.filter_append]
  have told : ∀ log : List EnrollmentTransition, log.map (·.toStatus) = statuses (log.map (·.shape)) := fun log => by
    simp [statuses, EnrollmentTransition.shape]
  rw [observes]
  show observeStatus (path id) ((after.system.store.generations.find? (·.id = id)).map (·.status)) = _
  cases found : after.system.store.generations.find? (·.id = id) with
  | none =>
    have unlogged : after.system.store.transitionsOf id = [] := by
      refine List.filter_eq_nil_iff.mpr fun transition member same => ?_
      obtain ⟨row, listed, own⟩ := List.mem_map.mp (sound.referenced transition member)
      exact List.find?_eq_none.mp found row listed (decide_eq_true (own.trans (of_decide_eq_true same)))
    have earlier : store.transitionsOf id = [] := (List.append_eq_nil_iff.mp (split.symm.trans unlogged)).1
    rw [before id, earlier, unlogged]
    rfl
  | some row =>
    have held := List.find?_some found
    obtain rfl := of_decide_eq_true held
    have logged := sound.logged row (List.mem_of_find?_eq_some found)
    rw [split, List.map_append] at logged
    rw [before row.id, told, told, split, List.map_append]
    refine observe_of_logged logged ?_
    rw [List.length_map]
    exact Nat.le_trans (List.length_filter_le _ _) short

theorem store_of_elsewhere {context : EnrollmentContext} {system next : EnrollmentSystem}
    (accepted : (EnrollmentEvent.elsewhere context).Accepted digests system next) : next.store = system.store := by
  rw [show next = _ from accepted]

theorem ObservedSound.step {event : EnrollmentEvent} (observedSound : ObservedSound observed)
    (observes : Observes digests event observed after) : ObservedSound after := by
  obtain ⟨accepted, path⟩ := observes
  cases event with
  | call request =>
    obtain ⟨_, now, answer, served⟩ := accepted
    have enrolled := serve_enrolled observedSound.sound served
    obtain ⟨transition, transitions⟩ := enrolled.logged
    exact .next observedSound.path enrolled.sound transitions (Nat.le_refl 1) path
  | elsewhere context =>
    have same := store_of_elsewhere accepted
    have transitions : after.system.store.transitions = observed.system.store.transitions ++ [] := by
      rw [same, List.append_nil]
    exact .next observedSound.path (same ▸ observedSound.sound) transitions (Nat.zero_le 1) path

variable {events : List EnrollmentEvent}

theorem observedSound_of_served (observedSound : ObservedSound observed)
    (served : Served (Observes digests) observed events after) : ObservedSound after :=
  served.invariant observedSound fun _ _ _ sound observes => sound.step observes

theorem ObservedSound.empty (context : EnrollmentContext) : ObservedSound (.empty context) := ⟨.empty, fun _ => rfl⟩

theorem generation_kept_of_served (observedSound : ObservedSound observed)
    (served : Served (Observes digests) observed events after) {row : EnrollmentGeneration}
    (member : row ∈ observed.system.store.generations) :
    ∃ later ∈ after.system.store.generations, GenerationKept row later := by
  induction served with
  | start => exact ⟨row, member, .refl row⟩
  | @next _ _ _ event earlier observes ih =>
    obtain ⟨middle, listed, kept⟩ := ih
    have soundBefore := (observedSound_of_served observedSound earlier).sound
    obtain ⟨accepted, _⟩ := observes
    cases event with
    | call request =>
      obtain ⟨_, now, answer, served⟩ := accepted
      obtain ⟨later, final, more⟩ := (serve_enrolled soundBefore served).kept middle listed
      exact ⟨later, final, kept.trans more⟩
    | elsewhere context =>
      have same := store_of_elsewhere accepted
      exact ⟨middle, same ▸ listed, kept⟩

theorem EnrollmentSound.numbered_assignment (sound : EnrollmentSound store) (assignmentId : Nat) :
    ∃ count, (store.generations.filter (·.accountSubscriptionId = assignmentId)).map (·.generation) = List.range' 1 count := by
  by_cases known : assignmentId ∈ store.enrollments.map (·.accountSubscriptionId)
  · obtain ⟨enrollment, member, rfl⟩ := List.mem_map.mp known
    obtain ⟨count, numbers⟩ := sound.numbered enrollment.id
    refine ⟨count, numbers ▸ congrArg (List.map _) (List.filter_congr fun row listed => ?_)⟩
    obtain ⟨owner, present, id, assigned⟩ := sound.owned row listed
    rw [← id, ← assigned]
    refine decide_eq_decide.mpr ⟨fun same => ?_, fun same => ?_⟩
    · rw [List.inj_on_of_nodup_map sound.assignments present member same]
    · rw [List.inj_on_of_nodup_map sound.enrollments present member same]
  · refine ⟨0, ?_⟩
    have none : store.generations.filter (·.accountSubscriptionId = assignmentId) = [] := by
      refine List.filter_eq_nil_iff.mpr fun row listed same => known ?_
      obtain ⟨owner, present, _, assigned⟩ := sound.owned row listed
      exact List.mem_map.mpr ⟨owner, present, assigned.trans (of_decide_eq_true same)⟩
    rw [none]
    rfl

/-- The assignment of a generation that is not disabled. -/
def currentKey (row : EnrollmentGeneration) : Option Nat :=
  if row.status = .disabled then none else some row.accountSubscriptionId

theorem EnrollmentSound.current (sound : EnrollmentSound store) : Unique currentKey store.generations := by
  have running : ∀ {row : EnrollmentGeneration} {assignmentId : Nat}, currentKey row = some assignmentId →
      row.status ≠ .disabled ∧ row.accountSubscriptionId = assignmentId := by
    intro row assignmentId keyed
    unfold currentKey at keyed
    split at keyed
    · cases keyed
    case isFalse current => exact ⟨current, Option.some.inj keyed⟩
  refine Unique.of_identified sound.generations fun first member second other assignmentId keyed same => ?_
  obtain ⟨firstRuns, firstOwner⟩ := running keyed
  obtain ⟨secondRuns, secondOwner⟩ := running same
  obtain ⟨one, present, oneId, oneAssigned⟩ := sound.owned first member
  obtain ⟨two, listed, twoId, twoAssigned⟩ := sound.owned second other
  have shared := List.inj_on_of_nodup_map sound.assignments present listed
    (oneAssigned.trans (firstOwner.trans (secondOwner.symm.trans twoAssigned.symm)))
  exact sound.one first member second other (oneId.symm.trans (congrArg Enrollment.id shared |>.trans twoId)) firstRuns secondRuns

/-- In every run the generations of an assignment are numbered from one and at most one is not disabled; one keeps its
identity and, once disabled, everything; it becomes active only by an activation with the caller's fingerprint, under the
active revision and the account's holder; its log is the path of its statuses. -/
theorem enrollment_generations {context : EnrollmentContext} {events : List EnrollmentEvent}
    (served : Served (Observes digests) (.empty context) events observed) :
    (∀ assignmentId, ∃ count, (observed.system.store.generations.filter (·.accountSubscriptionId = assignmentId)).map
        (·.generation) = List.range' 1 count) ∧
      Unique currentKey observed.system.store.generations ∧
      (∀ more later, Served (Observes digests) observed more later → ∀ row ∈ observed.system.store.generations,
        ∃ row' ∈ later.system.store.generations, GenerationKept row row') ∧
      (∀ (event : EnrollmentEvent) (after : EnrollmentSystem), event.Accepted digests observed.system after → ∀ later ∈ after.store.generations,
        later.status = .active → later ∈ observed.system.store.generations ∨
          ∃ args selected row, event = .call (.activate args) ∧
            ActivatedGeneration observed.system.context observed.system.store args selected row later) ∧
      ∀ row ∈ observed.system.store.generations,
        Chained row.status (observed.system.store.transitionsOf row.id) ∧
          (observed.system.store.transitionsOf row.id).map (·.toStatus) = observed.path row.id := by
  have observedSound := observedSound_of_served (.empty context) served
  have sound := observedSound.sound
  refine ⟨sound.numbered_assignment, sound.current, fun more later further row member => ?_,
    fun event after accepted later member active => ?_, fun row member => ⟨?_, ?_⟩⟩
  · exact generation_kept_of_served observedSound further member
  · cases event with
    | call request =>
      obtain ⟨_, now, answer, served⟩ := accepted
      rcases (serve_enrolled sound served).active later member active with stored | ⟨args, selected, row, rfl, activated⟩
      · exact .inl stored
      · exact .inr ⟨args, selected, row, rfl, activated⟩
    | elsewhere context =>
      have same := store_of_elsewhere accepted
      exact .inl (same ▸ member)
  · exact chained_of_logged (sound.logged row member)
  · exact (observedSound.path row.id).symm

end Lifecycle

def sampleDigests : Digests := ⟨sampleDigest, fun identity => toString identity.generation⟩

/-- A PAPER account whose strategy has an active revision. -/
def sampleContext : EnrollmentContext :=
  { users := [⟨7, .systemOwner, true⟩], accounts := [⟨1, .paper, 7⟩], assignments := [⟨3, 1, 1, 1⟩]
    policy := ⟨[⟨1, 1, "SHADOW_ONLY", 0⟩], [{ sampleRevision (trendRules ["UP"]) with status := .active }], []⟩ }

def sampleGeneration (status : EnrollmentStatus) : EnrollmentGeneration :=
  { id := 1, enrollmentId := 1, generation := 1, status, tradingAccountId := 1, accountSubscriptionId := 3, strategyId := 1
    policyRevisionId := 1, accountHolderUserId := 7, configurationFingerprint := "1", preparedByUserId := 7
    activatedByUserId := if status = .active then some 7 else none, activatedAt := if status = .active then some 0 else none
    disabledByUserId := none, disabledAt := none, disableReason := none }

def samplePrepared : EnrollmentStore :=
  ⟨[⟨1, 3⟩], [sampleGeneration .prepared], [(sampleGeneration .prepared).transition 1 .prepare none .prepared 7 none]⟩

def sampleEnrolled : EnrollmentStore :=
  ⟨[⟨1, 3⟩], [sampleGeneration .active], [(sampleGeneration .prepared).transition 1 .prepare none .prepared 7 none,
    (sampleGeneration .prepared).transition 2 .activate (some .prepared) .active 7 none]⟩

theorem enrollment_generations_activated : ∃ observed,
    Served (Observes sampleDigests) (.empty sampleContext)
      [.call (.prepare ⟨1, 3, 7⟩), .call (.activate ⟨1, 3, 1, 7, "1"⟩)] observed ∧
    observed.path 1 = [.prepared, .active] ∧ Unique currentKey observed.system.store.generations := by
  have prepared : EnrollmentRequest.serve sampleDigests sampleContext 0 ⟨[], [], []⟩ (.prepare ⟨1, 3, 7⟩) =
      .ok (sampleGeneration .prepared, samplePrepared) := by decide +kernel
  have activated : EnrollmentRequest.serve sampleDigests sampleContext 0 samplePrepared (.activate ⟨1, 3, 1, 7, "1"⟩) =
      .ok (sampleGeneration .active, sampleEnrolled) := by decide +kernel
  have first : Served (Observes sampleDigests) (.empty sampleContext) [.call (.prepare ⟨1, 3, 7⟩)]
      ⟨⟨sampleContext, samplePrepared⟩, fun id => observeStatus [] (samplePrepared.status id)⟩ := .next .start ⟨⟨rfl, 0, _, prepared⟩, rfl⟩
  have run : Served (Observes sampleDigests) (.empty sampleContext)
      [.call (.prepare ⟨1, 3, 7⟩), .call (.activate ⟨1, 3, 1, 7, "1"⟩)] ⟨⟨sampleContext, sampleEnrolled⟩,
        fun id => observeStatus (observeStatus [] (samplePrepared.status id)) (sampleEnrolled.status id)⟩ :=
    first.next ⟨⟨rfl, 0, _, activated⟩, rfl⟩
  exact ⟨_, run, by decide, (enrollment_generations run).2.1⟩

end AiTrader.MarketPolicy
