import AiTrader.MarketPolicy.Revision

/-! # Runs of the policy requests

What an accepted request has seen and written, what holds after every history of accepted requests, and what a history
keeps of a revision. -/

namespace AiTrader.MarketPolicy

open Library Table

variable {digest : List CanonicalRule → String}

variable {actorUserId strategyId policyId : Nat} {policy : StrategyMarketPolicy} {changeNote : Option String}
  {revision : PolicyRevision} {now : Int} {args : SaveRevision}

variable {status : PolicyRevisionStatus} {strategies : List Nat}

section Changes

variable {store after : PolicyStore} {answer : PolicyAnswer}

/-- An accepted request with its answer. -/
abbrev PolicyEntry := PolicyRequest × PolicyAnswer

/-- Some strategies and some time make the request succeed. -/
def Accepted (digest : List CanonicalRule → String) (entry : PolicyEntry) (store after : PolicyStore) : Prop :=
  ∃ strategies now, entry.1.serve digest strategies now store = .ok (entry.2, after)

/-- The revision that a save or an activation has loaded. -/
structure Loaded (digest : List CanonicalRule → String) (store : PolicyStore) (strategyId revisionId : Nat)
    (fingerprint : String) (policy : StrategyMarketPolicy) (revision : PolicyRevision) : Prop where
  owner : store.policyOf strategyId = some policy
  found : store.findRevision policy.id revisionId = some revision
  prepared : revision.status = .prepared
  fingerprint : strategyMarketPolicyConfigurationFingerprint digest revision.rules = fingerprint

/-- A row after its rules have been rewritten. -/
def savedRow (revision : PolicyRevision) (rows : List DimensionRuleRow) (row : PolicyRevision) : PolicyRevision :=
  if row.id = revision.id then { row with dimensionRules := rows } else row

/-- A row after the active revision has given way to the selected one. -/
def activatedRow (now : Int) (active : Option PolicyRevision) (selected row : PolicyRevision) : PolicyRevision :=
  if row.id = selected.id then { row with status := .active, activatedAt := some now }
  else if active.any (·.id = row.id) then { row with status := .retired, retiredAt := some now }
  else row

/-- What an accepted request has seen and written. -/
def Changed (digest : List CanonicalRule → String) (store after : PolicyStore) : PolicyRequest → PolicyAnswer → Prop
  | .create strategyId _ changeNote, answer => ∃ now, store.policyOf strategyId = none ∧
      after.policies = store.policies ++ [store.newPolicy strategyId now] ∧
      after.revisions = store.revisions ++ [store.newRevision (store.newPolicy strategyId now).id 1 changeNote initialRules] ∧
      answer = .policy (store.newPolicy strategyId now)
        [presentRevision digest (store.newRevision (store.newPolicy strategyId now).id 1 changeNote initialRules)]
  | .prepare strategyId _ changeNote, answer => ∃ policy latest, store.policyOf strategyId = some policy ∧
      store.findStatus policy.id .prepared = none ∧ store.latestRevision policy.id = some latest ∧
      after.policies = store.policies ∧
      after.revisions = store.revisions ++ [store.newRevision policy.id (latest.revision + 1) changeNote latest.rules] ∧
      answer = .revision (presentRevision digest (store.newRevision policy.id (latest.revision + 1) changeNote latest.rules))
  | .save args, answer => ∃ policy revision rows,
      Loaded digest store args.strategyId args.revisionId args.expectedConfigurationFingerprint policy revision ∧
      after.policies = store.policies ∧
      after.revisions = store.revisions.map (savedRow revision rows) ∧
      answer = .revision (presentRevision digest { revision with dimensionRules := rows })
  | .activate args, answer => ∃ now policy selected,
      Loaded digest store args.strategyId args.revisionId args.expectedConfigurationFingerprint policy selected ∧
      (validateMarketPolicyRules selected.rules).valid = true ∧
      after.policies = updateWhere (·.id = policy.id) (fun row => { row with updatedAt := now }) store.policies ∧
      after.revisions = store.revisions.map (activatedRow now (store.findStatus policy.id .active) selected) ∧
      answer = .revision (presentRevision digest { selected with status := .active, activatedAt := some now })

variable {selected : PolicyRevision}

theorem retire_policies : (store.retire now policy selected actorUserId).policies = store.policies := by
  unfold PolicyStore.retire
  split <;> rfl

theorem activated_revisions (apart : ∀ active, store.findStatus policy.id .active = some active → active.id ≠ selected.id) :
    updateWhere (·.id = selected.id) (fun row : PolicyRevision => { row with status := .active, activatedAt := some now })
        (store.retire now policy selected actorUserId).revisions =
      store.revisions.map (activatedRow now (store.findStatus policy.id .active) selected) := by
  unfold PolicyStore.retire
  cases found : store.findStatus policy.id .active with
  | none =>
    refine List.map_congr_left fun row _ => ?_
    by_cases own : row.id = selected.id <;> simp [activatedRow, own]
  | some active =>
    show updateWhere _ _ (updateWhere _ _ store.revisions) = _
    unfold updateWhere
    rw [List.map_map]
    refine List.map_congr_left fun row _ => ?_
    have different := apart active found
    by_cases own : row.id = selected.id
    · have other : selected.id ≠ active.id := different.symm
      simp [activatedRow, own, other]
    · by_cases gone : row.id = active.id
      · simp [activatedRow, gone, different]
      · simp [activatedRow, own, gone, Ne.symm gone]

theorem createStrategyMarketPolicy_changed
    (served : createStrategyMarketPolicy digest strategies now strategyId actorUserId changeNote store = .ok (answer, after)) :
    Changed digest store after (.create strategyId actorUserId changeNote) answer := by
  obtain ⟨_, served⟩ := require_bind_eq_ok.mp served
  obtain ⟨first, served⟩ := require_bind_eq_ok.mp served
  cases served
  exact ⟨now, Option.isNone_iff_eq_none.mp first, rfl, rfl, rfl⟩

theorem prepareStrategyMarketPolicyRevision_changed
    (served : prepareStrategyMarketPolicyRevision digest strategyId actorUserId changeNote store = .ok (answer, after)) :
    Changed digest store after (.prepare strategyId actorUserId changeNote) answer := by
  obtain ⟨policy, found, served⟩ := requireSome_bind_eq_ok.mp served
  obtain ⟨unprepared, served⟩ := require_bind_eq_ok.mp served
  obtain ⟨latest, last, served⟩ := requireSome_bind_eq_ok.mp served
  cases served
  exact ⟨policy, latest, found, Option.isNone_iff_eq_none.mp unprepared, (Option.filter_eq_some_iff.mp last).1, rfl, rfl, rfl⟩

theorem saveStrategyMarketPolicyRevision_changed
    (served : saveStrategyMarketPolicyRevision digest args store = .ok (answer, after)) :
    Changed digest store after (.save args) answer := by
  obtain ⟨_, served⟩ := require_bind_eq_ok.mp served
  obtain ⟨policy, found, served⟩ := requireSome_bind_eq_ok.mp served
  obtain ⟨revision, located, served⟩ := requireSome_bind_eq_ok.mp served
  obtain ⟨prepared, served⟩ := require_bind_eq_ok.mp served
  obtain ⟨unchanged, served⟩ := require_bind_eq_ok.mp served
  obtain ⟨rows, _, served⟩ := bind_eq_ok.mp served
  cases served
  have written : ∀ row ∈ store.revisions, (if decide (row.id = revision.id) then { row with dimensionRules := rows } else row) =
      savedRow revision rows row := fun row _ => by simp [savedRow]
  exact ⟨policy, revision, rows, ⟨found, located, of_decide_eq_true prepared, of_decide_eq_true unchanged⟩, rfl,
    List.map_congr_left written, rfl⟩

theorem mem_of_findStatus (found : store.findStatus policyId status = some revision) :
    revision ∈ store.revisions ∧ revision.policyId = policyId ∧ revision.status = status := by
  obtain ⟨member, owned⟩ := List.mem_filter.mp (List.mem_of_find?_eq_some found)
  have held := List.find?_some found
  exact ⟨member, of_decide_eq_true owned, of_decide_eq_true held⟩

theorem mem_of_findRevision {revisionId : Nat} (found : store.findRevision policyId revisionId = some revision) :
    revision ∈ store.revisions ∧ revision.policyId = policyId ∧ revision.id = revisionId := by
  obtain ⟨member, owned⟩ := List.mem_filter.mp (List.mem_of_find?_eq_some found)
  have held := List.find?_some found
  exact ⟨member, of_decide_eq_true owned, of_decide_eq_true held⟩

theorem activateStrategyMarketPolicyRevision_changed {args : ActivateRevision}
    (distinct : (store.revisions.map (·.id)).Nodup) (served : activateStrategyMarketPolicyRevision digest now args store = .ok (answer, after)) :
    Changed digest store after (.activate args) answer := by
  obtain ⟨policy, found, served⟩ := requireSome_bind_eq_ok.mp served
  obtain ⟨selected, located, served⟩ := requireSome_bind_eq_ok.mp served
  obtain ⟨prepared, served⟩ := require_bind_eq_ok.mp served
  obtain ⟨unchanged, served⟩ := require_bind_eq_ok.mp served
  obtain ⟨valid, served⟩ := require_bind_eq_ok.mp served
  cases served
  refine ⟨now, policy, selected, ⟨found, located, of_decide_eq_true prepared, of_decide_eq_true unchanged⟩, valid, ?_, ?_, rfl⟩
  · exact congrArg _ retire_policies
  · refine activated_revisions fun active current same => ?_
    obtain ⟨member, _, status⟩ := mem_of_findStatus current
    obtain rfl := List.inj_on_of_nodup_map distinct member (mem_of_findRevision located).1 same
    rw [status] at prepared
    cases prepared

theorem changed_of_accepted {entry : PolicyEntry} (distinct : (store.revisions.map (·.id)).Nodup) (accepted : Accepted digest entry store after) :
    Changed digest store after entry.1 entry.2 := by
  obtain ⟨strategies, now, served⟩ := accepted
  obtain ⟨request, answer⟩ := entry
  cases request with
  | create => exact createStrategyMarketPolicy_changed served
  | prepare => exact prepareStrategyMarketPolicyRevision_changed served
  | save => exact saveStrategyMarketPolicyRevision_changed served
  | activate => exact activateStrategyMarketPolicyRevision_changed distinct served

end Changes

section Invariant

variable {store after : PolicyStore}

/-- What holds of the tables between any two requests. -/
structure Sound (store : PolicyStore) : Prop where
  policies : (store.policies.map (·.id)).Nodup
  strategies : (store.policies.map (·.strategyId)).Nodup
  revisions : (store.revisions.map (·.id)).Nodup
  owned : ∀ revision ∈ store.revisions, revision.policyId ∈ store.policies.map (·.id)
  numbered : ∀ policy ∈ store.policies, ∃ count,
    (store.revisionsOf policy.id).map (·.revision) = List.range' 1 (count + 1)
  one : ∀ first ∈ store.revisions, ∀ second ∈ store.revisions, first.policyId = second.policyId →
    first.status = second.status → first.status ≠ .retired → first.id = second.id
  valid : ∀ revision ∈ store.revisions, revision.status = .active →
    (validateMarketPolicyRules revision.rules).valid = true

theorem Sound.empty : Sound ⟨[], [], []⟩ :=
  ⟨List.nodup_nil, List.nodup_nil, List.nodup_nil, nofun, nofun, nofun, nofun⟩

theorem revisionsOf_map (store : PolicyStore) (policyId : Nat) :
    (store.revisionsOf policyId).map (·.revision) =
      ((store.revisions.map fun row => (row.policyId, row.revision)).filter (·.1 = policyId)).map (·.2) := by
  rw [List.filter_map, List.map_map]
  rfl

/-- The rows are rewritten and keep their identities. -/
theorem Sound.map (sound : Sound store) {change : PolicyRevision → PolicyRevision}
    (ids : after.policies.map (·.id) = store.policies.map (·.id))
    (strategies : after.policies.map (·.strategyId) = store.policies.map (·.strategyId))
    (revisions : after.revisions = store.revisions.map change)
    (same : ∀ row, (change row).id = row.id ∧ (change row).policyId = row.policyId ∧ (change row).revision = row.revision)
    (one : ∀ first ∈ store.revisions, ∀ second ∈ store.revisions, first.policyId = second.policyId →
      (change first).status = (change second).status → (change first).status ≠ .retired → first.id = second.id)
    (valid : ∀ row ∈ store.revisions, (change row).status = .active →
      (validateMarketPolicyRules (change row).rules).valid = true) : Sound after := by
  refine ⟨ids ▸ sound.policies, strategies ▸ sound.strategies, ?_, ?_, fun policy member => ?_, ?_, ?_⟩
  · have kept : after.revisions.map (·.id) = store.revisions.map (·.id) := by
      rw [revisions, List.map_map]
      exact List.map_congr_left fun row _ => (same row).1
    exact kept ▸ sound.revisions
  · intro row member
    rw [revisions] at member
    obtain ⟨old, present, rfl⟩ := List.mem_map.mp member
    rw [(same old).2.1, ids]
    exact sound.owned old present
  · have listed : policy.id ∈ store.policies.map (·.id) := ids ▸ List.mem_map_of_mem member
    obtain ⟨old, present, own⟩ := List.mem_map.mp listed
    obtain ⟨count, numbers⟩ := sound.numbered old present
    refine ⟨count, ?_⟩
    rw [← numbers, revisionsOf_map, revisionsOf_map, own, revisions, List.map_map]
    refine congrArg (fun pairs : List (Nat × Nat) => (pairs.filter _).map _) (List.map_congr_left fun row _ => ?_)
    rw [Function.comp_apply, (same row).2.1, (same row).2.2]
  · rw [revisions]
    intro first member second other owner status current
    obtain ⟨one', present, rfl⟩ := List.mem_map.mp member
    obtain ⟨two', listed, rfl⟩ := List.mem_map.mp other
    rw [(same one').1, (same two').1]
    rw [(same one').2.1, (same two').2.1] at owner
    exact one one' present two' listed owner status current
  · rw [revisions]
    intro row member active
    obtain ⟨old, present, rfl⟩ := List.mem_map.mp member
    exact valid old present active

/-- A prepared revision joins a policy that has none, with the next number. -/
theorem Sound.insert (sound : Sound store) {policyId number : Nat} {changeNote : Option String} {rules : List PolicyRule}
    {policies : List StrategyMarketPolicy} (count : Nat)
    (revisions : after.revisions = store.revisions ++ [store.newRevision policyId number changeNote rules])
    (kept : after.policies = policies) (distinct : (policies.map (·.id)).Nodup)
    (strategies : (policies.map (·.strategyId)).Nodup) (owner : policyId ∈ policies.map (·.id))
    (owned : ∀ id ∈ store.policies.map (·.id), id ∈ policies.map (·.id))
    (others : ∀ policy ∈ policies, policy.id ≠ policyId → policy ∈ store.policies)
    (numbers : (store.revisionsOf policyId).map (·.revision) = List.range' 1 count) (next : number = count + 1)
    (unprepared : ∀ row ∈ store.revisions, row.policyId = policyId → row.status ≠ .prepared) : Sound after := by
  refine ⟨kept ▸ distinct, kept ▸ strategies, ?_, ?_, ?_, ?_, ?_⟩
  · rw [revisions]
    exact nodup_append_new sound.revisions (nextId_not_mem _)
  · rw [revisions, kept]
    intro row member
    rcases List.mem_append.mp member with member | member
    · exact owned _ (sound.owned row member)
    · rw [List.mem_singleton.mp member]
      exact owner
  · rw [kept]
    intro policy member
    unfold PolicyStore.revisionsOf
    rw [revisions, List.filter_append, List.map_append]
    by_cases own : policy.id = policyId
    · refine ⟨count, ?_⟩
      rw [own]
      have first : ((store.revisions.filter fun row => row.policyId = policyId).map (·.revision)) = List.range' 1 count :=
        numbers
      rw [first, List.filter_cons_of_pos (by simp [PolicyStore.newRevision]), List.range'_concat, next]
      simp [PolicyStore.newRevision, Nat.add_comm]
    · obtain ⟨found, same⟩ := sound.numbered policy (others policy member own)
      refine ⟨found, ?_⟩
      have first : ((store.revisions.filter fun row => row.policyId = policy.id).map (·.revision)) =
        List.range' 1 (found + 1) := same
      rw [first, List.filter_cons_of_neg (by simp [PolicyStore.newRevision, Ne.symm own])]
      simp
  · rw [revisions]
    intro first member second other owner status current
    rcases List.mem_append.mp member with member | member <;> rcases List.mem_append.mp other with other | other
    · exact sound.one first member second other owner status current
    · rw [List.mem_singleton.mp other] at owner status
      exact absurd status (unprepared first member owner)
    · rw [List.mem_singleton.mp member] at owner status
      exact absurd status.symm (unprepared second other owner.symm)
    · rw [List.mem_singleton.mp member, List.mem_singleton.mp other]
  · rw [revisions]
    intro row member active
    rcases List.mem_append.mp member with member | member
    · exact sound.valid row member active
    · rw [List.mem_singleton.mp member] at active
      cases active

end Invariant

section Steps

variable {store after : PolicyStore} {entry : PolicyEntry}

theorem savedRow_same {revision : PolicyRevision} {rows : List DimensionRuleRow} {row : PolicyRevision} :
    (savedRow revision rows row).id = row.id ∧ (savedRow revision rows row).policyId = row.policyId ∧
      (savedRow revision rows row).revision = row.revision ∧ (savedRow revision rows row).status = row.status := by
  unfold savedRow
  split <;> exact ⟨rfl, rfl, rfl, rfl⟩

theorem activatedRow_same (now : Int) (active : Option PolicyRevision) (selected row : PolicyRevision) :
    (activatedRow now active selected row).id = row.id ∧ (activatedRow now active selected row).policyId = row.policyId ∧
      (activatedRow now active selected row).revision = row.revision ∧
      (activatedRow now active selected row).dimensionRules = row.dimensionRules := by
  unfold activatedRow
  split
  · exact ⟨rfl, rfl, rfl, rfl⟩
  · split <;> exact ⟨rfl, rfl, rfl, rfl⟩

theorem Sound.eq_of_id (sound : Sound store) {first second : PolicyRevision} (one : first ∈ store.revisions)
    (two : second ∈ store.revisions) (same : first.id = second.id) : first = second :=
  List.inj_on_of_nodup_map sound.revisions one two same

theorem mem_of_policyOf (found : store.policyOf strategyId = some policy) :
    policy ∈ store.policies ∧ policy.strategyId = strategyId := by
  have held := List.find?_some found
  exact ⟨List.mem_of_find?_eq_some found, of_decide_eq_true held⟩

theorem Sound.active_found (sound : Sound store) {policyId : Nat} {row : PolicyRevision} (member : row ∈ store.revisions)
    (owned : row.policyId = policyId) (active : row.status = .active) :
    store.findStatus policyId .active = some row := by
  have listed : row ∈ store.revisionsOf policyId := List.mem_filter.mpr ⟨member, decide_eq_true owned⟩
  obtain ⟨found, located⟩ := Option.isSome_iff_exists.mp
    (List.find?_isSome.mpr ⟨row, listed, decide_eq_true active⟩ :
      ((store.revisionsOf policyId).find? fun row => row.status = .active).isSome)
  obtain ⟨present, own, status⟩ := mem_of_findStatus located
  have same := sound.one found present row member (own.trans owned.symm) (status.trans active.symm) (by rw [status]; decide)
  obtain rfl := sound.eq_of_id present member same
  exact located

/-- An activation makes the selected row active, retires the active one of its policy, and leaves the others. -/
theorem Sound.activatedRow_cases (sound : Sound store) (now : Int) (policyId : Nat) (selected : PolicyRevision)
    {row : PolicyRevision} (member : row ∈ store.revisions) :
    (row.id = selected.id ∧ (activatedRow now (store.findStatus policyId .active) selected row).status = .active) ∨
      (row.id ≠ selected.id ∧ row.status = .active ∧ row.policyId = policyId ∧
        (activatedRow now (store.findStatus policyId .active) selected row).status = .retired) ∨
      (row.id ≠ selected.id ∧ (row.policyId = policyId → row.status ≠ .active) ∧
        activatedRow now (store.findStatus policyId .active) selected row = row) := by
  unfold activatedRow
  by_cases own : row.id = selected.id
  · exact .inl ⟨own, by rw [if_pos own]⟩
  · rw [if_neg own]
    by_cases current : row.policyId = policyId ∧ row.status = .active
    · have found := sound.active_found member current.1 current.2
      exact .inr (.inl ⟨own, current.2, current.1, by rw [found, Option.any_some, if_pos (decide_eq_true rfl)]⟩)
    · refine .inr (.inr ⟨own, fun owned active => current ⟨owned, active⟩, if_neg fun gone => ?_⟩)
      obtain ⟨active, found, same⟩ := (Option.any_eq_true _ _).mp gone
      obtain ⟨present, owned, status⟩ := mem_of_findStatus found
      obtain rfl := sound.eq_of_id present member (of_decide_eq_true same)
      exact current ⟨owned, status⟩

theorem Loaded.mem {revisionId : Nat} {fingerprint : String}
    (loaded : Loaded digest store strategyId revisionId fingerprint policy revision) :
    revision ∈ store.revisions ∧ revision.policyId = policy.id ∧ revision.id = revisionId :=
  mem_of_findRevision loaded.found

section

variable (sound : Sound store)
include sound

theorem Sound.latest_revision {policy : StrategyMarketPolicy} {latest : PolicyRevision}
    (member : policy ∈ store.policies) (last : store.latestRevision policy.id = some latest) :
    (store.revisionsOf policy.id).map (·.revision) = List.range' 1 latest.revision := by
  obtain ⟨count, numbers⟩ := sound.numbered policy member
  have final : ((store.latestRevision policy.id).map (·.revision)).getD 0 = count + 1 := latest_of_numbered numbers
  rw [last] at final
  rw [numbers, ← final]
  rfl

variable {answer : PolicyAnswer}

theorem create_sound
    (changed : Changed digest store after (.create strategyId actorUserId changeNote) answer) : Sound after := by
  obtain ⟨now, free, policies, revisions, _⟩ := changed
  have fresh : (store.newPolicy strategyId now).id ∉ store.policies.map (·.id) := nextId_not_mem _
  have unused : strategyId ∉ store.policies.map (·.strategyId) := fun member => by
    obtain ⟨policy, listed, same⟩ := List.mem_map.mp member
    exact List.find?_eq_none.mp free policy listed (decide_eq_true same)
  have unowned : ∀ row ∈ store.revisions, row.policyId ≠ (store.newPolicy strategyId now).id := fun row member same =>
    fresh (same ▸ sound.owned row member)
  refine sound.insert 0 revisions policies (nodup_append_new sound.policies fresh)
    (nodup_append_new sound.strategies unused) ?_ ?_ ?_ ?_ rfl fun row member owned => absurd owned (unowned row member)
  · rw [List.map_append]
    exact List.mem_concat_self
  · intro id member
    rw [List.map_append]
    exact List.mem_append_left _ member
  · intro policy member different
    rcases List.mem_append.mp member with member | member
    · exact member
    · exact absurd (congrArg StrategyMarketPolicy.id (List.mem_singleton.mp member)) different
  · have none : store.revisionsOf (store.newPolicy strategyId now).id = [] :=
      List.filter_eq_nil_iff.mpr fun row member => by simpa using unowned row member
    rw [none]
    rfl

theorem prepare_sound (changed : Changed digest store after (.prepare strategyId actorUserId changeNote) answer) :
    Sound after := by
  obtain ⟨policy, latest, found, unprepared, last, policies, revisions, _⟩ := changed
  obtain ⟨member, _⟩ := mem_of_policyOf found
  refine sound.insert _ revisions policies sound.policies sound.strategies (List.mem_map_of_mem member) (fun _ listed => listed)
    (fun _ listed _ => listed) (sound.latest_revision member last) rfl fun row listed owned prepared => ?_
  have own : row ∈ store.revisionsOf policy.id := List.mem_filter.mpr ⟨listed, decide_eq_true owned⟩
  exact List.find?_eq_none.mp unprepared row own (decide_eq_true prepared)

theorem save_sound (changed : Changed digest store after (.save args) answer) : Sound after := by
  obtain ⟨policy, revision, rows, loaded, policies, revisions, _⟩ := changed
  refine sound.map (by rw [policies]) (by rw [policies]) revisions
    (fun row => ⟨(savedRow_same).1, (savedRow_same).2.1,
      (savedRow_same).2.2.1⟩) ?_ ?_
  · intro first member second other owner status current
    rw [(savedRow_same).2.2.2] at status current
    rw [(savedRow_same).2.2.2] at status
    exact sound.one first member second other owner status current
  · intro row member active
    rw [(savedRow_same).2.2.2] at active
    have other : row.id ≠ revision.id := by
      intro same
      rw [sound.eq_of_id member loaded.mem.1 same, loaded.prepared] at active
      cases active
    rw [savedRow, if_neg other]
    exact sound.valid row member active

theorem activate_sound {args : ActivateRevision}
    (changed : Changed digest store after (.activate args) answer) : Sound after := by
  obtain ⟨now, policy, selected, loaded, valid, policies, revisions, _⟩ := changed
  obtain ⟨selectedMember, owned, _⟩ := loaded.mem
  have same := activatedRow_same now (store.findStatus policy.id .active) selected
  refine sound.map ?_ ?_ revisions (fun row => ⟨(same row).1, (same row).2.1, (same row).2.2.1⟩) ?_ ?_
  · rw [policies]
    exact map_updateWhere fun _ _ => rfl
  · rw [policies]
    exact map_updateWhere fun _ _ => rfl
  · intro first member second other owner status current
    rcases sound.activatedRow_cases now policy.id selected member with
      ⟨chosen, active⟩ | ⟨_, _, _, retired⟩ | ⟨_, idle, kept⟩
    · rcases sound.activatedRow_cases now policy.id selected other with
        ⟨picked, _⟩ | ⟨_, _, _, retired⟩ | ⟨_, idle, kept⟩
      · exact chosen.trans picked.symm
      · rw [active, retired] at status
        cases status
      · rw [active, kept] at status
        obtain rfl := sound.eq_of_id member selectedMember chosen
        exact absurd status.symm (idle (owner.symm.trans owned))
    · exact absurd retired current
    · rcases sound.activatedRow_cases now policy.id selected other with
        ⟨picked, active⟩ | ⟨_, _, _, retired⟩ | ⟨_, _, kept'⟩
      · rw [active, kept] at status
        obtain rfl := sound.eq_of_id other selectedMember picked
        exact absurd status (idle (owner.trans owned))
      · exact absurd (status.trans retired) current
      · rw [kept, kept'] at status
        rw [kept] at current
        exact sound.one first member second other owner status current
  · intro row member active
    have rules : (activatedRow now (store.findStatus policy.id .active) selected row).rules = row.rules :=
      congrArg (List.map DimensionRuleRow.rule) (same row).2.2.2
    rw [rules]
    rcases sound.activatedRow_cases now policy.id selected member with
      ⟨chosen, _⟩ | ⟨_, _, _, retired⟩ | ⟨_, _, kept⟩
    · rw [sound.eq_of_id member selectedMember chosen]
      exact valid
    · rw [retired] at active
      cases active
    · rw [kept] at active
      exact sound.valid row member active

theorem Sound.step (accepted : Accepted digest entry store after) : Sound after := by
  have changed := changed_of_accepted sound.revisions accepted
  obtain ⟨request, answer⟩ := entry
  cases request with
  | create => exact create_sound sound changed
  | prepare => exact prepare_sound sound changed
  | save => exact save_sound sound changed
  | activate => exact activate_sound sound changed

end

end Steps

variable {entries : List PolicyEntry}

section Histories

variable {store after : PolicyStore} {entry : PolicyEntry}

/-- What a later version of a revision keeps: its identity, and its rules once it has been activated. -/
structure Kept (revision later : PolicyRevision) : Prop where
  id : later.id = revision.id
  policyId : later.policyId = revision.policyId
  number : later.revision = revision.revision
  settled : revision.status ≠ .prepared → later.status ≠ .prepared ∧ later.dimensionRules = revision.dimensionRules
  retired : revision.status = .retired → later.status = .retired

theorem Kept.refl (revision : PolicyRevision) : Kept revision revision :=
  ⟨rfl, rfl, rfl, fun settled => ⟨settled, rfl⟩, fun retired => retired⟩

theorem Kept.trans {first second third : PolicyRevision} (one : Kept first second) (two : Kept second third) :
    Kept first third := by
  refine ⟨two.id.trans one.id, two.policyId.trans one.policyId, two.number.trans one.number, fun settled => ?_,
    fun retired => two.retired (one.retired retired)⟩
  obtain ⟨later, same⟩ := one.settled settled
  exact ⟨(two.settled later).1, (two.settled later).2.trans same⟩

/-- The entry is a save of the revision that led to this fingerprint. -/
def SavedAs (entry : PolicyEntry) (revisionId : Nat) (fingerprint : String) : Prop :=
  ∃ args presented, entry = (.save args, .revision presented) ∧ args.revisionId = revisionId ∧
    presented.configurationFingerprint = fingerprint

def PolicyRevision.fingerprint (digest : List CanonicalRule → String) (revision : PolicyRevision) : String :=
  strategyMarketPolicyConfigurationFingerprint digest revision.rules

/-- What one accepted request makes of a revision: its rules stay as they are or it is saved. -/
theorem followed_of_accepted (sound : Sound store) (accepted : Accepted digest entry store after) {revision : PolicyRevision}
    (member : revision ∈ store.revisions) : ∃ later ∈ after.revisions, Kept revision later ∧
      (later.dimensionRules = revision.dimensionRules ∨ SavedAs entry revision.id (later.fingerprint digest)) := by
  have changed := changed_of_accepted sound.revisions accepted
  obtain ⟨request, answer⟩ := entry
  cases request with
  | create =>
    obtain ⟨now, _, _, revisions, _⟩ := changed
    exact ⟨revision, revisions ▸ List.mem_append_left _ member, .refl _, .inl rfl⟩
  | prepare =>
    obtain ⟨policy, latest, _, _, _, _, revisions, _⟩ := changed
    exact ⟨revision, revisions ▸ List.mem_append_left _ member, .refl _, .inl rfl⟩
  | save args =>
    obtain ⟨policy, loadedRevision, rows, loaded, _, revisions, answered⟩ := changed
    refine ⟨savedRow loadedRevision rows revision, revisions ▸ List.mem_map_of_mem member, ?_⟩
    by_cases own : revision.id = loadedRevision.id
    · obtain rfl := sound.eq_of_id member loaded.mem.1 own
      rw [savedRow, if_pos rfl]
      refine ⟨⟨rfl, rfl, rfl, fun settled => absurd loaded.prepared settled, fun retired => retired⟩, .inr ?_⟩
      exact ⟨args, _, congrArg _ answered, loaded.mem.2.2.symm, rfl⟩
    · rw [savedRow, if_neg own]
      exact ⟨.refl _, .inl rfl⟩
  | activate args =>
    obtain ⟨now, policy, selected, loaded, _, _, revisions, _⟩ := changed
    obtain ⟨same, owned, number, rules⟩ := activatedRow_same now (store.findStatus policy.id .active) selected revision
    refine ⟨_, revisions ▸ List.mem_map_of_mem member, ⟨same, owned, number, fun settled => ⟨?_, rules⟩, fun retired => ?_⟩,
      .inl rules⟩
    · rcases sound.activatedRow_cases now policy.id selected member with ⟨_, active⟩ | ⟨_, _, _, retired⟩ | ⟨_, _, kept⟩
      · rw [active]
        decide
      · rw [retired]
        decide
      · rwa [kept]
    · rcases sound.activatedRow_cases now policy.id selected member with ⟨chosen, _⟩ | ⟨_, active, _, _⟩ | ⟨_, _, kept⟩
      · rw [sound.eq_of_id member loaded.mem.1 chosen, loaded.prepared] at retired
        cases retired
      · rw [active] at retired
        cases retired
      · rwa [kept]

theorem sound_of_served (sound : Sound store) (served : Served (Accepted digest) store entries after) : Sound after :=
  served.invariant sound fun _ _ _ sound accepted => sound.step accepted

theorem kept_of_served (sound : Sound store)
    (served : Served (Accepted digest) store entries after) {revision : PolicyRevision} (member : revision ∈ store.revisions) :
    ∃ later ∈ after.revisions, Kept revision later := by
  induction served with
  | start => exact ⟨revision, member, .refl _⟩
  | next earlier accepted ih =>
    obtain ⟨middle, listed, kept⟩ := ih
    obtain ⟨later, final, follows, _⟩ := followed_of_accepted (sound_of_served sound earlier) accepted listed
    exact ⟨later, final, kept.trans follows⟩

/-- Only a save that leads to a fingerprint gives a revision this fingerprint. -/
theorem savedAs_of_served (sound : Sound store)
    (served : Served (Accepted digest) store entries after) {revision later : PolicyRevision} {fingerprint : String}
    (member : revision ∈ store.revisions) (other : revision.fingerprint digest ≠ fingerprint) (listed : later ∈ after.revisions)
    (same : later.id = revision.id) (restored : later.fingerprint digest = fingerprint) :
    ∃ entry ∈ entries, SavedAs entry revision.id fingerprint := by
  induction served generalizing later with
  | start =>
    obtain rfl := sound.eq_of_id member listed same.symm
    exact absurd restored other
  | next earlier accepted ih =>
    have soundBefore := sound_of_served sound earlier
    obtain ⟨middle, present, kept⟩ := kept_of_served sound earlier member
    obtain ⟨final, found, follows, how⟩ := followed_of_accepted soundBefore accepted present
    obtain rfl := (soundBefore.step accepted).eq_of_id found listed (follows.id.trans (kept.id.trans same.symm))
    rcases how with unchanged | saved
    · have before : middle.fingerprint digest = fingerprint := by
        rw [← restored]
        exact congrArg (fun rows : List DimensionRuleRow => digest (canonicalRules (rows.map (·.rule)))) unchanged.symm
      obtain ⟨entry, present', saved⟩ := ih present kept.id before
      exact ⟨entry, List.mem_append_left _ present', saved⟩
    · rw [kept.id, restored] at saved
      exact ⟨_, List.mem_concat_self, saved⟩

end Histories

section Lifecycle

variable {store after : PolicyStore} {log : List PolicyEntry}

/-- The policy of a revision while it has this status. -/
def statusKey (status : PolicyRevisionStatus) (revision : PolicyRevision) : Option Nat :=
  if revision.status = status then some revision.policyId else none

theorem statusKey_eq_some :
    statusKey status revision = some policyId ↔ revision.status = status ∧ revision.policyId = policyId := by
  unfold statusKey
  split
  case isTrue same => simp [same]
  case isFalse other => simp [other]

theorem Sound.unique (sound : Sound store) {status : PolicyRevisionStatus} (current : status ≠ .retired) :
    Unique (statusKey status) store.revisions := by
  refine Unique.of_identified sound.revisions fun first member second other policyId keyed same => ?_
  obtain ⟨firstStatus, firstOwner⟩ := statusKey_eq_some.mp keyed
  obtain ⟨secondStatus, secondOwner⟩ := statusKey_eq_some.mp same
  exact sound.one first member second other (firstOwner.trans secondOwner.symm) (firstStatus.trans secondStatus.symm)
    (firstStatus ▸ current)

/-- What an activation has activated. -/
structure Activated (digest : List CanonicalRule → String) (store after : PolicyStore) (args : ActivateRevision)
    (revision activated : PolicyRevision) : Prop where
  loaded : revision ∈ store.revisions
  id : revision.id = args.revisionId
  prepared : revision.status = .prepared
  fingerprint : revision.fingerprint digest = args.expectedConfigurationFingerprint
  stored : activated ∈ after.revisions
  same : activated.id = revision.id
  active : activated.status = .active
  rules : activated.dimensionRules = revision.dimensionRules

theorem activated_of_accepted (sound : Sound store) {args : ActivateRevision} {answer : PolicyAnswer}
    (accepted : Accepted digest (.activate args, answer) store after) :
    ∃ revision activated, Activated digest store after args revision activated := by
  obtain ⟨now, policy, selected, loaded, _, _, revisions, _⟩ := changed_of_accepted sound.revisions accepted
  obtain ⟨same, _, _, rules⟩ := activatedRow_same now (store.findStatus policy.id .active) selected selected
  refine ⟨selected, _, ⟨loaded.mem.1, loaded.mem.2.2, loaded.prepared, loaded.fingerprint,
    revisions ▸ List.mem_map_of_mem loaded.mem.1, same, ?_, rules⟩⟩
  rcases sound.activatedRow_cases now policy.id selected loaded.mem.1 with ⟨_, active⟩ | ⟨other, _⟩ | ⟨other, _⟩
  · exact active
  · exact absurd rfl other
  · exact absurd rfl other

/-- A revision becomes active by an activation of it only. -/
theorem active_of_accepted (sound : Sound store) {entry : PolicyEntry} (accepted : Accepted digest entry store after)
    {row : PolicyRevision} (member : row ∈ after.revisions) (active : row.status = .active) :
    row ∈ store.revisions ∨ ∃ args revision, entry.1 = .activate args ∧ Activated digest store after args revision row := by
  have changed := changed_of_accepted sound.revisions accepted
  obtain ⟨request, answer⟩ := entry
  cases request with
  | create =>
    obtain ⟨now, _, _, revisions, _⟩ := changed
    rw [revisions] at member
    refine .inl ((List.mem_append.mp member).resolve_right fun added => ?_)
    rw [List.mem_singleton.mp added] at active
    cases active
  | prepare =>
    obtain ⟨policy, latest, _, _, _, _, revisions, _⟩ := changed
    rw [revisions] at member
    refine .inl ((List.mem_append.mp member).resolve_right fun added => ?_)
    rw [List.mem_singleton.mp added] at active
    cases active
  | save args =>
    obtain ⟨policy, revision, rows, loaded, _, revisions, _⟩ := changed
    rw [revisions] at member
    obtain ⟨old, present, rfl⟩ := List.mem_map.mp member
    rw [(savedRow_same).2.2.2] at active
    have other : old.id ≠ revision.id := by
      intro same
      rw [sound.eq_of_id present loaded.mem.1 same, loaded.prepared] at active
      cases active
    rw [savedRow, if_neg other]
    exact .inl present
  | activate args =>
    obtain ⟨now, policy, selected, loaded, _, _, revisions, _⟩ := changed
    have stored := member
    rw [revisions] at member
    obtain ⟨old, present, rfl⟩ := List.mem_map.mp member
    obtain ⟨same, _, _, rules⟩ := activatedRow_same now (store.findStatus policy.id .active) selected old
    rcases sound.activatedRow_cases now policy.id selected present with ⟨chosen, _⟩ | ⟨_, _, _, retired⟩ | ⟨_, _, kept⟩
    · obtain rfl := sound.eq_of_id present loaded.mem.1 chosen
      exact .inr ⟨args, old, rfl, ⟨present, loaded.mem.2.2, loaded.prepared, loaded.fingerprint, stored, same, active, rules⟩⟩
    · rw [retired] at active
      cases active
    · rw [kept]
      exact .inl present

/-- A save answers with the fingerprint of the rules it leaves. -/
theorem saved_of_accepted (sound : Sound store) {args : SaveRevision} {answer : PolicyAnswer}
    (accepted : Accepted digest (.save args, answer) store after) :
    (∃ revision ∈ store.revisions, revision.id = args.revisionId ∧
        revision.fingerprint digest = args.expectedConfigurationFingerprint) ∧
      ∃ saved ∈ after.revisions, saved.id = args.revisionId ∧ answer = .revision (presentRevision digest saved) := by
  obtain ⟨policy, revision, rows, loaded, _, revisions, answered⟩ := changed_of_accepted sound.revisions accepted
  refine ⟨⟨revision, loaded.mem.1, loaded.mem.2.2, loaded.fingerprint⟩, savedRow revision rows revision,
    revisions ▸ List.mem_map_of_mem loaded.mem.1, ?_, ?_⟩
  · rw [(savedRow_same).1]
    exact loaded.mem.2.2
  · rw [savedRow, if_pos rfl]
    exact answered

/-- Of two saves on one fingerprint, the first changing it, the second succeeds only after another led back to it. -/
theorem restored_between {earlier between rest : List PolicyEntry} {args' : SaveRevision}
    {presented presented' : PresentedRevision}
    (served : Served (Accepted digest) ⟨[], [], []⟩
      (earlier ++ (.save args, .revision presented) :: between ++ (.save args', .revision presented') :: rest) store)
    (sameRevision : args'.revisionId = args.revisionId)
    (sameBase : args'.expectedConfigurationFingerprint = args.expectedConfigurationFingerprint)
    (changed : presented.configurationFingerprint ≠ args.expectedConfigurationFingerprint) :
    ∃ entry ∈ between, SavedAs entry args.revisionId args.expectedConfigurationFingerprint := by
  obtain ⟨second, firstPart, secondPart⟩ := served.split
  obtain ⟨first, begun, middle⟩ := firstPart.split
  obtain ⟨firstAfter, firstSave, during⟩ := middle.uncons
  obtain ⟨_, secondSave, _⟩ := secondPart.uncons
  have soundFirst := sound_of_served Sound.empty begun
  have soundAfter := soundFirst.step firstSave
  obtain ⟨_, saved, stored, savedId, answered⟩ := saved_of_accepted soundFirst firstSave
  obtain ⟨⟨loaded, present, loadedId, base⟩, _⟩ := saved_of_accepted (sound_of_served soundAfter during) secondSave
  have fingerprint : saved.fingerprint digest = presented.configurationFingerprint := by
    rw [PolicyAnswer.revision.inj answered]
    rfl
  obtain ⟨entry, member, restored⟩ := savedAs_of_served soundAfter during stored (fingerprint ▸ changed) present
    (loadedId.trans (sameRevision.trans savedId.symm)) (base.trans sameBase)
  exact ⟨entry, member, savedId ▸ restored⟩

/-- A strategy has at most one policy, a policy at most one active and one prepared revision, numbered from one, an active
one valid. Revisions are kept, and rules once activated. Only an activation with the caller's fingerprint makes one active.
Of two saves on one fingerprint, the first changing it, the second succeeds only after another led back to it. -/
theorem policy_revision_lifecycle (served : Served (Accepted digest) ⟨[], [], []⟩ log store) :
    (store.policies.map (·.strategyId)).Nodup ∧
      Unique (statusKey .active) store.revisions ∧
      Unique (statusKey .prepared) store.revisions ∧
      (∀ policy ∈ store.policies, ∃ count, (store.revisionsOf policy.id).map (·.revision) = List.range' 1 (count + 1)) ∧
      (∀ revision ∈ store.revisions, revision.status = .active → (validateMarketPolicyRules revision.rules).valid = true) ∧
      (∀ entries later, Served (Accepted digest) store entries later →
        ∀ revision ∈ store.revisions, ∃ row ∈ later.revisions, Kept revision row) ∧
      (∀ args answer after, Accepted digest (.activate args, answer) store after →
        ∃ revision activated, Activated digest store after args revision activated) ∧
      (∀ entry after, Accepted digest entry store after → ∀ row ∈ after.revisions, row.status = .active →
        row ∈ store.revisions ∨ ∃ args revision, entry.1 = .activate args ∧ Activated digest store after args revision row) ∧
      ∀ earlier between rest args args' presented presented',
        log = earlier ++ (.save args, .revision presented) :: between ++ (.save args', .revision presented') :: rest →
        args'.revisionId = args.revisionId →
        args'.expectedConfigurationFingerprint = args.expectedConfigurationFingerprint →
        presented.configurationFingerprint ≠ args.expectedConfigurationFingerprint →
        ∃ entry ∈ between, SavedAs entry args.revisionId args.expectedConfigurationFingerprint := by
  have sound := sound_of_served Sound.empty served
  refine ⟨sound.strategies, sound.unique (by decide), sound.unique (by decide), sound.numbered, sound.valid, ?_, ?_, ?_, ?_⟩
  · intro entries later more revision member
    exact kept_of_served sound more member
  · intro args answer after accepted
    exact activated_of_accepted sound accepted
  · intro entry after accepted row member active
    exact active_of_accepted sound accepted member active
  · intro earlier between rest args args' presented presented' split sameRevision sameBase changed
    exact restored_between (split ▸ served) sameRevision sameBase changed

end Lifecycle

/-- Serve requests one after the other. -/
def serveAll (digest : List CanonicalRule → String) (strategies : List Nat) (now : Int) (store : PolicyStore) :
    List PolicyRequest → Except HttpError (List PolicyEntry × PolicyStore)
  | [] => .ok ([], store)
  | request :: rest => do
    let (answer, next) ← request.serve digest strategies now store
    let (entries, after) ← serveAll digest strategies now next rest
    .ok ((request, answer) :: entries, after)

theorem served_of_serveAll {requests : List PolicyRequest} {store after : PolicyStore}
    (all : serveAll digest strategies now store requests = .ok (entries, after)) :
    Served (Accepted digest) store entries after := by
  induction requests generalizing store entries with
  | nil =>
    cases all
    exact .start
  | cons request rest ih =>
    obtain ⟨⟨answer, next⟩, first, all⟩ := bind_eq_ok.mp all
    obtain ⟨⟨later, last⟩, others, all⟩ := bind_eq_ok.mp all
    cases all
    have one : Served (Accepted digest) store [(request, answer)] next := .next .start ⟨strategies, now, first⟩
    exact one.append (ih others)

/-- A digest that tells the requirement and the states of the rules. -/
def sampleDigest (rules : List CanonicalRule) : String :=
  String.join (rules.map fun
    | .rule _ _ requirement states => requirement ++ String.join states
    | .missing _ => "")

/-- Rules that require these states of the trend and ignore the rest. -/
def trendRules (states : List String) : List PolicyRule :=
  initialRules.map fun rule =>
    if rule.dimension = "TREND" then { rule with requirement := "REQUIRED", allowedStates := states } else rule

def sampleRevision (rules : List PolicyRule) : PolicyRevision := PolicyStore.newRevision ⟨[], [], []⟩ 1 1 none rules

def saveSample (before after : List PolicyRule) : SaveRevision := ⟨1, 1, sampleDigest (canonicalRules before), after, 7⟩

def activateSample (rules : List PolicyRule) : ActivateRevision := ⟨1, 1, sampleDigest (canonicalRules rules), 7⟩

/-- A save and its answer. -/
def savedSample (before after : List PolicyRule) : PolicyEntry :=
  (.save (saveSample before after), .revision (presentRevision sampleDigest (sampleRevision after)))

/-- The rules change from one version to another and back, and the third version is activated. -/
def revisionSample : List PolicyEntry :=
  [(.create 1 7 none, .policy ⟨1, 1, "SHADOW_ONLY", 0⟩ [presentRevision sampleDigest (sampleRevision initialRules)]),
    savedSample initialRules (trendRules ["UP"]),
    savedSample (trendRules ["UP"]) (trendRules ["DOWN"]),
    savedSample (trendRules ["DOWN"]) (trendRules ["UP"]),
    savedSample (trendRules ["UP"]) (trendRules ["NEUTRAL"]),
    (.activate (activateSample (trendRules ["NEUTRAL"])), .revision (presentRevision sampleDigest
      { sampleRevision (trendRules ["NEUTRAL"]) with status := .active, activatedAt := some 0 }))]

theorem revisionSample_serveAll :
    (serveAll sampleDigest [1] 0 ⟨[], [], []⟩ (revisionSample.map (·.1))).toOption.map
        (fun served => (served.1, served.2.revisions.map fun revision => (revision.id, revision.status))) =
      some (revisionSample, [(1, .active)]) := by
  decide +kernel

theorem revisionSample_served : ∃ store, Served (Accepted sampleDigest) ⟨[], [], []⟩ revisionSample store ∧
    store.revisions.map (fun revision => (revision.id, revision.status)) = [(1, .active)] := by
  have all := revisionSample_serveAll
  cases served : serveAll sampleDigest [1] 0 ⟨[], [], []⟩ (revisionSample.map (·.1)) with
  | error => simp [served, Except.toOption] at all
  | ok result =>
    simp only [served, Except.toOption, Option.map_some] at all
    obtain ⟨entries, revisions⟩ := Prod.mk.inj (Option.some.inj all)
    exact ⟨result.2, entries ▸ served_of_serveAll served, revisions⟩

theorem policy_revision_lifecycle_activated : ∃ store, Served (Accepted sampleDigest) ⟨[], [], []⟩ revisionSample store ∧
    store.revisions.map (fun revision => (revision.id, revision.status)) = [(1, .active)] ∧
    Unique (statusKey .active) store.revisions := by
  obtain ⟨store, served, revisions⟩ := revisionSample_served
  exact ⟨store, served, revisions, (policy_revision_lifecycle served).2.1⟩

/-- Two saves with different results both succeed when one between them led back to the fingerprint. -/
theorem policy_revision_lifecycle_saved_twice : ¬ ∀ (digest : List CanonicalRule → String) (log : List PolicyEntry)
    (store : PolicyStore), Served (Accepted digest) ⟨[], [], []⟩ log store →
    ∀ earlier between rest args args' presented presented',
      log = earlier ++ (.save args, .revision presented) :: between ++ (.save args', .revision presented') :: rest →
      args'.revisionId = args.revisionId →
      args'.expectedConfigurationFingerprint = args.expectedConfigurationFingerprint →
      presented'.configurationFingerprint = presented.configurationFingerprint := by
  intro single
  obtain ⟨store, served, _⟩ := revisionSample_served
  have same := single sampleDigest revisionSample store served (revisionSample.take 2) [savedSample (trendRules ["DOWN"])
    (trendRules ["UP"])] (revisionSample.drop 5) (saveSample (trendRules ["UP"]) (trendRules ["DOWN"]))
    (saveSample (trendRules ["UP"]) (trendRules ["NEUTRAL"])) _ _ rfl rfl rfl
  exact absurd same (by decide +kernel)

end AiTrader.MarketPolicy
