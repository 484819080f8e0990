import AiTrader.Attention.OperationalAttention

/-! # Runs of the attention calls

Each call commits one transaction at most; an observation that meets a uniqueness conflict tries once more. -/

namespace AiTrader.Attention

open Library Table

inductive AttentionRequest where
  | openOrObserve (args : OpenOrObserve)
  | acknowledge (args : Acknowledge)
  | resolve (args : Resolve)

def AttentionRequest.serve (ownership : Ownership) (store : AttentionStore) :
    AttentionRequest → Except HttpError (Transition × AttentionStore)
  | .openOrObserve args => openOrObserveTransaction ownership args store
  | .acknowledge args => acknowledgeOperationalAttention args store
  | .resolve args => resolveOperationalAttention args store

/-- How often a call starts its transaction again after a uniqueness conflict. -/
def AttentionRequest.retries : AttentionRequest → Nat
  | .openOrObserve _ => 1
  | _ => 0

structure PendingCall where
  request : AttentionRequest
  retries : Nat

structure AttentionSystem where
  store : AttentionStore
  pending : List PendingCall
  log : List (AttentionRequest × Transition)

/-- One step: a call arrives, commits, conflicts or fails, or another writer records a system event. -/
inductive AttentionStep : AttentionSystem → AttentionSystem → Prop where
  | call {system : AttentionSystem} (request : AttentionRequest) :
      AttentionStep system { system with pending := system.pending ++ [⟨request, request.retries⟩] }
  | commit {store after : AttentionStore} {front back : List PendingCall} {pending : PendingCall}
      {log : List (AttentionRequest × Transition)} {transition : Transition} (ownership : Ownership)
      (served : pending.request.serve ownership store = .ok (transition, after)) :
      AttentionStep ⟨store, front ++ pending :: back, log⟩
        ⟨after, front ++ back, log ++ [(pending.request, transition)]⟩
  | conflict {store : AttentionStore} {front back : List PendingCall} {request : AttentionRequest} {retries : Nat}
      {log : List (AttentionRequest × Transition)} :
      AttentionStep ⟨store, front ++ ⟨request, retries + 1⟩ :: back, log⟩ ⟨store, front ++ ⟨request, retries⟩ :: back, log⟩
  | fail {store : AttentionStore} {front back : List PendingCall} {pending : PendingCall}
      {log : List (AttentionRequest × Transition)} :
      AttentionStep ⟨store, front ++ pending :: back, log⟩ ⟨store, front ++ back, log⟩
  | elsewhere {system : AttentionSystem} (eventId : Nat) (fresh : eventId ∉ system.store.allEventIds) :
      AttentionStep system { system with store.eventIds := system.store.eventIds ++ [eventId] }

abbrev AttentionRun : AttentionSystem → AttentionSystem → Prop := Relation.ReflTransGen AttentionStep

/-- No attention, and system events of other writers only. -/
def AttentionSystem.empty (eventIds : List Nat) : AttentionSystem := ⟨⟨[], [], eventIds, []⟩, [], []⟩

/-- What an evidence link records of a transition; observations are none. -/
def EvidenceLink.evidence (events : List SystemEvent) (link : EvidenceLink) : Option (Nat × EventRelationKind × Nat) :=
  if link.relationKind = .observed then none
  else (events.find? (·.id = link.systemEventId)).map fun event =>
    (link.operationalAttentionId, link.relationKind, event.payloadJson.revision)

/-- The transitions the store has evidence of, in the order of the links. -/
def AttentionStore.evidence (store : AttentionStore) : List (Nat × EventRelationKind × Nat) :=
  store.links.filterMap (·.evidence store.events)

/-- The evidence a committed transition calls for. -/
def Transition.evidence : Transition → Option (Nat × EventRelationKind × Nat)
  | .created attention => some (attention.id, .opened, attention.revision)
  | .observed _ after true => some (after.id, .escalated, after.revision)
  | .observed _ _ false => none
  | .acknowledged _ after => some (after.id, .acknowledged, after.revision)
  | .resolved _ after => some (after.id, .resolved, after.revision)

/-- The key of a condition that is not resolved. -/
def unresolvedKey (attention : OperationalAttention) : Option String :=
  if attention.status = .resolved then none else some attention.fingerprint

/-- What a transition does to the rows. -/
def Transition.Applied (store after : AttentionStore) : Transition → Prop
  | .created attention => (∀ row ∈ store.attentions, row.id ≠ attention.id) ∧
      after.attentions = store.attentions ++ [attention]
  | .observed before updated _ | .acknowledged before updated | .resolved before updated =>
    before ∈ store.attentions ∧ updated.id = before.id ∧
      after.attentions = updateWhere (·.id = before.id) (fun _ => updated) store.attentions

/-- What a committed call has seen and what it has made of it. -/
def Transition.Valid : AttentionRequest → Transition → Prop
  | .openOrObserve _, .created attention => attention.status = .opened ∧ attention.revision = 1
  | .openOrObserve _, .observed before after escalated =>
    before.status ≠ .resolved ∧ after.status ≠ .resolved ∧ after.fingerprint = before.fingerprint ∧
      after.revision = before.revision + 1 ∧
      (escalated = true → severityRank before.severity < severityRank after.severity ∧ after.status = .opened) ∧
      (escalated = false → after.severity = before.severity ∧ after.status = before.status)
  | .acknowledge args, .acknowledged before after =>
    before.id = args.id ∧ before.revision = args.expectedRevision ∧ before.status = .opened ∧
      after.status = .acknowledged ∧ after.fingerprint = before.fingerprint ∧ after.severity = before.severity ∧
      after.revision = before.revision + 1
  | .resolve args, .resolved before after =>
    before.id = args.id ∧ before.revision = args.expectedRevision ∧ before.status ≠ .resolved ∧
      after.status = .resolved ∧ after.fingerprint = before.fingerprint ∧ after.severity = before.severity ∧
      after.revision = before.revision + 1
  | _, _ => False

/-- The events have their own identifiers and every transition link has its event. -/
structure Recording (store : AttentionStore) : Prop where
  numbered : (store.events.map (·.id)).Nodup
  linked : ∀ link ∈ store.links, link.relationKind ≠ .observed → ∃ event ∈ store.events, event.id = link.systemEventId

/-- What holds of the tables between any two transactions. -/
structure Sound (store : AttentionStore) : Prop where
  identified : (store.attentions.map (·.id)).Nodup
  keyed : ∀ attention ∈ store.attentions, attention.activeKey = unresolvedKey attention
  active : Unique (·.activeKey) store.attentions
  recording : Recording store

/-- What later stores keep of an attention. -/
def Keeps (store after : AttentionStore) : Prop :=
  ∀ attention ∈ store.attentions, ∃ later ∈ after.attentions, later.id = attention.id ∧
    later.fingerprint = attention.fingerprint ∧ attention.revision ≤ later.revision ∧
    severityRank attention.severity ≤ severityRank later.severity ∧
    (later.revision = attention.revision → later = attention) ∧ (attention.status = .resolved → later = attention)

theorem Keeps.refl (store : AttentionStore) : Keeps store store := fun attention member =>
  ⟨attention, member, rfl, rfl, Nat.le_refl _, Nat.le_refl _, fun _ => rfl, fun _ => rfl⟩

theorem Keeps.trans {first second third : AttentionStore} (one : Keeps first second) (two : Keeps second third) :
    Keeps first third := by
  intro attention member
  obtain ⟨middle, listed, sameId, sameKey, older, lower, unchanged, settled⟩ := one attention member
  obtain ⟨last, final, sameId', sameKey', older', lower', unchanged', settled'⟩ := two middle listed
  refine ⟨last, final, sameId'.trans sameId, sameKey'.trans sameKey, older.trans older', lower.trans lower', ?_, ?_⟩
  · intro same
    rw [unchanged' (by omega)]
    exact unchanged (by omega)
  · intro resolved
    obtain rfl := settled resolved
    exact settled' resolved

section Recording

variable {store after last : AttentionStore} {attention : OperationalAttention} {added more : List (Nat × EventRelationKind × Nat)}

/-- Evidence is added and the attentions are left alone. -/
structure Records (store after : AttentionStore) (added : List (Nat × EventRelationKind × Nat)) : Prop where
  recording : Recording after
  evidence : after.evidence = store.evidence ++ added
  attentions : after.attentions = store.attentions

theorem Records.none (recording : Recording store) : Records store store [] :=
  ⟨recording, (List.append_nil _).symm, rfl⟩

theorem Records.trans (one : Records store after added) (two : Records after last more) :
    Records store last (added ++ more) := by
  refine ⟨two.recording, ?_, two.attentions.trans one.attentions⟩
  rw [two.evidence, one.evidence, List.append_assoc]

theorem evidence_append {events : List SystemEvent} {event : SystemEvent} {link : EvidenceLink}
    (linked : link.relationKind ≠ .observed → ∃ event ∈ events, event.id = link.systemEventId) :
    link.evidence (events ++ [event]) = link.evidence events := by
  unfold EvidenceLink.evidence
  split
  case isTrue => rfl
  case isFalse transition =>
    obtain ⟨found, member, same⟩ := linked transition
    have present : (events.find? fun event => event.id = link.systemEventId).isSome :=
      List.find?_isSome.mpr ⟨found, member, decide_eq_true same⟩
    rw [List.find?_append, Option.or_of_isSome present]

theorem createTransitionEvidence_records {type message : String} {kind : EventRelationKind}
    {severity : SystemEventSeverity} {actorUserId : Option Nat} {extra : List (String × Details)}
    (recording : Recording store) :
    Records store (store.createTransitionEvidence attention type kind message severity actorUserId extra)
      (if kind = .observed then [] else [(attention.id, kind, attention.revision)]) := by
  have unused : nextId store.allEventIds ∉ store.events.map (·.id) := fun member =>
    nextId_not_mem store.allEventIds (List.mem_append_left _ member)
  have missing : store.events.find? (fun event => event.id = nextId store.allEventIds) = none :=
    List.find?_eq_none.mpr fun event member same => unused (List.mem_map.mpr ⟨event, member, of_decide_eq_true same⟩)
  refine ⟨⟨?_, fun link member transition => ?_⟩, ?_, rfl⟩
  · show ((store.events ++ [_]).map fun event : SystemEvent => event.id).Nodup
    rw [List.map_append, List.nodup_append]
    refine ⟨recording.numbered, List.nodup_singleton _, fun id member other listed => ?_⟩
    rw [List.map_singleton, List.mem_singleton] at listed
    rw [listed]
    rintro rfl
    exact unused member
  · rcases List.mem_append.mp member with member | member
    · obtain ⟨event, listed, same⟩ := recording.linked link member transition
      exact ⟨event, List.mem_append_left _ listed, same⟩
    · rw [List.mem_singleton.mp member]
      exact ⟨_, List.mem_concat_self, rfl⟩
  · show (store.links ++ [_]).filterMap (fun link : EvidenceLink => link.evidence (store.events ++ [_])) = _
    rw [List.filterMap_append, List.filterMap_congr fun link member => evidence_append (recording.linked link member)]
    refine congrArg _ ?_
    unfold EvidenceLink.evidence
    rw [List.filterMap_cons, List.filterMap_nil]
    dsimp only
    rw [List.find?_append, missing]
    cases kind <;> simp [eventPayload]

variable {observedSystemEventId : Option Nat}

theorem observe_records {attentionId : Nat} (recording : Recording store)
    (observed : store.observe attentionId observedSystemEventId = .ok after) : Records store after [] := by
  unfold AttentionStore.observe at observed
  split at observed
  case h_1 =>
    cases observed
    exact .none recording
  case h_2 eventId _ =>
    split at observed
    case isTrue =>
      cases observed
      exact .none recording
    case isFalse =>
      split at observed
      case isFalse => cases observed
      case isTrue =>
        cases observed
        refine ⟨⟨recording.numbered, fun link member transition => ?_⟩, ?_, rfl⟩
        · rcases List.mem_append.mp member with member | member
          · exact recording.linked link member transition
          · rw [List.mem_singleton.mp member] at transition
            exact absurd rfl transition
        · show (store.links ++ [_]).filterMap (fun link : EvidenceLink => link.evidence store.events) = _
          rw [List.filterMap_append]
          rfl

/-- An observation on top of evidence adds none. -/
theorem records_of_observed {attentionId : Nat} (records : Records store after added)
    (observed : after.observe attentionId observedSystemEventId = .ok last) : Records store last added := by
  have both := records.trans (observe_records records.recording observed)
  rwa [List.append_nil] at both

end Recording

section Writes

variable {store after : AttentionStore} {ownership : Ownership} {transition : Transition} {before updated : OperationalAttention}

theorem Sound.eq_of_id (sound : Sound store) {first second : OperationalAttention} (one : first ∈ store.attentions)
    (two : second ∈ store.attentions) (same : first.id = second.id) : first = second :=
  List.inj_on_of_nodup_map sound.identified one two same

/-- One attention is replaced by a later version of it. -/
theorem Sound.replace (sound : Sound store) (member : before ∈ store.attentions) (same : updated.id = before.id)
    (keyed : updated.activeKey = unresolvedKey updated)
    (active : updated.activeKey = before.activeKey ∨ updated.activeKey = none)
    (attentions : after.attentions = updateWhere (·.id = updated.id) (fun _ => updated) store.attentions)
    (recording : Recording after) : Sound after := by
  refine ⟨?_, fun attention listed => ?_, ?_, recording⟩
  · rw [attentions, map_updateWhere fun row guarded => (of_decide_eq_true guarded).symm]
    exact sound.identified
  · rw [attentions, mem_updateWhere] at listed
    obtain ⟨old, present, rfl⟩ := listed
    split
    · exact keyed
    · exact sound.keyed old present
  · rw [attentions]
    refine sound.active.updateWhere_of_mem fun row present guarded => ?_
    obtain rfl := sound.eq_of_id present member ((of_decide_eq_true guarded).trans same)
    exact active

/-- A condition without an active attention gets one. -/
theorem Sound.insert (sound : Sound store) {created : OperationalAttention}
    (fresh : created.id = nextId (store.attentions.map (·.id))) (keyed : created.activeKey = unresolvedKey created)
    (free : ∀ key, created.activeKey = some key → store.findActive key = none)
    (attentions : after.attentions = store.attentions ++ [created]) (recording : Recording after) : Sound after := by
  refine ⟨?_, fun attention listed => ?_, ?_, recording⟩
  · rw [attentions, List.map_append, List.nodup_append]
    refine ⟨sound.identified, List.nodup_singleton _, fun id member other listed => ?_⟩
    rw [List.map_singleton, List.mem_singleton, fresh] at listed
    rintro rfl
    exact nextId_not_mem _ (listed ▸ member)
  · rw [attentions, List.mem_append, List.mem_singleton] at listed
    rcases listed with present | rfl
    · exact sound.keyed attention present
    · exact keyed
  · rw [attentions]
    refine sound.active.append fun key same => ?_
    have absent := List.find?_eq_none.mp (free key same)
    unfold indexed
    rw [List.any_eq_false]
    intro row member matched
    exact absent row member (decide_eq_true (eq_of_beq matched))

theorem Recording.updateAttention (recording : Recording store) : Recording (store.updateAttention updated) :=
  ⟨recording.numbered, recording.linked⟩

/-- What a committed transaction has done. -/
structure Done (request : AttentionRequest) (transition : Transition) (store after : AttentionStore) : Prop where
  valid : transition.Valid request
  applied : transition.Applied store after
  sound : Sound after
  evidence : after.evidence = store.evidence ++ transition.evidence.toList

theorem loadLockedAttention_ok {id : Nat} {existing : OperationalAttention}
    (loaded : loadLockedAttention store id = .ok existing) : existing ∈ store.attentions ∧ existing.id = id := by
  have found : store.attentions.find? (fun attention => attention.id = id) = some existing := requireSome_eq_ok.mp loaded
  have same := List.find?_some found
  exact ⟨List.mem_of_find?_eq_some found, of_decide_eq_true same⟩

variable {request : AttentionRequest}

/-- A transaction that replaces one attention and records evidence of it. -/
theorem done_of_replaced {added : List (Nat × EventRelationKind × Nat)} (sound : Sound store)
    (member : before ∈ store.attentions) (same : updated.id = before.id) (keyed : updated.activeKey = unresolvedKey updated)
    (active : updated.activeKey = before.activeKey ∨ updated.activeKey = none) (valid : transition.Valid request)
    (replaces : transition.Applied store after ↔ before ∈ store.attentions ∧ updated.id = before.id ∧
      after.attentions = updateWhere (·.id = before.id) (fun _ => updated) store.attentions)
    (records : Records (store.updateAttention updated) after added) (recorded : transition.evidence.toList = added) :
    Done request transition store after := by
  have attentions : after.attentions = updateWhere (·.id = updated.id) (fun _ => updated) store.attentions :=
    records.attentions
  refine ⟨valid, replaces.mpr ⟨member, same, ?_⟩, sound.replace member same keyed active attentions records.recording, ?_⟩
  · rw [attentions, same]
  · rw [recorded]
    exact records.evidence

theorem acknowledge_done {args : Acknowledge} (sound : Sound store)
    (served : acknowledgeOperationalAttention args store = .ok (transition, after)) :
    Done (.acknowledge args) transition store after := by
  obtain ⟨existing, loaded, served⟩ := bind_eq_ok.mp served
  obtain ⟨current, served⟩ := require_bind_eq_ok.mp served
  obtain ⟨opened, served⟩ := require_bind_eq_ok.mp served
  obtain ⟨member, identified⟩ := loadLockedAttention_ok loaded
  have status := of_decide_eq_true opened
  have keyed := sound.keyed existing member
  have open_ : unresolvedKey existing = some existing.fingerprint := if_neg (by rw [status]; decide)
  cases served
  have same : (acknowledgedAttention args existing).id = existing.id := rfl
  exact done_of_replaced sound member same (keyed.trans open_) (.inl rfl)
    ⟨identified, of_decide_eq_true current, status, rfl, rfl, rfl, rfl⟩ Iff.rfl
    (createTransitionEvidence_records sound.recording.updateAttention) rfl

theorem resolve_done {args : Resolve} (sound : Sound store)
    (served : resolveOperationalAttention args store = .ok (transition, after)) :
    Done (.resolve args) transition store after := by
  obtain ⟨existing, loaded, served⟩ := bind_eq_ok.mp served
  obtain ⟨current, served⟩ := require_bind_eq_ok.mp served
  obtain ⟨unresolved, served⟩ := require_bind_eq_ok.mp served
  obtain ⟨_, served⟩ := require_bind_eq_ok.mp served
  obtain ⟨reason, _, served⟩ := bind_eq_ok.mp served
  obtain ⟨_, served⟩ := require_bind_eq_ok.mp served
  obtain ⟨_, served⟩ := require_bind_eq_ok.mp served
  obtain ⟨member, identified⟩ := loadLockedAttention_ok loaded
  cases served
  have same : (resolvedAttention args reason existing).id = existing.id := rfl
  exact done_of_replaced sound member same rfl (.inr rfl)
    ⟨identified, of_decide_eq_true current, of_decide_eq_true unresolved, rfl, rfl, rfl, rfl⟩ Iff.rfl
    (createTransitionEvidence_records sound.recording.updateAttention) rfl

theorem observedAttention_fields (args : OpenOrObserve) (existing : OperationalAttention)
    (title message materialFingerprint : String) (escalated : Bool) :
    let updated := observedAttention args existing title message materialFingerprint escalated
    updated.id = existing.id ∧ updated.fingerprint = existing.fingerprint ∧ updated.activeKey = existing.activeKey ∧
      updated.revision = existing.revision + 1 ∧
      updated.severity = (if escalated then args.severity else existing.severity) ∧
      updated.status = (if escalated = true ∧ existing.status = .acknowledged then .opened else existing.status) := by
  unfold observedAttention
  dsimp only
  split <;> simp_all

variable {args : OpenOrObserve}

/-- An observation of an active condition. -/
theorem observe_done {fingerprint : String} {escalated : Bool} (sound : Sound store)
    (member : before ∈ store.attentions) (held : before.activeKey = some fingerprint)
    (ranked : escalated = decide (severityRank before.severity < severityRank args.severity)) (same : updated.id = before.id)
    (kept : updated.fingerprint = before.fingerprint) (key : updated.activeKey = before.activeKey)
    (revised : updated.revision = before.revision + 1)
    (severity : updated.severity = if escalated then args.severity else before.severity)
    (status : updated.status = if escalated = true ∧ before.status = .acknowledged then .opened else before.status)
    (records : Records (store.updateAttention updated) after
      (if escalated then [(updated.id, .escalated, updated.revision)] else [])) :
    Done (.openOrObserve args) (.observed before updated escalated) store after := by
  have keyed := sound.keyed before member
  have unresolved : before.status ≠ .resolved := by
    intro resolved
    rw [held, unresolvedKey, if_pos resolved] at keyed
    cases keyed
  have still : updated.status ≠ .resolved := by
    rw [status]
    split
    · decide
    · exact unresolved
  have active : updated.activeKey = unresolvedKey updated := by
    rw [key, keyed, unresolvedKey, unresolvedKey, if_neg unresolved, if_neg still, kept]
  have opens : escalated = true → severityRank before.severity < severityRank updated.severity ∧ updated.status = .opened := by
    rintro rfl
    rw [severity, status]
    refine ⟨of_decide_eq_true ranked.symm, ?_⟩
    cases was : before.status with
    | opened => rfl
    | acknowledged => rfl
    | resolved => exact absurd was unresolved
  refine done_of_replaced sound member same active (.inl key)
    ⟨unresolved, still, kept, revised, opens, ?_⟩ Iff.rfl records ?_
  · rintro rfl
    exact ⟨severity, status⟩
  · cases escalated <;> rfl

theorem openOrObserve_done (sound : Sound store)
    (served : openOrObserveTransaction ownership args store = .ok (transition, after)) :
    Done (.openOrObserve args) transition store after := by
  obtain ⟨_, served⟩ := require_bind_eq_ok.mp served
  obtain ⟨_, _, served⟩ := bind_eq_ok.mp served
  obtain ⟨fingerprint, _, served⟩ := bind_eq_ok.mp served
  obtain ⟨title, _, served⟩ := bind_eq_ok.mp served
  obtain ⟨message, _, served⟩ := bind_eq_ok.mp served
  dsimp only at served
  generalize args.materialFingerprint.getD fingerprint = material at served
  cases found : store.findActive fingerprint with
  | some existing =>
    have located : store.attentions.find? (fun row => row.activeKey = some fingerprint) = some existing := found
    have held := List.find?_some located
    rw [found] at served
    dsimp only at served
    generalize ranked : decide (severityRank existing.severity < severityRank args.severity) = escalated at served
    obtain ⟨_, served⟩ := require_bind_eq_ok.mp served
    obtain ⟨observed, seen, served⟩ := bind_eq_ok.mp served
    cases served
    obtain ⟨same, kept, key, revised, severity, status⟩ :=
      observedAttention_fields args existing title message material escalated
    refine observe_done sound (List.mem_of_find?_eq_some located) (of_decide_eq_true held) ranked.symm same kept key revised
      severity status ?_
    have watched := observe_records sound.recording.updateAttention seen
    cases escalated with
    | true => exact watched.trans (createTransitionEvidence_records watched.recording)
    | false =>
      show Records _ (if _ then _ else observed) []
      split
      · exact watched.trans (createTransitionEvidence_records watched.recording)
      · exact watched
  | none =>
    rw [found] at served
    obtain ⟨observed, seen, served⟩ := bind_eq_ok.mp served
    obtain ⟨rfl, rfl⟩ := Prod.mk.inj (Except.ok.inj served)
    have identified : Recording { store with attentions := store.attentions ++
        [createdAttention (nextId (store.attentions.map (·.id))) args fingerprint title message material] } :=
      ⟨sound.recording.numbered, sound.recording.linked⟩
    have records := records_of_observed (createTransitionEvidence_records identified) seen
    have attentions : observed.attentions = store.attentions ++ [createdAttention _ args fingerprint title message material] :=
      records.attentions
    refine ⟨⟨rfl, rfl⟩, ⟨fun row member same => ?_, attentions⟩, sound.insert rfl rfl (fun key same => ?_) attentions
      records.recording, records.evidence⟩
    · exact nextId_not_mem (store.attentions.map (·.id)) (List.mem_map.mpr ⟨row, member, same⟩)
    · cases same
      exact found

theorem serve_done (sound : Sound store)
    (served : request.serve ownership store = .ok (transition, after)) : Done request transition store after := by
  cases request with
  | openOrObserve args => exact openOrObserve_done sound served
  | acknowledge args => exact acknowledge_done sound served
  | resolve args => exact resolve_done sound served

end Writes

section Runs

variable {store after : AttentionStore} {request : AttentionRequest} {transition : Transition}

theorem keeps_of_replaced {before updated : OperationalAttention} (sound : Sound store) (member : before ∈ store.attentions)
    (same : updated.id = before.id)
    (attentions : after.attentions = updateWhere (·.id = before.id) (fun _ => updated) store.attentions)
    (kept : updated.fingerprint = before.fingerprint) (revised : updated.revision = before.revision + 1)
    (raised : severityRank before.severity ≤ severityRank updated.severity) (unresolved : before.status ≠ .resolved) :
    Keeps store after := by
  intro attention listed
  by_cases own : attention.id = before.id
  · obtain rfl := sound.eq_of_id listed member own
    refine ⟨updated, ?_, same, kept, by omega, raised, fun unchanged => by omega, fun resolved => absurd resolved unresolved⟩
    rw [attentions, mem_updateWhere]
    exact ⟨attention, member, (if_pos (decide_eq_true rfl)).symm⟩
  · refine ⟨attention, ?_, rfl, rfl, Nat.le_refl _, Nat.le_refl _, fun _ => rfl, fun _ => rfl⟩
    rw [attentions, mem_updateWhere]
    exact ⟨attention, listed, (if_neg (by simpa using own)).symm⟩

theorem Done.keeps (done : Done request transition store after) (sound : Sound store) : Keeps store after := by
  obtain ⟨valid, applied, _, _⟩ := done
  cases request with
  | openOrObserve args =>
    cases transition with
    | created attention =>
      intro row member
      refine ⟨row, ?_, rfl, rfl, Nat.le_refl _, Nat.le_refl _, fun _ => rfl, fun _ => rfl⟩
      rw [applied.2]
      exact List.mem_append_left _ member
    | observed before updated escalated =>
      obtain ⟨member, same, attentions⟩ := applied
      obtain ⟨unresolved, _, kept, revised, raises, stays⟩ := valid
      refine keeps_of_replaced sound member same attentions kept revised ?_ unresolved
      cases escalated with
      | true => exact Nat.le_of_lt (raises rfl).1
      | false => exact Nat.le_of_eq (congrArg severityRank (stays rfl).1.symm)
    | acknowledged => exact valid.elim
    | resolved => exact valid.elim
  | acknowledge args =>
    cases transition with
    | acknowledged before updated =>
      obtain ⟨member, same, attentions⟩ := applied
      obtain ⟨_, _, opened, _, kept, severity, revised⟩ := valid
      refine keeps_of_replaced sound member same attentions kept revised (Nat.le_of_eq (congrArg severityRank severity.symm)) ?_
      rw [opened]
      decide
    | created => exact valid.elim
    | observed => exact valid.elim
    | resolved => exact valid.elim
  | resolve args =>
    cases transition with
    | resolved before updated =>
      obtain ⟨member, same, attentions⟩ := applied
      obtain ⟨_, _, unresolved, _, kept, severity, revised⟩ := valid
      exact keeps_of_replaced sound member same attentions kept revised
        (Nat.le_of_eq (congrArg severityRank severity.symm)) unresolved
    | created => exact valid.elim
    | observed => exact valid.elim
    | acknowledged => exact valid.elim

theorem Done.stored (done : Done request transition store after) (sound : Sound store) :
    transition.attention ∈ after.attentions ∧
      ∀ row ∈ store.attentions, row.id = transition.attention.id → row.revision < transition.attention.revision := by
  have replaced : ∀ before updated : OperationalAttention, before ∈ store.attentions → updated.id = before.id →
      after.attentions = updateWhere (·.id = before.id) (fun _ => updated) store.attentions →
      updated.revision = before.revision + 1 → updated ∈ after.attentions ∧
        ∀ row ∈ store.attentions, row.id = updated.id → row.revision < updated.revision := by
    intro before updated member same attentions revised
    constructor
    · rw [attentions, mem_updateWhere]
      exact ⟨before, member, (if_pos (decide_eq_true rfl)).symm⟩
    · intro row listed own
      obtain rfl := sound.eq_of_id listed member (own.trans same)
      omega
  obtain ⟨valid, applied, _, _⟩ := done
  cases transition with
  | created attention =>
    refine ⟨?_, fun row member same => absurd same (applied.1 row member)⟩
    rw [applied.2]
    exact List.mem_concat_self
  | observed before updated escalated =>
    cases request with
    | openOrObserve args => exact replaced before updated applied.1 applied.2.1 applied.2.2 valid.2.2.2.1
    | acknowledge args => exact valid.elim
    | resolve args => exact valid.elim
  | acknowledged before updated =>
    cases request with
    | acknowledge args => exact replaced before updated applied.1 applied.2.1 applied.2.2 valid.2.2.2.2.2.2
    | openOrObserve args => exact valid.elim
    | resolve args => exact valid.elim
  | resolved before updated =>
    cases request with
    | resolve args => exact replaced before updated applied.1 applied.2.1 applied.2.2 valid.2.2.2.2.2.2
    | openOrObserve args => exact valid.elim
    | acknowledge args => exact valid.elim

/-- The attention and the revision that a log entry has written. -/
def written (entry : AttentionRequest × Transition) : Nat × Nat := (entry.2.attention.id, entry.2.attention.revision)

/-- What holds of a system in every run. -/
structure Consistent (system : AttentionSystem) : Prop where
  sound : Sound system.store
  evidence : system.store.evidence = system.log.filterMap fun entry => entry.2.evidence
  logged : ∀ entry ∈ system.log, ∃ attention ∈ system.store.attentions, attention.id = entry.2.attention.id ∧
    entry.2.attention.revision ≤ attention.revision
  distinct : (system.log.map written).Nodup

variable {system : AttentionSystem}

theorem Consistent.step {next : AttentionSystem} (consistent : Consistent system) (step : AttentionStep system next) :
    Consistent next := by
  obtain ⟨sound, evidence, logged, distinct⟩ := consistent
  cases step with
  | call => exact ⟨sound, evidence, logged, distinct⟩
  | conflict => exact ⟨sound, evidence, logged, distinct⟩
  | fail => exact ⟨sound, evidence, logged, distinct⟩
  | elsewhere eventId fresh =>
    exact ⟨⟨sound.identified, sound.keyed, sound.active, ⟨sound.recording.numbered, sound.recording.linked⟩⟩, evidence,
      logged, distinct⟩
  | @commit store after front back pending log transition ownership served =>
    have done := serve_done sound served
    obtain ⟨stored, newer⟩ := done.stored sound
    refine ⟨done.sound, ?_, fun entry member => ?_, ?_⟩
    · rw [done.evidence, evidence, List.filterMap_append]
      refine congrArg _ ?_
      cases recorded : transition.evidence <;> simp [recorded]
    · rcases List.mem_append.mp member with member | member
      · obtain ⟨attention, listed, same, older⟩ := logged entry member
        obtain ⟨later, final, sameId, _, grown, _⟩ := done.keeps sound attention listed
        exact ⟨later, final, sameId.trans same, older.trans grown⟩
      · rw [List.mem_singleton.mp member]
        exact ⟨transition.attention, stored, rfl, Nat.le_refl _⟩
    · rw [List.map_append, List.nodup_append]
      refine ⟨distinct, List.nodup_singleton _, fun pair member other listed => ?_⟩
      rw [List.map_singleton, List.mem_singleton] at listed
      obtain ⟨entry, present, rfl⟩ := List.mem_map.mp member
      rintro rfl
      obtain ⟨attention, found, same, older⟩ := logged entry present
      obtain ⟨identified, revised⟩ := Prod.mk.inj listed
      have less := newer attention found (same.trans identified)
      exact absurd (revised ▸ older) (Nat.not_le.mpr less)

theorem consistent_of_run {eventIds : List Nat} (run : AttentionRun (.empty eventIds) system) : Consistent system := by
  induction run with
  | refl =>
    refine ⟨⟨List.nodup_nil, (fun _ member => by cases member), unique_nil, ⟨List.nodup_nil, ?_⟩⟩, rfl, ?_, List.nodup_nil⟩
    · exact nofun
    · exact fun _ member => by cases member
  | tail _ step ih => exact ih.step step

theorem keeps_of_run {later : AttentionSystem} (consistent : Consistent system) (run : AttentionRun system later) :
    Consistent later ∧ Keeps system.store later.store := by
  induction run with
  | refl => exact ⟨consistent, .refl _⟩
  | tail _ step ih =>
    refine ⟨ih.1.step step, ih.2.trans ?_⟩
    cases step with
    | call => exact .refl _
    | conflict => exact .refl _
    | fail => exact .refl _
    | elsewhere => exact .refl _
    | commit ownership served => exact (serve_done ih.1.sound served).keeps ih.1.sound

/-- In every order of calls at most one attention of a condition is unresolved; a committed call writes one attention at its
next revision, having seen the revision before where it acknowledges or resolves; nothing else writes attentions, what is
resolved stays, no severity falls, and the links record the transitions once and in order. -/
theorem operational_attention_lifecycle {eventIds : List Nat} {system : AttentionSystem}
    (run : AttentionRun (.empty eventIds) system) :
    Unique unresolvedKey system.store.attentions ∧
      (∀ next, AttentionStep system next → next.store.attentions = system.store.attentions ∧ next.log = system.log ∨
        ∃ pending ∈ system.pending, ∃ transition, next.log = system.log ++ [(pending.request, transition)] ∧
          transition.Valid pending.request ∧ transition.Applied system.store next.store) ∧
      (∀ later, AttentionRun system later → Keeps system.store later.store) ∧
      system.store.evidence = (system.log.filterMap fun entry => entry.2.evidence) ∧
      (system.log.map written).Nodup := by
  have consistent := consistent_of_run run
  refine ⟨consistent.sound.active.congr fun attention member => (consistent.sound.keyed attention member).symm,
    fun next step => ?_, fun later more => (keeps_of_run consistent more).2, consistent.evidence, consistent.distinct⟩
  cases step with
  | call => exact .inl ⟨rfl, rfl⟩
  | conflict => exact .inl ⟨rfl, rfl⟩
  | fail => exact .inl ⟨rfl, rfl⟩
  | elsewhere => exact .inl ⟨rfl, rfl⟩
  | @commit store after front back pending log transition ownership served =>
    have done := serve_done consistent.sound served
    exact .inr ⟨pending, by simp, transition, rfl, done.valid, done.applied⟩

end Runs

def attentionSample : OpenOrObserve :=
  { links := ⟨none, none, none⟩, tradingAccountId := 1, code := "EXIT_QUANTITY_MISMATCH", source := "RECONCILIATION"
    severity := .warning, title := "t", message := "m", details := .null, fingerprint := "f", materialFingerprint := none
    resolutionPolicy := .manualAllowed, observedAt := 0, observedSystemEventId := none
    orderIntentIsObservationContext := false }

/-- A call that comes alone and commits. -/
theorem run_of_serve {store after : AttentionStore} {log : List (AttentionRequest × Transition)} {transition : Transition}
    (request : AttentionRequest) (served : request.serve ⟨[1], fun _ => none, fun _ => none, fun _ => none⟩ store =
      .ok (transition, after)) : AttentionRun ⟨store, [], log⟩ ⟨after, [], log ++ [(request, transition)]⟩ :=
  .tail (.single (.call request)) (@AttentionStep.commit _ _ [] [] ⟨request, request.retries⟩ _ _ _ served)

theorem operational_attention_lifecycle_opened : ∃ system, AttentionRun (.empty []) system ∧
    system.store.evidence = [(1, .opened, 1), (1, .escalated, 2), (1, .acknowledged, 3), (1, .resolved, 4)] ∧
    Unique unresolvedKey system.store.attentions := by
  have opened : AttentionRun (.empty []) _ := run_of_serve (.openOrObserve attentionSample) rfl
  have escalated := opened.trans (run_of_serve (.openOrObserve { attentionSample with severity := .critical }) rfl)
  have acknowledged := escalated.trans (run_of_serve (.acknowledge ⟨1, 2, 2, 1⟩) rfl)
  have run := acknowledged.trans (run_of_serve (.resolve ⟨1, 3, .manual, "done", .null, some 2, 2⟩) rfl)
  exact ⟨_, run, rfl, (operational_attention_lifecycle run).1⟩

end AiTrader.Attention
