import AiTrader.Exclusivity.Exclusive

/-! # The status of a claim and the table of its transitions

Transitions, diagnoses, releases and attachments write the status of a claim. -/

namespace AiTrader.Exclusivity

open Library Entry Table

/-- What the callers of a transition ask for. -/
def requestedStatuses : List ClaimStatus :=
  [.entrySubmitting, .brokerOrderActive, .partiallyFilled, .filledAwaitingPosition, .positionOpen, .unresolved]

def ClaimOperation.Called : ClaimOperation → Prop
  | .transition _ _ target => target ∈ requestedStatuses
  | _ => True

/-- One transaction of some caller of the claim services. -/
def CallerStep (store after : ClaimStore) : Prop :=
  ∃ operation : ClaimOperation, operation.Called ∧ operation.apply store = some after

abbrev CallerRun : ClaimStore → ClaimStore → Prop := Relation.ReflTransGen CallerStep

namespace ClaimStore

variable (store : ClaimStore)

def claim (claimId : Nat) : Option ClaimRow := store.claims.find? fun claim => claim.id == claimId

/-- The claim that an attachment takes to `POSITION_OPEN`. -/
def attached (pair : ExposurePair) (trackedPositionId : Nat) (expectedOrderIntentId : Option Nat) : Option ClaimRow :=
  (store.activeClaim pair).filter fun active => decide (
    ¬ (expectedOrderIntentId.isSome ∧ active.orderIntentId ≠ expectedOrderIntentId) ∧ active.status ≠ .unresolved ∧
    ¬ (active.trackedPositionId = some trackedPositionId ∧ active.status = .positionOpen) ∧
    ¬ (active.trackedPositionId.isSome ∧ active.trackedPositionId ≠ some trackedPositionId) ∧
    ¬ store.claims.any fun claim => claim.id != active.id && claim.trackedPositionId == some trackedPositionId)

/-- The attachment of a claim. -/
def attachTo (active : ClaimRow) (trackedPositionId : Nat) : ClaimStore :=
  store.updateClaim active.id active.status fun claim =>
    { claim with trackedPositionId := some trackedPositionId, status := .positionOpen }

end ClaimStore

/-- The claim that the operation takes to `POSITION_OPEN` as an attachment. -/
def ClaimOperation.attaches (store : ClaimStore) : ClaimOperation → Option ClaimRow
  | .attach pair trackedPositionId expectedOrderIntentId => store.attached pair trackedPositionId expectedOrderIntentId
  | .openPosition pair expectedOrderIntentId =>
    store.attached pair (nextId (store.positions.map (·.id))) expectedOrderIntentId
  | _ => none

/-- An attachment takes its claim along an edge of the table. -/
def ClaimOperation.InTable (operation : ClaimOperation) (store : ClaimStore) : Prop :=
  ∀ active, operation.attaches store = some active → canTransitionEntryExposureClaim active.status .positionOpen = true

section Changes

variable {store after : ClaimStore} {operation : ClaimOperation}

/-- What an operation writes to the claims. -/
inductive ClaimsWritten (operation : ClaimOperation) (store : ClaimStore) : List ClaimRow → Prop where
  | unwritten : ClaimsWritten operation store store.claims
  | status (claimId : Nat) (observed target : ClaimStatus) (given : target ≠ .released)
      (permitted : canTransitionEntryExposureClaim observed target = true ∨ target = .unresolved) :
      ClaimsWritten operation store (store.setStatus claimId observed target).claims
  | release (claimId : Nat) (observed : ClaimStatus) (reason : String) :
      ClaimsWritten operation store (store.release claimId observed reason).claims
  | attachment {active : ClaimRow} (trackedPositionId : Nat) (attaches : operation.attaches store = some active) :
      ClaimsWritten operation store (store.attachTo active trackedPositionId).claims
  | inserted {claim : ClaimRow} {claims : List ClaimRow} (fresh : claim.id = nextId (store.claims.map (·.id)))
      (unreleased : claim.releasedAt = none) (given : claim.status ≠ .released)
      (admitted : insertClaim claim store.claims = some claims) : ClaimsWritten operation store claims

theorem attaches_active {active : ClaimRow} (attaches : operation.attaches store = some active) :
    active ∈ store.claims ∧ active.releasedAt = none ∧ active.status ≠ .unresolved := by
  have selected : ∀ {pair trackedPositionId expectedOrderIntentId},
      store.attached pair trackedPositionId expectedOrderIntentId = some active →
        active ∈ store.claims ∧ active.releasedAt = none ∧ active.status ≠ .unresolved := by
    intro pair trackedPositionId expectedOrderIntentId attached
    obtain ⟨found, held⟩ := Option.filter_eq_some_iff.mp attached
    have unreleased := List.find?_some found
    simp only [Bool.and_eq_true, Option.isNone_iff_eq_none] at unreleased
    exact ⟨List.mem_of_find?_eq_some found, unreleased.2, (of_decide_eq_true held).2.1⟩
  cases operation with
  | attach | openPosition => exact selected attaches
  | acquire | transition | markUnresolved | releaseUnsubmitted | releaseVerified | releaseConfirmedTerminal
  | releaseClosedAdoptedPosition | position | createBrokerOrder | brokerOrder | intent | fill => cases attaches

theorem written_attach {pair : ExposurePair} {trackedPositionId : Nat} {expectedOrderIntentId : Option Nat}
    (attaches : operation.attaches store = store.attached pair trackedPositionId expectedOrderIntentId)
    (ran : store.attach pair trackedPositionId expectedOrderIntentId = some after) :
    ClaimsWritten operation store after.claims := by
  unfold ClaimStore.attach at ran
  cases found : store.activeClaim pair with
  | none =>
    simp only [found, Option.map_eq_some_iff] at ran
    obtain ⟨claims, admitted, rfl⟩ := ran
    exact .inserted rfl rfl (fun impossible => by cases impossible) admitted
  | some active =>
    simp only [found] at ran
    split_ifs at ran with mismatch unresolved attached elsewhere taken
    · cases ran
      exact .status _ _ _ (by decide) (.inr rfl)
    · cases ran
      exact .unwritten
    · cases ran
      exact .unwritten
    · cases ran
      exact .status _ _ _ (by decide) (.inr rfl)
    · cases ran
      refine .attachment trackedPositionId (attaches.trans ?_)
      rw [ClaimStore.attached, found, Option.filter_eq_some_iff]
      exact ⟨rfl, decide_eq_true ⟨mismatch, unresolved, attached, elsewhere, taken⟩⟩

theorem ClaimOperation.written (called : operation.Called) (ran : operation.apply store = some after) :
    ClaimsWritten operation store after.claims := by
  cases operation with
  | acquire pair ownerKey newIntent =>
    simp only [apply, applyAcquisition] at ran
    split at ran
    case h_1 acquired =>
      split at acquired
      · cases acquired
      case h_2 claims admitted =>
        cases acquired
        cases ran
        exact .inserted rfl rfl (fun impossible => by cases impossible) admitted
    case h_2 => cases ran
  | transition claimId observed target =>
    simp only [apply] at ran
    split_ifs at ran with permitted
    cases ran
    refine .status claimId observed target ?_ (.inl permitted)
    rintro rfl
    simp [Called, requestedStatuses] at called
  | markUnresolved claimId observed =>
    cases ran
    exact .status claimId observed .unresolved (by decide) (.inr rfl)
  | attach pair trackedPositionId expectedOrderIntentId => exact written_attach rfl ran
  | openPosition pair expectedOrderIntentId =>
    let opened : ClaimStore :=
      { store with positions := store.positions ++ [⟨nextId (store.positions.map (·.id)), pair, .opened⟩] }
    have written : ClaimsWritten (.attach pair (nextId (store.positions.map (·.id))) expectedOrderIntentId) opened
      after.claims := written_attach rfl ran
    generalize after.claims = claims at written ⊢
    cases written with
    | unwritten => exact .unwritten
    | status claimId observed target given permitted => exact .status claimId observed target given permitted
    | release claimId observed reason => exact .release claimId observed reason
    | attachment trackedPositionId attaches => exact .attachment trackedPositionId attaches
    | inserted fresh unreleased given admitted => exact .inserted fresh unreleased given admitted
  | releaseUnsubmitted | releaseVerified | releaseConfirmedTerminal | releaseClosedAdoptedPosition =>
    obtain ⟨claimId, observed, reason, rfl⟩ := released rfl ran
    exact .release claimId observed reason
  | position | createBrokerOrder | brokerOrder | intent | fill =>
    cases ran
    exact .unwritten

end Changes

section Laws

variable {store after : ClaimStore} {operation : ClaimOperation} {claim row : ClaimRow} {claimId : Nat}

/-- Ids are unique, and a claim has the status `RELEASED` exactly when it is released. -/
structure ClaimStore.Tabled (store : ClaimStore) : Prop where
  ids : (store.claims.map (·.id)).Nodup
  released : ∀ claim ∈ store.claims, claim.status = .released ↔ claim.releasedAt.isSome = true

/-- What no operation does to a claim. -/
structure ClaimRow.Lawful (claim row : ClaimRow) : Prop where
  released : claim.status = .released → row.status = .released
  unresolved : claim.status = .unresolved → row.status = .unresolved ∨ row.status = .released ∧ row.releasedAt.isSome = true

/-- A change of the status that is not a release is an edge of the table. -/
def ClaimRow.ByTable (claim row : ClaimRow) : Prop :=
  claim.releasedAt = none → row.releasedAt = none → row.status ≠ claim.status →
    canTransitionEntryExposureClaim claim.status row.status = true

theorem ClaimRow.Lawful.refl (claim : ClaimRow) : claim.Lawful claim := ⟨fun released => released, .inl⟩

variable {update : ClaimRow → ClaimRow} {observed : ClaimStatus}

theorem claim_updateClaim {updated : Nat}
    (same : ∀ claim, (update claim).id = claim.id) (found : store.claim claimId = some claim) :
    (store.updateClaim updated observed update).claim claimId =
      some (if claim.id == updated && claim.status == observed && claim.releasedAt.isNone then update claim else claim) := by
  have ids : ∀ claim : ClaimRow, (if claim.id == updated && claim.status == observed && claim.releasedAt.isNone then
      update claim else claim).id = claim.id := fun claim => by split_ifs <;> first | exact same claim | rfl
  simp only [ClaimStore.claim, ClaimStore.updateClaim, updateWhere, List.find?_map, Function.comp_def, ids]
  exact congrArg (Option.map _) found

theorem tabled_updateClaim {updated : Nat} (tabled : store.Tabled) (same : ∀ claim, (update claim).id = claim.id)
    (kept : ∀ claim : ClaimRow, claim.status = observed → claim.releasedAt = none →
      ((update claim).status = .released ↔ (update claim).releasedAt.isSome = true)) :
    (store.updateClaim updated observed update).Tabled := by
  constructor
  · have ids : (store.updateClaim updated observed update).claims.map (·.id) = store.claims.map (·.id) := by
      simp only [ClaimStore.updateClaim, updateWhere, List.map_map]
      refine List.map_congr_left fun claim _ => ?_
      simp only [Function.comp_apply]
      split_ifs
      · exact same claim
      · rfl
    rw [ids]
    exact tabled.ids
  · intro row member
    obtain ⟨claim, present, rfl⟩ := mem_updateWhere.mp member
    split_ifs with guarded
    · simp only [Bool.and_eq_true, beq_iff_eq, Option.isNone_iff_eq_none] at guarded
      exact kept claim guarded.1.2 guarded.2
    · exact tabled.released claim present

theorem ClaimsWritten.tabled (written : ClaimsWritten operation store after.claims) (tabled : store.Tabled) :
    after.Tabled := by
  have congr : ∀ {other : ClaimStore}, other.Tabled → after.claims = other.claims → after.Tabled := fun tabled same =>
    ⟨same ▸ tabled.ids, same ▸ tabled.released⟩
  generalize same : after.claims = claims at written
  cases written with
  | unwritten => exact congr tabled same
  | status updated observed target given permitted =>
    have kept : (store.setStatus updated observed target).Tabled :=
      tabled_updateClaim tabled (fun _ => rfl) fun claim _ unreleased => by simp [given, unreleased]
    exact congr kept same
  | release updated observed reason =>
    have kept : (store.release updated observed reason).Tabled :=
      tabled_updateClaim tabled (fun _ => rfl) fun claim _ _ => by simp
    exact congr kept same
  | @attachment active trackedPositionId attaches =>
    have kept : (store.attachTo active trackedPositionId).Tabled :=
      tabled_updateClaim tabled (fun _ => rfl) fun claim _ unreleased => by simp [unreleased]
    exact congr kept same
  | @inserted claim claims fresh unreleased given admitted =>
    have appended := eq_append_of_insertUnique (insertUnique_of_insertClaim admitted)
    rw [appended] at same
    refine ⟨?_, fun row member => ?_⟩
    · rw [same, List.map_append, List.map_singleton, List.nodup_append]
      refine ⟨tabled.ids, List.nodup_singleton _, fun id member other single equal => ?_⟩
      rw [List.mem_singleton.mp single, fresh] at equal
      exact nextId_not_mem _ (equal ▸ member)
    · rw [same] at member
      rcases List.mem_append.mp member with old | new
      · exact tabled.released row old
      · obtain rfl := List.mem_singleton.mp new
        simp [given, unreleased]

/-- What is written to one claim. -/
theorem ClaimsWritten.lawful (written : ClaimsWritten operation store after.claims) (tabled : store.Tabled)
    (found : store.claim claimId = some claim) :
    ∃ row, after.claim claimId = some row ∧ claim.Lawful row ∧ (operation.InTable store → claim.ByTable row) := by
  have unmoved : ∀ claim : ClaimRow, claim.ByTable claim := fun _ _ _ changed => absurd rfl changed
  have congr : ∀ {other : ClaimStore} {row : ClaimRow}, after.claims = other.claims → other.claim claimId = some row →
      after.claim claimId = some row := fun same other => by rw [ClaimStore.claim, same]; exact other
  have member : claim ∈ store.claims := List.mem_of_find?_eq_some found
  have active : claim.releasedAt = none → claim.status ≠ .released := fun unreleased released => by
    have some := (tabled.released claim member).mp released
    rw [unreleased] at some
    cases some
  generalize same : after.claims = claims at written
  cases written with
  | unwritten => exact ⟨claim, congr same found, .refl claim, fun _ => unmoved claim⟩
  | status updated observed target given permitted =>
    have moved : (store.setStatus updated observed target).claim claimId = _ := claim_updateClaim (fun _ => rfl) found
    refine ⟨_, congr same moved, ?_⟩
    split_ifs with guarded
    · simp only [Bool.and_eq_true, beq_iff_eq, Option.isNone_iff_eq_none] at guarded
      obtain ⟨⟨_, rfl⟩, unreleased⟩ := guarded
      have permitted : canTransitionEntryExposureClaim claim.status target = true := by
        rcases permitted with edge | rfl
        · exact edge
        · have open' := active unreleased
          revert open'
          cases claim.status <;> decide
      refine ⟨⟨fun released => absurd released (active unreleased), fun unresolved => .inl ?_⟩, fun _ _ _ _ => permitted⟩
      rw [unresolved] at permitted
      exact (ClaimStatus.onward_of_transition permitted).unresolved rfl
    · exact ⟨.refl claim, fun _ => unmoved claim⟩
  | release updated observed reason =>
    have moved : (store.release updated observed reason).claim claimId = _ := claim_updateClaim (fun _ => rfl) found
    refine ⟨_, congr same moved, ?_⟩
    split_ifs
    · exact ⟨⟨fun _ => rfl, fun _ => .inr ⟨rfl, rfl⟩⟩, nofun⟩
    · exact ⟨.refl claim, fun _ => unmoved claim⟩
  | @attachment attaching trackedPositionId attaches =>
    have moved : (store.attachTo attaching trackedPositionId).claim claimId = _ := claim_updateClaim (fun _ => rfl) found
    refine ⟨_, congr same moved, ?_⟩
    split_ifs with guarded
    · simp only [Bool.and_eq_true, beq_iff_eq, Option.isNone_iff_eq_none] at guarded
      obtain ⟨⟨_, status⟩, unreleased⟩ := guarded
      refine ⟨⟨fun released => absurd released (active unreleased), fun unresolved => ?_⟩, fun inTable _ _ _ => ?_⟩
      · exact absurd (status.symm.trans unresolved) (attaches_active attaches).2.2
      · rw [status]
        exact inTable attaching attaches
    · exact ⟨.refl claim, fun _ => unmoved claim⟩
  | inserted fresh unreleased given admitted =>
    have appended := eq_append_of_insertUnique (insertUnique_of_insertClaim admitted)
    refine ⟨claim, ?_, .refl claim, fun _ => unmoved claim⟩
    rw [ClaimStore.claim, same, appended, List.find?_append]
    exact congrArg (Option.or · _) found

theorem ran_of_attaches {active : ClaimRow} (attaches : operation.attaches store = some active)
    (ran : operation.apply store = some after) :
    ∃ trackedPositionId, after.claims = (store.attachTo active trackedPositionId).claims := by
  have attached : ∀ {store : ClaimStore} {pair trackedPositionId expectedOrderIntentId},
      store.attached pair trackedPositionId expectedOrderIntentId = some active →
      store.attach pair trackedPositionId expectedOrderIntentId = some after →
      after.claims = (store.attachTo active trackedPositionId).claims := by
    intro store pair trackedPositionId expectedOrderIntentId attached ran
    obtain ⟨found, held⟩ := Option.filter_eq_some_iff.mp attached
    obtain ⟨matching, unresolved, unattached, own, free⟩ := of_decide_eq_true held
    simp only [ClaimStore.attach, found] at ran
    rw [if_neg matching, if_neg unresolved, if_neg unattached, if_neg own, if_neg free] at ran
    cases ran
    rfl
  cases operation with
  | attach pair trackedPositionId expectedOrderIntentId => exact ⟨trackedPositionId, attached attaches ran⟩
  | openPosition pair expectedOrderIntentId =>
    let opened : ClaimStore :=
      { store with positions := store.positions ++ [⟨nextId (store.positions.map (·.id)), pair, .opened⟩] }
    have taken : opened.attached pair (nextId (store.positions.map (·.id))) expectedOrderIntentId = some active :=
      attaches
    exact ⟨_, @attached opened _ _ _ taken ran⟩
  | acquire | transition | markUnresolved | releaseUnsubmitted | releaseVerified | releaseConfirmedTerminal
  | releaseClosedAdoptedPosition | position | createBrokerOrder | brokerOrder | intent | fill => cases attaches

theorem claim_of_mem (tabled : store.Tabled) (member : claim ∈ store.claims) : store.claim claim.id = some claim := by
  cases found : store.claim claim.id with
  | none => simpa using List.find?_eq_none.mp found claim member
  | some other =>
    have same : other.id = claim.id := by simpa using List.find?_some found
    rw [List.inj_on_of_nodup_map tabled.ids (List.mem_of_find?_eq_some found) member same]

/-- An operation that goes by the table in all its claims takes its attachment along an edge. -/
theorem inTable_of_byTable (tabled : store.Tabled) (ran : operation.apply store = some after)
    (byTable : ∀ claimId claim row, store.claim claimId = some claim → after.claim claimId = some row → claim.ByTable row) :
    operation.InTable store := by
  intro active attaches
  obtain ⟨member, unreleased, _⟩ := attaches_active attaches
  obtain ⟨trackedPositionId, same⟩ := ran_of_attaches attaches ran
  have found := claim_of_mem tabled member
  have moved : (store.attachTo active trackedPositionId).claim active.id = _ := claim_updateClaim (fun _ => rfl) found
  rw [if_pos (by simp [unreleased])] at moved
  have written : after.claim active.id = some { active with
      trackedPositionId := some trackedPositionId, status := .positionOpen } := by
    rw [ClaimStore.claim, same]
    exact moved
  by_cases opened : active.status = .positionOpen
  · rw [opened]
    decide
  · exact byTable active.id active _ found written unreleased unreleased fun equal => opened equal.symm

theorem tabled_of_run {start : ClaimStore} (unclaimed : start.claims = []) (run : CallerRun start store) : store.Tabled := by
  induction run with
  | refl =>
    refine ⟨by simp [unclaimed], fun claim member => ?_⟩
    rw [unclaimed] at member
    cases member
  | tail _ step ih =>
    obtain ⟨operation, called, ran⟩ := step
    exact (operation.written called ran).tabled ih

/-- `RELEASED` is absorbing, `UNRESOLVED` is left by a release only, and an operation changes every status along the table if
and only if its attachment does. -/
theorem status_of_run {start : ClaimStore} (unclaimed : start.claims = []) (run : CallerRun start store)
    (called : operation.Called) (ran : operation.apply store = some after) :
    (∀ claimId claim, store.claim claimId = some claim → ∃ row, after.claim claimId = some row ∧ claim.Lawful row) ∧
      ((∀ claimId claim row, store.claim claimId = some claim → after.claim claimId = some row → claim.ByTable row) ↔
        operation.InTable store) := by
  have tabled := tabled_of_run unclaimed run
  have written := operation.written called ran
  refine ⟨fun claimId claim found => ?_, inTable_of_byTable tabled ran, fun inTable claimId claim row found kept => ?_⟩
  · obtain ⟨row, kept, lawful, _⟩ := written.lawful tabled found
    exact ⟨row, kept, lawful⟩
  · obtain ⟨other, same, _, byTable⟩ := written.lawful tabled found
    rw [kept] at same
    cases same
    exact byTable inTable

end Laws

def enteringPair : ExposurePair := ⟨1, 1⟩

def emptyStore : ClaimStore := ⟨0, [("AAA", 1)], [], [], [], [], []⟩

def enteringIntent : IntentRow := ⟨0, some 1, "AAA", "buy", .received, none⟩

/-- The claim of an entry with some status. -/
def enteringClaim (status : ClaimStatus) : ClaimRow := ⟨1, enteringPair, some 1, none, "entry:1", status, none, none⟩

/-- An entry is admitted, and its claim has some status. -/
def enteringStore (status : ClaimStatus) : ClaimStore :=
  ⟨0, [("AAA", 1)], [enteringClaim status], [], [{ enteringIntent with id := 1 }], [], []⟩

theorem reaches_submitting : CallerRun emptyStore (enteringStore .entrySubmitting) := by
  have admitted : CallerStep emptyStore (enteringStore .entryPending) :=
    ⟨.acquire enteringPair "entry:1" enteringIntent, trivial, by decide⟩
  have submitting : CallerStep (enteringStore .entryPending) (enteringStore .entrySubmitting) :=
    ⟨.transition 1 .entryPending .entrySubmitting, by simp [ClaimOperation.Called, requestedStatuses], by decide⟩
  exact (Relation.ReflTransGen.single admitted).tail submitting

/-- A position is found at the broker before its order is known to be active. -/
theorem attached_off_table : ∃ store after, CallerRun emptyStore store ∧ CallerStep store after ∧
    ∃ claim row, store.claim 1 = some claim ∧ after.claim 1 = some row ∧ claim.releasedAt = none ∧ row.releasedAt = none ∧
      claim.status = .entrySubmitting ∧ row.status = .positionOpen ∧
      canTransitionEntryExposureClaim claim.status row.status = false := by
  have opened : (enteringStore .entrySubmitting).attach enteringPair 1 none =
      some ((enteringStore .entrySubmitting).attachTo (enteringClaim .entrySubmitting) 1) := by decide
  exact ⟨_, _, reaches_submitting, ⟨.attach enteringPair 1 none, trivial, opened⟩, enteringClaim .entrySubmitting,
    { enteringClaim .positionOpen with trackedPositionId := some 1 }, rfl, rfl, rfl, rfl, rfl, rfl, by decide⟩

/-- The transition of the sample to an active order goes by the table. -/
theorem status_sample :
    (∀ claimId claim, (enteringStore .entrySubmitting).claim claimId = some claim →
      ∃ row, (enteringStore .brokerOrderActive).claim claimId = some row ∧ claim.Lawful row) ∧
    ((∀ claimId claim row, (enteringStore .entrySubmitting).claim claimId = some claim →
        (enteringStore .brokerOrderActive).claim claimId = some row → claim.ByTable row) ↔
      (ClaimOperation.transition 1 .entrySubmitting .brokerOrderActive).InTable (enteringStore .entrySubmitting)) :=
  status_of_run rfl reaches_submitting (by simp [ClaimOperation.Called, requestedStatuses]) (by decide)

end AiTrader.Exclusivity
