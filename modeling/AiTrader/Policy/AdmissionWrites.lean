import AiTrader.Exclusivity.Exclusive
import AiTrader.Policy.EntryAdmission

/-! # What is written beside an admission

Admissions, evidence and every other transaction on claims and intents keep one invariant: the intent of an enforced
admission, its claim, its allowed attempt and its obligation exist together. -/

namespace AiTrader.Policy

open Library Entry Exclusivity Table

section Owners

/-- A later version of a claim belongs to the same owner and intent. -/
structure SameOwner (claim later : ClaimRow) : Prop where
  id : later.id = claim.id
  ownerKey : later.ownerKey = claim.ownerKey
  orderIntentId : later.orderIntentId = claim.orderIntentId

/-- The unique indexes on the owner and on the intent of a claim. -/
structure OwnersUnique (claims : List ClaimRow) : Prop where
  ownerKey : Unique (fun claim : ClaimRow => some claim.ownerKey) claims
  orderIntentId : Unique ClaimRow.orderIntentId claims

/-- The claim with this owner key belongs to this intent. -/
def Owned (store : ClaimStore) (ownerKey : String) (orderIntentId : Nat) : Prop :=
  ∃ claim ∈ store.claims, claim.ownerKey = ownerKey ∧ claim.orderIntentId = some orderIntentId

instance (store : ClaimStore) (ownerKey : String) (orderIntentId : Nat) : Decidable (Owned store ownerKey orderIntentId) :=
  inferInstanceAs (Decidable (∃ claim ∈ store.claims, claim.ownerKey = ownerKey ∧ claim.orderIntentId = some orderIntentId))

/-- What every transaction but an acquisition keeps. -/
structure ExposureKept (store after : ClaimStore) : Prop where
  intents : after.intents.map (fun intent => (intent.id, intent.side)) = store.intents.map fun intent => (intent.id, intent.side)
  claims : ∀ claim ∈ store.claims, ∃ later ∈ after.claims, SameOwner claim later
  origin : ∀ later ∈ after.claims, later.orderIntentId ≠ none → ∃ claim ∈ store.claims, SameOwner claim later
  unique : OwnersUnique store.claims → OwnersUnique after.claims

variable {store after : ClaimStore}

theorem SameOwner.refl (claim : ClaimRow) : SameOwner claim claim := ⟨rfl, rfl, rfl⟩

theorem ExposureKept.of_claims_eq (intents : after.intents.map (fun intent => (intent.id, intent.side)) =
      store.intents.map fun intent => (intent.id, intent.side)) (claims : after.claims = store.claims) :
    ExposureKept store after where
  intents := intents
  claims := fun claim member => ⟨claim, claims ▸ member, .refl claim⟩
  origin := fun later member _ => ⟨later, claims ▸ member, .refl later⟩
  unique := fun unique => claims ▸ unique

variable {observed : ClaimStatus} {claimId : Nat}

theorem kept_updateClaim {update : ClaimRow → ClaimRow}
    (kept : ∀ claim, SameOwner claim (update claim)) : ExposureKept store (store.updateClaim claimId observed update) where
  intents := rfl
  claims := fun claim member => by
    refine ⟨_, mem_updateWhere.mpr ⟨claim, member, rfl⟩, ?_⟩
    split
    · exact kept claim
    · exact .refl claim
  origin := fun later member _ => by
    obtain ⟨claim, was, rfl⟩ := mem_updateWhere.mp member
    refine ⟨claim, was, ?_⟩
    split
    · exact kept claim
    · exact .refl claim
  unique := fun unique =>
    { ownerKey := unique.ownerKey.updateWhere fun claim _ => .inl (congrArg some (kept claim).ownerKey)
      orderIntentId := unique.orderIntentId.updateWhere fun claim _ => .inl (kept claim).orderIntentId }

variable {claims : List ClaimRow}

theorem inserted_claim {claim : ClaimRow} {after : List ClaimRow} (admitted : insertClaim claim claims = some after) :
    after = claims ++ [claim] ∧ (∀ other ∈ claims, other.ownerKey ≠ claim.ownerKey) ∧
      (OwnersUnique claims → OwnersUnique after) := by
  simp only [insertClaim, Option.bind_eq_bind, Option.bind_eq_some_iff] at admitted
  obtain ⟨first, byOwner, second, byIntent, third, byPosition, inserted⟩ := admitted
  have appended := eq_append_of_insertUnique inserted
  refine ⟨appended, ?_, fun unique => ⟨?_, ?_⟩⟩
  · intro other member same
    unfold insertUnique at byOwner
    split at byOwner
    · cases byOwner
    case isFalse free =>
      refine free ?_
      simp only [Option.any_some, indexed, List.any_eq_true]
      exact ⟨other, member, by simp [same]⟩
  · rw [appended, ← eq_append_of_insertUnique byOwner]
    exact unique.ownerKey.insertUnique byOwner
  · rw [appended, ← eq_append_of_insertUnique byIntent]
    exact unique.orderIntentId.insertUnique byIntent

theorem kept_insertClaim {claim : ClaimRow} (unowned : claim.orderIntentId = none)
    (admitted : insertClaim claim store.claims = some claims) : ExposureKept store { store with claims } := by
  obtain ⟨appended, _, unique⟩ := inserted_claim admitted
  refine ⟨rfl, ?_, ?_, unique⟩
  · intro other member
    exact ⟨other, appended ▸ List.mem_append_left _ member, .refl other⟩
  · intro later member owned
    rw [appended] at member
    rcases List.mem_append.mp member with old | new
    · exact ⟨later, old, .refl later⟩
    · rw [List.mem_singleton.mp new] at owned
      exact absurd unowned owned

theorem kept_setStatus {target : ClaimStatus} :
    ExposureKept store (store.setStatus claimId observed target) := kept_updateClaim fun _ => ⟨rfl, rfl, rfl⟩

theorem kept_release {reason : String} :
    ExposureKept store (store.release claimId observed reason) := kept_updateClaim fun _ => ⟨rfl, rfl, rfl⟩

theorem kept_attach {pair : ExposurePair} {trackedPositionId : Nat} {expectedOrderIntentId : Option Nat}
    (attached : store.attach pair trackedPositionId expectedOrderIntentId = some after) : ExposureKept store after := by
  unfold ClaimStore.attach at attached
  cases found : store.activeClaim pair with
  | none =>
    simp only [found, Option.map_eq_some_iff] at attached
    obtain ⟨claims, admitted, rfl⟩ := attached
    exact kept_insertClaim rfl admitted
  | some active =>
    simp only [found] at attached
    split_ifs at attached <;> cases attached
    · exact kept_setStatus
    · exact .of_claims_eq rfl rfl
    · exact .of_claims_eq rfl rfl
    · exact kept_setStatus
    · exact kept_updateClaim fun _ => ⟨rfl, rfl, rfl⟩

/-- Only an acquisition gives an intent to an owner. -/
theorem kept_of_apply {operation : ClaimOperation} (applied : operation.apply store = some after)
    (other : ∀ pair ownerKey newIntent, operation ≠ .acquire pair ownerKey newIntent) : ExposureKept store after := by
  cases operation with
  | acquire pair ownerKey newIntent => exact absurd rfl (other pair ownerKey newIntent)
  | transition claimId observed target =>
    simp only [ClaimOperation.apply] at applied
    split at applied <;> cases applied
    exact kept_setStatus
  | markUnresolved claimId observed =>
    cases applied
    exact kept_setStatus
  | attach pair trackedPositionId expectedOrderIntentId => exact kept_attach applied
  | openPosition pair expectedOrderIntentId =>
    have kept := kept_attach applied
    exact ⟨kept.intents, kept.claims, kept.origin, kept.unique⟩
  | releaseUnsubmitted | releaseVerified | releaseConfirmedTerminal | releaseClosedAdoptedPosition =>
    obtain ⟨claimId, observed, reason, rfl⟩ := ClaimOperation.released rfl applied
    exact kept_release
  | position positionId status =>
    cases applied
    exact .of_claims_eq rfl rfl
  | createBrokerOrder order =>
    cases applied
    exact .of_claims_eq rfl rfl
  | brokerOrder brokerOrderId status =>
    cases applied
    exact .of_claims_eq rfl rfl
  | intent orderIntentId status trackedPositionId =>
    cases applied
    refine .of_claims_eq ?_ rfl
    rw [updateWhere, List.map_map]
    refine List.map_congr_left fun row _ => ?_
    simp only [Function.comp_apply]
    split <;> rfl
  | fill fill =>
    cases applied
    exact .of_claims_eq rfl rfl

theorem ExposureKept.owned (kept : ExposureKept store after) {ownerKey : String} {orderIntentId : Nat}
    (owned : Owned store ownerKey orderIntentId) : Owned after ownerKey orderIntentId := by
  obtain ⟨claim, member, named, linked⟩ := owned
  obtain ⟨later, there, same⟩ := kept.claims claim member
  exact ⟨later, there, same.ownerKey.trans named, same.orderIntentId.trans linked⟩

theorem owned_of_ownedIntent {ownerKey : String} {orderIntentId : Nat}
    (found : ownedIntent store ownerKey = some orderIntentId) : Owned store ownerKey orderIntentId := by
  simp only [ownedIntent, Option.bind_eq_some_iff] at found
  obtain ⟨claim, first, linked⟩ := found
  exact ⟨claim, List.mem_of_find?_eq_some first, by simpa using List.find?_some first, linked⟩

theorem Owned.unique (unique : OwnersUnique store.claims) {ownerKey : String} {first second : Nat}
    (one : Owned store ownerKey first) (other : Owned store ownerKey second) : first = second := by
  obtain ⟨claim, member, named, linked⟩ := one
  obtain ⟨same, there, alike, also⟩ := other
  have equal := unique.ownerKey.eq_of_key member there (congrArg some named) (congrArg some alike)
  rw [← equal, linked] at also
  exact Option.some.inj also

theorem Owned.ownedIntent (unique : OwnersUnique store.claims) {ownerKey : String} {orderIntentId : Nat}
    (owned : Owned store ownerKey orderIntentId) : ownedIntent store ownerKey = some orderIntentId := by
  obtain ⟨claim, member, named, linked⟩ := owned
  unfold Policy.ownedIntent
  cases found : store.claims.find? (·.ownerKey == ownerKey) with
  | none => exact absurd (by simp [named]) (List.find?_eq_none.mp found claim member)
  | some first =>
    have alike : first.ownerKey = ownerKey := by simpa using List.find?_some found
    have equal := unique.ownerKey.eq_of_key member (List.mem_of_find?_eq_some found) (congrArg some named)
      (congrArg some alike)
    rw [Option.bind_some, ← equal, linked]

end Owners

section Writes

/-- The admission of an assignment that is not enforced, or while the rollout is inactive. -/
def Unenforced (rollout : Rollout) : AdmissionDisposition → Prop
  | .runtimeInactive => rollout.enabled = false
  | .notApplicable => True
  | .resolved disposition => disposition ∈ nonEnforcedDispositions

/-- What one call of the admission commits. -/
inductive AdmissionWrite (call : Nat) (store : AdmissionStore) : AdmissionStore → Prop where
  | legacy {request : EntryAdmissionRequest} {rollout : Rollout} {disposition : AdmissionDisposition}
      {pair : ExposurePair} {orderIntentId : Nat} {after : AdmissionStore} (unenforced : Unenforced rollout disposition)
      (admitted : admitLegacy call request rollout disposition pair store = .ok (orderIntentId, after)) :
      AdmissionWrite call store after
  | enforced {request : EntryAdmissionRequest} {rollout : Rollout} {resolution : Resolution}
      {evaluation : MarketPolicyEvaluation} {evaluatedAt : Int} {pair : ExposurePair} {created : Nat × Nat × Nat}
      {after : AdmissionStore} (enabled : rollout.enabled = true)
      (enforced : resolution.disposition ∉ nonEnforcedDispositions) (allowed : evaluation.outcome = .allowed)
      (admitted : admitEnforced call request rollout resolution evaluation evaluatedAt pair store = .ok (created, after)) :
      AdmissionWrite call store after
  /-- Evidence without an intent. -/
  | evidence {attempt : AdmissionAttempt} (unlinked : attempt.orderIntentId = none) :
      AdmissionWrite call store (store.recordAttempt attempt)

/-- What everything but an admission commits. -/
inductive OtherWrite (store : AdmissionStore) : AdmissionStore → Prop where
  | context (context : PolicyContext) : OtherWrite store { store with context }
  | exposure {operation : ClaimOperation} {exposure : ClaimStore} (applied : operation.apply store.exposure = some exposure)
      (other : ∀ pair ownerKey newIntent, operation ≠ .acquire pair ownerKey newIntent) :
      OtherWrite store { store with exposure }
  | exit {intent : IntentRow} (sells : intent.side = "sell")
      (fresh : intent.id = nextId (store.exposure.intents.map (·.id))) :
      OtherWrite store { store with exposure := { store.exposure with intents := store.exposure.intents ++ [intent] } }

/-- A transaction beside one call: no admission's or the one of another call. -/
def Beside (call : Nat) (store after : AdmissionStore) : Prop :=
  OtherWrite store after ∨ ∃ other ≠ call, AdmissionWrite other store after

/-- Any number of admissions and other writers, in any order. -/
abbrev AdmissionHistory : AdmissionStore → AdmissionStore → Prop :=
  Relation.ReflTransGen fun store after => OtherWrite store after ∨ ∃ call, AdmissionWrite call store after

variable {call : Nat} {request : EntryAdmissionRequest} {pair : ExposurePair} {store after : AdmissionStore}

/-- The intent and the claim of an acquisition. -/
structure Acquired (ownerKey : String) (before after : ClaimStore) (orderIntentId claimId : Nat) : Prop where
  fresh : orderIntentId ∉ before.intents.map (·.id)
  intents : ∃ intent, intent.id = orderIntentId ∧ after.intents = before.intents ++ [intent]
  claims : ∃ claim, claim.id = claimId ∧ claim.ownerKey = ownerKey ∧ claim.orderIntentId = some orderIntentId ∧
    after.claims = before.claims ++ [claim]
  unowned : ∀ claim ∈ before.claims, claim.ownerKey ≠ ownerKey
  unique : OwnersUnique before.claims → OwnersUnique after.claims

theorem acquired_of_createClaimedIntent {acquisition : Acquisition} {exposure : ClaimStore}
    (created : createClaimedIntent request pair store = .ok (acquisition, exposure)) :
    Acquired request.ownerKey store.exposure exposure acquisition.orderIntentId acquisition.claimId := by
  unfold createClaimedIntent at created
  split at created
  · cases created
  · split at created
    · cases created
    case h_2 newIntent _ _ acquired applied =>
      cases created
      unfold applyAcquisition at applied
      dsimp only at applied
      split at applied
      · cases applied
      case h_2 claims admitted =>
        cases applied
        obtain ⟨appended, unowned, unique⟩ := inserted_claim admitted
        exact ⟨nextId_not_mem _, ⟨_, rfl, rfl⟩, ⟨_, rfl, rfl, rfl, appended⟩, unowned, unique⟩

/-- The attempt and the obligation of an enforced admission. -/
structure Frozen (store after : AdmissionStore) (orderIntentId : Nat) : Prop where
  rows : ∃ attempt obligation, after.attempts = store.attempts ++ [attempt] ∧
    after.obligations = store.obligations ++ [obligation] ∧ attempt.orderIntentId = some orderIntentId ∧
    attempt.outcome = .allowed ∧ attempt.orderIntentCreated = true ∧ obligation.orderIntentId = orderIntentId ∧
    obligation.admissionAttemptId = attempt.id

/-- An admission adds one intent with its claim, and an attempt and obligation exactly when it is enforced. -/
structure Admitted (store after : AdmissionStore) (admission : Admission) : Prop where
  acquired : Acquired admission.ownerKey store.exposure after.exposure admission.orderIntentId admission.claimId
  admissions : after.admissions = store.admissions ++ [admission]
  frozen : admission.Enforced → Frozen store after admission.orderIntentId
  unfrozen : ¬ admission.Enforced → after.attempts = store.attempts ∧ after.obligations = store.obligations

theorem admitted_of_admitLegacy {rollout : Rollout} {disposition : AdmissionDisposition} {orderIntentId : Nat}
    (unenforced : Unenforced rollout disposition)
    (created : admitLegacy call request rollout disposition pair store = .ok (orderIntentId, after)) :
    ∃ admission, admission.call = call ∧ admission.ownerKey = request.ownerKey ∧
      admission.orderIntentId = orderIntentId ∧ ¬ admission.Enforced ∧ Admitted store after admission := by
  unfold admitLegacy at created
  split at created
  · cases created
  case h_2 acquisition exposure claimed =>
    cases created
    have quiet : ¬ Admission.Enforced ⟨call, request.ownerKey, rollout.enabled, disposition.locked,
        acquisition.orderIntentId, acquisition.claimId⟩ := by
      rintro ⟨_, locked, same, engaged⟩
      cases disposition with
      | runtimeInactive => cases same
      | notApplicable => cases same
      | resolved disposition =>
        cases same
        exact engaged unenforced
    exact ⟨_, rfl, rfl, rfl, quiet, acquired_of_createClaimedIntent claimed, rfl, fun enforced => absurd enforced quiet,
      fun _ => ⟨rfl, rfl⟩⟩

theorem admitted_of_admitEnforced {rollout : Rollout} {resolution : Resolution} {evaluation : MarketPolicyEvaluation}
    {evaluatedAt : Int} {created : Nat × Nat × Nat} (enabled : rollout.enabled = true)
    (enforced : resolution.disposition ∉ nonEnforcedDispositions) (allowed : evaluation.outcome = .allowed)
    (success : admitEnforced call request rollout resolution evaluation evaluatedAt pair store = .ok (created, after)) :
    ∃ admission, admission.call = call ∧ admission.ownerKey = request.ownerKey ∧
      admission.orderIntentId = created.1 ∧ admission.Enforced ∧ Admitted store after admission := by
  unfold admitEnforced at success
  split at success
  · cases success
  · cases success
  case h_3 acquisition exposure authorization claimed _ =>
    cases success
    have engaged : Admission.Enforced ⟨call, request.ownerKey, rollout.enabled, some resolution.disposition,
        acquisition.orderIntentId, acquisition.claimId⟩ := ⟨enabled, _, rfl, enforced⟩
    refine ⟨_, rfl, rfl, rfl, engaged, acquired_of_createClaimedIntent claimed, rfl, fun _ => ?_,
      fun quiet => absurd engaged quiet⟩
    exact ⟨_, _, rfl, rfl, rfl, congrArg EvaluatedOutcome.admission allowed, rfl, rfl, rfl⟩

/-- A transaction admits one entry, adds evidence without an intent, or keeps all of these rows. -/
theorem AdmissionWrite.cases (write : AdmissionWrite call store after) :
    (∃ admission, admission.call = call ∧ Admitted store after admission) ∨
      ∃ attempt, attempt.orderIntentId = none ∧ after = store.recordAttempt attempt := by
  cases write with
  | legacy unenforced admitted =>
    obtain ⟨admission, called, _, _, _, added⟩ := admitted_of_admitLegacy unenforced admitted
    exact .inl ⟨admission, called, added⟩
  | enforced enabled enforced allowed admitted =>
    obtain ⟨admission, called, _, _, _, added⟩ := admitted_of_admitEnforced enabled enforced allowed admitted
    exact .inl ⟨admission, called, added⟩
  | @evidence attempt unlinked => exact .inr ⟨attempt, unlinked, rfl⟩

end Writes

section Invariant

section

variable (store : AdmissionStore)

/-- An allowed attempt is linked to the intent. -/
def AdmissionStore.AllowedAttempt (orderIntentId : Nat) : Prop :=
  ∃ attempt ∈ store.attempts, attempt.orderIntentId = some orderIntentId ∧ attempt.outcome = .allowed ∧
    attempt.orderIntentCreated = true

/-- The intent has a claim. -/
def AdmissionStore.Claimed (orderIntentId : Nat) : Prop :=
  ∃ claim ∈ store.exposure.claims, claim.orderIntentId = some orderIntentId

/-- The intent has a frozen obligation that mirrors an attempt linked to it. -/
def AdmissionStore.Obliged (orderIntentId : Nat) : Prop :=
  ∃ obligation ∈ store.obligations, obligation.orderIntentId = orderIntentId ∧
    ∃ attempt ∈ store.attempts, attempt.id = obligation.admissionAttemptId ∧ attempt.orderIntentId = some orderIntentId

end

instance (store : AdmissionStore) (orderIntentId : Nat) : Decidable (store.Claimed orderIntentId) :=
  inferInstanceAs (Decidable (∃ claim ∈ store.exposure.claims, claim.orderIntentId = some orderIntentId))

instance (store : AdmissionStore) (orderIntentId : Nat) : Decidable (store.Obliged orderIntentId) :=
  inferInstanceAs (Decidable (∃ obligation ∈ store.obligations, obligation.orderIntentId = orderIntentId ∧
    ∃ attempt ∈ store.attempts, attempt.id = obligation.admissionAttemptId ∧ attempt.orderIntentId = some orderIntentId))

/-- The history accounts for the intents, claims, attempts and obligations that were not there before it. -/
structure Atomic (earlier : List Nat) (store : AdmissionStore) : Prop where
  unique : OwnersUnique store.exposure.claims
  kept : ∀ id ∈ earlier, id ∈ store.exposure.intents.map (·.id)
  intents : ∀ intent ∈ store.exposure.intents, intent.side = "sell" ∨ intent.id ∈ earlier ∨
    ∃ admission ∈ store.admissions, admission.orderIntentId = intent.id
  claims : ∀ claim ∈ store.exposure.claims, ∀ orderIntentId, claim.orderIntentId = some orderIntentId →
    orderIntentId ∈ earlier ∨ ∃ admission ∈ store.admissions, admission.orderIntentId = orderIntentId
  admitted : ∀ admission ∈ store.admissions, admission.orderIntentId ∈ store.exposure.intents.map (·.id) ∧
    admission.orderIntentId ∉ earlier ∧ ∃ claim ∈ store.exposure.claims, claim.id = admission.claimId ∧
      claim.ownerKey = admission.ownerKey ∧ claim.orderIntentId = some admission.orderIntentId
  distinct : (store.admissions.map (·.orderIntentId)).Nodup
  frozen : ∀ admission ∈ store.admissions, admission.Enforced →
    store.AllowedAttempt admission.orderIntentId ∧ store.Obliged admission.orderIntentId
  linked : ∀ attempt ∈ store.attempts, ∀ orderIntentId, attempt.orderIntentId = some orderIntentId →
    ∃ admission ∈ store.admissions, admission.Enforced ∧ admission.orderIntentId = orderIntentId
  obliged : ∀ obligation ∈ store.obligations,
    ∃ admission ∈ store.admissions, admission.Enforced ∧ admission.orderIntentId = obligation.orderIntentId
  oneObligation : (store.obligations.map (·.orderIntentId)).Nodup

variable {earlier : List Nat} {call : Nat} {store after : AdmissionStore} {admission : Admission}

section

variable (atomic : Atomic earlier store)
include atomic

theorem Atomic.recordAttempt {attempt : AdmissionAttempt}
    (unlinked : attempt.orderIntentId = none) : Atomic earlier (store.recordAttempt attempt) where
  unique := atomic.unique
  kept := atomic.kept
  intents := atomic.intents
  claims := atomic.claims
  admitted := atomic.admitted
  distinct := atomic.distinct
  frozen := fun admission member enforced => by
    obtain ⟨⟨linked, there, facts⟩, obligation, among, named, mirrored, listed, same⟩ := atomic.frozen admission member enforced
    exact ⟨⟨linked, List.mem_append_left _ there, facts⟩, obligation, among, named, mirrored,
      List.mem_append_left _ listed, same⟩
  linked := fun row member orderIntentId same => by
    rcases List.mem_append.mp member with old | new
    · exact atomic.linked row old orderIntentId same
    · rw [List.mem_singleton.mp new] at same
      simp [unlinked] at same
  obliged := atomic.obliged
  oneObligation := atomic.oneObligation

theorem Atomic.exposure {exposure : ClaimStore}
    (kept : ExposureKept store.exposure exposure) : Atomic earlier { store with exposure } where
  unique := kept.unique atomic.unique
  kept := fun id member => by
    have ids := congrArg (List.map Prod.fst) kept.intents
    simp only [List.map_map, Function.comp_def] at ids
    exact ids ▸ atomic.kept id member
  intents := fun intent member => by
    have listed : (intent.id, intent.side) ∈ exposure.intents.map fun intent => (intent.id, intent.side) :=
      List.mem_map.mpr ⟨intent, member, rfl⟩
    rw [kept.intents, List.mem_map] at listed
    obtain ⟨old, was, same⟩ := listed
    have := atomic.intents old was
    rw [(Prod.mk.inj same).1, (Prod.mk.inj same).2] at this
    exact this
  claims := fun claim member orderIntentId owned => by
    obtain ⟨old, was, same⟩ := kept.origin claim member (by simp [owned])
    exact atomic.claims old was orderIntentId (same.orderIntentId ▸ owned)
  admitted := fun admission member => by
    obtain ⟨there, new, claim, among, numbered, named, linked⟩ := atomic.admitted admission member
    obtain ⟨later, listed, same⟩ := kept.claims claim among
    have ids := congrArg (List.map Prod.fst) kept.intents
    simp only [List.map_map, Function.comp_def] at ids
    exact ⟨ids ▸ there, new, later, listed, same.id.trans numbered, same.ownerKey.trans named,
      same.orderIntentId.trans linked⟩
  distinct := atomic.distinct
  frozen := atomic.frozen
  linked := atomic.linked
  obliged := atomic.obliged
  oneObligation := atomic.oneObligation

theorem Atomic.exit {intent : IntentRow} (sells : intent.side = "sell") :
    Atomic earlier { store with exposure := { store.exposure with intents := store.exposure.intents ++ [intent] } } where
  unique := atomic.unique
  kept := fun id member => by
    rw [List.map_append]
    exact List.mem_append_left _ (atomic.kept id member)
  intents := fun row member => by
    rcases List.mem_append.mp member with old | new
    · exact atomic.intents row old
    · exact .inl (List.mem_singleton.mp new ▸ sells)
  claims := atomic.claims
  admitted := fun admission member => by
    obtain ⟨there, rest⟩ := atomic.admitted admission member
    rw [List.map_append]
    exact ⟨List.mem_append_left _ there, rest⟩
  distinct := atomic.distinct
  frozen := atomic.frozen
  linked := atomic.linked
  obliged := atomic.obliged
  oneObligation := atomic.oneObligation

theorem Atomic.fresh (added : Admitted store after admission) :
    (∀ old ∈ store.admissions, old.orderIntentId ≠ admission.orderIntentId) ∧ admission.orderIntentId ∉ earlier := by
  constructor
  · intro old member same
    exact added.acquired.fresh (same ▸ (atomic.admitted old member).1)
  · exact fun member => added.acquired.fresh (atomic.kept _ member)

end

section

variable (added : Admitted store after admission)
include added

theorem Admitted.attempts : store.attempts ⊆ after.attempts := by
  by_cases enforced : admission.Enforced
  · obtain ⟨attempt, _, appended, _⟩ := (added.frozen enforced).rows
    rw [appended]
    exact List.subset_append_left _ _
  · rw [(added.unfrozen enforced).1]
    exact fun _ member => member

theorem Admitted.obligations : store.obligations ⊆ after.obligations := by
  by_cases enforced : admission.Enforced
  · obtain ⟨_, obligation, _, appended, _⟩ := (added.frozen enforced).rows
    rw [appended]
    exact List.subset_append_left _ _
  · rw [(added.unfrozen enforced).2]
    exact fun _ member => member

/-- The admitted intent has all its rows. -/
theorem Admitted.rows (enforced : admission.Enforced) :
    after.AllowedAttempt admission.orderIntentId ∧ after.Obliged admission.orderIntentId := by
  obtain ⟨attempt, obligation, attempts, obligations, linked, allowed, created, named, mirrored⟩ :=
    (added.frozen enforced).rows
  have recorded : attempt ∈ after.attempts := attempts ▸ List.mem_append_right _ (List.mem_singleton.mpr rfl)
  have frozen : obligation ∈ after.obligations := obligations ▸ List.mem_append_right _ (List.mem_singleton.mpr rfl)
  exact ⟨⟨attempt, recorded, linked, allowed, created⟩, obligation, frozen, named, attempt, recorded, mirrored.symm, linked⟩

end

theorem Atomic.ofAdmitted (atomic : Atomic earlier store) (added : Admitted store after admission) :
    Atomic earlier after := by
  obtain ⟨intent, identified, intents⟩ := added.acquired.intents
  obtain ⟨claim, numbered, named, owning, claims⟩ := added.acquired.claims
  obtain ⟨different, new⟩ := atomic.fresh added
  have logged : admission ∈ after.admissions := added.admissions ▸ List.mem_append_right _ (List.mem_singleton.mpr rfl)
  have still : store.admissions ⊆ after.admissions := added.admissions ▸ List.subset_append_left _ _
  constructor
  · exact added.acquired.unique atomic.unique
  · intro id member
    rw [intents, List.map_append]
    exact List.mem_append_left _ (atomic.kept id member)
  · intro row member
    rw [intents] at member
    rcases List.mem_append.mp member with old | created
    · exact (atomic.intents row old).imp id (Or.imp id fun ⟨one, listed, same⟩ => ⟨one, still listed, same⟩)
    · rw [List.mem_singleton.mp created]
      exact .inr (.inr ⟨admission, logged, identified.symm⟩)
  · intro row member orderIntentId owned
    rw [claims] at member
    rcases List.mem_append.mp member with old | created
    · exact (atomic.claims row old orderIntentId owned).imp id fun ⟨one, listed, same⟩ => ⟨one, still listed, same⟩
    · rw [List.mem_singleton.mp created, owning] at owned
      exact .inr ⟨admission, logged, Option.some.inj owned⟩
  · intro one member
    rw [added.admissions] at member
    rw [intents, List.map_append, claims]
    rcases List.mem_append.mp member with old | created
    · obtain ⟨there, later, row, listed, facts⟩ := atomic.admitted one old
      exact ⟨List.mem_append_left _ there, later, row, List.mem_append_left _ listed, facts⟩
    · rw [List.mem_singleton.mp created]
      exact ⟨List.mem_append_right _ (by simp [identified]), new, claim, List.mem_append_right _ (by simp), numbered,
        named, owning⟩
  · rw [added.admissions, List.map_append]
    refine List.nodup_append.mpr ⟨atomic.distinct, by simp, ?_⟩
    intro id member other created same
    obtain ⟨old, listed, rfl⟩ := List.mem_map.mp member
    exact different old listed (same.trans (by simpa using created))
  · intro one member enforced
    rw [added.admissions] at member
    rcases List.mem_append.mp member with old | created
    · obtain ⟨⟨attempt, recorded, facts⟩, obligation, frozen, same, mirrored, listed, linked⟩ := atomic.frozen one old enforced
      exact ⟨⟨attempt, added.attempts recorded, facts⟩, obligation, added.obligations frozen, same, mirrored,
        added.attempts listed, linked⟩
    · rw [List.mem_singleton.mp created] at enforced ⊢
      exact added.rows enforced
  · intro attempt member orderIntentId linked
    by_cases enforced : admission.Enforced
    · obtain ⟨made, _, attempts, _, named, _⟩ := (added.frozen enforced).rows
      rw [attempts] at member
      rcases List.mem_append.mp member with old | created
      · obtain ⟨one, listed, facts⟩ := atomic.linked attempt old orderIntentId linked
        exact ⟨one, still listed, facts⟩
      · rw [List.mem_singleton.mp created, named] at linked
        exact ⟨admission, logged, enforced, Option.some.inj linked⟩
    · rw [(added.unfrozen enforced).1] at member
      obtain ⟨one, listed, facts⟩ := atomic.linked attempt member orderIntentId linked
      exact ⟨one, still listed, facts⟩
  · intro obligation member
    by_cases enforced : admission.Enforced
    · obtain ⟨_, made, _, obligations, _, _, _, named, _⟩ := (added.frozen enforced).rows
      rw [obligations] at member
      rcases List.mem_append.mp member with old | created
      · obtain ⟨one, listed, facts⟩ := atomic.obliged obligation old
        exact ⟨one, still listed, facts⟩
      · rw [List.mem_singleton.mp created, named]
        exact ⟨admission, logged, enforced, rfl⟩
    · rw [(added.unfrozen enforced).2] at member
      obtain ⟨one, listed, facts⟩ := atomic.obliged obligation member
      exact ⟨one, still listed, facts⟩
  · by_cases enforced : admission.Enforced
    · obtain ⟨_, made, _, obligations, _, _, _, named, _⟩ := (added.frozen enforced).rows
      rw [obligations, List.map_append]
      refine List.nodup_append.mpr ⟨atomic.oneObligation, by simp, ?_⟩
      intro id member other created same
      obtain ⟨old, listed, rfl⟩ := List.mem_map.mp member
      obtain ⟨one, among, _, alike⟩ := atomic.obliged old listed
      have : other = made.orderIntentId := by simpa using created
      exact different one among (alike.trans (same.trans (this.trans named)))
    · rw [(added.unfrozen enforced).2]
      exact atomic.oneObligation

theorem Atomic.write (atomic : Atomic earlier store) (write : AdmissionWrite call store after) : Atomic earlier after := by
  rcases write.cases with ⟨admission, _, added⟩ | ⟨attempt, unlinked, rfl⟩
  · exact atomic.ofAdmitted added
  · exact atomic.recordAttempt unlinked

theorem Atomic.other (atomic : Atomic earlier store) (write : OtherWrite store after) : Atomic earlier after := by
  cases write with
  | context context => exact ⟨atomic.unique, atomic.kept, atomic.intents, atomic.claims, atomic.admitted,
      atomic.distinct, atomic.frozen, atomic.linked, atomic.obliged, atomic.oneObligation⟩
  | exposure applied other => exact atomic.exposure (kept_of_apply applied other)
  | exit sells fresh => exact atomic.exit sells

theorem Atomic.history (atomic : Atomic earlier store) (history : AdmissionHistory store after) : Atomic earlier after := by
  induction history with
  | refl => exact atomic
  | tail _ step ih =>
    rcases step with other | ⟨call, write⟩
    · exact ih.other other
    · exact ih.write write

end Invariant

end AiTrader.Policy
