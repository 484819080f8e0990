import AiTrader.Policy.AdmissionWrites

/-! # Enforced admission is atomic

Among any number of other writers, an admission admits the whole entry or nothing, what it reports tells which, and a
retry gives the intent back. -/

namespace AiTrader.Policy

open Library Library.Program Entry Exclusivity Market

variable {admission : Admission} {α : Type} {earlier : List Nat} {store : AdmissionStore} {call : Nat}

section Contract

/-- The entries that one call has admitted. -/
def AdmissionStore.admittedBy (store : AdmissionStore) (call : Nat) : List Admission :=
  store.admissions.filter (·.call == call)

/-- What one call relies on: nobody else admits for it or takes an intent away from its owner. -/
structure Undisturbed (call : Nat) (store after : AdmissionStore) : Prop where
  own : after.admittedBy call = store.admittedBy call
  owned : ∀ ownerKey orderIntentId, Owned store.exposure ownerKey orderIntentId → Owned after.exposure ownerKey orderIntentId

/-- Evidence without an intent, or nothing. -/
def Evidence (store after : AdmissionStore) : Prop :=
  store = after ∨ ∃ attempt, attempt.orderIntentId = none ∧ after = store.recordAttempt attempt

/-- What one call does to the store. -/
def OwnWrite (call : Nat) (store after : AdmissionStore) : Prop := store = after ∨ AdmissionWrite call store after

variable {after : AdmissionStore}

def evidenceContract (earlier : List Nat) (call : Nat) : Contract AdmissionStore where
  invariant := Atomic earlier
  rely := Undisturbed call
  guarantee := Evidence
  rely_refl := fun _ => ⟨rfl, fun _ _ owned => owned⟩
  rely_trans := fun first second =>
    ⟨second.own.trans first.own, fun _ _ owned => second.owned _ _ (first.owned _ _ owned)⟩
  guarantee_refl := fun _ => .inl rfl

def admissionContract (earlier : List Nat) (call : Nat) : Contract AdmissionStore where
  invariant := Atomic earlier
  rely := Undisturbed call
  guarantee := OwnWrite call
  rely_refl := (evidenceContract earlier call).rely_refl
  rely_trans := (evidenceContract earlier call).rely_trans
  guarantee_refl := fun _ => .inl rfl

theorem ownWrite_of_evidence (evidence : Evidence store after) : OwnWrite call store after := by
  rcases evidence with same | ⟨attempt, unlinked, rfl⟩
  · exact .inl same
  · exact .inr (.evidence unlinked)

/-- A stage that only leaves evidence is a stage of the admission. -/
theorem admitting {program : AdmissionProgram α} {post : Except AdmissionError α → AdmissionStore → Prop}
    (assured : program.Assured (evidenceContract earlier call) AdmissionFault post store) :
    program.Assured (admissionContract earlier call) AdmissionFault post store :=
  assured.weaken (admissionContract earlier call) rfl rfl fun _ _ => ownWrite_of_evidence

theorem Admitted.owned (added : Admitted store after admission) {ownerKey : String}
    {orderIntentId : Nat} (owned : Owned store.exposure ownerKey orderIntentId) :
    Owned after.exposure ownerKey orderIntentId := by
  obtain ⟨claim, member, facts⟩ := owned
  obtain ⟨_, _, _, _, claims⟩ := added.acquired.claims
  exact ⟨claim, claims ▸ List.mem_append_left _ member, facts⟩

/-- Nothing beside a call disturbs it. -/
theorem undisturbed_of_beside (beside : Beside call store after) : Undisturbed call store after := by
  rcases beside with other | ⟨other, different, write⟩
  · cases other with
    | context context => exact ⟨rfl, fun _ _ owned => owned⟩
    | exposure applied other => exact ⟨rfl, fun _ _ owned => (kept_of_apply applied other).owned owned⟩
    | exit sells fresh => exact ⟨rfl, fun _ _ owned => owned⟩
  · rcases write.cases with ⟨admission, called, added⟩ | ⟨attempt, unlinked, rfl⟩
    · refine ⟨?_, fun _ _ owned => added.owned owned⟩
      unfold AdmissionStore.admittedBy
      rw [added.admissions, List.filter_append]
      simp [called, different]
    · exact ⟨rfl, fun _ _ owned => owned⟩

theorem Atomic.beside (atomic : Atomic earlier store) (beside : Beside call store after) : Atomic earlier after := by
  rcases beside with other | ⟨_, _, write⟩
  · exact atomic.other other
  · exact atomic.write write

end Contract

variable {after : AdmissionStore} {evidence : AdmissionStore → AdmissionAttempt}
  {ineffectiveReasons : PolicyContext → AuthorizationRow → List String} {request : EntryAdmissionRequest}
  {retry : Option Nat} {resolution : Resolution} {evaluator : Evaluator} {rollout : Rollout}

section Stages

/-- The call has admitted nothing yet, and the intent that a retry stands for is there. -/
structure Pending (call : Nat) (request : EntryAdmissionRequest) (retry : Option Nat) (store : AdmissionStore) : Prop where
  own : store.admittedBy call = []
  owned : ∀ orderIntentId, retry = some orderIntentId → Owned store.exposure request.ownerKey orderIntentId

theorem Pending.undisturbed (pending : Pending call request retry store)
    (undisturbed : Undisturbed call store after) : Pending call request retry after :=
  ⟨undisturbed.own.trans pending.own, fun id same => undisturbed.owned _ _ (pending.owned id same)⟩

/-- What the search for a free pair finds. -/
def FoundExposure (request : EntryAdmissionRequest) (retry : Option Nat)
    (result : Except AdmissionError (Nat ⊕ ExposurePair)) (store : AdmissionStore) : Prop :=
  match result with
  | .ok (.inl orderIntentId) => Owned store.exposure request.ownerKey orderIntentId
  | .ok (.inr _) => retry = none
  | .error error => AdmissionFault error ∨ error = refusalError .securityNotFound ∨
      retry = none ∧ ∃ statusCode code, error = .http statusCode code

theorem refusalError_ownedRefusal (claim : ClaimRow) (position : Option PositionStatus) :
    ∃ statusCode code, refusalError (ownedRefusal claim position) = .http statusCode code := by
  unfold ownedRefusal
  split_ifs <;> exact ⟨_, _, rfl⟩

section

variable (pending : Pending call request retry store)
include pending

variable {view : AdmissionStore → α}

/-- A read finds the call as it was. -/
theorem Pending.readThen {β : Type} {next : α → AdmissionProgram β} {found : Except AdmissionError β → AdmissionStore → Prop}
    (faults : ∀ error current, AdmissionFault error → found (.error error) current)
    (held : ∀ current, Pending call request retry current → Atomic earlier current →
      (next (view current)).Assured (evidenceContract earlier call) AdmissionFault
        (fun result later => found result later ∧ Pending call request retry later) current) :
    (Program.read view >>= next).Assured (evidenceContract earlier call) AdmissionFault
      (fun result later => found result later ∧ Pending call request retry later) store :=
  Assured.readThen fun current relied atomic =>
    have still := pending.undisturbed relied
    ⟨held current still atomic, fun error faulty => ⟨faults error current faulty, still⟩⟩

/-- A read whose failure is caught finds the call as it was, whatever it answers. -/
theorem Pending.attemptRead {β : Type} {next : Except AdmissionError α → AdmissionProgram β}
    {found : Except AdmissionError β → AdmissionStore → Prop}
    (held : ∀ reply current, Pending call request retry current →
      (next reply).Assured (evidenceContract earlier call) AdmissionFault
        (fun result later => found result later ∧ Pending call request retry later) current) :
    ((Program.read view : AdmissionProgram α).attempt >>= next).Assured (evidenceContract earlier call) AdmissionFault
      (fun result later => found result later ∧ Pending call request retry later) store := by
  refine Assured.bind (Assured.attempt (assured_read fun current relied _ => ?_))
  have still := pending.undisturbed relied
  exact ⟨held _ current still, fun error _ => held _ current still⟩

theorem Pending.retry_none (atomic : Atomic earlier store)
    (absent : ownedIntent store.exposure request.ownerKey = none) : retry = none := by
  cases retry with
  | none => rfl
  | some orderIntentId =>
    rw [(pending.owned orderIntentId rfl).ownedIntent atomic.unique] at absent
    cases absent

theorem assured_requireFreeExposure : (requireFreeExposure request).Assured (evidenceContract earlier call) AdmissionFault
      (fun result current => FoundExposure request retry result current ∧ Pending call request retry current) store := by
  have faults : ∀ error (current : AdmissionStore), AdmissionFault error →
      FoundExposure request retry (.error error) current := fun _ _ faulty => .inl faulty
  refine pending.readThen faults fun looked pending _ => ?_
  cases looked.exposure.securities.lookup (normalizeSymbol request.symbol) with
  | none => exact ⟨.inr (.inl rfl), pending⟩
  | some securityId =>
    refine pending.readThen faults fun owner pending atomic => ?_
    cases priorOwner : ownedIntent owner.exposure request.ownerKey with
    | some orderIntentId => exact ⟨owned_of_ownedIntent priorOwner, pending⟩
    | none =>
      have fresh := pending.retry_none atomic priorOwner
      have conflict : ∀ refusal (current : AdmissionStore),
          (∃ statusCode code, refusalError refusal = .http statusCode code) →
          FoundExposure request retry (.error (refusalError refusal)) current :=
        fun _ _ conflicting => .inr (.inr ⟨fresh, conflicting⟩)
      refine pending.readThen faults fun active pending _ => ?_
      cases occupied : active.exposure.activeClaim ⟨request.tradingAccountId, securityId⟩ with
      | some claim =>
        simp only [Option.map_some]
        split
        case h_1 same owned =>
          refine ⟨⟨claim, List.mem_of_find?_eq_some occupied, by simpa using same, owned⟩, pending⟩
        case h_2 => exact ⟨conflict _ _ (refusalError_ownedRefusal _ _), pending⟩
      | none =>
        refine pending.readThen faults fun positions pending _ => ?_
        split
        case h_1 position _ =>
          refine ⟨conflict _ _ ?_, pending⟩
          split <;> exact ⟨_, _, rfl⟩
        case h_2 =>
          refine pending.readThen faults fun intents pending _ => ?_
          split
          · exact ⟨conflict _ _ ⟨_, _, rfl⟩, pending⟩
          · refine pending.readThen faults fun orders pending _ => ?_
            split
            · exact ⟨conflict _ _ ⟨_, _, rfl⟩, pending⟩
            · exact ⟨fresh, pending⟩

end

/-- What the opened transaction stands for. -/
def FoundOpened (request : EntryAdmissionRequest) (result : Except AdmissionError OpenedAdmission)
    (_ : AdmissionStore) : Prop :=
  match result with
  | .ok (.prepared orderIntentId) => ∃ seen, request.prepare seen = .ok (some orderIntentId)
  | .ok (.legacy rollout disposition) => Unenforced rollout disposition
  | .ok (.engaged rollout resolution) => rollout.enabled = true ∧ resolution.disposition ∉ nonEnforcedDispositions
  | .ok (.unresolved _) => True
  | .error error => AdmissionFault error ∨ error = .http 404 "HTTP_404" ∨
      ∃ seen thrown, request.prepare seen = .error thrown ∧ error = thrown.admission

theorem assured_openAdmission (pending : Pending call request retry store) :
    (openAdmission ineffectiveReasons request).Assured (evidenceContract earlier call) AdmissionFault
      (fun result current => FoundOpened request result current ∧ Pending call request retry current) store := by
  have faults : ∀ error (current : AdmissionStore), AdmissionFault error →
      FoundOpened request (.error error) current := fun _ _ faulty => .inl faulty
  refine Assured.bind (assured_commit fun current relied atomic => ?_)
  have still := pending.undisturbed relied
  refine ⟨fun prepared after success => ?_, fun error failure => ?_, fun error faulty => ⟨.inl faulty, still⟩⟩
  · split at success
    · cases success
    case h_2 found =>
      cases success
      refine ⟨.inl rfl, atomic, ?_, fun error faulty => ⟨.inl faulty, still⟩⟩
      cases prepared with
      | some orderIntentId => exact ⟨⟨_, found⟩, still⟩
      | none =>
        refine still.readThen faults fun locked pending _ => ?_
        refine assured_ite (fun inactive => ⟨?_, pending⟩) fun active => ?_
        · exact Bool.eq_false_of_not_eq_true inactive
        · cases request.tradingAccountSubscriptionId with
          | none => exact ⟨trivial, pending⟩
          | some accountSubscriptionId =>
            refine pending.attemptRead fun reply resolved pending => ?_
            split
            case h_1 resolution _ =>
              refine ⟨?_, pending⟩
              split
              case isTrue quiet => exact quiet
              case isFalse engaged => exact ⟨by simpa using active, engaged⟩
            case h_2 => exact ⟨.inr (.inl rfl), pending⟩
            case h_3 => exact ⟨trivial, pending⟩
  · split at failure
    case h_1 thrown found =>
      cases failure
      exact ⟨.inr (.inr ⟨_, _, found, rfl⟩), still⟩
    case h_2 => cases failure

/-- What the enforced admission may decide before it acquires a claim. -/
def FoundDecision (request : EntryAdmissionRequest) (retry : Option Nat) (result : Except AdmissionError EnforcedDecision)
    (store : AdmissionStore) : Prop :=
  match result with
  | .ok (.duplicate orderIntentId) => Owned store.exposure request.ownerKey orderIntentId
  | .ok (.rejected _) => retry = none
  | .ok (.allowed evaluation _) => retry = none ∧ evaluation.outcome = .allowed
  | .error error => AdmissionFault error ∨ error = .technical .requestAccountMismatch ∨
      error = .technical .requestSecurityMismatch ∨ retry = none ∧ error = .technical .marketEvaluation

theorem Pending.recordAttempt (pending : Pending call request retry store) (attempt : AdmissionAttempt) :
    Pending call request retry (store.recordAttempt attempt) := ⟨pending.own, pending.owned⟩

/-- Writing evidence leaves the call as it was, whether or not its acknowledgement arrives. -/
theorem Pending.assured_record (unlinked : ∀ current, (evidence current).orderIntentId = none)
    {found : Except AdmissionError Unit → AdmissionStore → Prop} (pending : Pending call request retry store)
    (held : ∀ current, found (.ok ()) current) (faults : ∀ error current, AdmissionFault error → found (.error error) current) :
    (Program.write fun current => current.recordAttempt (evidence current) : AdmissionProgram Unit).Assured
      (evidenceContract earlier call) AdmissionFault
      (fun result later => found result later ∧ Pending call request retry later) store := by
  refine assured_write fun current relied atomic => ?_
  have still := pending.undisturbed relied
  have recorded := still.recordAttempt (evidence current)
  exact ⟨.inr ⟨_, unlinked current, rfl⟩, atomic.recordAttempt (unlinked current), ⟨held _, recorded⟩,
    fun error faulty => ⟨faults error _ faulty, recorded⟩, fun error faulty => ⟨faults error _ faulty, still⟩⟩

/-- Evidence is recorded for a call that is no retry, or its write fails. -/
def RecordsEvidence (retry : Option Nat) (result : Except AdmissionError Unit) (_ : AdmissionStore) : Prop :=
  match result with
  | .ok _ => retry = none
  | .error error => AdmissionFault error

theorem assured_rejectAdmission {attempt : AdmissionAttempt} (unlinked : attempt.orderIntentId = none)
    (fresh : retry = none) (pending : Pending call request retry store) :
    (rejectAdmission attempt).Assured (evidenceContract earlier call) AdmissionFault
      (fun result current => FoundDecision request retry result current ∧ Pending call request retry current) store := by
  have recorded : (Program.write fun current => current.recordAttempt attempt : AdmissionProgram Unit).Assured
      (evidenceContract earlier call) AdmissionFault
      (fun result current => RecordsEvidence retry result current ∧ Pending call request retry current) store :=
    pending.assured_record (fun _ => unlinked) (fun _ => fresh) fun _ _ faulty => faulty
  refine Assured.bind (recorded.mono fun result current held => ?_)
  cases result with
  | ok value => exact held
  | error error => exact ⟨.inl held.1, held.2⟩

/-- Every failed evaluation is the same technical error. -/
def FoundEvaluation (result : Except AdmissionError MarketPolicyEvaluation) (_ : AdmissionStore) : Prop :=
  ∀ error, result = .error error → error = .technical .marketEvaluation

theorem assured_evaluateEnforcedEntry {evaluatedAt : Int} (pending : Pending call request retry store) :
    (evaluateEnforcedEntry evaluator resolution evaluatedAt).Assured (evidenceContract earlier call) AdmissionFault
      (fun result current => FoundEvaluation result current ∧ Pending call request retry current) store := by
  have unevaluated : ∀ current, FoundEvaluation (.error (.technical .marketEvaluation)) current :=
    fun _ _ same => (Except.error.inj same).symm
  unfold evaluateEnforcedEntry
  cases resolution.boundRevision with
  | none => exact ⟨unevaluated _, pending⟩
  | some revision =>
    refine pending.attemptRead fun reply evaluated pending => ?_
    split
    · exact ⟨nofun, pending⟩
    · exact ⟨unevaluated _, pending⟩

theorem assured_decideEnforcedAdmission (pending : Pending call request retry store) :
    (decideEnforcedAdmission evaluator request rollout resolution).Assured (evidenceContract earlier call) AdmissionFault
      (fun result current => FoundDecision request retry result current ∧ Pending call request retry current) store := by
  have faults : ∀ error (current : AdmissionStore), AdmissionFault error →
      FoundDecision request retry (.error error) current := fun _ _ faulty => .inl faulty
  refine assured_ite (fun _ => ⟨.inr (.inl rfl), pending⟩) fun _ => ?_
  refine assured_ite (fun _ => ⟨.inr (.inr (.inl rfl)), pending⟩) fun _ => ?_
  refine pending.readThen faults fun owner pending atomic => ?_
  cases priorOwner : ownedIntent owner.exposure request.ownerKey with
  | some orderIntentId => exact ⟨owned_of_ownedIntent priorOwner, pending⟩
  | none =>
    have fresh := pending.retry_none atomic priorOwner
    refine pending.readThen faults fun clock pending _ => ?_
    refine assured_ite (fun _ => assured_rejectAdmission rfl fresh pending) fun _ => ?_
    refine Assured.bind ((assured_evaluateEnforcedEntry pending).mono fun result evaluated held => ?_)
    obtain ⟨failed, pending⟩ := held
    cases result with
    | error error => exact ⟨.inr (.inr (.inr ⟨fresh, failed error rfl⟩)), pending⟩
    | ok evaluation =>
      refine assured_ite (fun allowed => ⟨⟨fresh, allowed⟩, pending⟩) fun _ => ?_
      exact assured_rejectAdmission rfl fresh pending

end Stages

section Reports

variable {evaluation : MarketPolicyEvaluation} {evaluatedAt : Int}

/-- The errors that precede the lookup of the owner key, or hide its answer. -/
def Early (request : EntryAdmissionRequest) (error : AdmissionError) : Prop :=
  AdmissionFault error ∨ error = .http 404 "HTTP_404" ∨ error = refusalError .securityNotFound ∨
    (∃ seen thrown, request.prepare seen = .error thrown ∧ error = thrown.admission) ∨
    ∃ stage ∈ [AdmissionStage.authorizationResolution, .requestAccountMismatch, .requestSecurityMismatch,
      .admissionTransaction], error = .notAdmitted stage

/-- The call has admitted exactly this entry. -/
structure AdmittedOnce (call : Nat) (request : EntryAdmissionRequest) (store : AdmissionStore) (admission : Admission) :
    Prop where
  own : store.admittedBy call = [admission]
  ownerKey : admission.ownerKey = request.ownerKey

/-- A returned duplicate admits nothing and names the owner's intent, an admission its own. -/
def ReportsResult (call : Nat) (request : EntryAdmissionRequest) (retry : Option Nat) (admitted : EntryAdmissionResult)
    (store : AdmissionStore) : Prop :=
  if admitted.duplicate then
    store.admittedBy call = [] ∧ (Owned store.exposure request.ownerKey admitted.orderIntentId ∨
      ∃ seen, request.prepare seen = .ok (some admitted.orderIntentId))
  else retry = none ∧ ∃ admission, AdmittedOnce call request store admission ∧
    admission.orderIntentId = admitted.orderIntentId ∧ (admission.Enforced ↔ admitted.marketPolicy.enforced = true)

/-- An error admits nothing, unless it hides the acknowledgement of the whole admission. -/
def ReportsError (call : Nat) (request : EntryAdmissionRequest) (retry : Option Nat) (error : AdmissionError)
    (store : AdmissionStore) : Prop :=
  store.admittedBy call = [] ∧ (retry = none ∨ Early request error) ∨
    retry = none ∧ ∃ admission, AdmittedOnce call request store admission ∧
      (admission.Enforced ∧ error = .notAdmitted .admissionTransaction ∨ ¬ admission.Enforced ∧ AdmissionFault error)

/-- What a call reports about the store it leaves behind. -/
def Reports (call : Nat) (request : EntryAdmissionRequest) (retry : Option Nat)
    (result : Except AdmissionError EntryAdmissionResult) (store : AdmissionStore) : Prop :=
  match result with
  | .ok admitted => ReportsResult call request retry admitted store
  | .error error => ReportsError call request retry error store

section

variable (pending : Pending call request retry store)
include pending

theorem Pending.duplicate {orderIntentId : Nat}
    {marketPolicy : MarketPolicyAdmissionSummary} (owned : Owned store.exposure request.ownerKey orderIntentId) :
    Reports call request retry (.ok ⟨orderIntentId, true, marketPolicy⟩) store :=
  ⟨pending.own, .inl owned⟩

theorem Pending.error {error : AdmissionError}
    (excused : retry = none ∨ Early request error) : Reports call request retry (.error error) store :=
  .inl ⟨pending.own, excused⟩

theorem Pending.ofAdmitted {after : AdmissionStore} (added : Admitted store after admission) (called : admission.call = call)
    (named : admission.ownerKey = request.ownerKey) : AdmittedOnce call request after admission := by
  refine ⟨?_, named⟩
  have own := pending.own
  unfold AdmissionStore.admittedBy at own ⊢
  rw [added.admissions, List.filter_append, own]
  simp [called]

end

variable {error : AdmissionError}

theorem error_of_createClaimedIntent {pair : ExposurePair} (failed : createClaimedIntent request pair store = .error error) :
    AdmissionFault error ∨ ∃ statusCode code, error = .http statusCode code := by
  unfold createClaimedIntent at failed
  split at failed
  case h_1 thrown _ =>
    cases failed
    cases thrown with
    | http statusCode code => exact .inr ⟨_, _, rfl⟩
    | driver message => exact .inl ⟨message, rfl⟩
  case h_2 =>
    split at failed
    case h_1 refusal applied =>
      cases failed
      unfold applyAcquisition at applied
      dsimp only at applied
      split at applied
      · cases applied
        exact .inl ⟨_, rfl⟩
      · cases applied
    case h_2 => cases failed

theorem assured_legacyAdmission {disposition : AdmissionDisposition} (unenforced : Unenforced rollout disposition)
    (pending : Pending call request retry store) :
    (legacyAdmission call request rollout disposition).Assured (admissionContract earlier call) AdmissionFault
      (Reports call request retry) store := by
  refine Assured.bind ((admitting (assured_requireFreeExposure pending)).mono fun result current held => ?_)
  obtain ⟨found, pending⟩ := held
  cases result with
  | error error =>
    rcases found with faulty | missing | ⟨fresh, _⟩
    · exact pending.error (.inr (.inl faulty))
    · exact pending.error (.inr (.inr (.inr (.inl missing))))
    · exact pending.error (.inl fresh)
  | ok found_pair =>
    cases found_pair with
    | inl orderIntentId => exact pending.duplicate found
    | inr pair =>
      refine Assured.bind (assured_commit fun latest relied atomic => ?_)
      have still := pending.undisturbed relied
      refine ⟨fun orderIntentId after success => ?_, fun error failure => still.error (.inl found),
        fun error faulty => still.error (.inl found)⟩
      obtain ⟨admission, called, named, created, quiet, added⟩ := admitted_of_admitLegacy unenforced success
      have once := still.ofAdmitted added called named
      refine ⟨.inr (.legacy unenforced success), atomic.ofAdmitted added, ?_, fun error faulty => ?_⟩
      · exact ⟨found, admission, once, created, by simp [quiet]⟩
      · exact .inr ⟨found, admission, once, .inr ⟨quiet, faulty⟩⟩

variable {own : List Admission}

/-- Evidence written before the error is thrown leaves the admissions of the call alone. -/
theorem assured_bestEffort
    (unlinked : ∀ current, (evidence current).orderIntentId = none) (held : store.admittedBy call = own)
    (report : ∀ current : AdmissionStore, current.admittedBy call = own → Reports call request retry (.error error) current) :
    ((Program.write fun current => current.recordAttempt (evidence current) : AdmissionProgram Unit).attempt >>=
      fun _ => (throw error : AdmissionProgram EntryAdmissionResult)).Assured (admissionContract earlier call)
      AdmissionFault (Reports call request retry) store := by
  refine Assured.bind (Assured.attempt (assured_write fun current relied atomic => ?_))
  have still : current.admittedBy call = own := relied.own.trans held
  exact ⟨.inr (.evidence (unlinked current)), atomic.recordAttempt (unlinked current), report _ still,
    fun _ _ => report _ still, fun _ _ => report _ still⟩

theorem assured_failClosed {resolution : Option Resolution} {stage : AdmissionStage}
    (held : store.admittedBy call = own) (report : ∀ current : AdmissionStore, current.admittedBy call = own →
      Reports call request retry (.error (.notAdmitted stage)) current) :
    (failClosed request rollout resolution stage).Assured (admissionContract earlier call) AdmissionFault
      (Reports call request retry) store :=
  assured_bestEffort (fun _ => rfl) held report

/-- What the acquisition of an allowed entry leaves behind. -/
def FoundAllowed (call : Nat) (request : EntryAdmissionRequest) (result : Except AdmissionError EntryAdmissionResult)
    (store : AdmissionStore) : Prop :=
  match result with
  | .ok admitted => ReportsResult call request none admitted store
  | .error error =>
    store.admittedBy call = [] ∧ (AdmissionFault error ∨ error = .technical .obligationFreeze ∨
      ∃ statusCode code, error = .http statusCode code) ∨
    AdmissionFault error ∧ ∃ admission, AdmittedOnce call request store admission ∧ admission.Enforced

theorem assured_admitAllowed (enabled : rollout.enabled = true) (enforced : resolution.disposition ∉ nonEnforcedDispositions)
    (allowed : evaluation.outcome = .allowed) (pending : Pending call request none store) :
    (admitAllowed call request rollout resolution evaluation evaluatedAt).Assured (admissionContract earlier call)
      AdmissionFault (FoundAllowed call request) store := by
  refine Assured.bind ((admitting (assured_requireFreeExposure pending)).mono fun result current held => ?_)
  obtain ⟨found, pending⟩ := held
  cases result with
  | error error =>
    refine .inl ⟨pending.own, ?_⟩
    rcases found with faulty | missing | ⟨_, conflict⟩
    · exact .inl faulty
    · exact .inr (.inr ⟨_, _, missing⟩)
    · exact .inr (.inr conflict)
  | ok found_pair =>
    cases found_pair with
    | inl orderIntentId => exact ⟨pending.own, .inl found⟩
    | inr pair =>
      intro refused
      refine assured_ite (fun _ => .inl ⟨pending.own, .inr (.inl rfl)⟩) fun _ => ?_
      refine Assured.bind (assured_commit fun latest relied atomic => ?_)
      have still := pending.undisturbed relied
      refine ⟨fun created after success => ?_, fun error failure => .inl ⟨still.own, ?_⟩,
        fun error faulty => .inl ⟨still.own, .inl faulty⟩⟩
      · obtain ⟨admission, called, named, numbered, engaged, added⟩ :=
          admitted_of_admitEnforced enabled enforced allowed success
        have once := still.ofAdmitted added called named
        refine ⟨.inr (.enforced enabled enforced allowed success), atomic.ofAdmitted added, ?_, fun error faulty => ?_⟩
        · exact ⟨rfl, admission, once, numbered, by simp [engaged]⟩
        · exact .inr ⟨faulty, admission, once, engaged⟩
      · unfold admitEnforced at failure
        split at failure
        case h_1 claimed =>
          cases failure
          exact (error_of_createClaimedIntent claimed).imp id .inr
        case h_2 =>
          cases failure
          exact .inr (.inl rfl)
        case h_3 => cases failure

theorem assured_failAllowed (found : FoundAllowed call request (.error error) store) :
    (failAllowed request rollout resolution evaluation evaluatedAt error).Assured (admissionContract earlier call)
      AdmissionFault (Reports call request none) store := by
  have nothing : ∀ thrown (current : AdmissionStore), current.admittedBy call = [] →
      Reports call request none (.error thrown) current := fun _ _ own => .inl ⟨own, .inl rfl⟩
  rcases found with ⟨own, ⟨message, rfl⟩ | rfl | ⟨statusCode, code, rfl⟩⟩ | ⟨⟨message, rfl⟩, admission, once, engaged⟩
  · exact assured_failClosed own (nothing _)
  · exact assured_failClosed own (nothing _)
  · exact assured_bestEffort (fun _ => rfl) own (nothing _)
  · refine assured_failClosed once.own fun current own => ?_
    exact .inr ⟨rfl, admission, ⟨own, once.ownerKey⟩, .inl ⟨engaged, rfl⟩⟩

/-- Through every fault and every interleaving one call reports what it has admitted. -/
theorem assured_admitEntryOrderIntent (pending : Pending call request retry store) :
    (admitEntryOrderIntent ineffectiveReasons evaluator call request).Assured (admissionContract earlier call)
      AdmissionFault (Reports call request retry) store := by
  refine Assured.bind (Assured.attempt
    ((admitting (assured_openAdmission pending)).mono fun opened current held => ?_))
  obtain ⟨found, pending⟩ := held
  cases opened with
  | error error =>
    refine pending.error (.inr ?_)
    rcases found with faulty | missing | prepared
    · exact .inl faulty
    · exact .inr (.inl missing)
    · exact .inr (.inr (.inr (.inl prepared)))
  | ok opened =>
    cases opened with
    | prepared orderIntentId => exact ⟨pending.own, .inr found⟩
    | unresolved rollout =>
      refine assured_failClosed pending.own fun current own => .inl ⟨own, .inr ?_⟩
      exact .inr (.inr (.inr (.inr ⟨_, by simp, rfl⟩)))
    | legacy rollout disposition => exact assured_legacyAdmission found pending
    | engaged rollout resolution =>
      obtain ⟨enabled, enforced⟩ := found
      refine Assured.bind (Assured.attempt
        ((admitting (assured_decideEnforcedAdmission pending)).mono fun decided current held => ?_))
      obtain ⟨found, pending⟩ := held
      have early : ∀ stage ∈ [AdmissionStage.authorizationResolution, .requestAccountMismatch, .requestSecurityMismatch,
          .admissionTransaction], ∀ later : AdmissionStore, later.admittedBy call = [] →
          Reports call request retry (.error (.notAdmitted stage)) later := fun stage listed later own =>
        .inl ⟨own, .inr (.inr (.inr (.inr (.inr ⟨stage, listed, rfl⟩))))⟩
      cases decided with
      | error error =>
        rcases found with ⟨message, rfl⟩ | rfl | rfl | ⟨fresh, rfl⟩
        · exact assured_failClosed pending.own (early _ (by simp))
        · exact assured_failClosed pending.own (early _ (by simp))
        · exact assured_failClosed pending.own (early _ (by simp))
        · exact assured_failClosed pending.own fun later own => .inl ⟨own, .inl fresh⟩
      | ok decision =>
        cases decision with
        | duplicate orderIntentId => exact pending.duplicate found
        | rejected attempt => exact pending.error (.inl found)
        | allowed evaluation evaluatedAt =>
          obtain ⟨rfl, allowed⟩ := found
          refine Assured.bind (Assured.attempt
            ((assured_admitAllowed enabled enforced allowed pending).mono fun result later held => ?_))
          cases result with
          | error error => exact assured_failAllowed held
          | ok admitted => exact held

end Reports

section Atomicity

/-- The tables of the enforcement are empty, and every claim of an intent has one. -/
structure Installed (store : AdmissionStore) : Prop where
  attempts : store.attempts = []
  obligations : store.obligations = []
  admissions : store.admissions = []
  unique : OwnersUnique store.exposure.claims
  linked : ∀ claim ∈ store.exposure.claims, ∀ orderIntentId, claim.orderIntentId = some orderIntentId →
    orderIntentId ∈ store.exposure.intents.map (·.id)

/-- Every enforced admission is complete, and nothing exists besides the admissions. -/
structure AllOrNothing (earlier : List Nat) (store : AdmissionStore) : Prop where
  /-- An enforced intent exists exactly with its claim, its allowed attempt and its obligation. -/
  together : ∀ orderIntentId, (∃ admission ∈ store.admissions, admission.Enforced ∧
      admission.orderIntentId = orderIntentId ∧ orderIntentId ∈ store.exposure.intents.map (·.id)) ↔
    store.Claimed orderIntentId ∧ store.AllowedAttempt orderIntentId ∧ store.Obliged orderIntentId
  intents : ∀ intent ∈ store.exposure.intents, intent.side = "sell" ∨ intent.id ∈ earlier ∨
    ∃ admission ∈ store.admissions, admission.orderIntentId = intent.id
  claims : ∀ claim ∈ store.exposure.claims, ∀ orderIntentId, claim.orderIntentId = some orderIntentId →
    orderIntentId ∈ earlier ∨ ∃ admission ∈ store.admissions, admission.orderIntentId = orderIntentId
  obligations : ∀ obligation ∈ store.obligations,
    ∃ admission ∈ store.admissions, admission.Enforced ∧ admission.orderIntentId = obligation.orderIntentId
  /-- An owner key has one admission, an intent one claim and one obligation. -/
  oneAdmission : ∀ first ∈ store.admissions, ∀ second ∈ store.admissions, first.ownerKey = second.ownerKey → first = second
  oneClaim : OwnersUnique store.exposure.claims
  oneObligation : (store.obligations.map (·.orderIntentId)).Nodup

theorem Installed.atomic (installed : Installed store) : Atomic (store.exposure.intents.map (·.id)) store where
  unique := installed.unique
  kept := fun _ member => member
  intents := fun intent member => .inr (.inl (List.mem_map_of_mem member))
  claims := fun claim member orderIntentId owned => .inl (installed.linked claim member orderIntentId owned)
  admitted := by simp [installed.admissions]
  distinct := by simp [installed.admissions]
  frozen := by simp [installed.admissions]
  linked := by simp [installed.attempts]
  obliged := by simp [installed.obligations]
  oneObligation := by simp [installed.obligations]

theorem Atomic.allOrNothing (atomic : Atomic earlier store) : AllOrNothing earlier store where
  together := fun orderIntentId => by
    constructor
    · rintro ⟨admission, member, enforced, rfl, _⟩
      obtain ⟨_, _, claim, listed, _, _, owned⟩ := atomic.admitted admission member
      exact ⟨⟨claim, listed, owned⟩, atomic.frozen admission member enforced⟩
    · rintro ⟨_, ⟨attempt, recorded, linked, _⟩, _⟩
      obtain ⟨admission, member, enforced, rfl⟩ := atomic.linked attempt recorded orderIntentId linked
      exact ⟨admission, member, enforced, rfl, (atomic.admitted admission member).1⟩
  intents := atomic.intents
  claims := atomic.claims
  obligations := atomic.obliged
  oneAdmission := fun first one second other same => by
    obtain ⟨_, _, claim, listed, _, named, owned⟩ := atomic.admitted first one
    obtain ⟨_, _, alike, among, _, also, linked⟩ := atomic.admitted second other
    have equal := atomic.unique.ownerKey.eq_of_key listed among (congrArg some (named.trans same)) (congrArg some also)
    rw [equal, linked] at owned
    exact List.inj_on_of_nodup_map atomic.distinct one other (Option.some.inj owned).symm
  oneClaim := atomic.unique
  oneObligation := atomic.oneObligation

/-- A retry returns the intent of its owner key, or fails before it looks for it. -/
def ReturnsExisting (request : EntryAdmissionRequest) (orderIntentId : Nat) :
    Except AdmissionError EntryAdmissionResult → Prop
  | .ok admitted => admitted.duplicate = true ∧ (admitted.orderIntentId = orderIntentId ∨
      ∃ seen, request.prepare seen = .ok (some admitted.orderIntentId))
  | .error error => Early request error

variable {result : Except AdmissionError EntryAdmissionResult}

theorem Reports.returnsExisting {orderIntentId : Nat} (atomic : Atomic earlier store)
    (owned : Owned store.exposure request.ownerKey orderIntentId)
    (reports : Reports call request (some orderIntentId) result store) :
    store.admittedBy call = [] ∧ ReturnsExisting request orderIntentId result := by
  cases result with
  | error error =>
    rcases reports with ⟨own, impossible | early⟩ | ⟨impossible, _⟩
    · cases impossible
    · exact ⟨own, early⟩
    · cases impossible
  | ok admitted =>
    simp only [Reports, ReportsResult] at reports
    split at reports
    case isTrue duplicate =>
      exact ⟨reports.1, duplicate, reports.2.imp (fun named => named.unique atomic.unique owned) id⟩
    case isFalse => cases reports.1

theorem AdmittedOnce.undisturbed (once : AdmittedOnce call request store admission)
    (undisturbed : Undisturbed call store after) : AdmittedOnce call request after admission :=
  ⟨undisturbed.own.trans once.own, once.ownerKey⟩

/-- What a call has reported stays true. -/
theorem Reports.undisturbed (reports : Reports call request retry result store)
    (undisturbed : Undisturbed call store after) : Reports call request retry result after := by
  cases result with
  | error error =>
    rcases reports with ⟨own, excused⟩ | ⟨fresh, admission, once, hidden⟩
    · exact .inl ⟨undisturbed.own.trans own, excused⟩
    · exact .inr ⟨fresh, admission, once.undisturbed undisturbed, hidden⟩
  | ok admitted =>
    simp only [Reports, ReportsResult] at reports ⊢
    split at reports
    case isTrue duplicate =>
      rw [if_pos duplicate]
      exact ⟨undisturbed.own.trans reports.1, reports.2.imp (undisturbed.owned _ _) id⟩
    case isFalse created =>
      rw [if_neg created]
      obtain ⟨fresh, admission, once, facts⟩ := reports
      exact ⟨fresh, admission, once.undisturbed undisturbed, facts⟩

theorem OwnWrite.owned (own : OwnWrite call store after) {ownerKey : String}
    {orderIntentId : Nat} (owned : Owned store.exposure ownerKey orderIntentId) :
    Owned after.exposure ownerKey orderIntentId := by
  rcases own with rfl | write
  · exact owned
  · rcases write.cases with ⟨admission, _, added⟩ | ⟨attempt, _, rfl⟩
    · exact added.owned owned
    · exact owned

/-- A call in any run reports what it has admitted; the intent of a retry stays with its owner. -/
theorem interleaving_admitEntryOrderIntent {before : AdmissionStore}
    {ineffectiveReasons : PolicyContext → AuthorizationRow → List String} {evaluator : Evaluator}
    {next : AdmissionProgram EntryAdmissionResult} (atomic : Atomic earlier before)
    (pending : Pending call request retry before)
    (run : Interleaving AdmissionFault (Beside call)
      (admitEntryOrderIntent ineffectiveReasons evaluator call request, before) (next, after)) :
    Atomic earlier after ∧ ∀ result, next = .done result → Reports call request retry result after ∧
      ∀ orderIntentId, retry = some orderIntentId → Owned after.exposure request.ownerKey orderIntentId := by
  have reported : (admitEntryOrderIntent ineffectiveReasons evaluator call request).Assured
      (admissionContract earlier call) AdmissionFault (Reports call request retry) before :=
    assured_admitEntryOrderIntent pending
  have assured := reported.frame (admissionContract earlier call)
    (fun store => ∀ orderIntentId, retry = some orderIntentId → Owned store.exposure request.ownerKey orderIntentId)
    rfl rfl (fun _ _ own => own) (fun _ _ relied held id same => relied.owned _ _ (held id same))
    (fun _ _ own held id same => own.owned (held id same)) pending.owned
  obtain ⟨kept, held⟩ := assured.interleaving atomic
    (fun _ _ atomic beside => ⟨undisturbed_of_beside beside, atomic.beside beside⟩)
    (fun _ _ _ relied held => ⟨held.1.undisturbed relied, fun id same => relied.owned _ _ (held.2 id same)⟩) run
  refine ⟨kept, fun result finished => ?_⟩
  subst finished
  exact held

/-- Wherever it stops, a call admits the whole entry or nothing and reports which; a retry adds nothing and returns the
owner's intent. -/
theorem admitEntryOrderIntent_allOrNothing {start before after : AdmissionStore} {call : Nat}
    {request : EntryAdmissionRequest} {ineffectiveReasons : PolicyContext → AuthorizationRow → List String}
    {evaluator : Evaluator} {next : AdmissionProgram EntryAdmissionResult} (installed : Installed start)
    (history : AdmissionHistory start before) (unused : before.admittedBy call = [])
    (run : Interleaving AdmissionFault (Beside call)
      (admitEntryOrderIntent ineffectiveReasons evaluator call request, before) (next, after)) :
    AllOrNothing (start.exposure.intents.map (·.id)) after ∧
      ∀ result, next = .done result → Reports call request none result after ∧
        ∀ orderIntentId, Owned before.exposure request.ownerKey orderIntentId →
          after.admittedBy call = [] ∧ ReturnsExisting request orderIntentId result := by
  have atomic := installed.atomic.history history
  have fresh : Pending call request none before := ⟨unused, nofun⟩
  obtain ⟨kept, reported⟩ := interleaving_admitEntryOrderIntent atomic fresh run
  refine ⟨kept.allOrNothing, fun result finished => ⟨(reported result finished).1, fun orderIntentId owned => ?_⟩⟩
  have again : Pending call request (some orderIntentId) before :=
    ⟨unused, fun _ same => Option.some.inj same ▸ owned⟩
  obtain ⟨kept, reported⟩ := interleaving_admitEntryOrderIntent atomic again run
  obtain ⟨reports, still⟩ := reported result finished
  exact reports.returnsExisting kept (still orderIntentId rfl)

/-- A valid trend, the only dimension of the evidence. -/
def trendSource : DimensionAssessment :=
  ⟨1, .trend, "TREND_V1", 1, 100, 1, .valid, none, some "UP", some "UP", some 100, some 5000, 200⟩

def slot (ordinal : Nat) (dimension : MarketRegimeDimension) (algorithmVersion : String) (source : Option DimensionAssessment) :
    ComposedMarketRegimeSource :=
  ⟨ordinal, dimension, algorithmVersion, 100, source, if source.isSome then .available else .missing, none⟩

def upTrend : MarketRegimeAssessment String where
  id := 1
  compositionVersion := marketRegimeCompositionVersion
  targetAt := 100
  observedAt := 300
  dataThroughAt := none
  validUntil := none
  publicationStatus := .succeeded
  evidenceHealth := .degraded
  evidenceReasonCode := none
  sourceSetFingerprint := "up"
  previousAssessmentId := none
  startedAt := 300
  completedAt := 300
  sources := [slot 1 .trend "TREND_V1" (some trendSource), slot 2 .volatility "VOLATILITY_V1" none,
    slot 3 .breadth "BREADTH_V1" none, slot 4 .participation "PARTICIPATION_V1" none,
    slot 5 .intradayStress "INTRADAY_STRESS_V1" none]

def trendRules : List DimensionRule :=
  [⟨.trend, "TREND_V1", .required, ["UP"]⟩, ⟨.volatility, "VOLATILITY_V1", .ignored, []⟩,
    ⟨.breadth, "BREADTH_V1", .ignored, []⟩, ⟨.participation, "PARTICIPATION_V1", .ignored, []⟩,
    ⟨.intradayStress, "INTRADAY_STRESS_V1", .ignored, []⟩]

def trendAuthorization : AuthorizationRow := ⟨1, 1, .authorized, "V1", "authorized", 1, 1, none, false⟩

/-- One PAPER assignment on SPY that is enforced while the trend is up. -/
def enforcedContext : PolicyContext where
  now := 1000
  rollout := some ⟨true, 7⟩
  accounts := [⟨1, .paper⟩]
  assignments := [⟨1, 1, 1, 1⟩]
  subscriptions := [⟨1, 10⟩]
  authorizations := [trendAuthorization]
  generations := [⟨1, 1, 1, .active⟩]
  revisions := [⟨1, 1, .active, trendRules⟩]
  compositions := [upTrend]

def freeExposure : ClaimStore := ⟨0, [("SPY", 10), ("QQQ", 11)], [], [], [], [], []⟩
def enforcedStore : AdmissionStore := ⟨enforcedContext, freeExposure, [], [], []⟩

def entryRequest (symbol : String) : EntryAdmissionRequest where
  tradingAccountId := 1
  tradingAccountSubscriptionId := some 1
  symbol := symbol
  clientOrderId := "c-1"
  ownerKey := "entry:1:c-1"
  requestSource := .api
  createIntent := fun _ => .ok ⟨0, some 1, symbol, "buy", .received, none⟩
  prepare := fun _ => .ok none

def noReasons : PolicyContext → AuthorizationRow → List String := fun _ _ => []

/-- What the transaction resolves and evaluates there. -/
def enforcedResolution : Resolution :=
  ⟨.enforced, [], some trendAuthorization, ⟨1, 1, .paper, 1, 1, 10, "SPY"⟩, some ⟨1, 1, .active, trendRules⟩⟩

def ignoredGate (ordinal : Nat) (dimension : MarketRegimeDimension) (algorithmVersion : String) : Gate :=
  ⟨ordinal, dimension, algorithmVersion, .ignored, .ignored, none, some .missing, none, "DIMENSION_IGNORED"⟩

def allowedTrend : MarketPolicyEvaluation where
  outcome := .allowed
  reasonCode := "ALL_REQUIRED_DIMENSIONS_ALLOWED"
  validUntil := some 5000
  composition := some upTrend
  gates := [⟨1, .trend, "TREND_V1", .required, .pass, some "UP", some .available, some 1, "STATE_ALLOWED"⟩,
    ignoredGate 2 .volatility "VOLATILITY_V1", ignoredGate 3 .breadth "BREADTH_V1",
    ignoredGate 4 .participation "PARTICIPATION_V1", ignoredGate 5 .intradayStress "INTRADAY_STRESS_V1"]

/-- The store once the entry is admitted. -/
def admittedStore : AdmissionStore :=
  match admitEnforced 1 (entryRequest "SPY") ⟨true, 7⟩ enforcedResolution allowedTrend 1000 ⟨1, 10⟩ enforcedStore with
  | .ok (_, after) => after
  | .error _ => enforcedStore

theorem admitEnforced_entryRequest : admitEnforced 1 (entryRequest "SPY") ⟨true, 7⟩ enforcedResolution allowedTrend 1000
    ⟨1, 10⟩ enforcedStore = .ok ((1, 1, 1), admittedStore) := by
  decide +kernel

theorem installed_enforcedStore : Installed enforcedStore where
  attempts := rfl
  obligations := rfl
  admissions := rfl
  unique := ⟨by simp [enforcedStore, freeExposure, Table.Unique], by simp [enforcedStore, freeExposure, Table.Unique]⟩
  linked := by simp [enforcedStore, freeExposure]

/-- A retry after an admission returns its intent. -/
theorem admitEntryOrderIntent_retry : AllOrNothing [] admittedStore ∧ admittedStore.admittedBy 2 = [] ∧
    ReturnsExisting (entryRequest "SPY") 1 (.ok ⟨1, true, ⟨true, .resolved .enforced, true, none, none⟩⟩) := by
  have run : (admitEntryOrderIntent noReasons evaluateStrategyMarketEligibility 2 (entryRequest "SPY")).alone
      admittedStore = some (.ok ⟨1, true, ⟨true, .resolved .enforced, true, none, none⟩⟩, admittedStore) := by
    decide +kernel
  have owned : Owned admittedStore.exposure "entry:1:c-1" 1 := by decide +kernel
  obtain ⟨complete, reported⟩ := admitEntryOrderIntent_allOrNothing installed_enforcedStore
    (.single (.inr ⟨1, .enforced rfl (by decide) rfl admitEnforced_entryRequest⟩))
    (by decide +kernel) (interleaving_alone run)
  exact ⟨complete, (reported _ rfl).2 1 owned⟩

/-- A retry that names another security fails before its owner is looked up. -/
theorem admitEntryOrderIntent_identityFirst :
    Owned admittedStore.exposure (entryRequest "QQQ").ownerKey 1 ∧
    ∃ after, Interleaving AdmissionFault (Beside 2)
      (admitEntryOrderIntent noReasons evaluateStrategyMarketEligibility 2 (entryRequest "QQQ"), admittedStore)
      (.done (.error (.notAdmitted .requestSecurityMismatch)), after) := by
  have mismatch : ((admitEntryOrderIntent noReasons evaluateStrategyMarketEligibility 2 (entryRequest "QQQ")).alone
      admittedStore).map Prod.fst = some (.error (.notAdmitted .requestSecurityMismatch)) := by
    decide +kernel
  obtain ⟨⟨_, after⟩, run, rfl⟩ := Option.map_eq_some_iff.mp mismatch
  exact ⟨by decide +kernel, after, interleaving_alone run⟩

end Atomicity

end AiTrader.Policy
