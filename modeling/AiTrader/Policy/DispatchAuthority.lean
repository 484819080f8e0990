import AiTrader.Policy.AdmissionAtomicity
import AiTrader.Policy.DispatchWrites

/-! # Dispatch authority

A POST of a PAPER entry is the first of its intent and follows the one acknowledged record of its own attempt. -/

namespace AiTrader.Policy

open Library Library.Program Entry Exclusivity Market Relation Interleaving

variable {error : DispatchError} {store after : DispatchStore} {call : Nat}

section Contract

variable {α β : Type}

/-- What an attempt relies on: nobody else adds an event of its own. -/
structure Undisputed (call : Nat) (store after : DispatchStore) : Prop extends Grown store after where
  own : ∀ event ∈ after.history, event.call = call → event ∈ store.history

/-- The contract of an attempt until the adapter is invoked. -/
def quietContract (call : Nat) : Contract DispatchStore where
  invariant := Lawful
  rely := Undisputed call
  guarantee := QuietWrite call
  rely_refl := fun store => ⟨Grown.refl store, fun _ member _ => member⟩
  rely_trans := fun first second => ⟨first.toGrown.trans second.toGrown,
    fun event member mine => first.own event (second.own event member mine) mine⟩
  guarantee_refl := fun _ => .same rfl

def attemptContract (call : Nat) : Contract DispatchStore where
  invariant := Lawful
  rely := Undisputed call
  guarantee := AttemptWrite call
  rely_refl := (quietContract call).rely_refl
  rely_trans := (quietContract call).rely_trans
  guarantee_refl := fun _ => .inl (.same rfl)

/-- The program keeps to the contract, and if it returns, `held` holds of its value. -/
def Leaves (call : Nat) (program : DispatchProgram α) (held : α → DispatchStore → Prop) (store : DispatchStore) : Prop :=
  program.Assured (quietContract call) DispatchFault
    (fun result current => ∀ value, result = .ok value → held value current) store

/-- A property that no growth destroys. -/
def Lasting (fact : DispatchStore → Prop) : Prop := ∀ {store after}, Grown store after → fact store → fact after

variable {held : α → DispatchStore → Prop}

theorem leaves_pure {value : α} (here : held value store) :
    Leaves call (pure value) held store := fun _ same => Except.ok.inj same ▸ here

theorem leaves_throw : Leaves call (throw error) held store := nofun

variable {program : DispatchProgram α} {next : α → DispatchProgram β} {middle : α → DispatchStore → Prop}

theorem Leaves.bind {held : β → DispatchStore → Prop} (first : Leaves call program middle store)
    (rest : ∀ value current, middle value current → Leaves call (next value) held current) :
    Leaves call (program >>= next) held store := by
  refine Assured.bind (Assured.mono first fun result current left => ?_)
  cases result with
  | ok value => exact rest value current (left value rfl)
  | error error =>
    intro value impossible
    cases impossible

variable {view : DispatchStore → α}

/-- Reading and going on from whatever store was read. -/
theorem leaves_readThen {held : β → DispatchStore → Prop}
    (rest : ∀ current, Grown store current → Lawful current → Leaves call (next (view current)) held current) :
    Leaves call (read view >>= next) held store :=
  Assured.readThen fun current relied lawful =>
    ⟨rest current relied.toGrown lawful, nofun⟩

/-- A read whose failure is caught; its answer is a view of the store if it has one. -/
theorem leaves_attemptRead {next : Except DispatchError α → DispatchProgram β} {held : β → DispatchStore → Prop}
    (seen : ∀ current, Grown store current → Lawful current → Leaves call (next (.ok (view current))) held current)
    (failed : ∀ error current, Grown store current → Leaves call (next (.error error)) held current) :
    Leaves call ((read view : DispatchProgram α).attempt >>= next) held store := by
  refine Assured.bind (Assured.attempt (assured_read fun current relied lawful => ?_))
  exact ⟨seen current relied.toGrown lawful, fun error _ => failed error current relied.toGrown⟩

/-- Catching whatever a program throws. -/
theorem leaves_attempt {next : Except DispatchError α → DispatchProgram β}
    {held : β → DispatchStore → Prop} (first : Leaves call program middle store)
    (returned : ∀ value current, middle value current → Leaves call (next (.ok value)) held current)
    (thrown : ∀ error current, Leaves call (next (.error error)) held current) :
    Leaves call (program.attempt >>= next) held store := by
  refine Assured.bind (Assured.attempt (Assured.mono first fun result current left => ?_))
  cases result with
  | ok value => exact returned value current (left value rfl)
  | error error => exact thrown error current

theorem leaves_answerThen {held : β → DispatchStore → Prop} (rest : ∀ value, Leaves call (next value) held store) :
    Leaves call ((answer : DispatchProgram α) >>= next) held store :=
  Assured.bind fun value => rest value

section

variable (leaves : Leaves call program held store)
include leaves

variable {fact : DispatchStore → Prop}

/-- A lasting fact outlives a program. -/
theorem Leaves.keep (lasting : Lasting fact) (here : fact store) : program.Assured (quietContract call) DispatchFault
      (fun result current => (∀ value, result = .ok value → held value current) ∧ fact current) store :=
  Assured.frame leaves (quietContract call) fact rfl rfl (fun _ _ write => write)
    (fun _ _ relied known => lasting relied.toGrown known) (fun _ _ write known => lasting write.grown known) here

theorem Leaves.with (lasting : Lasting fact) (here : fact store) :
    Leaves call program (fun value current => held value current ∧ fact current) store :=
  (leaves.keep lasting here).mono fun _ _ both value same => ⟨both.1 value same, both.2⟩

theorem Leaves.weaken {weaker : α → DispatchStore → Prop}
    (implies : ∀ value current, held value current → weaker value current) :
    Leaves call program weaker store :=
  Assured.mono leaves fun _ current left value same => implies value current (left value same)

end

/-- One transaction of an attempt. -/
theorem leaves_commit {body : DispatchStore → Except DispatchError (α × DispatchStore)}
    (committed : ∀ current value later, Grown store current → Lawful current → body current = .ok (value, later) →
      QuietWrite call current later ∧ held value later) :
    Leaves call (commit body) held store := by
  refine assured_commit fun current relied lawful => ?_
  refine ⟨fun value later success => ?_, nofun,
    nofun⟩
  obtain ⟨write, left⟩ := committed current value later relied.toGrown lawful success
  refine ⟨write, lawful.quiet write, ?_, nofun⟩
  intro _ same
  cases same
  exact left

end Contract

variable {decision : DispatchDecision} {obligationId : Nat}

variable {accountSubscriptionId : Nat} {ineffectiveReasons : PolicyContext → AuthorizationRow → List String}
  {evaluator : Evaluator} {request : EntryBrokerDispatchRequest} {intent : DispatchIntent} {rollout : Rollout}

section Decisions

variable {resolution : Resolution}

theorem sealed_of_refusal (evaluated : decision.evaluatedAt ≤ store.context.now)
    (refused : decision.outcome ≠ .allowed) : decision.Sealed store :=
  ⟨evaluated, fun allowed => absurd allowed refused⟩

theorem quiet_insertDecision {row : DispatchDecision} (sealing : decision.Sealed store)
    (inserted : insertDecision decision store = .ok (row, after)) : QuietWrite call store after := by
  unfold insertDecision at inserted
  split at inserted
  · cases inserted
  · cases inserted
    have numbered : DispatchDecision.Sealed store { decision with id := Table.nextId (store.decisions.map (·.id)) } :=
      ⟨sealing.evaluated, sealing.allowed⟩
    exact .decided numbered rfl

theorem leaves_createDecision (sealing : decision.Sealed store) :
    Leaves call (createDecision decision) (fun _ _ => True) store := by
  apply leaves_answerThen
  intro refused
  apply assured_ite
  · exact fun _ => leaves_throw
  · intro _
    apply leaves_commit
    intro current row later grown _ inserted
    exact ⟨quiet_insertDecision (sealing.grown grown) inserted, trivial⟩

variable {stage : DispatchStage}

theorem leaves_createTechnicalDecision {tradingAccountId : Nat} :
    Leaves call (createTechnicalDecision request intent tradingAccountId accountSubscriptionId rollout stage)
      (fun _ _ => True) store := by
  apply leaves_readThen
  intro seen _ _
  apply leaves_commit
  intro current row later _ _ inserted
  have sealing : DispatchDecision.Sealed current
      { technicalDecision request intent tradingAccountId accountSubscriptionId rollout
          (seen.nextDispatchSequence request.orderIntentId) stage with evaluatedAt := current.context.now } :=
    sealed_of_refusal (Int.le_refl _) nofun
  exact ⟨quiet_insertDecision sealing inserted, trivial⟩

variable {loaded : Option DispatchIntent}

theorem leaves_recordTechnicalFailure :
    Leaves call (recordTechnicalFailure request loaded stage) (fun _ _ => True) store := by
  unfold recordTechnicalFailure
  split
  · exact leaves_pure trivial
  · split
    case h_1 tradingAccountId accountSubscriptionId _ _ =>
      apply leaves_attemptRead
      · intro current _ _
        exact leaves_attempt leaves_createTechnicalDecision (fun _ _ _ => leaves_pure trivial)
          fun _ _ => leaves_pure trivial
      · intro error current _
        exact leaves_attempt leaves_createTechnicalDecision (fun _ _ _ => leaves_pure trivial)
          fun _ _ => leaves_pure trivial
    case h_2 => exact leaves_pure trivial

/-- A technical refusal never returns. -/
theorem leaves_technicalRefusal {α : Type}
    {held : α → DispatchStore → Prop} : Leaves call (technicalRefusal request loaded error) held store := by
  exact leaves_recordTechnicalFailure.bind fun _ _ _ => leaves_throw

theorem leaves_refuseRecorded {consumption : Except DispatchError (Option DispatchConsumption)}
    {unenforced : Except DispatchError (Option UnenforcedDispatch)} :
    Leaves call (refuseRecorded consumption unenforced) (fun _ _ => True) store := by
  unfold refuseRecorded
  split
  · exact leaves_throw
  · exact leaves_throw
  · exact leaves_pure trivial

theorem leaves_throwIfDispatchRecorded : Leaves call (throwIfDispatchRecorded request) (fun _ _ => True) store := by
  apply leaves_attemptRead
  · intro seen _ _
    exact leaves_attemptRead (fun _ _ _ => leaves_refuseRecorded) fun _ _ _ => leaves_refuseRecorded
  · intro error seen _
    exact leaves_attemptRead (fun _ _ _ => leaves_refuseRecorded) fun _ _ _ => leaves_refuseRecorded

variable {obligation : Obligation} {frozen : Option AuthorizationRow}

variable {row : DispatchIntentRow}

/-- A decision with the window of an allowed evaluation. -/
theorem sealed_obligatedDecision {dispatchSequence : Nat} {evaluatedAt : Int} {evaluation : MarketPolicyEvaluation}
    (evaluated : evaluatedAt ≤ store.context.now) (listed : obligation ∈ store.obligations)
    (named : obligation.orderIntentId = request.orderIntentId)
    (valid : evaluation.outcome = .allowed → ∃ instant, evaluation.validUntil = some instant) :
    (obligatedDecision request obligation row frozen rollout dispatchSequence evaluatedAt evaluation.outcome.dispatch
      evaluation.reasonCode (some evaluation)).Sealed store where
  evaluated := evaluated
  allowed := fun outcome => by
    have dispatched : evaluation.outcome.dispatch = .allowed := outcome
    have allowed : evaluation.outcome = .allowed := by
      cases decided : evaluation.outcome with
      | allowed => rfl
      | blocked =>
        rw [decided] at dispatched
        cases dispatched
      | insufficientEvidence =>
        rw [decided] at dispatched
        cases dispatched
    obtain ⟨instant, until_⟩ := valid allowed
    exact ⟨instant, by simp [obligatedDecision, dispatched, until_], by simp [obligatedDecision, dispatched, until_],
      obligation, listed, named, rfl, rfl⟩

/-- A check of an obligation that does not allow what it refuses. -/
def Refuses (refusal : Option (BrokerDispatchOutcome × String)) : Prop :=
  ∀ outcome reasonCode, refusal = some (outcome, reasonCode) → outcome ≠ .allowed

theorem Refuses.passed : Refuses none := nofun

variable {outcome : BrokerDispatchOutcome}

theorem Refuses.told {reasonCode : String} (refused : outcome ≠ .allowed) : Refuses (some (outcome, reasonCode)) := by
  intro other _ same
  cases same
  exact refused

theorem Refuses.ite {condition : Prop} [Decidable condition] {first rest : Option (BrokerDispatchOutcome × String)}
    (held : Refuses first) (otherwise : Refuses rest) : Refuses (if condition then first else rest) := by
  by_cases holds : condition
  · rw [if_pos holds]
    exact held
  · rw [if_neg holds]
    exact otherwise

theorem obligatedRefusal_outcome {claim : Option ClaimRow}
    {revision : Option RevisionRow} {generation : Option GenerationRow}
    {reasonCode : String}
    (refused : obligatedRefusal request obligation resolution row claim frozen revision generation =
      some (outcome, reasonCode)) : outcome ≠ .allowed := by
  have refuses : Refuses (obligatedRefusal request obligation resolution row claim frozen revision generation) := by
    refine .ite (.told nofun) (.ite (.told nofun) ?_)
    cases frozen with
    | none => exact .told nofun
    | some authorization =>
      exact .ite (.told nofun) (.ite (.told nofun) (.ite (.told nofun) (.ite (.told nofun) (.ite (.told nofun)
        (.ite (.told nofun) (.ite (.told nofun) .passed))))))
  exact refuses outcome reasonCode refused

theorem leaves_decideObligated (listed : obligation ∈ store.obligations)
    (named : obligation.orderIntentId = request.orderIntentId) :
    Leaves call (decideObligated request evaluator rollout obligation resolution) (fun _ _ => True) store := by
  apply leaves_readThen
  intro seen grown _
  split
  · exact leaves_throw
  · exact leaves_throw
  case h_3 row claim _ =>
    apply leaves_readThen
    intro withAuthorization first _
    apply leaves_readThen
    intro withRevision second _
    apply leaves_readThen
    intro withGeneration third _
    apply leaves_readThen
    intro withSequence fourth _
    apply leaves_readThen
    intro clocked fifth _
    have still : obligation ∈ clocked.obligations := fifth.obligations _ (fourth.obligations _ (third.obligations _
      (second.obligations _ (first.obligations _ (grown.obligations _ listed)))))
    split
    case h_1 outcome reasonCode refused =>
      exact leaves_createDecision (sealed_of_refusal (Int.le_refl _) (obligatedRefusal_outcome refused))
    case h_2 => exact leaves_throw
    case h_3 revision _ _ =>
      apply leaves_attemptRead
      · intro evaluated sixth _
        split
        case h_1 evaluation found =>
          apply leaves_createDecision
          apply sealed_obligatedDecision sixth.now (sixth.obligations _ still) named
          intro allowed
          obtain ⟨_, validUntil, _, _, valid, _⟩ := allowed_of_evaluated (Except.ok.inj found) allowed
          exact ⟨validUntil, valid⟩
        case h_2 => exact leaves_throw
      · intro error evaluated _
        exact leaves_throw

theorem leaves_prepareObligatedDecision :
    Leaves call (prepareObligatedDecision request evaluator ineffectiveReasons obligationId) (fun _ _ => True) store := by
  apply leaves_readThen
  intro locked _ _
  apply leaves_readThen
  intro loaded _ _
  split
  · exact leaves_throw
  case h_2 obligation found =>
    obtain ⟨listed, named⟩ := Option.filter_eq_some_iff.mp found
    apply leaves_attemptRead
    · intro resolved grown _
      split
      · exact leaves_decideObligated (grown.obligations _ (List.mem_of_find?_eq_some listed)) (by simpa using named)
      · exact leaves_throw
    · intro error resolved _
      exact leaves_throw

theorem leaves_prepareObligated :
    Leaves call (prepareObligated request evaluator ineffectiveReasons intent obligationId) (fun _ _ => True) store := by
  refine leaves_attempt leaves_prepareObligatedDecision (fun decision current _ => ?_)
    fun _ _ => leaves_technicalRefusal
  exact assured_ite (fun _ => leaves_pure trivial) fun _ => leaves_throw

end Decisions

section Records

variable {clientOrderId : String} {seen : DispatchStore}

theorem justified_of_accepted {consumption : DispatchConsumption}
    (lawful : Lawful seen) (instant : consumption.consumedAt = seen.context.now)
    (accepted : consumptionRefusal seen consumption.decisionId consumption.orderIntentId clientOrderId = none) :
    consumption.Justified seen seen.decisions.length := by
  unfold consumptionRefusal at accepted
  split at accepted
  · cases accepted
  case h_2 decision found =>
    split_ifs at accepted with unauthorized superseded _ _ expired
    push Not at unauthorized
    obtain ⟨allowed, named, _⟩ := unauthorized
    have listed := List.mem_of_find?_eq_some found
    have sealing := lawful.decided decision listed
    obtain ⟨validUntil, valid, expires, obligation, frozen, mirrored, _, authority⟩ := sealing.allowed allowed
    have open_ : seen.context.now < min validUntil (decision.evaluatedAt + brokerDispatchWindowMs) := by
      simpa [expires] using expired
    obtain ⟨unexpired, window⟩ := lt_min_iff.mp open_
    constructor
    · exact Nat.le_refl _
    · rw [List.take_length, instant]
      exact ⟨decision, listed, by simpa using List.find?_some found, allowed, named, by simpa using superseded,
        sealing.evaluated, window, validUntil, valid, unexpired, obligation, frozen, mirrored.trans named, authority⟩

theorem appended_of_insertUnique {Row : Type} {rows after : List Row} {row : Row} {key : Row → Nat}
    (inserted : Table.insertUnique (fun row => some (key row)) row rows = some after) :
    after = rows ++ [row] ∧ ∀ other ∈ rows, key other ≠ key row := by
  refine ⟨Table.eq_append_of_insertUnique inserted, fun other member same => ?_⟩
  unfold Table.insertUnique at inserted
  split at inserted
  · cases inserted
  case isFalse free =>
    refine free ?_
    simp only [Option.any_some, Table.indexed, List.any_eq_true]
    exact ⟨other, member, by simp [same]⟩

theorem quiet_insertConsumption {orderIntentId decisionId : Nat}
    {value : Unit} (lawful : Lawful seen) (grown : Grown seen store)
    (inserted : insertConsumption call orderIntentId decisionId clientOrderId seen store = .ok (value, after)) :
    QuietWrite call store after ∧ Recorded after call orderIntentId := by
  unfold insertConsumption at inserted
  split at inserted
  · cases inserted
  case h_2 accepted =>
    dsimp only at inserted
    split at inserted
    case h_1 consumptions _ unique _ =>
      cases inserted
      obtain ⟨rfl, fresh⟩ := appended_of_insertUnique unique
      constructor
      · exact .consumed ((justified_of_accepted lawful rfl accepted).grown grown) fresh rfl
      · exact ⟨_, List.mem_append_right _ (List.mem_singleton.mpr rfl), rfl, rfl⟩
    case h_2 => cases inserted

theorem leaves_consumeDecision : Leaves call (consumeDecision call request decision)
      (fun _ current => Recorded current call request.orderIntentId) store := by
  apply leaves_readThen
  intro seen _ lawful
  apply leaves_commit
  intro current value later grown _ inserted
  exact quiet_insertConsumption lawful grown inserted

variable {basis : UnenforcedBasis}

theorem basis_of_accepted {latest : Option AuthorizationRow}
    (accepted : basisRefusal true latest basis = none) : basis = .noAssignment ∨
      unenforcedBasis (deriveMarketPolicyEnforcementDisposition .paper latest []) = some basis := by
  unfold basisRefusal at accepted
  cases latest with
  | none =>
    dsimp only at accepted
    split_ifs at accepted with listed
    rcases listed with rfl | rfl
    · exact .inr rfl
    · exact .inl rfl
  | some authorization =>
    dsimp only at accepted
    right
    split at accepted
    case h_1 revoked =>
      split_ifs at accepted with named
      simp [deriveMarketPolicyEnforcementDisposition, revoked, named, unenforcedBasis]
    case h_2 invalidated resolved =>
      split_ifs at accepted with named
      simp [deriveMarketPolicyEnforcementDisposition, invalidated, resolved, named, unenforcedBasis]
    case h_3 => cases accepted

variable {dispatch : UnenforcedDispatch}

theorem runtimeInactive_of_disabled (consistent : dispatch.basisConsistent = true)
    (disabled : dispatch.rollout.enabled = false) : dispatch.basis = .runtimeInactive := by
  unfold UnenforcedDispatch.basisConsistent at consistent
  cases basis : dispatch.basis with
  | runtimeInactive => rfl
  | noAssignment => simp [basis, disabled] at consistent
  | neverAuthorized => simp [basis, disabled] at consistent
  | ownerRevoked => simp [basis, disabled] at consistent
  | ownerOptedOut => simp [basis, disabled] at consistent

theorem unassigned_of_noAssignment (consistent : dispatch.basisConsistent = true)
    (basis : dispatch.basis = .noAssignment) : dispatch.accountSubscriptionId = none := by
  unfold UnenforcedDispatch.basisConsistent at consistent
  rw [basis] at consistent
  simp only [Bool.and_eq_true, Option.isNone_iff_eq_none] at consistent
  exact consistent.1.2

theorem redecided_of_accepted (accepted : unenforcedRefusal store dispatch = none)
    (consistent : dispatch.basisConsistent = true) :
    dispatch.Redecided store.context ∧ (store.intent dispatch.orderIntentId).isSome ∧
      ¬ Obligated store dispatch.orderIntentId := by
  unfold unenforcedRefusal at accepted
  dsimp only at accepted
  split_ifs at accepted with scope identity obligated executable rollout authorization
  push Not at identity obligated rollout authorization
  constructor
  · refine ⟨rollout, ?_⟩
    cases enabled : dispatch.rollout.enabled with
    | false => exact .inl ⟨runtimeInactive_of_disabled consistent enabled, rfl⟩
    | true =>
      right
      rw [rollout, enabled] at accepted
      rcases basis_of_accepted accepted with basis | basis
      · exact .inl ⟨basis, unassigned_of_noAssignment consistent basis⟩
      · cases assigned : dispatch.accountSubscriptionId with
        | none =>
          rw [assigned] at basis
          have never : dispatch.basis = .neverAuthorized := (Option.some.inj basis).symm
          simp [UnenforcedDispatch.basisConsistent, never, assigned] at consistent
        | some accountSubscriptionId =>
          right
          rw [assigned] at basis
          exact ⟨accountSubscriptionId, rfl, basis⟩
  · constructor
    · cases found : store.intent dispatch.orderIntentId with
      | none => simp [found] at identity
      | some row => rfl
    · rintro ⟨obligation, listed, named⟩
      have absent : store.obligation dispatch.orderIntentId = none := by simpa using obligated.1
      exact absurd (by simp [named]) (List.find?_eq_none.mp absent obligation listed)

theorem quiet_insertUnenforced {recordId : Nat} (inserted : insertUnenforced call dispatch store = .ok (recordId, after)) :
    QuietWrite call store after ∧ Recorded after call dispatch.orderIntentId := by
  unfold insertUnenforced at inserted
  dsimp only at inserted
  split at inserted
  case h_1 accepted consistent =>
    split at inserted
    case h_1 rows unique =>
      cases inserted
      obtain ⟨rfl, fresh⟩ := appended_of_insertUnique unique
      obtain ⟨redecided, present, free⟩ := redecided_of_accepted accepted consistent
      constructor
      · exact .unenforced redecided present free fresh rfl
      · exact ⟨_, List.mem_append_right _ (List.mem_singleton.mpr rfl), rfl, rfl⟩
    case h_2 => cases inserted
  case h_2 => cases inserted
  case h_3 => cases inserted

theorem leaves_recordQuarantineDecision {resolution : Resolution} {stage : String} :
    Leaves call (recordQuarantineDecision request intent rollout resolution stage) (fun _ _ => True) store := by
  unfold recordQuarantineDecision
  split
  · exact leaves_throw
  case h_2 authorization _ =>
    apply leaves_readThen
    intro sequenced _ _
    apply leaves_readThen
    intro clocked _ _
    exact leaves_createDecision (sealed_of_refusal (Int.le_refl _) nofun)

theorem leaves_prepareUnobligatedDecision :
    Leaves call (prepareUnobligatedDecision request intent ineffectiveReasons accountSubscriptionId) (fun _ _ => True)
      store := by
  apply leaves_readThen
  intro locked _ _
  apply assured_ite
  · exact fun _ => leaves_pure trivial
  · intro _
    apply leaves_attemptRead
    · intro resolved _ _
      split
      · apply assured_ite
        · exact fun _ => leaves_pure trivial
        · exact fun _ => leaves_recordQuarantineDecision.bind fun _ _ _ => leaves_pure trivial
      · exact leaves_throw
    · intro error resolved _
      exact leaves_throw

/-- What the final authorization leaves behind. -/
def Finalized (call : Nat) (request : EntryBrokerDispatchRequest) (result : FinalUnobligatedAuthorization)
    (store : DispatchStore) : Prop :=
  match result with
  | .authorized _ _ => Recorded store call request.orderIntentId
  | .quarantined _ => True

theorem leaves_insertUnenforced (named : dispatch.orderIntentId = request.orderIntentId) : Leaves call (do
      let dispatchId ← (commit (insertUnenforced call dispatch) : DispatchProgram Nat)
      pure (FinalUnobligatedAuthorization.authorized dispatchId basis)) (Finalized call request) store := by
  have recorded : Leaves call (commit (insertUnenforced call dispatch))
      (fun _ current => Recorded current call request.orderIntentId) store := by
    apply leaves_commit
    intro current recordId later _ _ inserted
    rw [← named]
    exact quiet_insertUnenforced inserted
  exact recorded.bind fun _ _ recorded => leaves_pure recorded

theorem leaves_authorizeUnobligatedUnderLock {resolution : Option Resolution} {security : String × Nat} :
    Leaves call (authorizeUnobligatedUnderLock call request intent rollout resolution security) (Finalized call request)
      store := by
  apply leaves_readThen
  intro read _ _
  split
  · exact leaves_throw
  · apply assured_ite
    · exact fun _ => leaves_throw
    · intro _
      split
      · exact leaves_insertUnenforced rfl
      · exact leaves_insertUnenforced rfl
      · apply assured_ite
        · exact fun _ => leaves_recordQuarantineDecision.bind fun _ _ _ => leaves_pure trivial
        · intro _
          split
          · exact leaves_insertUnenforced rfl
          · exact leaves_throw

theorem leaves_authorizeUnobligatedDispatchInTransaction :
    Leaves call (authorizeUnobligatedDispatchInTransaction call request intent ineffectiveReasons)
      (Finalized call request) store := by
  apply leaves_readThen
  intro locked _ _
  split
  · apply leaves_attemptRead
    · intro resolved _ _
      split
      · exact leaves_authorizeUnobligatedUnderLock
      · exact leaves_throw
    · intro error resolved _
      exact leaves_throw
  · apply leaves_readThen
    intro found _ _
    split
    · exact leaves_authorizeUnobligatedUnderLock
    · exact leaves_throw

/-- The attempt has its record and knows it. -/
def Cleared (call : Nat) (request : EntryBrokerDispatchRequest) (store : DispatchStore) : Prop :=
  .acknowledged call request.orderIntentId ∈ store.history

theorem leaves_acknowledge (recorded : Recorded store call request.orderIntentId) :
    Leaves call (acknowledge call request) (fun _ current => Cleared call request current) store := by
  apply leaves_commit
  intro current value later grown _ written
  cases written
  constructor
  · exact .acknowledged (recorded.grown grown) rfl
  · exact List.mem_append_right _ (List.mem_singleton.mpr rfl)

theorem leaves_authorizeUnobligatedDispatch :
    Leaves call (authorizeUnobligatedDispatch call request intent ineffectiveReasons)
      (fun _ current => Cleared call request current) store := by
  refine leaves_attempt leaves_authorizeUnobligatedDispatchInTransaction (fun result current finalized => ?_) ?_
  · cases result with
    | authorized recordId basis => exact leaves_acknowledge finalized
    | quarantined decision => exact leaves_throw
  · intro error current
    exact leaves_throwIfDispatchRecorded.bind fun _ _ _ => leaves_technicalRefusal

theorem leaves_authorizeObligatedDispatch {first : DispatchDecision} :
    Leaves call (authorizeObligatedDispatch evaluator ineffectiveReasons call request intent obligationId first)
      (fun _ current => Cleared call request current) store := by
  refine leaves_attempt leaves_consumeDecision (fun _ current recorded => leaves_acknowledge recorded) ?_
  intro error current
  refine leaves_throwIfDispatchRecorded.bind fun _ unrecorded _ => ?_
  refine leaves_prepareObligated.bind fun fresh prepared _ => ?_
  refine leaves_attempt leaves_consumeDecision (fun _ later recorded => leaves_acknowledge recorded) ?_
  intro refused later
  exact leaves_throwIfDispatchRecorded.bind fun _ _ _ => leaves_technicalRefusal

end Records

section Boundary

/-- The guard applies to the intent: it exists, and unless it passes unguarded it has a record. -/
def Passed (call : Nat) (request : EntryBrokerDispatchRequest) (store : DispatchStore) : Prop :=
  (store.intent request.orderIntentId).isSome ∧ (Paper store request.orderIntentId → Cleared call request store)

/-- What the preparation has found out about the intent. -/
def Prepared (request : EntryBrokerDispatchRequest) (prepared : PreparedEntryBrokerDispatch) (store : DispatchStore) :
    Prop :=
  (store.intent request.orderIntentId).isSome ∧
    (prepared = .notApplicable → ¬ Paper store request.orderIntentId)

variable {prepared : PreparedEntryBrokerDispatch}

theorem lasting_prepared : Lasting (Prepared request prepared) := by
  intro store after grown held
  obtain ⟨present, unguarded⟩ := held
  exact ⟨grown.present present, fun same paper => unguarded same ((grown.paper_iff present).mp paper)⟩

theorem leaves_prepareEntryBrokerDispatch :
    Leaves call (prepareEntryBrokerDispatch evaluator ineffectiveReasons request) (Prepared request) store := by
  apply leaves_attemptRead
  · intro loaded _ _
    split
    · exact leaves_technicalRefusal
    · exact leaves_technicalRefusal
    case h_3 intent found =>
      obtain ⟨row, there, rfl⟩ := Option.map_eq_some_iff.mp (Except.ok.inj found)
      have present : Lasting fun current => (current.intent request.orderIntentId).isSome = true :=
        fun grown held => grown.present held
      have here : (loaded.intent request.orderIntentId).isSome = true := by rw [there]; rfl
      apply assured_ite
      · intro unguarded
        refine leaves_pure ⟨here, fun _ paper => ?_⟩
        obtain ⟨other, again, paper⟩ := paper
        rw [there] at again
        cases again
        exact unguarded paper
      · intro _
        split
        · exact (leaves_prepareObligated.with present here).bind fun _ _ held => leaves_pure ⟨held.2, nofun⟩
        · exact leaves_pure ⟨here, nofun⟩
        · refine leaves_attempt (leaves_prepareUnobligatedDecision.with present here) (fun result current held => ?_)
            fun _ _ => leaves_technicalRefusal
          cases result with
          | inl decision => exact leaves_throw
          | inr applicability => exact leaves_pure ⟨held.2, nofun⟩
  · intro error loaded _
    exact leaves_technicalRefusal

theorem leaves_authorizeDispatch (held : Prepared request prepared store) :
    Leaves call (authorizeDispatch evaluator ineffectiveReasons call request prepared)
      (fun _ current => Passed call request current) store := by
  cases prepared with
  | frozenObligation intent obligationId first =>
    exact (leaves_authorizeObligatedDispatch.with lasting_prepared held).weaken
      fun _ _ both => ⟨both.2.1, fun _ => both.1⟩
  | unobligatedFinalAuthorization intent applicability =>
    exact (leaves_authorizeUnobligatedDispatch.with lasting_prepared held).weaken
      fun _ _ both => ⟨both.2.1, fun _ => both.1⟩
  | notApplicable => exact leaves_pure ⟨held.1, fun paper => absurd paper (held.2 rfl)⟩

theorem leaves_assertNoLocalEntryDispatchEvidence :
    Leaves call (assertNoLocalEntryDispatchEvidence request) (fun _ _ => True) store := by
  apply leaves_readThen
  intro consumed _ _
  apply leaves_readThen
  intro dispatched _ _
  apply leaves_answerThen
  intro evidence
  cases evidence with
  | error message => exact leaves_throw
  | ok evidence =>
    apply assured_ite
    · exact fun _ => leaves_throw
    · exact fun _ => leaves_pure trivial

theorem leaves_started : Leaves call
    (write (·.note (.adapterInvocationStarted call request.orderIntentId)) : DispatchProgram Unit)
    (fun _ _ => True) store := by
  apply leaves_commit
  intro current value later _ _ written
  cases written
  exact ⟨.started rfl, trivial⟩

/-- The attempt has sent nothing. -/
def Unposted (call : Nat) (store : DispatchStore) : Prop := ∀ orderIntentId, .posted call orderIntentId ∉ store.history

theorem Unposted.undisputed (unposted : Unposted call store) (undisputed : Undisputed call store after) :
    Unposted call after := fun orderIntentId member => unposted orderIntentId (undisputed.own _ member rfl)

theorem Unposted.quiet (unposted : Unposted call store) (write : QuietWrite call store after) : Unposted call after := by
  intro orderIntentId member
  cases write with
  | same written => exact unposted orderIntentId (written ▸ member)
  | decided _ written =>
    subst written
    exact unposted orderIntentId member
  | consumed _ _ written =>
    subst written
    simp only [List.mem_append, List.mem_singleton, reduceCtorEq, or_false] at member
    exact unposted orderIntentId member
  | unenforced _ _ _ _ written =>
    subst written
    simp only [List.mem_append, List.mem_singleton, reduceCtorEq, or_false] at member
    exact unposted orderIntentId member
  | acknowledged _ written =>
    subst written
    simp only [DispatchStore.note, List.mem_append, List.mem_singleton, reduceCtorEq, or_false] at member
    exact unposted orderIntentId member
  | started written =>
    subst written
    simp only [DispatchStore.note, List.mem_append, List.mem_singleton, reduceCtorEq, or_false] at member
    exact unposted orderIntentId member

/-- The record of a cleared attempt is the only one of its intent, and its POST the first one. -/
theorem authorized_of_cleared (lawful : Lawful store) (unposted : Unposted call store)
    (cleared : Cleared call request store) (paper : Paper store request.orderIntentId) :
    Authorized store call request.orderIntentId := by
  have recorded := lawful.acknowledged _ _ cleared
  constructor
  · exact cleared
  · intro other member
    have acknowledged := (lawful.posted other _ member).2 paper
    have same := lawful.oneRecord other call _ (lawful.acknowledged _ _ acknowledged) recorded
    exact unposted request.orderIntentId (same ▸ member)
  · intro obligated
    rcases lawful.recorded_cases recorded with ⟨_, row, visible, stored, noted, listed, named, justified⟩ | ⟨free, _⟩
    · refine ⟨?_, row, visible, stored, noted, named, justified⟩
      apply Nat.le_antisymm (lawful.oneConsumption _)
      exact List.countP_pos_iff.mpr ⟨row, listed, by simp [named]⟩
    · exact absurd obligated free
  · intro free
    rcases lawful.recorded_cases recorded with ⟨obligated, _⟩ | ⟨_, row, context, noted, listed, named, redecided⟩
    · exact absurd obligated free
    · refine ⟨?_, row, context, noted, named, redecided⟩
      apply Nat.le_antisymm (lawful.oneUnenforced _)
      exact List.countP_pos_iff.mpr ⟨row, listed, by simp [named]⟩

/-- What the result of an attempt says: an error from before the adapter call has sent nothing. -/
def Truthful (call : Nat) (result : Except DispatchError Unit) (store : DispatchStore) : Prop :=
  ∀ error, result = .error error → (∀ message, error ≠ .adapter message) → Unposted call store

theorem assured_submitAlpacaEntryOrder (passed : Passed call request store) (unposted : Unposted call store) :
    (submitAlpacaEntryOrder call request).Assured (attemptContract call) DispatchFault (Truthful call) store := by
  have adapter : ∀ (message : String) (current : DispatchStore), Truthful call (.error (.adapter message)) current := by
    intro message current error same guard
    cases same
    exact absurd rfl (guard message)
  refine Assured.bind (Assured.attempt (assured_write fun current relied lawful => ?_))
  have present := relied.present passed.1
  have authorized : Paper current request.orderIntentId → Authorized current call request.orderIntentId := by
    intro paper
    have cleared := passed.2 ((relied.paper_iff passed.1).mp paper)
    exact authorized_of_cleared lawful (unposted.undisputed relied) (relied.history _ cleared) paper
  have write : AttemptWrite call current (current.note (.posted call request.orderIntentId)) :=
    .inr ⟨_, present, authorized, rfl⟩
  refine ⟨write, lawful.attempt write, ?_, fun error _ => adapter _ _, fun error _ => adapter _ _⟩
  refine Assured.bind fun answer => ?_
  cases answer with
  | error message => exact adapter message _
  | ok _ => exact nofun

/-- What comes before the adapter call sends nothing, whatever it returns or throws. -/
theorem Leaves.attempting {α β : Type} {program : DispatchProgram α} {next : α → DispatchProgram β}
    {held : α → DispatchStore → Prop} {post : Except DispatchError β → DispatchStore → Prop}
    (leaves : Leaves call program held store) (unposted : Unposted call store)
    (rest : ∀ value current, held value current → Unposted call current →
      (next value).Assured (attemptContract call) DispatchFault post current)
    (thrown : ∀ error current, Unposted call current → post (.error error) current) :
    (program >>= next).Assured (attemptContract call) DispatchFault post store := by
  have kept := Assured.frame leaves (attemptContract call) (Unposted call) rfl rfl
    (fun _ _ write => .inl write) (fun _ _ relied known => known.undisputed relied)
    (fun _ _ write known => known.quiet write) unposted
  refine Assured.bind (kept.mono fun result current both => ?_)
  cases result with
  | ok value => exact rest value current (both.1 value rfl) both.2
  | error error => exact thrown error current both.2

theorem assured_submitOrderToBroker (unposted : Unposted call store) :
    (submitOrderToBroker evaluator ineffectiveReasons call request).Assured (attemptContract call) DispatchFault
      (Truthful call) store := by
  have thrown : ∀ error current, Unposted call current → Truthful call (.error error) current :=
    fun _ _ unposted _ _ _ => unposted
  refine Assured.bind fun existing => ?_
  cases existing with
  | error message => exact fun _ _ _ => unposted
  | ok found =>
    cases found with
    | true => exact nofun
    | false =>
      refine leaves_assertNoLocalEntryDispatchEvidence.attempting unposted (fun _ first _ unposted => ?_) thrown
      refine leaves_prepareEntryBrokerDispatch.attempting unposted (fun prepared second held unposted => ?_) thrown
      refine (leaves_authorizeDispatch held).attempting unposted (fun _ third passed unposted => ?_) thrown
      have lasting : Lasting (Passed call request) := fun grown passed =>
        ⟨grown.present passed.1, fun paper => grown.history _ (passed.2 ((grown.paper_iff passed.1).mp paper))⟩
      refine (leaves_started.with lasting passed).attempting unposted (fun _ fourth held unposted => ?_) thrown
      exact assured_submitAlpacaEntryOrder held.2 unposted

end Boundary

section Crew

/-- Every member makes one attempt to dispatch one intent. -/
def Dispatching (evaluator : Evaluator) (ineffectiveReasons : PolicyContext → AuthorizationRow → List String)
    (call : Nat) (program : DispatchProgram Unit) : Prop :=
  ∃ request, program = submitOrderToBroker evaluator ineffectiveReasons call request

variable {other : Nat}

theorem own_of_append {history : List DispatchEvent} {added event : DispatchEvent}
    (member : event ∈ history ++ [added]) (mine : event.call = other) (different : added.call ≠ other) :
    event ∈ history := by
  rcases List.mem_append.mp member with old | new
  · exact old
  · rw [List.mem_singleton.mp new] at mine
    exact absurd mine different

theorem AttemptWrite.own (write : AttemptWrite call store after) (different : call ≠ other) :
    ∀ event ∈ after.history, event.call = other → event ∈ store.history := by
  intro event member mine
  rcases write with quiet | ⟨orderIntentId, _, _, rfl⟩
  · cases quiet with
    | same written => exact written ▸ member
    | decided _ written =>
      rw [written] at member
      exact member
    | consumed _ _ written =>
      rw [written] at member
      exact own_of_append member mine different
    | unenforced _ _ _ _ written =>
      rw [written] at member
      exact own_of_append member mine different
    | acknowledged _ written =>
      rw [written] at member
      exact own_of_append member mine different
    | started written =>
      rw [written] at member
      exact own_of_append member mine different
  · exact own_of_append member mine different

theorem AttemptWrite.undisputed (write : AttemptWrite call store after)
    (different : call ≠ other) : Undisputed other store after where
  toGrown := write.grown
  own := write.own different

theorem WorldStep.undisputed (step : WorldStep store after) : Undisputed call store after where
  toGrown := step.toGrown
  own := fun _ member _ => step.sameHistory ▸ member

/-- Attempts keep the history lawful among each other. -/
def dispatchDiscipline (evaluator : Evaluator) (ineffectiveReasons : PolicyContext → AuthorizationRow → List String) :
    Crew.Discipline DispatchFault (Dispatching evaluator ineffectiveReasons) WorldStep where
  invariant := Lawful
  contract := attemptContract
  unused := Unposted
  post := Truthful
  same_invariant := fun _ => rfl
  others := fun different write => write.undisputed different
  world := fun lawful step => ⟨lawful.world step, fun _ => step.undisputed⟩
  unused_stable := fun undisputed unposted => unposted.undisputed undisputed
  post_stable := fun undisputed truthful error same guard => (truthful error same guard).undisputed undisputed
  assured := fun listed unposted => by
    obtain ⟨request, rfl⟩ := listed
    exact assured_submitOrderToBroker unposted

/-- No entry has been dispatched yet. -/
structure Undispatched (store : DispatchStore) : Prop where
  decisions : store.decisions = []
  consumptions : store.consumptions = []
  unenforced : store.unenforced = []
  history : store.history = []

theorem Undispatched.lawful (fresh : Undispatched store) : Lawful store := by
  obtain ⟨decisions, consumptions, unenforced, history⟩ := fresh
  constructor
  · simp [decisions]
  · simp [history]
  · simp [history]
  · exact consumptions ▸ Table.unique_nil
  · exact unenforced ▸ Table.unique_nil
  · rintro first second orderIntentId ⟨event, member, _⟩
    simp [history] at member
  · simp [history]
  · simp [history]

/-- The dispatch was refused, or its record was not acknowledged. -/
def DispatchError.NotSent : DispatchError → Prop
  | .refused _ _ _ | .recordedNotSent _ _ => True
  | _ => False

/-- A step that appends a POST is the step of an attempt that was authorized to. -/
theorem authorized_of_permitted {crew next : Crew DispatchStore DispatchError Unit} {orderIntentId : Nat}
    (permitted : Crew.Permitted (dispatchDiscipline evaluator ineffectiveReasons) crew next)
    (posted : next.store.history = crew.store.history ++ [.posted call orderIntentId])
    (paper : Paper crew.store orderIntentId) : Authorized crew.store call orderIntentId := by
  have appended : ∀ event, next.store.history = crew.store.history ++ [event] → event = .posted call orderIntentId := by
    intro event written
    exact (List.singleton_inj.mp (List.append_cancel_left (posted.symm.trans written))).symm
  have changed : next.store.history ≠ crew.store.history := by
    intro same
    simp [same] at posted
  rcases permitted with same | world | ⟨member, _, quiet | ⟨id, _, authorized, written⟩⟩
  · exact absurd (congrArg DispatchStore.history same) changed
  · exact absurd world.sameHistory changed
  · cases quiet with
    | same written => exact absurd (congrArg DispatchStore.history written) changed
    | decided _ written => exact absurd (congrArg DispatchStore.history written) changed
    | consumed _ _ written => cases appended _ (congrArg DispatchStore.history written)
    | unenforced _ _ _ _ written => cases appended _ (congrArg DispatchStore.history written)
    | acknowledged _ written => cases appended _ (congrArg DispatchStore.history written)
    | started written => cases appended _ (congrArg DispatchStore.history written)
  · cases appended _ (congrArg DispatchStore.history written)
    exact authorized paper

/-- The POST of an obligated intent follows one consumption of its attempt, of a decision ALLOWED, fresh, within its window
and not superseded when it committed. -/
def ConsumedCurrent (store : DispatchStore) (call orderIntentId : Nat) : Prop :=
  Obligated store orderIntentId → ∃ consumption visible stored,
    .consumed call consumption visible stored ∈ store.history ∧ consumption.orderIntentId = orderIntentId ∧
    consumption.Justified store stored

/-- A POST of a PAPER entry follows the one acknowledged record of its attempt, a refused dispatch sends nothing, and an
unknown record forbids every POST. While no decision is created between check and commit of a consumption, no superseded one
is consumed. -/
theorem submitOrderToBroker_authorized {start : DispatchStore} {crew next : Crew DispatchStore DispatchError Unit}
    (fresh : Undispatched start)
    (run : Crew.Run DispatchFault (Dispatching evaluator ineffectiveReasons) WorldStep (Crew.idle start) crew)
    (step : Crew.Step DispatchFault (Dispatching evaluator ineffectiveReasons) WorldStep crew next) :
    (∀ call orderIntentId, next.store.history = crew.store.history ++ [.posted call orderIntentId] →
      Paper crew.store orderIntentId → Authorized crew.store call orderIntentId ∧
        ((∀ event ∈ crew.store.history, event.Timely crew.store) → ConsumedCurrent crew.store call orderIntentId)) ∧
    (∀ call error, next.running call = some (.done (.error error)) → error.NotSent → Unposted call next.store) ∧
    ∀ call orderIntentId, Recorded next.store call orderIntentId → Paper next.store orderIntentId →
      .acknowledged call orderIntentId ∉ next.store.history →
      ∀ other, .posted other orderIntentId ∉ next.store.history := by
  have idle : Crew.Sound (dispatchDiscipline evaluator ineffectiveReasons) (Crew.idle start) :=
    Crew.sound_idle fresh.lawful fun call orderIntentId => by simp [fresh.history]
  obtain ⟨sound, permitted⟩ := (idle.run run).step step
  refine ⟨fun call orderIntentId posted paper => ?_, ?_, ?_⟩
  · have authorized := authorized_of_permitted permitted posted paper
    refine ⟨authorized, fun timely obligated => ?_⟩
    obtain ⟨_, consumption, visible, stored, noted, named, justified⟩ := authorized.obligated obligated
    have lawful : Lawful crew.store := (idle.run run).invariant
    obtain ⟨_, _, ordered, within⟩ := lawful.consumed _ _ _ _ noted
    exact ⟨consumption, visible, stored, noted, named, justified.timely ordered within (timely _ noted)⟩
  · intro call error done notSent
    apply sound.returned done error rfl
    intro message same
    rw [same] at notSent
    exact notSent
  · intro call orderIntentId recorded paper unacknowledged other posted
    have lawful : Lawful next.store := sound.invariant
    have acknowledged := (lawful.posted other orderIntentId posted).2 paper
    have same := lawful.oneRecord other call orderIntentId (lawful.acknowledged _ _ acknowledged) recorded
    exact unacknowledged (same ▸ acknowledged)

/-- An admitted entry with its obligation, submitting and claimed. -/
def submittingStore : DispatchStore where
  context := enforcedContext
  securities := [("SPY", 10)]
  intents := [⟨1, some 1, some 1, some "c-1", "SPY", "buy", .submitting⟩]
  claims := [⟨1, ⟨1, 10⟩, some 1, none, "entry:1:c-1", .entrySubmitting, none, none⟩]
  obligations := admittedStore.obligations
  decisions := []
  consumptions := []
  unenforced := []
  history := []

def dispatchRequest : EntryBrokerDispatchRequest := ⟨1, 1, "SPY", "c-1"⟩

def dispatchedIntent : DispatchIntent := ⟨1, some 1, some 1, some "c-1", some .paper, some 1⟩

/-- What the market says there. -/
def allowedDecision : DispatchDecision where
  id := 1
  orderIntentId := 1
  obligationId := some 1
  dispatchSequence := 1
  clientOrderId := "c-1"
  tradingAccountId := 1
  accountSubscriptionId := 1
  authority := some ⟨⟨1, 1, .paper, 1, 1, 10, "SPY"⟩, 1, 1, 1, "authorized", "V1"⟩
  authorizationStatus := some .authorized
  rollout := ⟨true, 7⟩
  evaluatedAt := 1000
  validUntil := some 5000
  dispatchExpiresAt := some 5000
  composition := some upTrend
  gates := allowedTrend.gates
  outcome := .allowed
  reasonCode := "ALL_REQUIRED_DIMENSIONS_ALLOWED"

def decidedStore : DispatchStore := { submittingStore with decisions := [allowedDecision] }

def authorizedStore : DispatchStore :=
  { decidedStore with
    consumptions := [⟨1, 1, 1, "c-1", 1000⟩]
    history := [.consumed 0 ⟨1, 1, 1, "c-1", 1000⟩ 1 1, .acknowledged 0 1] }

theorem authorizeDispatch_decidedStore : (authorizeDispatch evaluateStrategyMarketEligibility noReasons 0 dispatchRequest
    (.frozenObligation dispatchedIntent 1 allowedDecision)).alone decidedStore = some (.ok (), authorizedStore) := by
  decide +kernel

/-- The adapter is about to be called. -/
def startedStore : DispatchStore := authorizedStore.note (.adapterInvocationStarted 0 1)

theorem insertDecision_allowedDecision :
    insertDecision { allowedDecision with id := 0 } submittingStore = .ok (allowedDecision, decidedStore) := by
  decide +kernel

def enforcedObligation : Obligation :=
  ⟨1, 1, 1, ⟨1, 1, .paper, 1, 1, 10, "SPY"⟩, 1, "authorized", "V1", 1, 1, some upTrend, 1000, some 5000, 7⟩

theorem decideObligated_submittingStore : Interleaving DispatchFault (fun _ _ => False)
    (decideObligated dispatchRequest evaluateStrategyMarketEligibility ⟨true, 7⟩ enforcedObligation enforcedResolution,
      submittingStore) (.done (.ok allowedDecision), decidedStore) := by
  iterate 7 refine .head (.own (.commit rfl)) ?_
  refine .head (.own (.ask false)) ?_
  exact .single (.own (.commit insertDecision_allowedDecision))

/-- What is left of the attempt once its decision is stored. -/
def decidedAttempt : DispatchProgram Unit := do
  authorizeDispatch evaluateStrategyMarketEligibility noReasons 0 dispatchRequest
    (.frozenObligation dispatchedIntent 1 allowedDecision)
  write (·.note (.adapterInvocationStarted 0 1))
  submitAlpacaEntryOrder 0 dispatchRequest

theorem submitOrderToBroker_decidedStore : Interleaving DispatchFault (fun _ _ => False)
    (submitOrderToBroker evaluateStrategyMarketEligibility noReasons 0 dispatchRequest, submittingStore)
    (decidedAttempt, decidedStore) := by
  refine .head (.own (.ask (.ok false))) ?_
  iterate 2 refine .head (.own (.commit rfl)) ?_
  refine .head (.own (.ask (.ok 0))) ?_
  have decided : Interleaving DispatchFault (fun _ _ => False)
      (prepareObligatedDecision dispatchRequest evaluateStrategyMarketEligibility noReasons 1, submittingStore)
      (.done (.ok allowedDecision), decidedStore) := by
    iterate 3 refine .head (.own (.commit rfl)) ?_
    exact decideObligated_submittingStore
  have prepared : Interleaving DispatchFault (fun _ _ => False)
      (prepareEntryBrokerDispatch evaluateStrategyMarketEligibility noReasons dispatchRequest, submittingStore)
      (.done (.ok (.frozenObligation dispatchedIntent 1 allowedDecision)), decidedStore) := by
    have obligated : Interleaving DispatchFault (fun _ _ => False)
        (prepareObligated dispatchRequest evaluateStrategyMarketEligibility noReasons dispatchedIntent 1,
          submittingStore) (.done (.ok allowedDecision), decidedStore) :=
      andThen decided.attempt .refl
    exact .head (.own (.commit rfl)) (andThen obligated .refl)
  exact andThen prepared .refl

theorem submitOrderToBroker_submittingStore : Interleaving DispatchFault (fun _ _ => False)
    (submitOrderToBroker evaluateStrategyMarketEligibility noReasons 0 dispatchRequest, submittingStore)
    (submitAlpacaEntryOrder 0 dispatchRequest, startedStore) := by
  refine submitOrderToBroker_decidedStore.trans ?_
  refine andThen (interleaving_alone authorizeDispatch_decidedStore) ?_
  exact .single (.own (.commit rfl))

def submittingCrew : Crew DispatchStore DispatchError Unit :=
  ⟨submittingStore, 1, Function.update (fun _ => none) 0 (some
    (submitOrderToBroker evaluateStrategyMarketEligibility noReasons 0 dispatchRequest))⟩

/-- Its first member is about to call the adapter. -/
def startedCrew : Crew DispatchStore DispatchError Unit :=
  ⟨startedStore, 1, Function.update submittingCrew.running 0 (some (submitAlpacaEntryOrder 0 dispatchRequest))⟩

theorem run_startedCrew : Crew.Run DispatchFault (Dispatching evaluateStrategyMarketEligibility noReasons) WorldStep
    (Crew.idle submittingStore) startedCrew := by
  have began : Crew.Step DispatchFault (Dispatching evaluateStrategyMarketEligibility noReasons) WorldStep
      (Crew.idle submittingStore) submittingCrew := .start ⟨dispatchRequest, rfl⟩
  have runs : submittingCrew.running 0 =
      some (submitOrderToBroker evaluateStrategyMarketEligibility noReasons 0 dispatchRequest) := rfl
  exact .head began (Crew.run_of_interleaving runs submitOrderToBroker_submittingStore)

/-- The POST of an obligated entry is authorized, by a decision that was current. -/
theorem submitOrderToBroker_authorized_obligated :
    Authorized startedStore 0 1 ∧ Obligated startedStore 1 ∧ ConsumedCurrent startedStore 0 1 := by
  have fresh : Undispatched submittingStore := ⟨rfl, rfl, rfl, rfl⟩
  have runs : startedCrew.running 0 = some (submitAlpacaEntryOrder 0 dispatchRequest) := rfl
  have posts : Crew.Step DispatchFault (Dispatching evaluateStrategyMarketEligibility noReasons) WorldStep startedCrew
      ⟨startedStore.note (.posted 0 1), 1, _⟩ := .work runs (.commit rfl)
  obtain ⟨authorized, current⟩ :=
    (submitOrderToBroker_authorized fresh run_startedCrew posts).1 0 1 rfl ⟨_, rfl, by decide +kernel⟩
  refine ⟨authorized, ⟨enforcedObligation, by decide +kernel, rfl⟩, current fun event member => ?_⟩
  rcases List.mem_cons.mp member with rfl | member
  · intro decision listed
    cases listed
  rcases List.mem_cons.mp member with rfl | member
  · trivial
  rcases List.mem_cons.mp member with rfl | member
  · trivial
  · cases member

/-- The trend has turned. -/
def downTrend : MarketRegimeAssessment String :=
  { upTrend with
    id := 2
    targetAt := 200
    sources := slot 1 .trend "TREND_V1" (some { trendSource with id := 2, effectiveState := some "DOWN" }) ::
      upTrend.sources.tail }

def turnedStore : DispatchStore :=
  { decidedStore with context := { enforcedContext with compositions := [upTrend, downTrend] } }

/-- What the next decision of the intent says of it. -/
def blockedDecision : DispatchDecision :=
  { allowedDecision with
    id := 2
    dispatchSequence := 2
    validUntil := none
    dispatchExpiresAt := none
    composition := some downTrend
    gates := ⟨1, .trend, "TREND_V1", .required, .blocked, some "DOWN", some .available, some 2, "STATE_NOT_ALLOWED"⟩ ::
      allowedTrend.gates.tail
    outcome := .blocked
    reasonCode := "REQUIRED_STATE_BLOCKED" }

def overtakenStore : DispatchStore := { turnedStore with decisions := [allowedDecision, blockedDecision] }

/-- The consumption of the first decision commits behind the second one. -/
def overrunStore : DispatchStore :=
  { overtakenStore with
    consumptions := [⟨1, 1, 1, "c-1", 1000⟩]
    history := [.consumed 0 ⟨1, 1, 1, "c-1", 1000⟩ 1 2, .acknowledged 0 1, .adapterInvocationStarted 0 1] }

theorem worldStep_turnedStore : WorldStep decidedStore turnedStore where
  now := Int.le_refl _
  settled := fun _ intent found => ⟨intent, found, rfl⟩
  obligations := fun _ member => member
  unobligated := fun _ _ obligated => obligated
  decisions := List.prefix_rfl
  history := fun _ member => member
  sameDecisions := rfl
  sameConsumptions := rfl
  sameUnenforced := rfl
  sameHistory := rfl

theorem insertDecision_blockedDecision :
    insertDecision { blockedDecision with id := 0 } turnedStore = .ok (blockedDecision, overtakenStore) := by
  decide +kernel

/-- A second attempt decides on the down trend. -/
theorem submitOrderToBroker_turnedStore : ∃ rest, Interleaving DispatchFault (fun _ _ => False)
    (submitOrderToBroker evaluateStrategyMarketEligibility noReasons 1 dispatchRequest, turnedStore)
    (rest, overtakenStore) := by
  have decided : Interleaving DispatchFault (fun _ _ => False)
      (prepareObligatedDecision dispatchRequest evaluateStrategyMarketEligibility noReasons 1, turnedStore)
      (.done (.ok blockedDecision), overtakenStore) := by
    iterate 10 refine .head (.own (.commit rfl)) ?_
    refine .head (.own (.ask false)) ?_
    exact .single (.own (.commit insertDecision_blockedDecision))
  have obligated : Interleaving DispatchFault (fun _ _ => False)
      (prepareObligated dispatchRequest evaluateStrategyMarketEligibility noReasons dispatchedIntent 1, turnedStore)
      (.done (.error (.refused .blocked "REQUIRED_STATE_BLOCKED" (some 2))), overtakenStore) :=
    andThen decided.attempt .refl
  have prepared : Interleaving DispatchFault (fun _ _ => False)
      (prepareEntryBrokerDispatch evaluateStrategyMarketEligibility noReasons dispatchRequest, turnedStore)
      (.done (.error (.refused .blocked "REQUIRED_STATE_BLOCKED" (some 2))), overtakenStore) :=
    .head (.own (.commit rfl)) (bind _ obligated)
  have asked : Interleaving DispatchFault (fun _ _ => False)
      (assertNoLocalEntryDispatchEvidence dispatchRequest, turnedStore) (.done (.ok ()), turnedStore) := by
    iterate 2 refine .head (.own (.commit rfl)) ?_
    refine .head (.own (.ask (.ok 0))) ?_
    exact .refl
  exact ⟨_, .head (.own (.ask (.ok false))) (Interleaving.andThen asked (Interleaving.bind _ prepared))⟩

/-- The first attempt has had its decision checked and not yet consumed it. -/
theorem authorizeDispatch_checked : ∃ rest : DispatchProgram Unit,
    Interleaving DispatchFault (fun _ _ => False)
      (authorizeDispatch evaluateStrategyMarketEligibility noReasons 0 dispatchRequest
        (.frozenObligation dispatchedIntent 1 allowedDecision), decidedStore) (rest, decidedStore) ∧
    Interleaving DispatchFault (fun _ _ => False) (rest, overtakenStore)
      (.done (.ok ()), { overrunStore with history := overrunStore.history.take 2 }) := by
  refine ⟨_, .single (.own (.commit rfl)), ?_⟩
  iterate 2 refine .head (.own (.commit rfl)) ?_
  exact .refl

theorem not_consumedCurrent_overrunStore : ¬ ConsumedCurrent overrunStore 0 1 := by
  intro current
  obtain ⟨consumption, visible, stored, noted, _, justified⟩ := current ⟨enforcedObligation, by decide +kernel, rfl⟩
  rcases List.mem_cons.mp noted with same | member
  · cases same
    obtain ⟨decision, member, named, _, _, latest, _⟩ := justified.decision
    rcases List.mem_cons.mp member with rfl | other
    · revert latest
      decide +kernel
    · rw [List.mem_singleton.mp other] at named
      cases named
  · simp at member

/-- Between check and commit another attempt is refused, and the POST follows. -/
theorem superseded_consumption_posts : ¬ ∀ (start : DispatchStore) (crew next : Crew DispatchStore DispatchError Unit),
    Undispatched start →
    Crew.Run DispatchFault (Dispatching evaluateStrategyMarketEligibility noReasons) WorldStep (Crew.idle start) crew →
    Crew.Step DispatchFault (Dispatching evaluateStrategyMarketEligibility noReasons) WorldStep crew next →
    ∀ call orderIntentId, next.store.history = crew.store.history ++ [.posted call orderIntentId] →
      Paper crew.store orderIntentId → ConsumedCurrent crew.store call orderIntentId := by
  intro current
  obtain ⟨waiting, checked, resumed⟩ := authorizeDispatch_checked
  obtain ⟨refused, second⟩ := submitOrderToBroker_turnedStore
  have fresh : Undispatched submittingStore := ⟨rfl, rfl, rfl, rfl⟩
  have began : Crew.Run DispatchFault (Dispatching evaluateStrategyMarketEligibility noReasons) WorldStep
      (Crew.idle submittingStore) submittingCrew := .single (.start ⟨dispatchRequest, rfl⟩)
  have runs : submittingCrew.running 0 =
      some (submitOrderToBroker evaluateStrategyMarketEligibility noReasons 0 dispatchRequest) := rfl
  have paused := began.trans
    (Crew.run_of_interleaving runs (submitOrderToBroker_decidedStore.trans (bind _ checked)))
  have overtaken := (paused.tail (.world worldStep_turnedStore)).trans
    (Crew.run_of_call ⟨dispatchRequest, rfl⟩ second)
  have finish : Interleaving DispatchFault (fun _ _ => False)
      ((do waiting; write (·.note (.adapterInvocationStarted 0 1)); submitAlpacaEntryOrder 0 dispatchRequest :
        DispatchProgram Unit), overtakenStore) (submitAlpacaEntryOrder 0 dispatchRequest, overrunStore) := by
    refine andThen resumed ?_
    exact .single (.own (.commit rfl))
  have consumed := overtaken.trans (Crew.run_of_interleaving (show Crew.running _ 0 = some _ from rfl) finish)
  have paper : Paper overrunStore 1 := ⟨_, rfl, by decide +kernel⟩
  exact not_consumedCurrent_overrunStore
    (current _ _ _ fresh consumed (.work (show Crew.running _ 0 = some _ from rfl) (.commit rfl)) 0 1 rfl paper)

end Crew

end AiTrader.Policy
