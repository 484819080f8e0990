import AiTrader.Policy.BrokerDispatch

/-! # What a dispatch attempt writes

Decisions, dispatch records and the history only grow. -/

namespace AiTrader.Policy

open Library Entry Exclusivity Market

section Facts

variable {store after : DispatchStore} {call orderIntentId : Nat}

/-- The account of the intent is a PAPER account. -/
def Paper (store : DispatchStore) (orderIntentId : Nat) : Prop :=
  ∃ intent, store.intent orderIntentId = some intent ∧ store.environment intent.tradingAccountId = some .paper

/-- The intent has a frozen obligation. -/
def Obligated (store : DispatchStore) (orderIntentId : Nat) : Prop :=
  ∃ obligation ∈ store.obligations, obligation.orderIntentId = orderIntentId

/-- What every transaction keeps, whoever commits it. -/
structure Grown (store after : DispatchStore) : Prop where
  now : store.context.now ≤ after.context.now
  /-- An intent keeps its account, and the account its environment. -/
  settled : ∀ orderIntentId intent, store.intent orderIntentId = some intent →
    ∃ later, after.intent orderIntentId = some later ∧
      after.environment later.tradingAccountId = store.environment intent.tradingAccountId
  obligations : ∀ obligation ∈ store.obligations, obligation ∈ after.obligations
  /-- An obligation is frozen together with its intent. -/
  unobligated : ∀ orderIntentId, (store.intent orderIntentId).isSome → Obligated after orderIntentId →
    Obligated store orderIntentId
  decisions : store.decisions <+: after.decisions
  history : ∀ event ∈ store.history, event ∈ after.history

theorem Grown.refl (store : DispatchStore) : Grown store store where
  now := Int.le_refl _
  settled := fun _ intent found => ⟨intent, found, rfl⟩
  obligations := fun _ member => member
  unobligated := fun _ _ obligated => obligated
  decisions := List.prefix_rfl
  history := fun _ member => member

theorem Grown.present (grown : Grown store after) (present : (store.intent orderIntentId).isSome) :
    (after.intent orderIntentId).isSome := by
  obtain ⟨intent, found⟩ := Option.isSome_iff_exists.mp present
  obtain ⟨later, found, _⟩ := grown.settled orderIntentId intent found
  simp [found]

theorem Grown.trans {last : DispatchStore} (first : Grown store after) (second : Grown after last) :
    Grown store last where
  now := Int.le_trans first.now second.now
  settled := fun orderIntentId intent found => by
    obtain ⟨later, found, same⟩ := first.settled orderIntentId intent found
    obtain ⟨latest, found, alike⟩ := second.settled orderIntentId later found
    exact ⟨latest, found, alike.trans same⟩
  obligations := fun obligation member => second.obligations obligation (first.obligations obligation member)
  unobligated := fun orderIntentId present obligated =>
    first.unobligated orderIntentId present (second.unobligated orderIntentId (first.present present) obligated)
  decisions := first.decisions.trans second.decisions
  history := fun event member => second.history event (first.history event member)

theorem Grown.paper_iff (grown : Grown store after) (present : (store.intent orderIntentId).isSome) :
    Paper after orderIntentId ↔ Paper store orderIntentId := by
  obtain ⟨intent, found⟩ := Option.isSome_iff_exists.mp present
  obtain ⟨later, foundLater, same⟩ := grown.settled orderIntentId intent found
  constructor
  · rintro ⟨row, row_found, paper⟩
    rw [foundLater] at row_found
    cases row_found
    exact ⟨intent, found, same ▸ paper⟩
  · rintro ⟨row, row_found, paper⟩
    rw [found] at row_found
    cases row_found
    exact ⟨later, foundLater, same ▸ paper⟩

/-- A decision mirrors the obligation of its intent; an ALLOWED one expires with its evidence or window. -/
structure DispatchDecision.Sealed (store : DispatchStore) (decision : DispatchDecision) : Prop where
  evaluated : decision.evaluatedAt ≤ store.context.now
  allowed : decision.outcome = .allowed → ∃ validUntil, decision.validUntil = some validUntil ∧
    decision.dispatchExpiresAt = some (min validUntil (decision.evaluatedAt + brokerDispatchWindowMs)) ∧
    ∃ obligation ∈ store.obligations, obligation.orderIntentId = decision.orderIntentId ∧
      decision.obligationId = some obligation.id ∧ decision.authority = some obligation.authority

theorem DispatchDecision.Sealed.grown {decision : DispatchDecision} (sealing : decision.Sealed store)
    (grown : Grown store after) : decision.Sealed after where
  evaluated := Int.le_trans sealing.evaluated grown.now
  allowed := fun outcome => by
    obtain ⟨validUntil, valid, expires, obligation, member, facts⟩ := sealing.allowed outcome
    exact ⟨validUntil, valid, expires, obligation, grown.obligations obligation member, facts⟩

/-- The consumption used an ALLOWED decision, fresh, within its window and not superseded by any PostgreSQL saw. -/
structure DispatchConsumption.Justified (store : DispatchStore) (consumption : DispatchConsumption) (visible : Nat) :
    Prop where
  seen : visible ≤ store.decisions.length
  decision : ∃ decision ∈ store.decisions.take visible, decision.id = consumption.decisionId ∧
    decision.outcome = .allowed ∧ decision.orderIntentId = consumption.orderIntentId ∧
    decision.superseded (store.decisions.take visible) = false ∧
    decision.evaluatedAt ≤ consumption.consumedAt ∧
    consumption.consumedAt < decision.evaluatedAt + brokerDispatchWindowMs ∧
    ∃ validUntil, decision.validUntil = some validUntil ∧ consumption.consumedAt < validUntil ∧
      ∃ obligation ∈ store.obligations, obligation.orderIntentId = consumption.orderIntentId ∧
        decision.authority = some obligation.authority

variable {consumption : DispatchConsumption}

theorem DispatchConsumption.Justified.grown {visible : Nat}
    (justified : consumption.Justified store visible) (grown : Grown store after) :
    consumption.Justified after visible := by
  obtain ⟨later, appended⟩ := grown.decisions
  have same : after.decisions.take visible = store.decisions.take visible := by
    rw [← appended, List.take_append_of_le_length justified.seen]
  constructor
  · rw [← appended, List.length_append]
    exact Nat.le_add_right_of_le justified.seen
  · rw [same]
    obtain ⟨decision, member, named, allowed, intent, latest, evaluated, window, validUntil, valid, until_, obligation,
      listed, facts⟩ := justified.decision
    exact ⟨decision, member, named, allowed, intent, latest, evaluated, window, validUntil, valid, until_, obligation,
      grown.obligations obligation listed, facts⟩

theorem DispatchConsumption.Justified.obligated {visible : Nat}
    (justified : consumption.Justified store visible) : Obligated store consumption.orderIntentId := by
  obtain ⟨_, _, _, _, _, _, _, _, _, _, _, obligation, listed, named, _⟩ := justified.decision
  exact ⟨obligation, listed, named⟩

/-- The rollout is inactive, the intent has no assignment, or the disposition of its assignment is not enforced. -/
def UnenforcedDispatch.Redecided (dispatch : UnenforcedDispatch) (context : PolicyContext) : Prop :=
  context.rollout.getD ⟨false, 0⟩ = dispatch.rollout ∧
    (dispatch.basis = .runtimeInactive ∧ dispatch.rollout.enabled = false ∨
      dispatch.basis = .noAssignment ∧ dispatch.accountSubscriptionId = none ∨
      ∃ accountSubscriptionId, dispatch.accountSubscriptionId = some accountSubscriptionId ∧
        unenforcedBasis (deriveMarketPolicyEnforcementDisposition .paper
          (context.latestAuthorization accountSubscriptionId) []) = some dispatch.basis)

/-- The attempt has committed a dispatch record of the intent. -/
def Recorded (store : DispatchStore) (call orderIntentId : Nat) : Prop :=
  ∃ event ∈ store.history, event.call = call ∧ event.record = some orderIntentId

theorem Recorded.grown (recorded : Recorded store call orderIntentId) (grown : Grown store after) :
    Recorded after call orderIntentId := by
  obtain ⟨event, member, facts⟩ := recorded
  exact ⟨event, grown.history event member, facts⟩

end Facts

section Invariant

/-- Records are justified and unique, and every POST of a PAPER entry follows its own acknowledged record. -/
structure Lawful (store : DispatchStore) : Prop where
  decided : ∀ decision ∈ store.decisions, decision.Sealed store
  consumed : ∀ call consumption visible stored, .consumed call consumption visible stored ∈ store.history →
    consumption ∈ store.consumptions ∧ consumption.Justified store visible ∧ visible ≤ stored ∧
      stored ≤ store.decisions.length
  unenforced : ∀ call dispatch context, .unenforced call dispatch context ∈ store.history →
    dispatch ∈ store.unenforced ∧ dispatch.Redecided context ∧ (store.intent dispatch.orderIntentId).isSome ∧
      ¬ Obligated store dispatch.orderIntentId
  oneConsumption : Table.Unique (fun row : DispatchConsumption => some row.orderIntentId) store.consumptions
  oneUnenforced : Table.Unique (fun row : UnenforcedDispatch => some row.orderIntentId) store.unenforced
  oneRecord : ∀ first second orderIntentId, Recorded store first orderIntentId →
    Recorded store second orderIntentId → first = second
  acknowledged : ∀ call orderIntentId, .acknowledged call orderIntentId ∈ store.history →
    Recorded store call orderIntentId
  posted : ∀ call orderIntentId, .posted call orderIntentId ∈ store.history →
    (store.intent orderIntentId).isSome ∧
      (Paper store orderIntentId → .acknowledged call orderIntentId ∈ store.history)

/-- What everybody but the dispatch attempts may write. -/
structure WorldStep (store after : DispatchStore) : Prop extends Grown store after where
  sameDecisions : after.decisions = store.decisions
  sameConsumptions : after.consumptions = store.consumptions
  sameUnenforced : after.unenforced = store.unenforced
  sameHistory : after.history = store.history

variable {store after : DispatchStore} {call : Nat}

/-- Nothing but the records of an attempt's own kind depends on what else is written. -/
theorem Lawful.grow (lawful : Lawful store) (grown : Grown store after) (decisions : after.decisions = store.decisions)
    (consumptions : after.consumptions = store.consumptions) (unenforced : after.unenforced = store.unenforced)
    (history : after.history = store.history) : Lawful after := by
  have recorded : ∀ call orderIntentId, Recorded after call orderIntentId → Recorded store call orderIntentId := by
    intro call orderIntentId held
    unfold Recorded at held
    rwa [history] at held
  constructor
  · intro decision member
    exact (lawful.decided decision (decisions ▸ member)).grown grown
  · intro call consumption visible stored member
    rw [history] at member
    obtain ⟨listed, justified, ordered, within⟩ := lawful.consumed call consumption visible stored member
    exact ⟨consumptions ▸ listed, justified.grown grown, ordered, decisions ▸ within⟩
  · intro call dispatch context member
    rw [history] at member
    obtain ⟨listed, redecided, present, free⟩ := lawful.unenforced call dispatch context member
    exact ⟨unenforced ▸ listed, redecided, grown.present present,
      fun obligated => free (grown.unobligated _ present obligated)⟩
  · exact consumptions ▸ lawful.oneConsumption
  · exact unenforced ▸ lawful.oneUnenforced
  · intro first second orderIntentId one other
    exact lawful.oneRecord first second orderIntentId (recorded _ _ one) (recorded _ _ other)
  · intro call orderIntentId member
    rw [history] at member
    exact (lawful.acknowledged call orderIntentId member).grown grown
  · intro call orderIntentId member
    rw [history] at member
    obtain ⟨present, paper⟩ := lawful.posted call orderIntentId member
    refine ⟨grown.present present, fun held => ?_⟩
    rw [history]
    exact paper ((grown.paper_iff present).mp held)

theorem Lawful.world (lawful : Lawful store) (step : WorldStep store after) : Lawful after :=
  lawful.grow step.toGrown step.sameDecisions step.sameConsumptions step.sameUnenforced step.sameHistory

theorem grown_of_append (context : after.context = store.context) (intents : after.intents = store.intents)
    (obligations : after.obligations = store.obligations) (decisions : store.decisions <+: after.decisions)
    (history : store.history <+: after.history) : Grown store after where
  now := by rw [context]
  settled := fun orderIntentId intent found => by
    refine ⟨intent, ?_, ?_⟩
    · unfold DispatchStore.intent at found ⊢
      rwa [intents]
    · unfold DispatchStore.environment
      rw [context]
  obligations := fun _ member => by rwa [obligations]
  unobligated := fun _ _ obligated => by
    unfold Obligated at obligated ⊢
    rwa [← obligations]
  decisions := decisions
  history := fun _ member => history.subset member

variable {event : DispatchEvent}

theorem grown_note {store : DispatchStore} : Grown store (store.note event) :=
  grown_of_append rfl rfl rfl List.prefix_rfl (List.prefix_append ..)

theorem Recorded.of_append {first orderIntentId : Nat}
    (history : after.history = store.history ++ [event]) (recorded : Recorded after first orderIntentId) :
    Recorded store first orderIntentId ∨ event.call = first ∧ event.record = some orderIntentId := by
  obtain ⟨one, member, facts⟩ := recorded
  rw [history] at member
  rcases List.mem_append.mp member with old | new
  · exact .inl ⟨one, old, facts⟩
  · rw [List.mem_singleton.mp new] at facts
    exact .inr facts

/-- A consumption record is of an obligated intent, an un-enforced one of another. -/
theorem Lawful.recorded_cases (lawful : Lawful store) {orderIntentId : Nat} (recorded : Recorded store call orderIntentId) :
    (Obligated store orderIntentId ∧ ∃ consumption visible stored,
      .consumed call consumption visible stored ∈ store.history ∧ consumption ∈ store.consumptions ∧
      consumption.orderIntentId = orderIntentId ∧ consumption.Justified store visible) ∨
    (¬ Obligated store orderIntentId ∧ ∃ dispatch context, .unenforced call dispatch context ∈ store.history ∧
      dispatch ∈ store.unenforced ∧ dispatch.orderIntentId = orderIntentId ∧ dispatch.Redecided context) := by
  obtain ⟨event, member, called, record⟩ := recorded
  cases event with
  | consumed owner consumption visible stored =>
    cases called
    cases record
    obtain ⟨listed, justified, _⟩ := lawful.consumed _ consumption visible stored member
    exact .inl ⟨justified.obligated, consumption, visible, stored, member, listed, rfl, justified⟩
  | unenforced owner dispatch context =>
    cases called
    cases record
    obtain ⟨listed, redecided, _, free⟩ := lawful.unenforced _ dispatch context member
    exact .inr ⟨free, dispatch, context, member, listed, rfl, redecided⟩
  | acknowledged owner id => cases record
  | adapterInvocationStarted owner id => cases record
  | posted owner id => cases record

/-- What an event claims when it is appended to a lawful history. -/
structure DispatchEvent.Due (event : DispatchEvent) (store after : DispatchStore) : Prop where
  consumed : ∀ call consumption visible stored, event = .consumed call consumption visible stored →
    consumption ∈ after.consumptions ∧ consumption.Justified after visible ∧ visible ≤ stored ∧
      stored ≤ after.decisions.length
  unenforced : ∀ call dispatch context, event = .unenforced call dispatch context →
    dispatch ∈ after.unenforced ∧ dispatch.Redecided context ∧ (after.intent dispatch.orderIntentId).isSome ∧
      ¬ Obligated after dispatch.orderIntentId
  unrecorded : ∀ orderIntentId, event.record = some orderIntentId → ∀ other, ¬ Recorded store other orderIntentId
  acknowledged : ∀ call orderIntentId, event = .acknowledged call orderIntentId → Recorded store call orderIntentId
  posted : ∀ call orderIntentId, event = .posted call orderIntentId →
    (store.intent orderIntentId).isSome ∧ (Paper store orderIntentId → .acknowledged call orderIntentId ∈ store.history)

/-- A due event keeps the history lawful. -/
theorem Lawful.append (lawful : Lawful store) (grown : Grown store after)
    (due : event.Due store after) (history : after.history = store.history ++ [event])
    (decisions : after.decisions = store.decisions) (consumptions : store.consumptions ⊆ after.consumptions)
    (unenforced : store.unenforced ⊆ after.unenforced)
    (oneConsumption : Table.Unique (fun row : DispatchConsumption => some row.orderIntentId) after.consumptions)
    (oneUnenforced : Table.Unique (fun row : UnenforcedDispatch => some row.orderIntentId) after.unenforced) :
    Lawful after := by
  have split : ∀ one, one ∈ after.history → one ∈ store.history ∨ event = one := by
    intro one member
    rw [history] at member
    exact (List.mem_append.mp member).imp id fun new => (List.mem_singleton.mp new).symm
  constructor
  · intro decision member
    exact (lawful.decided decision (decisions ▸ member)).grown grown
  · intro owner consumption visible stored member
    rcases split _ member with old | new
    · obtain ⟨listed, justified, ordered, within⟩ := lawful.consumed owner consumption visible stored old
      exact ⟨consumptions listed, justified.grown grown, ordered, decisions ▸ within⟩
    · exact due.consumed owner consumption visible stored new
  · intro owner dispatch context member
    rcases split _ member with old | new
    · obtain ⟨listed, redecided, present, free⟩ := lawful.unenforced owner dispatch context old
      exact ⟨unenforced listed, redecided, grown.present present,
        fun obligated => free (grown.unobligated _ present obligated)⟩
    · exact due.unenforced owner dispatch context new
  · exact oneConsumption
  · exact oneUnenforced
  · intro first second orderIntentId one other
    rcases one.of_append history with old | ⟨called, record⟩
    · rcases other.of_append history with alike | ⟨_, record⟩
      · exact lawful.oneRecord first second orderIntentId old alike
      · exact absurd old (due.unrecorded orderIntentId record first)
    · rcases other.of_append history with alike | ⟨again, _⟩
      · exact absurd alike (due.unrecorded orderIntentId record second)
      · exact called.symm.trans again
  · intro owner orderIntentId member
    rcases split _ member with old | new
    · exact (lawful.acknowledged owner orderIntentId old).grown grown
    · exact (due.acknowledged owner orderIntentId new).grown grown
  · intro owner orderIntentId member
    have earlier : (store.intent orderIntentId).isSome ∧
        (Paper store orderIntentId → .acknowledged owner orderIntentId ∈ store.history) := by
      rcases split _ member with old | new
      · exact lawful.posted owner orderIntentId old
      · exact due.posted owner orderIntentId new
    obtain ⟨present, paper⟩ := earlier
    exact ⟨grown.present present, fun held => grown.history _ (paper ((grown.paper_iff present).mp held))⟩

end Invariant

section Attempts

variable {store after : DispatchStore} {call : Nat}

/-- The POST is the first of its intent, whose one record is an acknowledged one of this attempt. -/
structure Authorized (store : DispatchStore) (call orderIntentId : Nat) : Prop where
  acknowledged : .acknowledged call orderIntentId ∈ store.history
  first : ∀ other, .posted other orderIntentId ∉ store.history
  obligated : Obligated store orderIntentId →
    store.consumptions.countP (fun row => some row.orderIntentId == some orderIntentId) = 1 ∧
    ∃ consumption visible stored, .consumed call consumption visible stored ∈ store.history ∧
      consumption.orderIntentId = orderIntentId ∧ consumption.Justified store visible
  unobligated : ¬ Obligated store orderIntentId →
    store.unenforced.countP (fun row => some row.orderIntentId == some orderIntentId) = 1 ∧
    ∃ dispatch context, .unenforced call dispatch context ∈ store.history ∧
      dispatch.orderIntentId = orderIntentId ∧ dispatch.Redecided context

/-- What an attempt commits before the adapter is invoked. -/
inductive QuietWrite (call : Nat) (store after : DispatchStore) : Prop where
  | same (written : after = store)
  | decided {decision : DispatchDecision} (sealing : decision.Sealed store)
      (written : after = { store with decisions := store.decisions ++ [decision] })
  | consumed {consumption : DispatchConsumption} {visible : Nat} (justified : consumption.Justified store visible)
      (fresh : ∀ row ∈ store.consumptions, row.orderIntentId ≠ consumption.orderIntentId)
      (written : after = { store with
        consumptions := store.consumptions ++ [consumption]
        history := store.history ++ [.consumed call consumption visible store.decisions.length] })
  | unenforced {dispatch : UnenforcedDispatch} (redecided : dispatch.Redecided store.context)
      (present : (store.intent dispatch.orderIntentId).isSome) (free : ¬ Obligated store dispatch.orderIntentId)
      (fresh : ∀ row ∈ store.unenforced, row.orderIntentId ≠ dispatch.orderIntentId)
      (written : after = { store with
        unenforced := store.unenforced ++ [dispatch]
        history := store.history ++ [.unenforced call dispatch store.context] })
  | acknowledged {orderIntentId : Nat} (recorded : Recorded store call orderIntentId)
      (written : after = store.note (.acknowledged call orderIntentId))
  | started {orderIntentId : Nat} (written : after = store.note (.adapterInvocationStarted call orderIntentId))

/-- What an attempt commits. -/
def AttemptWrite (call : Nat) (store after : DispatchStore) : Prop :=
  QuietWrite call store after ∨ ∃ orderIntentId, (store.intent orderIntentId).isSome ∧
    (Paper store orderIntentId → Authorized store call orderIntentId) ∧
    after = store.note (.posted call orderIntentId)

theorem QuietWrite.grown (write : QuietWrite call store after) : Grown store after := by
  cases write with
  | same written => exact written ▸ Grown.refl store
  | decided _ written =>
    exact written ▸ grown_of_append rfl rfl rfl (List.prefix_append ..) List.prefix_rfl
  | consumed _ _ written =>
    exact written ▸ grown_of_append rfl rfl rfl List.prefix_rfl (List.prefix_append ..)
  | unenforced _ _ _ _ written =>
    exact written ▸ grown_of_append rfl rfl rfl List.prefix_rfl (List.prefix_append ..)
  | acknowledged _ written => exact written ▸ grown_note
  | started written => exact written ▸ grown_note

theorem AttemptWrite.grown (write : AttemptWrite call store after) : Grown store after := by
  rcases write with quiet | ⟨_, _, _, rfl⟩
  · exact quiet.grown
  · exact grown_note

theorem unique_append {Row : Type} {rows : List Row} {row : Row} {key : Row → Nat}
    (unique : Table.Unique (fun row => some (key row)) rows) (fresh : ∀ other ∈ rows, key other ≠ key row) :
    Table.Unique (fun row => some (key row)) (rows ++ [row]) :=
  unique.append fun value same => by
    cases same
    simpa [Table.indexed] using fresh

/-- No decision of the intent was created between the check of its consumption and the commit. -/
def DispatchEvent.Timely (store : DispatchStore) : DispatchEvent → Prop
  | .consumed _ consumption visible stored =>
    ∀ decision ∈ (store.decisions.take stored).drop visible, decision.orderIntentId ≠ consumption.orderIntentId
  | _ => True

/-- A timely consumption used a decision that nothing stored at its commit superseded. -/
theorem DispatchConsumption.Justified.timely {consumption : DispatchConsumption} {visible stored : Nat}
    (justified : consumption.Justified store visible) (ordered : visible ≤ stored)
    (within : stored ≤ store.decisions.length)
    (timely : (DispatchEvent.consumed call consumption visible stored).Timely store) :
    consumption.Justified store stored := by
  obtain ⟨decision, member, named, allowed, intent, latest, facts⟩ := justified.decision
  have earlier : store.decisions.take visible = (store.decisions.take stored).take visible := by
    rw [List.take_take, Nat.min_eq_left ordered]
  refine ⟨within, decision, ?_, named, allowed, intent, ?_, facts⟩
  · rw [earlier] at member
    exact List.mem_of_mem_take member
  · rw [← List.take_append_drop visible (store.decisions.take stored), ← earlier, DispatchDecision.superseded,
      List.any_append, Bool.or_eq_false_iff]
    refine ⟨latest, List.any_eq_false.mpr fun later listed => ?_⟩
    simp [intent, timely later listed]

/-- Nobody has a record of an intent without a row. -/
theorem Lawful.unrecorded (lawful : Lawful store) {orderIntentId : Nat}
    (consumptions : Obligated store orderIntentId → ∀ row ∈ store.consumptions, row.orderIntentId ≠ orderIntentId)
    (unenforced : ¬ Obligated store orderIntentId → ∀ row ∈ store.unenforced, row.orderIntentId ≠ orderIntentId)
    (other : Nat) : ¬ Recorded store other orderIntentId := by
  intro recorded
  rcases lawful.recorded_cases recorded with ⟨obligated, row, _, _, _, listed, named, _⟩ | ⟨free, row, _, _, listed, named, _⟩
  · exact consumptions obligated row listed named
  · exact unenforced free row listed named

theorem Lawful.note (lawful : Lawful store) {event : DispatchEvent} (due : event.Due store (store.note event)) :
    Lawful (store.note event) :=
  lawful.append grown_note due rfl rfl (fun _ member => member) (fun _ member => member) lawful.oneConsumption
    lawful.oneUnenforced

theorem Lawful.quiet (lawful : Lawful store) (write : QuietWrite call store after) : Lawful after := by
  have grown := write.grown
  cases write with
  | same written => exact written ▸ lawful
  | @decided decision sealing written =>
    subst written
    constructor
    · intro one member
      rcases List.mem_append.mp member with old | new
      · exact (lawful.decided one old).grown grown
      · exact (List.mem_singleton.mp new ▸ sealing).grown grown
    · intro owner consumption visible stored member
      obtain ⟨listed, justified, ordered, within⟩ := lawful.consumed owner consumption visible stored member
      exact ⟨listed, justified.grown grown, ordered, within.trans grown.decisions.length_le⟩
    · exact lawful.unenforced
    · exact lawful.oneConsumption
    · exact lawful.oneUnenforced
    · exact lawful.oneRecord
    · exact lawful.acknowledged
    · exact lawful.posted
  | @consumed consumption visible justified fresh written =>
    subst written
    refine lawful.append grown ⟨?_, ?_, ?_, ?_, ?_⟩ rfl rfl (List.subset_append_left _ _) (fun _ member => member)
      (unique_append lawful.oneConsumption fresh) lawful.oneUnenforced
    · rintro owner row seen stored ⟨⟩
      exact ⟨by simp, justified.grown grown, justified.seen, Nat.le_refl _⟩
    · rintro owner dispatch context ⟨⟩
    · rintro orderIntentId ⟨⟩
      exact lawful.unrecorded (fun _ => fresh) fun free => absurd justified.obligated free
    · rintro owner orderIntentId ⟨⟩
    · rintro owner orderIntentId ⟨⟩
  | @unenforced dispatch redecided present free fresh written =>
    subst written
    refine lawful.append grown ⟨?_, ?_, ?_, ?_, ?_⟩ rfl rfl (fun _ member => member) (List.subset_append_left _ _)
      lawful.oneConsumption (unique_append lawful.oneUnenforced fresh)
    · rintro owner row seen stored ⟨⟩
    · rintro owner row context ⟨⟩
      exact ⟨by simp, redecided, present, free⟩
    · rintro orderIntentId ⟨⟩
      exact lawful.unrecorded (fun obligated => absurd obligated free) fun _ => fresh
    · rintro owner orderIntentId ⟨⟩
    · rintro owner orderIntentId ⟨⟩
  | @acknowledged orderIntentId recorded written =>
    subst written
    refine lawful.note ⟨?_, ?_, ?_, ?_, ?_⟩
    · rintro owner row seen stored ⟨⟩
    · rintro owner row context ⟨⟩
    · rintro id ⟨⟩
    · rintro owner id ⟨⟩
      exact recorded
    · rintro owner id ⟨⟩
  | started written =>
    subst written
    refine lawful.note ⟨?_, ?_, ?_, ?_, ?_⟩
    · rintro owner row seen stored ⟨⟩
    · rintro owner row context ⟨⟩
    · rintro id ⟨⟩
    · rintro owner id ⟨⟩
    · rintro owner id ⟨⟩

theorem Lawful.attempt (lawful : Lawful store) (write : AttemptWrite call store after) : Lawful after := by
  rcases write with quiet | ⟨orderIntentId, present, authorized, rfl⟩
  · exact lawful.quiet quiet
  · refine lawful.note ⟨?_, ?_, ?_, ?_, ?_⟩
    · rintro owner row seen stored ⟨⟩
    · rintro owner row context ⟨⟩
    · rintro id ⟨⟩
    · rintro owner id ⟨⟩
    · rintro owner id ⟨⟩
      exact ⟨present, fun paper => (authorized paper).acknowledged⟩

end Attempts

end AiTrader.Policy
