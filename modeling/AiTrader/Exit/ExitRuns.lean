import AiTrader.Exit.ExitServices
import AiTrader.Exit.TrailingRetry
import AiTrader.Library.Separated

/-! # Runs of the exits

Evaluations, closes, submissions and synchronizations run next to each other, while the broker and the other services do
as they like. -/

namespace AiTrader.Exit

open Library Library.Program Entry Interleaving

variable (toISOString : Int → String) {crew : Crew ExitStore ExitError ExitAnswer}

section Runs

inductive ExitAnswer where
  | evaluated (evaluation : ExitEvaluation)
  | protection (result : ProtectiveOrderSyncResult)
  | submitted (result : SubmittedOrderSyncResult)
  | positions (counts : Option PositionSyncCounts)
  | closed (result : CloseResult)
  | trailing (result : TrailingSubmissionResult)

/-- The programs that are started, any number of times. -/
inductive ExitJob : ExitProgram ExitAnswer → Prop where
  | evaluateExits (tradingAccountId : Nat) : ExitJob do
      return .evaluated (← evaluateExitsForAccount toISOString tradingAccountId)
  | syncProtectiveOrders (tradingAccountId : Nat) : ExitJob do
      return .protection (← syncProtectiveOrdersForAccount tradingAccountId)
  | syncSubmittedOrders (tradingAccountId : Nat) : ExitJob do
      return .submitted (← syncSubmittedOrdersForAccount tradingAccountId)
  | syncTrackedPositions (tradingAccountId : Nat) : ExitJob do
      return .positions (← syncTrackedPositionsForAccount tradingAccountId)
  | closePosition (trackedPositionId : Nat) (mode : ClosePositionMode) : ExitJob do
      return .closed (← closePosition trackedPositionId mode)
  | submitTrailingStop (tradingAccountId trackedPositionId : Nat) (now : Int) : ExitJob do
      return .trailing (← submitTrailingStopExitOrder toISOString tradingAccountId trackedPositionId now)

/-- What an answer says about the log. -/
def ExitAnswer.Told (log : List ExitEvent) : ExitAnswer → Prop
  | .closed result => result.MetIn log
  | .evaluated _ | .protection _ | .submitted _ | .positions _ | .trailing _ => True

/-- The broker and the other services: they write no exit state, and open no position that is closed. -/
def Evolves (store after : ExitStore) : Prop :=
  after.exitStates = store.exitStates ∧ after.log = store.log ∧ ∀ id, Closed store id → Closed after id

/-- The database may fail. -/
def ExitFault (error : ExitError) : Prop := error = .databaseUnavailable

abbrev ExitRun : Crew ExitStore ExitError ExitAnswer → Crew ExitStore ExitError ExitAnswer → Prop :=
  Crew.Run ExitFault (fun _ => ExitJob toISOString) Evolves

variable {store after : ExitStore}

theorem Evolves.neutral (evolves : Evolves store after) : Neutral store after :=
  ⟨evolves.1, ⟨[], by rw [evolves.2.1, List.append_nil], by simp⟩, evolves.2.2⟩

theorem ExitJob.returns {program : ExitProgram ExitAnswer} (job : ExitJob toISOString program) :
    program.Returns (exitContract toISOString) ExitFault (fun answer current => answer.Told current.log) store := by
  have kept : ∀ {α : Type} {service : ExitProgram α} {answer : α → ExitAnswer}, Keeps toISOString ExitFault service →
      (∀ value log, (answer value).Told log) →
      (service >>= fun value => pure (answer value)).Returns (exitContract toISOString) ExitFault
        (fun answer current => answer.Told current.log) store := fun keeps told =>
    Returns.bind (keeps.returns fun _ _ => trivial) fun value _ (_ : True) => returns_pure (told value _)
  cases job with
  | evaluateExits tradingAccountId => exact kept (evaluateExitsForAccount_keeps _) fun _ _ => trivial
  | syncProtectiveOrders tradingAccountId =>
    exact kept (syncProtectiveOrdersForAccount_keeps _) fun _ _ => trivial
  | syncSubmittedOrders tradingAccountId =>
    exact kept (syncSubmittedOrdersForAccount_keeps _) fun _ _ => trivial
  | syncTrackedPositions tradingAccountId =>
    exact kept (syncTrackedPositionsForAccount_keeps _) fun _ _ => trivial
  | closePosition trackedPositionId mode =>
    exact (closePosition_returns trackedPositionId mode).bind fun _ _ met => returns_pure met
  | submitTrailingStop tradingAccountId trackedPositionId now =>
    exact kept (submitTrailingStopExitOrder_keeps _ _ _) fun _ _ => trivial

/-- Every run keeps the exit states as the log tells, and every close that returned has met its order. -/
theorem consistent_of_run (states : store.exitStates = []) (log : store.log = [])
    (run : ExitRun toISOString (Crew.idle store) crew) :
    Consistent toISOString crew.store ∧
      ∀ member result, crew.running member = some (.done (.ok (.closed result))) → result.MetIn crew.store.log := by
  have lasting : ∀ {value : ExitAnswer} {store after : ExitStore}, Grown store after →
      value.Told store.log → value.Told after.log := by
    intro value _ _ grown told
    cases value with
    | closed result => exact told.later grown.1
    | evaluated | protection | submitted | positions | trailing => exact trivial
  have others : ∀ {store after : ExitStore}, Consistent toISOString store → Evolves store after →
      Consistent toISOString after ∧ Grown store after := fun consistent evolves =>
    ⟨consistent.neutral evolves.neutral, evolves.neutral.grown⟩
  obtain ⟨kept, _, returned⟩ := @Crew.grown_of_run _ _ _ _ _ _ _ _ (Consistent toISOString) Grown _ _
    (fun _ value store => value.Told store.log) others (fun {_ _ _ _} => lasting)
    (fun {_ _ _} job => job.returns) (consistent_initial states log) run
  exact ⟨kept, fun member result done => returned member _ done⟩

end Runs

section Names

/-- The client order id is not cut. -/
def TrailName.Fits (name : TrailName) : Prop := (name.letters toISOString).length ≤ 128

variable {toISOString}

/-- Names that are not cut have one position when they are written the same. -/
theorem position_of_name {name other : TrailName} (fits : name.Fits toISOString) (bounded : other.Fits toISOString)
    (same : buildTrailingStopClientOrderId toISOString name = buildTrailingStopClientOrderId toISOString other) :
    name.trackedPositionId = other.trackedPositionId := by
  have plain : ∀ date, '-' ∉ compactDate toISOString date := by
    intro date member
    have kept := (List.mem_filter.mp (List.mem_of_mem_take member)).2
    exact absurd kept (by decide)
  have letters := String.ofList_injective same
  rw [List.take_of_length_le fits, List.take_of_length_le bounded] at letters
  obtain ⟨names, _⟩ := Separated.last_inj (plain _) (plain _) letters
  have unlisted := Separated.not_mem_toString (by decide : '-'.isDigit = false)
  obtain ⟨_, ids⟩ := Separated.last_inj (unlisted _) (unlisted _) names
  exact Separated.toString_inj ids

/-- The name that an event gives to an exit state. -/
def ExitEvent.name : ExitEvent → Option TrailName
  | .claimed name | .recorded name _ => some name
  | _ => none

variable {log : List ExitEvent} {id : Nat}

/-- An exit state names an order of the log. -/
theorem trail_recorded {name : TrailName} (named : (viewOf log id).trail = some name) :
    ∃ event ∈ log, event.name = some name := by
  induction log using List.reverseRecOn with
  | nil => cases named
  | append_singleton log event ih =>
    have here : event.name = some name ∨ (viewOf log id).trail = some name := by
      rw [viewOf_concat] at named
      cases event with
      | created | reset =>
        simp only [ExitEvent.view] at named
        split_ifs at named
        · cases named
        · exact .inr named
      | claimed | recorded =>
        simp only [ExitEvent.view] at named
        split_ifs at named
        · exact .inl named
        · exact .inr named
      | unlocked | synced | missing | submitFailed | closed =>
        simp only [ExitEvent.view] at named
        split_ifs at named <;> exact .inr named
      | met | metLocal | posted => exact .inr named
    rcases here with gives | old
    · exact ⟨event, by simp, gives⟩
    · obtain ⟨other, member, gives⟩ := ih old
      exact ⟨other, List.mem_append_left _ member, gives⟩

end Names

section Laws

variable {store after : ExitStore}

section

variable (store : ExitStore)

/-- A position that is not closed, and whose protection is lost, requires attention. -/
def LossVisible : Prop :=
  ∀ position ∈ store.positions, position.status ≠ .closed → lostOf store.log position.id = true →
    ∃ row, store.exitState position.id = some row ∧ row.attentionRequired = true

/-- A closed exit state stays closed without attention until its position is opened again. -/
def ClosedLeftAlone : Prop :=
  ∀ id, ClosedSince store.log id →
    ∃ row, store.exitState id = some row ∧ row.status = .closed ∧ row.attentionRequired = false

/-- The synchronization of an order changes the exit state of its own position at most. -/
def SyncsItsOwn : Prop :=
  ∀ tradingAccountId clientOrderId brokerOrderId orderStatus now count after,
    updateTrailingStatus tradingAccountId clientOrderId brokerOrderId orderStatus now store = .ok (count, after) →
    ∃ position, (∀ other ≠ position, after.exitState other = store.exitState other) ∧
      ∀ name : TrailName, name.Fits toISOString → buildTrailingStopClientOrderId toISOString name = clientOrderId →
        position = name.trackedPositionId

end

/-- An operation on a trailing order of the position: submission, synchronization, or found missing. -/
def ExitEvent.TrailsOf (id : Nat) : ExitEvent → Prop
  | .unlocked position | .submitFailed position | .missing position => position = id
  | .claimed name | .recorded name _ => name.trackedPositionId = id
  | .synced clientOrderId _ _ =>
    ∃ name : TrailName, name.trackedPositionId = id ∧ buildTrailingStopClientOrderId toISOString name = clientOrderId
  | .created _ | .reset _ | .closed _ | .met .. | .metLocal .. | .posted _ => False

/-- No operation on a trailing order follows the closing of its position, before the position is opened again. -/
def NoneLate (log : List ExitEvent) : Prop :=
  Throughout (fun before event => ∀ id, ClosedSince before id → ¬ event.TrailsOf toISOString id) log

/-- No client order id of a trailing stop is cut. -/
def NamesFit (log : List ExitEvent) : Prop := ∀ event ∈ log, ∀ name, event.name = some name → name.Fits toISOString

variable {toISOString}

theorem exitState_updateExitStates {change : PositionExitState → PositionExitState}
    (same : ∀ row, (change row).trackedPositionId = row.trackedPositionId) (id : Nat) :
    (store.updateExitStates change).exitState id = (store.exitState id).map change := by
  simp only [ExitStore.exitState, ExitStore.updateExitStates, List.find?_map, Function.comp_def, same]

section

variable (consistent : Consistent toISOString store)
include consistent

/-- The exit state of a position about which the log tells something. -/
theorem Consistent.exists_exitState {id : Nat} (told : viewOf store.log id ≠ .initial) :
    ∃ row, store.exitState id = some row ∧ Shown toISOString (viewOf store.log id) row := by
  cases found : store.exitState id with
  | none => exact absurd (consistent.absent id found) told
  | some row =>
    obtain ⟨member, rfl⟩ := exitState_mem found
    exact ⟨row, rfl, consistent.shown row member⟩

theorem Consistent.lossVisible : LossVisible store := by
  intro position member unclosed lost
  have unmarked : .closed position.id ∉ store.log := fun marked =>
    unclosed ((consistent.closed position.id marked).2 position member rfl)
  have required := attentionRequired_of_lost unmarked lost
  have told : viewOf store.log position.id ≠ .initial := fun initial => by
    rw [initial] at required
    cases required
  obtain ⟨row, found, shown⟩ := consistent.exists_exitState told
  exact ⟨row, found, shown.attention.trans required⟩

/-- A synchronization writes the exit states of the positions whose trailing order it is. -/
theorem Consistent.untouched (none : NoneLate toISOString store.log) :
    Throughout (fun before event => ∀ id, event.Writes id → ¬ ClosedSince before id) store.log := by
  intro before event after same id writes closed
  refine none before event after same id closed ?_
  cases event with
  | synced clientOrderId status positions =>
    have named := consistent.recorded before _ after same id writes
    obtain ⟨name, gives, equal⟩ := Option.map_eq_some_iff.mp named
    exact ⟨name, trail_own gives, equal⟩
  | unlocked | missing | submitFailed | claimed | recorded => exact writes
  | created | reset | closed | met | metLocal | posted => exact writes

/-- Whatever reaches a closed exit state overwrites it. -/
theorem Consistent.not_closedLeftAlone {before : List ExitEvent} {event : ExitEvent} {id : Nat}
    (last : store.log = before ++ [event]) (closed : ClosedSince before id) (writes : event.Writes id) :
    ¬ ClosedLeftAlone store := by
  intro alone
  have still : ClosedSince store.log id := by
    obtain ⟨early, late, rfl, unreset, uncreated⟩ := closed
    refine ⟨early, late ++ [event], by simp [last], ?_, ?_⟩
    all_goals
      rw [List.mem_append, List.mem_singleton]
      rintro (old | rfl)
    · exact unreset old
    · exact writes
    · exact uncreated old
    · exact writes
  obtain ⟨row, found, status, attention⟩ := alone id still
  obtain ⟨member, rfl⟩ := exitState_mem found
  have shown := consistent.shown row member
  rw [last, viewOf_concat] at shown
  exact writes.not_closed _ ⟨shown.status.symm.trans status, shown.attention.symm.trans attention⟩

theorem Consistent.closedLeftAlone (none : NoneLate toISOString store.log) : ClosedLeftAlone store := by
  intro id closed
  obtain ⟨status, attention⟩ := view_of_closedSince (consistent.untouched none) closed
  have told : viewOf store.log id ≠ .initial := fun initial => by
    rw [initial] at status
    cases status
  obtain ⟨row, found, shown⟩ := consistent.exists_exitState told
  exact ⟨row, found, shown.status.trans status, shown.attention.trans attention⟩

theorem Consistent.syncsItsOwn (fit : NamesFit toISOString store.log) : SyncsItsOwn toISOString store := by
  intro tradingAccountId clientOrderId brokerOrderId orderStatus now count after ran
  cases ran
  have named : ∀ id ∈ trailPositions tradingAccountId clientOrderId store, ∃ name : TrailName,
      name.trackedPositionId = id ∧ name.Fits toISOString ∧ buildTrailingStopClientOrderId toISOString name = clientOrderId := by
    intro id member
    obtain ⟨row, present, rfl, client⟩ := mem_trailPositions member
    have trail := (consistent.shown row present).trail.symm.trans client
    obtain ⟨name, gives, same⟩ := Option.map_eq_some_iff.mp trail
    obtain ⟨event, recorded, own⟩ := trail_recorded gives
    exact ⟨name, trail_own gives, fit event recorded name own, same⟩
  have unchanged : ∀ other, other ∉ trailPositions tradingAccountId clientOrderId store →
      ((store.updateExitStates fun row =>
        if row.trackedPositionId ∈ trailPositions tradingAccountId clientOrderId store then
          buildTrailingStopOrderStatusAttentionData orderStatus now { row with
            status := mapTrailingStopOrderStatusToExitStateStatus orderStatus
            trailOrderStatus := some (normalizeBrokerOrderStatus orderStatus)
            trailBrokerOrderId := some brokerOrderId }
        else row).record (.synced clientOrderId orderStatus (trailPositions tradingAccountId clientOrderId store))).exitState
          other = store.exitState other := by
    intro other outside
    refine (exitState_updateExitStates (fun row => ?_) other).trans ?_
    · split_ifs
      · exact attentionData_trackedPositionId _ _ _
      · rfl
    · cases found : store.exitState other with
      | none => rfl
      | some row =>
        obtain ⟨_, rfl⟩ := exitState_mem found
        rw [Option.map_some, if_neg outside]
  by_cases none : trailPositions tradingAccountId clientOrderId store = []
  · by_cases known : ∃ name : TrailName, name.Fits toISOString ∧
        buildTrailingStopClientOrderId toISOString name = clientOrderId
    · obtain ⟨name, fits, same⟩ := known
      exact ⟨name.trackedPositionId, fun other _ => unchanged other (by simp [none]),
        fun other bounded equal => position_of_name fits bounded (same.trans equal.symm)⟩
    · exact ⟨0, fun other _ => unchanged other (by simp [none]), fun name fits same => absurd ⟨name, fits, same⟩ known⟩
  · obtain ⟨id, member⟩ := List.exists_mem_of_ne_nil _ none
    obtain ⟨name, rfl, fits, same⟩ := named id member
    refine ⟨name.trackedPositionId, fun other different => unchanged other fun inside => ?_,
      fun other bounded equal => position_of_name fits bounded (same.trans equal.symm)⟩
    obtain ⟨second, rfl, bounded, equal⟩ := named other inside
    exact different (position_of_name bounded fits (equal.trans same.symm))

end

variable (toISOString) in
/-- A lost protection is visible. A closed exit state is left alone as long as no operation on its trailing order follows,
and the first one overwrites it. An order is synchronized with its own position as far as no name is cut. -/
theorem lossVisible_of_run (states : store.exitStates = []) (log : store.log = [])
    (run : ExitRun toISOString (Crew.idle store) crew) :
    LossVisible crew.store ∧ (NoneLate toISOString crew.store.log → ClosedLeftAlone crew.store) ∧
      (∀ before event id, crew.store.log = before ++ [event] → ClosedSince before id → event.Writes id →
        ¬ ClosedLeftAlone crew.store) ∧
      (NamesFit toISOString crew.store.log → SyncsItsOwn toISOString crew.store) := by
  obtain ⟨consistent, _⟩ := consistent_of_run toISOString states log run
  exact ⟨consistent.lossVisible, consistent.closedLeftAlone, fun _ _ _ => consistent.not_closedLeftAlone,
    consistent.syncsItsOwn⟩

end Laws

section Samples

/-- The store of some run of an empty log. -/
def Reaches (start store : ExitStore) : Prop :=
  ∃ crew, ExitRun (fun _ => "") (Crew.idle start) crew ∧ crew.store = store

variable {start store after : ExitStore}

theorem Reaches.refl : Reaches start start := ⟨Crew.idle start, .refl, rfl⟩

/-- A job that runs alone. -/
theorem Reaches.call {program rest : ExitProgram ExitAnswer} (reaches : Reaches start store)
    (job : ExitJob (fun _ => "") program) (run : Interleaving ExitFault (fun _ _ => False) (program, store) (rest, after)) :
    Reaches start after := by
  obtain ⟨crew, before, rfl⟩ := reaches
  exact ⟨_, before.trans (Crew.run_of_call job run), rfl⟩

theorem Reaches.evolve (reaches : Reaches start store) (evolves : Evolves store after) : Reaches start after := by
  obtain ⟨crew, before, rfl⟩ := reaches
  exact ⟨_, before.tail (.world evolves), rfl⟩

def trailingProfile : ExitProfile := ⟨"trail", "unlock_trailing_stop", "", some 5, none, some 5⟩

/-- A position that has reached its target. -/
def trailedPosition : TrackedPosition :=
  { samplePosition with
    unrealizedPnLPct := some 1
    exitProfile := some trailingProfile
    tradingAccountSubscription := some ⟨1, 1, 1, true, true, some trailingProfile⟩ }

def trailedStore : ExitStore := ⟨[trailedPosition], [], [], [], sampleBroker, []⟩

def trailedRequest : TrailingRequest := { sampleRequest with position := trailedPosition }

/-- The exit state once its target is unlocked. -/
def unlockedState : PositionExitState :=
  { initialExitState 1 (some trailingProfile) with
    id := 1
    status := .targetUnlocked
    targetUnlocked := true
    targetUnlockedAt := some 0
    targetUnlockedPrice := some 100
    targetUnlockedPnlPct := some 1
    highWaterMark := some 100
    trailStopPrice := some (calculateTrailStopPrice 100 5)
    targetPct := some 5
    trailingStopPct := some 5 }

def unlockedStore : ExitStore :=
  { trailedStore with
    exitStates := [unlockedState]
    log := [.created 1, .unlocked 1] }

/-- A run of one program that nobody else writes beside. -/
abbrev Solo {α : Type} (start finish : ExitProgram α × ExitStore) : Prop := Interleaving ExitFault (fun _ _ => False) start finish

theorem prepareTrailing_sample : Solo (prepareTrailing trailedPosition none trailingProfile, trailedStore)
    (.done (.ok (some (unlockedState, true))), unlockedStore) := by
  have ensured : Solo (ensurePositionExitState 1, trailedStore)
      (.done (.ok { initialExitState 1 (some trailingProfile) with id := 1 }),
        { trailedStore with
          exitStates := [{ initialExitState 1 (some trailingProfile) with id := 1 }]
          log := [.created 1] }) :=
    read (.head (.own (.commit rfl)) (.single (.own (.commit rfl))))
  apply andThen ensured
  have reached : decide ((5 : ℚ) / 100 ≤ 1) = true := by norm_num
  change Interleaving _ _ ((if !false && decide ((5 : ℚ) / 100 ≤ 1) then (do
    let unlocked ← unlockTrailingStopExitState ⟨1, 100, 1, 5, 5⟩
    return some (unlocked, true) : ExitProgram (Option (PositionExitState × Bool)))
    else return some ({ initialExitState 1 (some trailingProfile) with id := 1 }, false)), _) _
  rw [reached]
  exact .head (.own (.ask (0 : Int))) (.single (.own (.commit rfl)))

def trailName : TrailName := sampleRequest.name

def brokerStop (status : OrderStatus) : AlpacaOrder :=
  ⟨"stop", sampleClientOrderId, "AAA", "sell", "trailing_stop", status, some "1", none, none, none, none, none⟩

/-- The exit state once its stop is at the broker. -/
def trailedState (status : OrderStatus) : PositionExitState :=
  { buildAttentionClearedData 0 unlockedState with
    status := .trailingStopSubmitted
    trailBroker := some "alpaca"
    trailBrokerOrderId := some "stop"
    trailClientOrderId := some sampleClientOrderId
    trailOrderStatus := some status }

def stoppedStore : ExitStore where
  positions := [trailedPosition]
  exitStates := [trailedState .new]
  intents := [{ trailingIntent trailedPosition 1 sampleClientOrderId "sell" .submitted 0 1 with blockReason := none }]
  brokerOrders := [⟨1, 1, 1, "stop", sampleClientOrderId, some 1, "AAA", "sell", .new⟩]
  broker := Function.update sampleBroker 1 ⟨[brokerStop .new], [⟨"AAA", "long", "1", some "1"⟩]⟩
  log := [.created 1, .unlocked 1, .claimed trailName, .posted sampleClientOrderId,
    .met .trailingStop sampleClientOrderId "stop" .new, .recorded trailName .new]

theorem ready_unlockedStore : Ready (fun _ => "") trailedRequest 0 unlockedStore where
  position := rfl
  manageable := rfl
  exitState := ⟨unlockedState, rfl, rfl, fun _ => ⟨rfl, rfl⟩⟩
  backoff := fun _ impossible => by cases impossible
  verifies := ⟨⟨1, 0, "1"⟩, fun intentId => verifies_sample _ intentId rfl rfl⟩

/-- The store once the stop is claimed. -/
def awaitingStore : ExitStore :=
  { unlockedStore with
    exitStates := [{ unlockedState with
      status := .trailingStopSubmitting
      trailBroker := some "alpaca"
      trailClientOrderId := some sampleClientOrderId
      trailOrderStatus := some (.unlisted "pending_submit") }]
    intents := [trailingIntent trailedPosition 1 sampleClientOrderId "sell" .submitting 0 1]
    log := [.created 1, .unlocked 1, .claimed trailName] }

/-- The store once the broker has accepted the stop. -/
def sentStore : ExitStore :=
  acceptedStore (trailedRequest.context sampleClientOrderId 1) (brokerStop .new) awaitingStore

theorem submitTrailingStop_sample : Solo (submitTrailingStopExitOrder (fun _ => "") 1 1 0, unlockedStore)
    (.done (.ok ⟨true, none, some "stop", some sampleClientOrderId⟩), stoppedStore) := by
  have claimed : claimTrailingStop (fun _ => "") trailedRequest 0 unlockedStore =
      .ok (⟨trailingIntent trailedPosition 1 sampleClientOrderId "sell" .submitting 0 1, true⟩, awaitingStore) := rfl
  have filed : (sampleRequest.context sampleClientOrderId 1).filed "1" (brokerStop .new) = brokerStop .new := by
    have upper : toUpperCase "AAA" = "AAA" := by decide
    rfl
  have sent : Solo (submitVerifiedExit (trailedRequest.context sampleClientOrderId 1), awaitingStore)
      (.done (.ok (.submitted (brokerStop .new))), sentStore) := by
    have accepts : Solo
        (placeVerifiedExit (sampleRequest.context sampleClientOrderId 1) "1", awaitingStore) _ :=
      placeVerifiedExit_accepts "1" (brokerStop .new)
    rw [filed] at accepts
    exact (verifies_sample awaitingStore 1 rfl rfl).reaches.trans accepts
  have persisted : Solo (persistTrailingStopOrder (fun _ => "") 1 trailName (brokerStop .new), sentStore)
      (.done (.ok ()), stoppedStore) := by
    refine .read (.answer (0 : Int) (.read ?_))
    refine .head (.own (.commit rfl)) (.head (.own (.commit rfl)) (.head (.own (.ask (0 : Int))) (.single (.own (.commit rfl)))))
  apply andThen (ready_unlockedStore.prepares (fun _ impossible => by cases impossible) claimed)
  apply andThen sent.attempt
  apply andThen persisted.attempt
  exact andThen elsewhere_run .refl

theorem counting_run {program : ExitProgram ExitEvaluationCounts} {counted : ExitEvaluationCounts}
    (counts : ExitEvaluationCounts)
    (run : Solo (program, store) (.done (.ok counted), after)) :
    Solo (counting counts program, store) (.done (.ok (counted, .ok ())), after) :=
  .andThen run.attempt .refl

/-- An evaluation unlocks the target and submits the stop. -/
theorem evaluateExits_sample : Solo (evaluateExitsForAccount (fun _ => "") 1, trailedStore)
    (.done (.ok ⟨⟨0, 1, 0, 0, 1, 1, 0⟩, []⟩), stoppedStore) := by
  have protective : Solo (syncProtectiveOrdersForAccount 1, trailedStore)
      (.done (.ok ⟨0, 0, 0, 0, 0, 0, []⟩), trailedStore) := .read .refl
  have submitted : Solo (submitProtection (fun _ => "") 1 1 0, unlockedStore)
      (.done (.ok ()), stoppedStore) := .andThen submitTrailingStop_sample.attempt .refl
  have evaluated : Solo (evaluatePosition (fun _ => "") 1 trailedPosition none ⟨0, 1, 0, 0, 0, 0, 0⟩, trailedStore)
      (.done (.ok (⟨0, 1, 0, 0, 1, 1, 0⟩, .ok ())), stoppedStore) := by
    refine .andThen prepareTrailing_sample.attempt (counting_run _ ?_)
    exact .andThen elsewhere_run (.answer (0 : Int) (.andThen submitted .refl))
  exact .read (.andThen protective (.answer (.ok true) (.andThen evaluated .refl)))

/-- The account no longer holds the position, and the stop is canceled. -/
def canceledBroker : Nat → BrokerAccount := Function.update sampleBroker 1 ⟨[brokerStop .canceled], []⟩

/-- The exit state once it is marked closed. -/
def closedState : PositionExitState := buildAttentionClearedData 0 { trailedState .new with status := .closed }

/-- The store once the position is closed. -/
def shutStore : ExitStore :=
  { stoppedStore with
    positions := [{ trailedPosition with status := .closed }]
    broker := canceledBroker }

def closedStore : ExitStore :=
  { shutStore with
    exitStates := [closedState]
    log := stoppedStore.log ++ [.closed 1] }

theorem syncTrackedPositions_sample : Solo (syncTrackedPositionsForAccount 1, { stoppedStore with broker := canceledBroker })
    (.done (.ok (some ⟨0, 0, 1, []⟩)), closedStore) := by
  have shut : Solo (commit (closeTracked 1), { stoppedStore with broker := canceledBroker }) (.done (.ok true), shutStore) :=
    .single (.own (.commit rfl))
  have marked : Solo (markPositionExitStateClosed 1, shutStore)
      (.done (.ok closedState), closedStore) := .answer (0 : Int) (.single (.own (.commit rfl)))
  have closes : Solo (closeMissing [] [trailedPosition] ⟨0, 0, 0, []⟩, { stoppedStore with broker := canceledBroker })
      (.done (.ok ⟨0, 0, 1, []⟩), closedStore) := by
    apply andThen shut
    exact andThen elsewhere_run (.andThen marked (.andThen elsewhere_run .refl))
  exact .answer true (.andThen (brokerRead_run _) (.andThen .refl (.read (.andThen closes .refl))))

/-- The exit state once the cancellation is recorded. -/
def overwrittenState : PositionExitState :=
  buildTrailingStopOrderStatusAttentionData .canceled 0 { closedState with
    status := .trailingStopCanceled
    trailOrderStatus := some .canceled }

def overwrittenStore : ExitStore :=
  { closedStore with
    exitStates := [overwrittenState]
    brokerOrders := [⟨1, 1, 1, "stop", sampleClientOrderId, some 1, "AAA", "sell", .canceled⟩]
    log := closedStore.log ++ [.synced sampleClientOrderId .canceled [1]] }

/-- The synchronization of the stop overwrites the closed exit state. -/
theorem syncProtectiveOrders_sample : Solo (syncProtectiveOrdersForAccount 1, closedStore)
    (.done (.ok ⟨1, 1, 0, 1, 0, 0, []⟩), overwrittenStore) := by
  have synced : Solo (syncProtectiveOrder 1 closedState "stop", closedStore)
      (.done (.ok (.found (brokerStop .canceled) (.ok ()))), overwrittenStore) := by
    refine .andThen (brokerRead_run _) ?_
    exact .head (.own (.ask (0 : Int))) (.head (.own (.commit rfl)) (.single (.own (.commit rfl))))
  exact .read (.andThen synced.attempt .refl)

/-- The broker cancels the stop and no longer holds the position, which the next sync closes. -/
theorem reaches_closedStore : Reaches trailedStore closedStore := by
  have stopped : Reaches trailedStore stoppedStore :=
    Reaches.refl.call (.evaluateExits 1) (.andThen evaluateExits_sample .refl)
  have canceled : Reaches trailedStore { stoppedStore with broker := canceledBroker } :=
    stopped.evolve ⟨rfl, rfl, fun _ closed => closed⟩
  exact canceled.call (.syncTrackedPositions 1) (.andThen syncTrackedPositions_sample .refl)

/-- An exit state that is marked closed is overwritten by the synchronization of its trailing order. -/
theorem closed_overwritten : ∃ crew, ExitRun (fun _ => "") (Crew.idle trailedStore) crew ∧
    ClosedSince crew.store.log 1 ∧ ∃ row, crew.store.exitState 1 = some row ∧ row.status ≠ .closed ∧
      row.attentionRequired = true := by
  obtain ⟨crew, run, same⟩ :=
    reaches_closedStore.call (.syncProtectiveOrders 1) (.andThen syncProtectiveOrders_sample .refl)
  refine ⟨crew, run, ?_⟩
  rw [same]
  exact ⟨⟨stoppedStore.log, [.synced sampleClientOrderId .canceled [1]], rfl, by simp, by simp⟩, overwrittenState, rfl,
    by decide, rfl⟩

theorem noneLate_closedStore : NoneLate (fun _ => "") closedStore.log := by
  refine throughout_concat.mpr ⟨fun before event late same id closed _ => ?_, fun _ _ trails => trails.elim⟩
  obtain ⟨early, middle, rfl, _⟩ := closed
  have member : ExitEvent.closed id ∈ stoppedStore.log := by simp [same]
  simp [stoppedStore] at member

theorem namesFit_closedStore : NamesFit (fun _ => "") closedStore.log := by
  have fits : trailName.Fits (fun _ => "") := by
    unfold TrailName.Fits
    decide
  intro event member name gives
  have named : name = trailName := by
    simp only [closedStore, stoppedStore, List.cons_append, List.nil_append, List.mem_cons, List.not_mem_nil, or_false]
      at member
    rcases member with rfl | rfl | rfl | rfl | rfl | rfl | rfl <;> cases gives <;> rfl
  rw [named]
  exact fits

/-- A run that closes the position and synchronizes its stop no more. -/
theorem lossVisible_sample :
    LossVisible closedStore ∧ ClosedLeftAlone closedStore ∧ SyncsItsOwn (fun _ => "") closedStore := by
  obtain ⟨crew, run, same⟩ := reaches_closedStore
  obtain ⟨visible, closed, _, own⟩ := lossVisible_of_run (fun _ => "") rfl rfl run
  rw [same] at visible closed own
  exact ⟨visible, closed noneLate_closedStore, own namesFit_closedStore⟩

end Samples

end AiTrader.Exit
