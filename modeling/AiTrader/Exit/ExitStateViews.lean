import AiTrader.Exit.Synchronization
import AiTrader.Library.History
import AiTrader.Library.Returns

/-! # What the log tells of an exit state

Every statement that writes an exit state is in the log, so the log determines the status of every exit state, whether it
requires attention, and which trailing order it names. -/

namespace AiTrader.Exit

open Library Library.Program Entry

variable {event : ExitEvent}

section Views

variable {log late : List ExitEvent} {id : Nat}

structure ExitView where
  status : ExitStateStatus
  attentionRequired : Bool
  /-- The trailing order of which the exit state has the client order id. -/
  trail : Option TrailName

def ExitView.initial : ExitView := ⟨.watching, false, none⟩

/-- The exit state of a position after one more event. -/
def ExitEvent.view (id : Nat) (view : ExitView) : ExitEvent → ExitView
  | .created position | .reset position => if position = id then .initial else view
  | .unlocked position => if position = id then { view with status := .targetUnlocked } else view
  | .claimed name =>
    if name.trackedPositionId = id then { view with status := .trailingStopSubmitting, trail := some name } else view
  | .recorded name status =>
    if name.trackedPositionId = id then
      ⟨mapTrailingStopOrderStatusToExitStateStatus status, isLost status, some name⟩ else view
  | .synced _ status positions =>
    if id ∈ positions then
      { view with
        status := mapTrailingStopOrderStatusToExitStateStatus status
        attentionRequired := isLost status }
    else view
  | .missing position => if position = id then { view with attentionRequired := true } else view
  | .submitFailed position =>
    if position = id then { view with status := .trailingStopSubmitFailed, attentionRequired := true } else view
  | .closed position => if position = id then { view with status := .closed, attentionRequired := false } else view
  | .met .. | .metLocal .. | .posted _ => view

/-- The position of an event that writes one exit state. -/
def ExitEvent.position : ExitEvent → Option Nat
  | .created position | .reset position | .unlocked position | .missing position | .submitFailed position
  | .closed position => some position
  | .claimed name | .recorded name _ => some name.trackedPositionId
  | .synced .. | .met .. | .metLocal .. | .posted _ => none

/-- Such an event tells nothing of another exit state. -/
theorem ExitEvent.view_of_ne {position : Nat} (own : event.position = some position)
    (different : id ≠ position) (view : ExitView) : event.view id view = view := by
  cases event with
  | created | reset | unlocked | missing | submitFailed | closed | claimed | recorded =>
    cases own
    exact if_neg (Ne.symm different)
  | synced | met | metLocal | posted => cases own

def viewOf (log : List ExitEvent) (id : Nat) : ExitView := log.foldl (fun view event => event.view id view) .initial

theorem viewOf_concat (event : ExitEvent) : viewOf (log ++ [event]) id = event.view id (viewOf log id) := by
  simp only [viewOf, List.foldl_append, List.foldl_cons, List.foldl_nil]

/-- Whether the protection is lost: by the newest recorded status of its order, or confirmed missing and not seen since. -/
def ExitEvent.lost (id : Nat) (lost : Bool) : ExitEvent → Bool
  | .created position | .reset position => if position = id then false else lost
  | .recorded name status => if name.trackedPositionId = id then isLost status else lost
  | .synced _ status positions => if id ∈ positions then isLost status else lost
  | .missing position => if position = id then true else lost
  | .unlocked _ | .claimed _ | .submitFailed _ | .closed _ | .met .. | .metLocal .. | .posted _ => lost

def lostOf (log : List ExitEvent) (id : Nat) : Bool := log.foldl (fun lost event => event.lost id lost) false

theorem lostOf_concat (event : ExitEvent) : lostOf (log ++ [event]) id = event.lost id (lostOf log id) := by
  simp only [lostOf, List.foldl_append, List.foldl_cons, List.foldl_nil]

/-- Until its exit state is marked closed, a position without its protection requires attention. -/
theorem attentionRequired_of_lost (unclosed : .closed id ∉ log) (lost : lostOf log id = true) :
    (viewOf log id).attentionRequired = true := by
  induction log using List.reverseRecOn with
  | nil => cases lost
  | append_singleton log event ih =>
    have earlier : lostOf log id = true → (viewOf log id).attentionRequired = true :=
      ih fun member => unclosed (List.mem_append_left _ member)
    rw [lostOf_concat] at lost
    rw [viewOf_concat]
    cases event with
    | created | reset =>
      simp only [ExitEvent.lost, ExitEvent.view] at lost ⊢
      split_ifs at lost ⊢
      exact earlier lost
    | unlocked | claimed =>
      simp only [ExitEvent.lost, ExitEvent.view] at lost ⊢
      split_ifs <;> exact earlier lost
    | recorded | synced =>
      simp only [ExitEvent.lost, ExitEvent.view] at lost ⊢
      split_ifs at lost ⊢
      · exact lost
      · exact earlier lost
    | missing | submitFailed =>
      simp only [ExitEvent.lost, ExitEvent.view] at lost ⊢
      split_ifs at lost ⊢ <;> first | rfl | exact earlier lost
    | closed position =>
      have other : position ≠ id := fun same => unclosed (by simp [same])
      simpa only [ExitEvent.view, if_neg other] using earlier lost
    | met | metLocal | posted => exact earlier lost

/-- The order that an exit state names is an order of its position. -/
theorem trail_own {name : TrailName} (named : (viewOf log id).trail = some name) : name.trackedPositionId = id := by
  induction log using List.reverseRecOn with
  | nil => cases named
  | append_singleton log event ih =>
    rw [viewOf_concat] at named
    cases event with
    | created | reset =>
      simp only [ExitEvent.view] at named
      split_ifs at named
      · cases named
      · exact ih named
    | claimed | recorded =>
      simp only [ExitEvent.view] at named
      split_ifs at named with own
      · cases named
        exact own
      · exact ih named
    | unlocked | synced | missing | submitFailed | closed =>
      simp only [ExitEvent.view] at named
      split_ifs at named <;> exact ih named
    | met | metLocal | posted => exact ih named

/-- The exit state has been marked closed, and its position has not been opened since. -/
def ClosedSince (log : List ExitEvent) (id : Nat) : Prop :=
  ∃ early late, log = early ++ .closed id :: late ∧ .reset id ∉ late ∧ .created id ∉ late

/-- The event writes the exit state of a position, and neither opens nor closes it. -/
def ExitEvent.Writes (id : Nat) : ExitEvent → Prop
  | .unlocked position | .missing position | .submitFailed position => position = id
  | .claimed name | .recorded name _ => name.trackedPositionId = id
  | .synced _ _ positions => id ∈ positions
  | .created _ | .reset _ | .closed _ | .met .. | .metLocal .. | .posted _ => False

/-- Such an event leaves no exit state closed without attention, whatever status the broker reports. -/
theorem ExitEvent.Writes.not_closed (writes : event.Writes id) (view : ExitView) :
    ¬ ((event.view id view).status = .closed ∧ (event.view id view).attentionRequired = false) := by
  have mapped : ∀ status, mapTrailingStopOrderStatusToExitStateStatus status ≠ .closed := by
    intro status
    unfold mapTrailingStopOrderStatusToExitStateStatus
    split <;> decide
  rintro ⟨closed, quiet⟩
  cases event with
  | recorded name status | synced clientOrderId status positions =>
    simp only [ExitEvent.Writes] at writes
    simp only [ExitEvent.view, if_pos writes] at closed
    exact mapped status closed
  | unlocked | claimed =>
    simp only [ExitEvent.Writes] at writes
    simp only [ExitEvent.view, if_pos writes, reduceCtorEq] at closed
  | missing | submitFailed =>
    simp only [ExitEvent.Writes] at writes
    simp only [ExitEvent.view, if_pos writes, reduceCtorEq] at quiet
  | created | reset | closed | met | metLocal | posted => exact writes

/-- Without such events, a closed exit state stays closed and requires no attention. -/
theorem view_of_closedSince (untouched : Throughout (fun before event => ∀ id, event.Writes id → ¬ ClosedSince before id) log)
    (closed : ClosedSince log id) :
    (viewOf log id).status = .closed ∧ (viewOf log id).attentionRequired = false := by
  obtain ⟨early, late, rfl, unreset, uncreated⟩ := closed
  induction late using List.reverseRecOn with
  | nil =>
    rw [viewOf_concat]
    simp only [ExitEvent.view, if_true, and_self]
  | append_singleton late event ih =>
    have before : ClosedSince (early ++ .closed id :: late) id := ⟨early, late, rfl,
      fun member => unreset (List.mem_append_left _ member), fun member => uncreated (List.mem_append_left _ member)⟩
    rw [← List.cons_append, ← List.append_assoc] at untouched ⊢
    obtain ⟨earlier, last⟩ := throughout_concat.mp untouched
    have kept := ih earlier (fun member => unreset (List.mem_append_left _ member))
      fun member => uncreated (List.mem_append_left _ member)
    have silent : ¬ event.Writes id := fun writes => last id writes before
    rw [viewOf_concat]
    cases event with
    | created position =>
      have other : position ≠ id := fun same => uncreated (by simp [same])
      simpa only [ExitEvent.view, if_neg other] using kept
    | reset position =>
      have other : position ≠ id := fun same => unreset (by simp [same])
      simpa only [ExitEvent.view, if_neg other] using kept
    | closed position =>
      simp only [ExitEvent.view]
      split_ifs
      · exact ⟨rfl, rfl⟩
      · exact kept
    | unlocked | claimed | recorded | synced | missing | submitFailed =>
      simp only [ExitEvent.Writes] at silent
      simpa only [ExitEvent.view, if_neg silent] using kept
    | met | metLocal | posted => exact kept

end Views

variable {log : List ExitEvent}

section Invariant

variable (toISOString : Int → String) {store after : ExitStore} {id : Nat}

structure Shown (view : ExitView) (row : PositionExitState) : Prop where
  status : row.status = view.status
  attention : row.attentionRequired = view.attentionRequired
  trail : row.trailClientOrderId = view.trail.map (buildTrailingStopClientOrderId toISOString)

/-- The position is there, and is closed. -/
def Closed (store : ExitStore) (id : Nat) : Prop :=
  (∃ row ∈ store.positions, row.id = id) ∧ ∀ row ∈ store.positions, row.id = id → row.status = .closed

/-- The order that was synchronized is the one that each of the exit states names. -/
def Recorded (before : List ExitEvent) : ExitEvent → Prop
  | .synced clientOrderId _ positions => ∀ id ∈ positions,
      (viewOf before id).trail.map (buildTrailingStopClientOrderId toISOString) = some clientOrderId
  | _ => True

/-- The exit states are as the log tells, and a position whose exit state was marked closed is closed. -/
structure Consistent (store : ExitStore) : Prop where
  shown : ∀ row ∈ store.exitStates, Shown toISOString (viewOf store.log row.trackedPositionId) row
  absent : ∀ id, store.exitState id = none → viewOf store.log id = .initial
  ids : (store.exitStates.map (·.trackedPositionId)).Nodup
  closed : ∀ id, .closed id ∈ store.log → Closed store id
  recorded : Throughout (Recorded toISOString) store.log

/-- The log grows, and a closed position stays closed. -/
def Grown (store after : ExitStore) : Prop := store.log <+: after.log ∧ ∀ id, Closed store id → Closed after id

theorem Grown.refl (store : ExitStore) : Grown store store := ⟨List.prefix_rfl, fun _ closed => closed⟩

theorem Grown.trans {third : ExitStore} (early : Grown store after) (late : Grown after third) : Grown store third :=
  ⟨early.1.trans late.1, fun id closed => late.2 id (early.2 id closed)⟩

variable {toISOString}

/-- No exit states, and nothing in the log. -/
theorem consistent_initial (states : store.exitStates = []) (log : store.log = []) : Consistent toISOString store where
  shown := fun row member => by
    rw [states] at member
    cases member
  absent := fun _ _ => by
    rw [log]
    rfl
  ids := by
    rw [states]
    exact List.nodup_nil
  closed := fun _ member => by
    rw [log] at member
    cases member
  recorded := by
    rw [log]
    exact throughout_nil

/-- The events that tell nothing of any exit state. -/
def ExitEvent.Silent : ExitEvent → Prop
  | .met .. | .metLocal .. | .posted _ => True
  | _ => False

theorem ExitEvent.Silent.view (silent : event.Silent) (view : ExitView) : event.view id view = view := by
  cases event <;> first | rfl | exact silent.elim

variable {events : List ExitEvent}

theorem viewOf_silent (silent : ∀ event ∈ events, event.Silent) : viewOf (log ++ events) id = viewOf log id := by
  induction events using List.reverseRecOn with
  | nil => rw [List.append_nil]
  | append_singleton events event ih =>
    rw [← List.append_assoc, viewOf_concat, (silent event (by simp)).view]
    exact ih fun other member => silent other (List.mem_append_left _ member)

theorem recorded_silent (recorded : Throughout (Recorded toISOString) log)
    (silent : ∀ event ∈ events, event.Silent) : Throughout (Recorded toISOString) (log ++ events) := by
  induction events using List.reverseRecOn with
  | nil => rwa [List.append_nil]
  | append_singleton events event ih =>
    rw [← List.append_assoc]
    refine throughout_concat.mpr ⟨ih fun other member => silent other (List.mem_append_left _ member), ?_⟩
    have here := silent event (by simp)
    cases event <;> trivial

/-- A statement that writes no exit state. -/
structure Neutral (store after : ExitStore) : Prop where
  states : after.exitStates = store.exitStates
  log : ∃ events, after.log = store.log ++ events ∧ ∀ event ∈ events, event.Silent
  closed : ∀ id, Closed store id → Closed after id

theorem Neutral.grown (neutral : Neutral store after) : Grown store after := by
  obtain ⟨events, log, _⟩ := neutral.log
  exact ⟨⟨events, log.symm⟩, neutral.closed⟩

theorem Consistent.neutral (consistent : Consistent toISOString store) (neutral : Neutral store after) :
    Consistent toISOString after := by
  obtain ⟨events, log, silent⟩ := neutral.log
  constructor
  · intro row member
    rw [neutral.states] at member
    rw [log, viewOf_silent silent]
    exact consistent.shown row member
  · intro id none
    rw [log, viewOf_silent silent]
    refine consistent.absent id ?_
    rw [ExitStore.exitState, ← neutral.states]
    exact none
  · rw [neutral.states]
    exact consistent.ids
  · intro id member
    rw [log] at member
    rcases List.mem_append.mp member with old | new
    · exact neutral.closed id (consistent.closed id old)
    · exact (silent _ new).elim
  · rw [log]
    exact recorded_silent consistent.recorded silent

theorem neutral_of_positions (states : after.exitStates = store.exitStates) (positions : after.positions = store.positions)
    (log : after.log = store.log) : Neutral store after := by
  refine ⟨states, ⟨[], by rw [log, List.append_nil], by simp⟩, fun id closed => ?_⟩
  rw [Closed, positions]
  exact closed

theorem neutral_record (silent : event.Silent) : Neutral store (store.record event) :=
  ⟨rfl, ⟨[event], rfl, by simpa using silent⟩, fun _ closed => closed⟩

theorem Neutral.trans {third : ExitStore} (early : Neutral store after) (late : Neutral after third) :
    Neutral store third := by
  obtain ⟨events, log, silent⟩ := early.log
  obtain ⟨others, longer, quiet⟩ := late.log
  refine ⟨late.states.trans early.states, ⟨events ++ others, ?_, fun event member => ?_⟩,
    fun id closed => late.closed id (early.closed id closed)⟩
  · rw [longer, log, List.append_assoc]
  · exact (List.mem_append.mp member).elim (silent event) (quiet event)

/-- Positions may change in anything but their ids, and closed ones stay closed. -/
theorem neutral_updatePositions {change : TrackedPosition → TrackedPosition} (ids : ∀ row, (change row).id = row.id)
    (closed : ∀ id, Closed store id → ∀ row ∈ store.positions, row.id = id → (change row).status = .closed) :
    Neutral store (store.updatePositions change) := by
  refine ⟨rfl, ⟨[], (List.append_nil _).symm, by simp⟩, fun id before => ⟨?_, fun row member same => ?_⟩⟩
  · obtain ⟨row, member, same⟩ := before.1
    exact ⟨change row, List.mem_map_of_mem member, (ids row).trans same⟩
  · obtain ⟨old, kept, rfl⟩ := List.mem_map.mp member
    exact closed id before old kept ((ids old).symm.trans same)

end Invariant

section Statements

variable (toISOString : Int → String) {store after : ExitStore} {id : Nat} {change : PositionExitState → PositionExitState}
  {row result : PositionExitState}

theorem exitState_mem (found : store.exitState id = some row) : row ∈ store.exitStates ∧ row.trackedPositionId = id :=
  ⟨List.mem_of_find?_eq_some found, by simpa using List.find?_some found⟩

theorem exitState_eq_none : store.exitState id = none ↔ ∀ row ∈ store.exitStates, row.trackedPositionId ≠ id := by
  simp [ExitStore.exitState]

/-- The event tells how one exit state is written. -/
structure Writes (event : ExitEvent) (id : Nat) (change : PositionExitState → PositionExitState) : Prop where
  own : event.position = some id
  same : ∀ row, row.trackedPositionId = id → (change row).trackedPositionId = row.trackedPositionId
  written : ∀ view row, row.trackedPositionId = id → Shown toISOString view row →
    Shown toISOString (event.view id view) (change row)

variable {toISOString}

theorem recorded_of_position (own : event.position = some id) : Recorded toISOString log event := by
  cases event with
  | synced => cases own
  | _ => trivial

variable (consistent : Consistent toISOString store)
include consistent

/-- Mark the exit states as an event tells. -/
theorem Consistent.update (same : ∀ row, (change row).trackedPositionId = row.trackedPositionId)
    (shown : ∀ row ∈ store.exitStates,
      Shown toISOString (event.view row.trackedPositionId (viewOf store.log row.trackedPositionId)) (change row))
    (frame : ∀ other, store.exitState other = none → event.view other .initial = .initial)
    (recorded : Recorded toISOString store.log event) (closed : ∀ position, event = .closed position → Closed store position) :
    Consistent toISOString ((store.updateExitStates change).record event) ∧
      Grown store ((store.updateExitStates change).record event) := by
  refine ⟨⟨?_, ?_, ?_, ?_, throughout_concat.mpr ⟨consistent.recorded, recorded⟩⟩, List.prefix_append _ _,
    fun _ closed => closed⟩
  · intro row member
    obtain ⟨old, kept, rfl⟩ := List.mem_map.mp member
    rw [ExitStore.record, viewOf_concat, same old]
    exact shown old kept
  · intro other none
    have missing : store.exitState other = .none := by
      rw [exitState_eq_none] at none ⊢
      intro row member
      rw [← same row]
      exact none (change row) (List.mem_map_of_mem member)
    rw [ExitStore.record, viewOf_concat]
    change event.view other (viewOf store.log other) = _
    rw [consistent.absent other missing]
    exact frame other missing
  · have ids : ((store.updateExitStates change).record event).exitStates.map (·.trackedPositionId) =
        store.exitStates.map (·.trackedPositionId) := by
      simp only [ExitStore.record, ExitStore.updateExitStates, List.map_map]
      exact List.map_congr_left fun row _ => same row
    exact ids ▸ consistent.ids
  · intro position member
    rcases List.mem_append.mp member with old | new
    · exact consistent.closed position old
    · exact closed position (List.mem_singleton.mp new).symm

theorem Consistent.updateExitState (writes : Writes toISOString event id change)
    (closed : ∀ position, event = .closed position → Closed store position)
    (ran : updateExitState id event change store = .ok (result, after)) :
    Consistent toISOString after ∧ Grown store after := by
  unfold Exit.updateExitState at ran
  split at ran
  case h_1 => cases ran
  case h_2 row found =>
    cases ran
    refine consistent.update (fun row => ?_) (fun other member => ?_) (fun other missing => ?_)
      (recorded_of_position writes.own) closed
    · split_ifs with own
      · exact writes.same row own
      · rfl
    · have before := consistent.shown other member
      split_ifs with own
      · subst own
        exact writes.written _ other rfl before
      · rw [ExitEvent.view_of_ne writes.own own]
        exact before
    · refine ExitEvent.view_of_ne writes.own (fun same => ?_) _
      rw [same, found] at missing
      cases missing

/-- A new exit state, of a position that had none. -/
theorem Consistent.createExitState (own : event.position = some row.trackedPositionId)
    (shown : Shown toISOString (event.view row.trackedPositionId .initial) row)
    (closed : ∀ position, event = .closed position → Closed store position)
    (ran : createExitState row event store = .ok (result, after)) :
    Consistent toISOString after ∧ Grown store after := by
  unfold Exit.createExitState at ran
  split at ran
  case h_1 => cases ran
  case h_2 none =>
    cases ran
    refine ⟨⟨?_, ?_, ?_, ?_, throughout_concat.mpr ⟨consistent.recorded, recorded_of_position own⟩⟩,
      List.prefix_append _ _, fun _ closed => closed⟩
    · intro other member
      rw [ExitStore.record, viewOf_concat]
      rcases List.mem_append.mp member with old | new
      · rw [ExitEvent.view_of_ne own (exitState_eq_none.mp none other old)]
        exact consistent.shown other old
      · obtain rfl := List.mem_singleton.mp new
        rw [consistent.absent _ none]
        exact ⟨shown.status, shown.attention, shown.trail⟩
    · intro other missing
      have absent := exitState_eq_none.mp missing
      have different : other ≠ row.trackedPositionId :=
        fun same => absent _ (List.mem_append_right _ (List.mem_singleton.mpr rfl)) same.symm
      rw [ExitStore.record, viewOf_concat, ExitEvent.view_of_ne own different]
      exact consistent.absent other (exitState_eq_none.mpr fun row member => absent row (List.mem_append_left _ member))
    · simpa [ExitStore.record, List.nodup_append] using ⟨consistent.ids, exitState_eq_none.mp none⟩
    · intro position member
      rcases List.mem_append.mp member with old | new
      · exact consistent.closed position old
      · exact closed position (List.mem_singleton.mp new).symm

end Statements

end AiTrader.Exit
