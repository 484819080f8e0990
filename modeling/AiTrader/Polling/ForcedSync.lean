import AiTrader.Polling.AdaptivePolling

/-! # Forced synchronizations

A force that arrives while a run is in progress outlives every outcome but a success. -/

namespace AiTrader.Polling

/-- The calls on the coordinator; `getDecision` is its part after the local activity and the market are known. -/
inductive PollingEvent where
  | forceSync (workers : List AdaptiveWorkerKey) (reason : AdaptivePollingForceReason) (tradingAccountId : Nat) (now : Int)
  | marketSession (tradingAccountId : Nat) (snapshot : NormalizedMarketSessionSnapshot) (now : Int)
  | marketSessionFailed (tradingAccountId : Nat) (error : String) (now : Int)
  | getDecision (tradingAccountId : Nat) (workerKey : AdaptiveWorkerKey)
      (localActivity : AdaptivePollingLocalActivitySnapshot) (market : MarketEvaluation) (now : Int)
  | recordAttempt (workerKey : AdaptiveWorkerKey) (tradingAccountId : Nat) (attemptedAt : Int)
  | recordSuccess (workerKey : AdaptiveWorkerKey) (tradingAccountId : Nat) (completedAt : Int) (nextIntervalMs : Option Int)
  | recordFailure (workerKey : AdaptiveWorkerKey) (tradingAccountId : Nat) (failedAt : Int)
  | recordRateLimitDeferred (workerKey : AdaptiveWorkerKey) (tradingAccountId : Nat) (backoffUntil : Option Int)
      (deferredAt : Int)

variable {workerKey : AdaptiveWorkerKey} {tradingAccountId : Nat} {event : PollingEvent}

namespace PollingEvent

section

variable (tradingAccountId : Nat)

/-- The call of `forceAfterBrokerOrderCancellation`. -/
def forceAfterBrokerOrderCancellation (reason : AdaptivePollingForceReason) (now : Int) :
    PollingEvent :=
  .forceSync [.submittedOrderSync] reason tradingAccountId now

/-- The event is a decision of this worker. -/
def Decides (workerKey : AdaptiveWorkerKey) : PollingEvent → Prop
  | getDecision account worker _ _ _ => account = tradingAccountId ∧ worker = workerKey
  | _ => False

/-- The event is a success of this worker. -/
def Succeeds (workerKey : AdaptiveWorkerKey) : PollingEvent → Prop
  | recordSuccess worker account _ _ => account = tradingAccountId ∧ worker = workerKey
  | _ => False

/-- The event is the outcome of a run of this worker. -/
def Completes (workerKey : AdaptiveWorkerKey) : PollingEvent → Prop
  | recordSuccess worker account _ _ => account = tradingAccountId ∧ worker = workerKey
  | recordFailure worker account _ => account = tradingAccountId ∧ worker = workerKey
  | recordRateLimitDeferred worker account _ _ => account = tradingAccountId ∧ worker = workerKey
  | _ => False

end

instance : Decidable (event.Decides tradingAccountId workerKey) := by
  cases event <;> unfold Decides <;> infer_instance

instance : Decidable (event.Completes tradingAccountId workerKey) := by
  cases event <;> unfold Completes <;> infer_instance

end PollingEvent

namespace AdaptivePollingCoordinator

section

variable (coordinator : AdaptivePollingCoordinator)

def step : PollingEvent → AdaptivePollingCoordinator
  | .forceSync workers reason tradingAccountId now => coordinator.forceSync workers reason tradingAccountId now
  | .marketSession tradingAccountId snapshot now => coordinator.marketSession tradingAccountId snapshot now
  | .marketSessionFailed tradingAccountId error now => coordinator.marketSessionFailed tradingAccountId error now
  | .getDecision tradingAccountId workerKey localActivity market now =>
    coordinator.updateState tradingAccountId workerKey fun state =>
      { state with lastDecision := some (state.decision workerKey localActivity market now) }
  | .recordAttempt workerKey tradingAccountId attemptedAt =>
    coordinator.updateState tradingAccountId workerKey (·.recordAttempt attemptedAt)
  | .recordSuccess workerKey tradingAccountId completedAt nextIntervalMs =>
    coordinator.updateState tradingAccountId workerKey (·.recordSuccess workerKey completedAt nextIntervalMs)
  | .recordFailure workerKey tradingAccountId failedAt =>
    coordinator.updateState tradingAccountId workerKey (·.recordFailure failedAt)
  | .recordRateLimitDeferred workerKey tradingAccountId backoffUntil deferredAt =>
    coordinator.updateState tradingAccountId workerKey (·.recordRateLimitDeferred backoffUntil deferredAt)

def run (events : List PollingEvent) : AdaptivePollingCoordinator :=
  events.foldl step coordinator

/-- The event forces this worker. -/
def Forces (tradingAccountId : Nat) (workerKey : AdaptiveWorkerKey) :
    PollingEvent → Prop
  | .forceSync workers _ account _ => account = tradingAccountId ∧ workerKey ∈ workers
  | .marketSession account snapshot _ =>
    account = tradingAccountId ∧ (sessionForce (coordinator.marketStates account) snapshot).isSome = true
  | _ => False

end

end AdaptivePollingCoordinator

open AdaptivePollingCoordinator

/-- A force is pending: it has a reason and a time at which it is due. -/
structure Pending (state : WorkerRuntimeState) : Prop where
  forced : state.forced = true
  reason : state.forceReason ≠ none
  due : state.nextDueAt ≠ none

/-- From some time on a decision with local activity is due, by a force. -/
def DueByForce (workerKey : AdaptiveWorkerKey) (state : WorkerRuntimeState) : Prop :=
  ∃ dueAt, ∀ localActivity market now, hasActivity workerKey localActivity = true → dueAt ≤ now →
    let decision := state.decision workerKey localActivity market now
    decision.due = true ∧ decision.forced = true ∧ decision.forceReason ≠ none ∧
      decision.reason = WorkerRuntimeState.forcedReason decision.forceReason

section Step

variable {coordinator : AdaptivePollingCoordinator} {events : List PollingEvent} {state : WorkerRuntimeState}

theorem pending_force (reason : AdaptivePollingForceReason) (now : Int) : Pending (state.force reason now) where
  forced := rfl
  reason := by
    simp only [WorkerRuntimeState.force]
    split_ifs with replaced
    · simp
    · exact fun absent => replaced (.inl absent)
  due := by simp [WorkerRuntimeState.force]

/-- An update of one worker keeps a pending force when it does so at that worker. -/
theorem pending_updateState {account : Nat} {worker : AdaptiveWorkerKey} {update : WorkerRuntimeState → WorkerRuntimeState}
    (pending : Pending (coordinator.states tradingAccountId workerKey))
    (keeps : account = tradingAccountId ∧ worker = workerKey →
      Pending (update (coordinator.states tradingAccountId workerKey))) :
    Pending ((coordinator.updateState account worker update).states tradingAccountId workerKey) := by
  rw [updateState_states]
  split_ifs with here
  · exact keeps ⟨here.1.symm, here.2.symm⟩
  · exact pending

theorem pending_forceSync {workers : List AdaptiveWorkerKey} {reason : AdaptivePollingForceReason} {account : Nat} {now : Int}
    (pending : Pending (coordinator.states tradingAccountId workerKey) ∨ tradingAccountId = account ∧ workerKey ∈ workers) :
    Pending ((coordinator.forceSync workers reason account now).states tradingAccountId workerKey) := by
  rw [forceSync_states]
  split_ifs with here
  · exact pending_force reason now
  · exact pending.resolve_right here

/-- What a market evaluation does to the workers. -/
theorem pending_marketSession {account : Nat} {snapshot : NormalizedMarketSessionSnapshot} {now : Int}
    (pending : Pending (coordinator.states tradingAccountId workerKey) ∨
      tradingAccountId = account ∧ (sessionForce (coordinator.marketStates account) snapshot).isSome = true) :
    Pending ((coordinator.marketSession account snapshot now).states tradingAccountId workerKey) := by
  unfold AdaptivePollingCoordinator.marketSession
  cases forced : sessionForce (coordinator.marketStates account) snapshot with
  | none =>
    rw [forced] at pending
    simp only [forced]
    exact pending.resolve_right fun given => Bool.noConfusion given.2
  | some reason =>
    simp only [forced]
    apply pending_forceSync
    refine pending.imp id fun given => ⟨given.1, ?_⟩
    cases workerKey <;> simp [bothWorkers]

theorem pending_step (pending : Pending (coordinator.states tradingAccountId workerKey))
    (unserved : ¬ event.Succeeds tradingAccountId workerKey) :
    Pending ((coordinator.step event).states tradingAccountId workerKey) := by
  cases event with
  | forceSync workers reason account now => exact pending_forceSync (.inl pending)
  | marketSession account snapshot now => exact pending_marketSession (.inl pending)
  | marketSessionFailed account error now => exact pending
  | getDecision account worker localActivity market now =>
    simp only [step]
    exact pending_updateState pending fun _ => ⟨pending.forced, pending.reason, pending.due⟩
  | recordAttempt worker account attemptedAt =>
    simp only [step]
    exact pending_updateState pending fun _ => ⟨pending.forced, pending.reason, pending.due⟩
  | recordSuccess worker account completedAt nextIntervalMs =>
    simp only [step]
    exact pending_updateState pending fun here => absurd here unserved
  | recordFailure worker account failedAt =>
    simp only [step]
    exact pending_updateState pending fun _ => ⟨pending.forced, pending.reason, Option.some_ne_none _⟩
  | recordRateLimitDeferred worker account backoffUntil deferredAt =>
    simp only [step]
    exact pending_updateState pending fun _ => ⟨pending.forced, pending.reason, Option.some_ne_none _⟩

theorem pending_of_forces (forces : coordinator.Forces tradingAccountId workerKey event) :
    Pending ((coordinator.step event).states tradingAccountId workerKey) := by
  cases event with
  | forceSync workers reason account now => exact pending_forceSync (.inr ⟨forces.1.symm, forces.2⟩)
  | marketSession account snapshot now => exact pending_marketSession (.inr ⟨forces.1.symm, forces.2⟩)
  | _ => exact forces.elim

theorem run_append (first later : List PollingEvent) :
    coordinator.run (first ++ later) = (coordinator.run first).run later :=
  List.foldl_append

theorem pending_run (pending : Pending (coordinator.states tradingAccountId workerKey))
    (unserved : ∀ event ∈ events, ¬ event.Succeeds tradingAccountId workerKey) :
    Pending ((coordinator.run events).states tradingAccountId workerKey) := by
  induction events generalizing coordinator with
  | nil => exact pending
  | cons event rest ih =>
    exact ih (pending_step pending (unserved event List.mem_cons_self))
      fun other member => unserved other (List.mem_cons_of_mem _ member)

theorem Pending.dueByForce (pending : Pending state) : DueByForce workerKey state := by
  obtain ⟨dueAt, due⟩ := Option.ne_none_iff_exists'.mp pending.due
  refine ⟨dueAt, fun localActivity market now active reached => ?_⟩
  have forced : state.dueReason workerKey market.state (hasActivity workerKey localActivity) now =
      (true, WorkerRuntimeState.forcedReason state.forceReason) := by
    simp [WorkerRuntimeState.dueReason, active, pending.forced, due, reached]
  simp only [WorkerRuntimeState.decision, forced]
  exact ⟨trivial, pending.forced, pending.reason, trivial⟩

/-- Activity that either worker has work for. -/
def someActivity : AdaptivePollingLocalActivitySnapshot := ⟨1, 0, 0, 0, 0, 0, 0, 0⟩

theorem not_dueByForce (unforced : state.forced = false) : ¬ DueByForce workerKey state := by
  rintro ⟨dueAt, due⟩
  have decided := (due someActivity ⟨.isOpen, none, false, none, 0⟩ dueAt (by cases workerKey <;> rfl) (Int.le_refl dueAt)).2.1
  simp [WorkerRuntimeState.decision, unforced] at decided

/-- After a success nothing is forced. -/
theorem unforced_of_succeeds (succeeds : event.Succeeds tradingAccountId workerKey) :
    ((coordinator.step event).states tradingAccountId workerKey).forced = false := by
  cases event with
  | recordSuccess worker account completedAt nextIntervalMs =>
    obtain ⟨rfl, rfl⟩ := succeeds
    simp [step, WorkerRuntimeState.recordSuccess]
  | _ => exact succeeds.elim

end Step

/-- A run of a worker during which it is forced. Until its outcome the worker has no other decision or outcome: both workers
run under one lock. -/
structure ForcedRun (tradingAccountId : Nat) (workerKey : AdaptiveWorkerKey) where
  earlier : List PollingEvent
  localActivity : AdaptivePollingLocalActivitySnapshot
  market : MarketEvaluation
  now : Int
  before : List PollingEvent
  force : PollingEvent
  after : List PollingEvent
  outcome : PollingEvent
  due : (((initial.run earlier).states tradingAccountId workerKey).decision workerKey localActivity market now).due = true
  forces : (initial.run (earlier ++ .getDecision tradingAccountId workerKey localActivity market now :: before)).Forces
    tradingAccountId workerKey force
  alone : ∀ event ∈ before ++ after,
    ¬ event.Decides tradingAccountId workerKey ∧ ¬ event.Completes tradingAccountId workerKey
  completes : outcome.Completes tradingAccountId workerKey

namespace ForcedRun

/-- The calls up to the force. -/
def untilForce (run : ForcedRun tradingAccountId workerKey) : List PollingEvent :=
  run.earlier ++ .getDecision tradingAccountId workerKey run.localActivity run.market run.now :: run.before

/-- The calls up to the outcome. -/
def events (run : ForcedRun tradingAccountId workerKey) : List PollingEvent :=
  run.untilForce ++ run.force :: run.after ++ [run.outcome]

end ForcedRun

/-- After the outcome of a run during which a force arrived, and until a success serves it, a decision with local activity
becomes due by a force. -/
def ForcesKept (tradingAccountId : Nat) (workerKey : AdaptiveWorkerKey) (events : List PollingEvent) : Prop :=
  ∀ (run : ForcedRun tradingAccountId workerKey) (later : List PollingEvent), run.events ++ later <+: events →
    (∀ event ∈ later, ¬ event.Succeeds tradingAccountId workerKey) →
      DueByForce workerKey ((initial.run (run.events ++ later)).states tradingAccountId workerKey)

/-- No run of this worker in these calls is recorded as a success after a force arrived during it. -/
def NoForcedSuccess (tradingAccountId : Nat) (workerKey : AdaptiveWorkerKey) (events : List PollingEvent) : Prop :=
  ∀ run : ForcedRun tradingAccountId workerKey, run.events <+: events → ¬ run.outcome.Succeeds tradingAccountId workerKey

theorem succeeds_completes {event : PollingEvent} (succeeds : event.Succeeds tradingAccountId workerKey) :
    event.Completes tradingAccountId workerKey := by
  cases event with
  | recordSuccess worker account completedAt nextIntervalMs => exact succeeds
  | _ => exact succeeds.elim

section

variable (run : ForcedRun tradingAccountId workerKey)
include run

theorem ForcedRun.pending :
    Pending ((initial.run (run.untilForce ++ run.force :: run.after)).states tradingAccountId workerKey) := by
  have forced := pending_of_forces run.forces
  have quiet : ∀ event ∈ run.after, ¬ event.Succeeds tradingAccountId workerKey := fun event member succeeds =>
    (run.alone event (List.mem_append_right _ member)).2 (succeeds_completes succeeds)
  rw [run_append]
  show Pending ((((initial.run run.untilForce).step run.force).run run.after).states tradingAccountId workerKey)
  exact pending_run forced quiet

theorem ForcedRun.unforced (succeeds : run.outcome.Succeeds tradingAccountId workerKey) :
    ((initial.run run.events).states tradingAccountId workerKey).forced = false := by
  rw [ForcedRun.events, run_append]
  exact unforced_of_succeeds succeeds

theorem ForcedRun.lost {events : List PollingEvent}
    (happened : run.events <+: events) (succeeds : run.outcome.Succeeds tradingAccountId workerKey) :
    ¬ ForcesKept tradingAccountId workerKey events := by
  intro kept
  have due := kept run [] (by simpa using happened) (by simp)
  rw [List.append_nil] at due
  exact not_dueByForce (run.unforced succeeds) due

end

/-- The forces are kept exactly when no run succeeds after a force arrived during it. -/
theorem forcesKept_iff (tradingAccountId : Nat) (workerKey : AdaptiveWorkerKey) (events : List PollingEvent) :
    ForcesKept tradingAccountId workerKey events ↔ NoForcedSuccess tradingAccountId workerKey events := by
  constructor
  · intro kept run happened succeeds
    exact run.lost happened succeeds kept
  · intro unserved run later happened quiet
    have reached : run.events <+: events := (List.prefix_append _ _).trans happened
    rw [ForcedRun.events, List.append_assoc, run_append]
    apply Pending.dueByForce
    apply pending_run run.pending
    intro event member
    rcases List.mem_append.mp member with last | following
    · rw [List.mem_singleton.mp last]
      exact unserved run reached
    · exact quiet event following

/-- An order is cancelled while the submitted orders are being read. -/
def cancelledDuringRun : List PollingEvent :=
  [.getDecision 1 .submittedOrderSync someActivity ⟨.isOpen, none, false, none, 0⟩ 0,
    .recordAttempt .submittedOrderSync 1 0,
    .forceAfterBrokerOrderCancellation 1 .brokerOrderCancelRequested 200,
    .recordSuccess .submittedOrderSync 1 500 (some 10000)]

/-- The synchronization forced by the cancellation never happens. -/
theorem forces_lost : ¬ ForcesKept 1 .submittedOrderSync cancelledDuringRun := by
  let run : ForcedRun 1 .submittedOrderSync :=
    { earlier := []
      localActivity := someActivity
      market := ⟨.isOpen, none, false, none, 0⟩
      now := 0
      before := [.recordAttempt .submittedOrderSync 1 0]
      force := .forceAfterBrokerOrderCancellation 1 .brokerOrderCancelRequested 200
      after := []
      outcome := .recordSuccess .submittedOrderSync 1 500 (some 10000)
      due := by decide
      forces := ⟨rfl, by decide⟩
      alone := by decide
      completes := by decide }
  exact run.lost (List.prefix_refl _) ⟨rfl, rfl⟩

end AiTrader.Polling
