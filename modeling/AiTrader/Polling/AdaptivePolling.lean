import Mathlib.Data.List.Basic

/-! # The adaptive polling coordinator

The coordinator keeps when each worker of an account is next due and whether a synchronization was forced. Times are
milliseconds since the epoch. -/

namespace AiTrader.Polling

inductive AdaptiveWorkerKey where
  | submittedOrderSync | trackedPositionSync
deriving DecidableEq

inductive AdaptiveMarketState where
  | isOpen | closed | unknown
deriving DecidableEq

inductive AdaptivePollingMode where
  | marketOpenActive | marketOpenIdle | marketClosedActive | marketClosedIdle | marketUnknown

inductive AdaptivePollingDecisionReason where
  | startupDue | intervalElapsed | forcedAfterBrokerWrite | marketTransition | tradingDateChanged | adaptivePollNotDue
  | noLocalSubmittedOrders | marketStateUnknown | rateLimitBackoff

inductive AdaptivePollingForceReason where
  | startup | brokerOrderCreated | brokerPositionCloseRequested | brokerOrderCancelRequested | brokerOrderCancelAllRequested
  | protectiveOrderCreated | marketTransition | tradingDateChanged | marketSessionRecovered
deriving DecidableEq

structure AdaptivePollingLocalActivitySnapshot where
  (submittedOrderCount submittingOrderCount nonterminalBrokerOrderCount openPositionCount : Nat)
  (closingPositionCount activeExitCount activeProtectiveOrderCount : Nat)
  evaluatedAt : Int

/-- The fields of `NormalizedMarketSessionSnapshot` that the coordinator decides by. -/
structure NormalizedMarketSessionSnapshot where
  tradingDate : String
  marketOpen : Bool

structure AdaptivePollingDecision where
  workerKey : AdaptiveWorkerKey
  (due forced : Bool)
  forceReason : Option AdaptivePollingForceReason
  mode : AdaptivePollingMode
  marketState : AdaptiveMarketState
  localActivity : AdaptivePollingLocalActivitySnapshot
  effectiveIntervalMs : Option Int
  evaluatedAt : Int
  (lastAttemptAt lastSuccessAt nextDueAt : Option Int)
  reason : AdaptivePollingDecisionReason
  marketSessionDegraded : Bool
  marketSessionError : Option String
  marketSessionSnapshot : Option NormalizedMarketSessionSnapshot

structure WorkerRuntimeState where
  (lastAttemptAt lastSuccessAt nextDueAt : Option Int)
  forced : Bool
  forceReason : Option AdaptivePollingForceReason
  lastDecision : Option AdaptivePollingDecision

structure MarketEvaluation where
  state : AdaptiveMarketState
  snapshot : Option NormalizedMarketSessionSnapshot
  degraded : Bool
  error : Option String
  evaluatedAt : Int

structure AccountMarketRuntimeState where
  lastSuccessfulMarketState : Option AdaptiveMarketState
  lastSuccessfulTradingDate : Option String
  hadMarketSessionFailure : Bool
  consecutiveMarketSessionFailures : Nat
  lastMarketSessionError : Option String
  (lastMarketSessionErrorAt recoveredAt : Option Int)
  latestMarketSessionSnapshot : Option NormalizedMarketSessionSnapshot
  latestEvaluation : Option MarketEvaluation

namespace Intervals

def submittedMarketOpenActive : Int := 10000
def submittedMarketClosedActive : Int := 60000

def trackedMarketOpenActive : Int := 15000
def trackedMarketOpenIdle : Int := 60000
def trackedMarketClosedActive : Int := 120000
def trackedMarketClosedIdle : Int := 300000
def trackedMarketUnknownActive : Int := 15000
def trackedMarketUnknownIdle : Int := 60000

def retryMinimum : Int := 5000
def retryMaximum : Int := 15000

end Intervals

def createWorkerState : WorkerRuntimeState where
  lastAttemptAt := none
  lastSuccessAt := none
  nextDueAt := none
  forced := true
  forceReason := some .startup
  lastDecision := none

def createAccountMarketState : AccountMarketRuntimeState where
  lastSuccessfulMarketState := none
  lastSuccessfulTradingDate := none
  hadMarketSessionFailure := false
  consecutiveMarketSessionFailures := 0
  lastMarketSessionError := none
  lastMarketSessionErrorAt := none
  recoveredAt := none
  latestMarketSessionSnapshot := none
  latestEvaluation := none

def modeFor (marketState : AdaptiveMarketState) (active : Bool) : AdaptivePollingMode :=
  match marketState with
  | .unknown => .marketUnknown
  | .isOpen => if active then .marketOpenActive else .marketOpenIdle
  | .closed => if active then .marketClosedActive else .marketClosedIdle

def hasTrackedPositionActivity (activity : AdaptivePollingLocalActivitySnapshot) : Bool :=
  decide (0 < activity.submittedOrderCount) || decide (0 < activity.submittingOrderCount) ||
    decide (0 < activity.nonterminalBrokerOrderCount) || decide (0 < activity.openPositionCount) ||
    decide (0 < activity.closingPositionCount) || decide (0 < activity.activeExitCount) ||
    decide (0 < activity.activeProtectiveOrderCount)

def hasSubmittedOrderActivity (activity : AdaptivePollingLocalActivitySnapshot) : Bool :=
  decide (0 < activity.submittedOrderCount)

/-- The activity that matters to a worker. -/
def hasActivity (workerKey : AdaptiveWorkerKey) (activity : AdaptivePollingLocalActivitySnapshot) : Bool :=
  match workerKey with
  | .submittedOrderSync => hasSubmittedOrderActivity activity
  | .trackedPositionSync => hasTrackedPositionActivity activity

def intervalFor (workerKey : AdaptiveWorkerKey) (marketState : AdaptiveMarketState) (active : Bool) : Option Int :=
  match workerKey with
  | .submittedOrderSync =>
    if !active then none
    else if marketState = .closed then some Intervals.submittedMarketClosedActive
    else some Intervals.submittedMarketOpenActive
  | .trackedPositionSync =>
    match marketState with
    | .unknown => some (if active then Intervals.trackedMarketUnknownActive else Intervals.trackedMarketUnknownIdle)
    | .isOpen => some (if active then Intervals.trackedMarketOpenActive else Intervals.trackedMarketOpenIdle)
    | .closed => some (if active then Intervals.trackedMarketClosedActive else Intervals.trackedMarketClosedIdle)

namespace WorkerRuntimeState

/-- The body of `forceSync`: the first reason since the last success stays, except `startup`. -/
def force (state : WorkerRuntimeState) (reason : AdaptivePollingForceReason) (now : Int) : WorkerRuntimeState :=
  { state with
    forced := true
    forceReason := if state.forceReason = none ∨ state.forceReason = some .startup then some reason else state.forceReason
    nextDueAt := some now }

/-- A second force at the same time for the same reason changes nothing. -/
@[simp] theorem force_force (state : WorkerRuntimeState) (reason : AdaptivePollingForceReason) (now : Int) :
    (state.force reason now).force reason now = state.force reason now := by
  simp only [force]
  split_ifs <;> simp_all

/-- The reason of a decision that is due by a force. -/
def forcedReason (forceReason : Option AdaptivePollingForceReason) : AdaptivePollingDecisionReason :=
  match forceReason with
  | some .marketTransition => .marketTransition
  | some .tradingDateChanged => .tradingDateChanged
  | some .startup => .startupDue
  | _ => .forcedAfterBrokerWrite

section

variable (state : WorkerRuntimeState)

/-- Whether a worker is due and why. -/
def dueReason (workerKey : AdaptiveWorkerKey) (marketState : AdaptiveMarketState)
    (active : Bool) (now : Int) : Bool × AdaptivePollingDecisionReason :=
  if workerKey = .submittedOrderSync ∧ active = false then (false, .noLocalSubmittedOrders)
  else if state.forced = true ∧ state.nextDueAt.all (fun dueAt => decide (dueAt ≤ now)) = true then
    (true, forcedReason state.forceReason)
  else if marketState = .unknown ∧ state.lastAttemptAt = none then (true, .marketStateUnknown)
  else
    match state.nextDueAt with
    | none => (true, .startupDue)
    | some dueAt => if dueAt ≤ now then (true, .intervalElapsed) else (false, .adaptivePollNotDue)

/-- The decision of `getDecision`, once the local activity and the market evaluation are there. -/
def decision (workerKey : AdaptiveWorkerKey)
    (localActivity : AdaptivePollingLocalActivitySnapshot) (market : MarketEvaluation) (now : Int) :
    AdaptivePollingDecision :=
  let active := hasActivity workerKey localActivity
  let (due, reason) := state.dueReason workerKey market.state active now
  { workerKey
    due
    forced := state.forced
    forceReason := state.forceReason
    mode := modeFor market.state active
    marketState := market.state
    localActivity
    effectiveIntervalMs := intervalFor workerKey market.state active
    evaluatedAt := now
    lastAttemptAt := state.lastAttemptAt
    lastSuccessAt := state.lastSuccessAt
    nextDueAt := state.nextDueAt
    reason
    marketSessionDegraded := market.degraded
    marketSessionError := market.error
    marketSessionSnapshot := market.snapshot }

def recordAttempt (attemptedAt : Int) : WorkerRuntimeState :=
  { state with lastAttemptAt := some attemptedAt }

/-- The interval after a success: the one passed, the one last decided or the default of the worker. -/
def successInterval (workerKey : AdaptiveWorkerKey) (nextIntervalMs : Option Int) : Int :=
  (nextIntervalMs <|> state.lastDecision.bind (·.effectiveIntervalMs)).getD
    (match workerKey with
      | .submittedOrderSync => Intervals.submittedMarketOpenActive
      | .trackedPositionSync => Intervals.trackedMarketOpenIdle)

def recordSuccess (workerKey : AdaptiveWorkerKey) (completedAt : Int)
    (nextIntervalMs : Option Int) : WorkerRuntimeState :=
  { state with
    lastSuccessAt := some completedAt
    forced := false
    forceReason := none
    nextDueAt := some (completedAt + state.successInterval workerKey nextIntervalMs) }

def recordFailure (failedAt : Int) : WorkerRuntimeState :=
  let elapsedSinceAttempt := max 0 (failedAt - state.lastAttemptAt.getD failedAt)
  let retryDelayMs := min Intervals.retryMaximum (max Intervals.retryMinimum elapsedSinceAttempt)
  { state with nextDueAt := some (failedAt + retryDelayMs) }

end

/-- When a deferred worker is next due. -/
def deferredUntil (backoffUntil : Option Int) (deferredAt : Int) : Int :=
  match backoffUntil with
  | some backoffUntil => if deferredAt < backoffUntil then backoffUntil else deferredAt + Intervals.retryMinimum
  | none => deferredAt + Intervals.retryMinimum

def recordRateLimitDeferred (state : WorkerRuntimeState) (backoffUntil : Option Int) (deferredAt : Int) :
    WorkerRuntimeState :=
  let nextDueAt := some (deferredUntil backoffUntil deferredAt)
  { state with
    nextDueAt
    lastDecision := state.lastDecision.map fun decision =>
      { decision with due := false, reason := .rateLimitBackoff, nextDueAt } }

end WorkerRuntimeState

/-- The two maps of the coordinator; an entry is created at its first use. -/
structure AdaptivePollingCoordinator where
  states : Nat → AdaptiveWorkerKey → WorkerRuntimeState
  marketStates : Nat → AccountMarketRuntimeState

namespace AdaptivePollingCoordinator

def initial : AdaptivePollingCoordinator where
  states _ _ := createWorkerState
  marketStates _ := createAccountMarketState

/-- Mutate the state of a worker. -/
def updateState (coordinator : AdaptivePollingCoordinator) (tradingAccountId : Nat) (workerKey : AdaptiveWorkerKey)
    (update : WorkerRuntimeState → WorkerRuntimeState) : AdaptivePollingCoordinator :=
  { coordinator with
    states := fun account worker =>
      if account = tradingAccountId ∧ worker = workerKey then update (coordinator.states account worker)
      else coordinator.states account worker }

def forceSync (coordinator : AdaptivePollingCoordinator) (workers : List AdaptiveWorkerKey)
    (reason : AdaptivePollingForceReason) (tradingAccountId : Nat) (now : Int) : AdaptivePollingCoordinator :=
  workers.foldl (fun coordinator workerKey => coordinator.updateState tradingAccountId workerKey (·.force reason now))
    coordinator

variable (coordinator : AdaptivePollingCoordinator)

@[simp] theorem updateState_states (tradingAccountId account : Nat)
    (workerKey worker : AdaptiveWorkerKey) (update : WorkerRuntimeState → WorkerRuntimeState) :
    (coordinator.updateState tradingAccountId workerKey update).states account worker =
      if account = tradingAccountId ∧ worker = workerKey then update (coordinator.states account worker)
      else coordinator.states account worker := rfl

/-- Each of the workers is forced, once or more; no other state changes. -/
theorem forceSync_states (workers : List AdaptiveWorkerKey)
    (reason : AdaptivePollingForceReason) (tradingAccountId account : Nat) (worker : AdaptiveWorkerKey) (now : Int) :
    (coordinator.forceSync workers reason tradingAccountId now).states account worker =
      if account = tradingAccountId ∧ worker ∈ workers then (coordinator.states account worker).force reason now
      else coordinator.states account worker := by
  induction workers generalizing coordinator with
  | nil => simp [forceSync]
  | cons first rest ih =>
    have unfolded : coordinator.forceSync (first :: rest) reason tradingAccountId now =
        (coordinator.updateState tradingAccountId first (·.force reason now)).forceSync rest reason tradingAccountId now :=
      rfl
    rw [unfolded, ih]
    by_cases same : account = tradingAccountId <;> by_cases here : worker = first <;> by_cases there : worker ∈ rest <;>
      simp [same, here, there]

/-- The workers that a successful market evaluation forces. -/
def bothWorkers : List AdaptiveWorkerKey := [.submittedOrderSync, .trackedPositionSync]

def marketStateOf (snapshot : NormalizedMarketSessionSnapshot) : AdaptiveMarketState :=
  if snapshot.marketOpen then .isOpen else .closed

/-- Why a successful market evaluation forces both workers, if it does. -/
def sessionForce (accountMarket : AccountMarketRuntimeState) (snapshot : NormalizedMarketSessionSnapshot) :
    Option AdaptivePollingForceReason :=
  if accountMarket.hadMarketSessionFailure then some .marketSessionRecovered
  else if accountMarket.lastSuccessfulMarketState.any (fun previous => previous != marketStateOf snapshot) then
    some .marketTransition
  else if accountMarket.lastSuccessfulTradingDate.any (fun previous => previous != snapshot.tradingDate) then
    some .tradingDateChanged
  else none

/-- The market session was fetched: the `then` callback of `evaluateMarket`. -/
def marketSession (coordinator : AdaptivePollingCoordinator) (tradingAccountId : Nat)
    (snapshot : NormalizedMarketSessionSnapshot) (now : Int) : AdaptivePollingCoordinator :=
  let accountMarket := coordinator.marketStates tradingAccountId
  let evaluated : AccountMarketRuntimeState :=
    { lastSuccessfulMarketState := some (marketStateOf snapshot)
      lastSuccessfulTradingDate := some snapshot.tradingDate
      hadMarketSessionFailure := false
      consecutiveMarketSessionFailures := 0
      lastMarketSessionError := none
      lastMarketSessionErrorAt := none
      recoveredAt := if accountMarket.hadMarketSessionFailure then some now else accountMarket.recoveredAt
      latestMarketSessionSnapshot := some snapshot
      latestEvaluation := some ⟨marketStateOf snapshot, some snapshot, false, none, now⟩ }
  let marked := { coordinator with marketStates := Function.update coordinator.marketStates tradingAccountId evaluated }
  match sessionForce accountMarket snapshot with
  | some reason => marked.forceSync bothWorkers reason tradingAccountId now
  | none => marked

/-- The market session was not fetched: the `catch` callback of `evaluateMarket`. -/
def marketSessionFailed (coordinator : AdaptivePollingCoordinator) (tradingAccountId : Nat) (error : String) (now : Int) :
    AdaptivePollingCoordinator :=
  let accountMarket := coordinator.marketStates tradingAccountId
  let failed : AccountMarketRuntimeState :=
    { accountMarket with
      hadMarketSessionFailure := true
      consecutiveMarketSessionFailures := accountMarket.consecutiveMarketSessionFailures + 1
      lastMarketSessionError := some error
      lastMarketSessionErrorAt := some now
      latestEvaluation := some ⟨.unknown, none, true, some error, now⟩ }
  { coordinator with marketStates := Function.update coordinator.marketStates tradingAccountId failed }

end AdaptivePollingCoordinator

end AiTrader.Polling
