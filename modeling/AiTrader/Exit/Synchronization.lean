import AiTrader.Entry.SubmittedOrderSync
import AiTrader.Exit.ClosePosition

/-! # Synchronization with the broker

Positions, submitted orders and protective orders are read from the broker and copied to the rows, and the exits of an
account are evaluated. -/

namespace AiTrader.Exit

open Library Library.Program Entry

structure SyncFailure where
  trackedPositionId : Nat
  (brokerOrderId error : String)

structure ProtectiveOrderSyncResult where
  (found synchronized partialFills terminalOrders confirmedMissing failed : Nat)
  failures : List SyncFailure

/-- The exit states of an account whose linked order has not ended, in the order of their positions. -/
def protectedStates (tradingAccountId : Nat) (store : ExitStore) : List (PositionExitState × String) :=
  (store.exitStates.filterMap fun row => row.trailBrokerOrderId.bind fun brokerOrderId =>
    if row.trailOrderStatus.any isNonterminalBrokerOrderStatus ∧
        (store.position row.trackedPositionId).any (·.tradingAccountId == some tradingAccountId) then
      some (row, brokerOrderId) else none).insertionSort fun left right =>
        left.1.trackedPositionId ≤ right.1.trackedPositionId

/-- `filledQty > 0 && filledQty < requestedQty`, as far as both are numbers. -/
def partiallyFilled (order : AlpacaOrder) : Bool :=
  match parseExactPositiveDecimal (order.filledQty.getD "0"), parseExactNonNegativeDecimal (order.qty.getD "0") with
  | some filled, some requested => exceedsDecimal requested filled
  | some _, none => true
  | none, _ => false

/-- Set the status of the local order of a position. -/
def syncBrokerOrder (tradingAccountId trackedPositionId : Nat) (brokerOrderId : String) (status : OrderStatus)
    (store : ExitStore) : ExitStore :=
  store.updateBrokerOrders fun row => if row.tradingAccountId = tradingAccountId ∧ row.brokerOrderId = brokerOrderId ∧
      row.trackedPositionId = some trackedPositionId then { row with status := status } else row

/-- What became of one protective order. -/
inductive ProtectiveOutcome where
  | missing
  /-- The broker knows the order; its status may have failed to be written. -/
  | found (order : AlpacaOrder) (written : Except ExitError Unit)

def syncProtectiveOrder (tradingAccountId : Nat) (exitState : PositionExitState) (brokerOrderId : String) :
    ExitProgram ProtectiveOutcome := do
  match exitState.trailClientOrderId with
  | none => throw (.plain s!"PositionExitState {exitState.id} has no protective client order identity.")
  | some clientOrderId =>
    match ← brokerRead fun store => store.alpacaOrderById tradingAccountId brokerOrderId with
    | none =>
      let _ ← markPositionExitStateAttentionRequired exitState.trackedPositionId "protective_order_confirmed_missing"
        "The linked protective order was not found at the broker. Replacement was not submitted; operator review or safe recovery is required."
      return .missing
    | some order =>
      let status := normalizeBrokerOrderStatus order.status
      match ← (syncTrailingStopOrderStatus tradingAccountId clientOrderId brokerOrderId status).attempt with
      | .error error => return .found order (.error error)
      | .ok _ =>
        let written ← (write (syncBrokerOrder tradingAccountId exitState.trackedPositionId brokerOrderId status) :
          ExitProgram Unit).attempt
        return .found order written

def ProtectiveOrderSyncResult.fail (result : ProtectiveOrderSyncResult) (exitState : PositionExitState)
    (brokerOrderId : String) (error : ExitError) : ProtectiveOrderSyncResult :=
  { result with
    failed := result.failed + 1
    failures := result.failures ++ [⟨exitState.trackedPositionId, brokerOrderId, error.message⟩] }

/-- One turn of the loop: a failure is counted, and the loop goes on. -/
def ProtectiveOrderSyncResult.count (result : ProtectiveOrderSyncResult) (exitState : PositionExitState)
    (brokerOrderId : String) : Except ExitError ProtectiveOutcome → ProtectiveOrderSyncResult
  | .ok .missing => { result with confirmedMissing := result.confirmedMissing + 1 }
  | .ok (.found order written) =>
    let counted := { result with
      partialFills := result.partialFills + (if partiallyFilled order then 1 else 0)
      terminalOrders := result.terminalOrders + (if isTerminalBrokerOrderStatus order.status then 1 else 0) }
    match written with
    | .ok _ => { counted with synchronized := counted.synchronized + 1 }
    | .error error => counted.fail exitState brokerOrderId error
  | .error error => result.fail exitState brokerOrderId error

def syncProtectiveOrders (tradingAccountId : Nat) :
    List (PositionExitState × String) → ProtectiveOrderSyncResult → ExitProgram ProtectiveOrderSyncResult
  | [], result => return result
  | (exitState, brokerOrderId) :: rest, result => do
    let outcome ← (syncProtectiveOrder tradingAccountId exitState brokerOrderId).attempt
    syncProtectiveOrders tradingAccountId rest (result.count exitState brokerOrderId outcome)

def syncProtectiveOrdersForAccount (tradingAccountId : Nat) : ExitProgram ProtectiveOrderSyncResult := do
  let exitStates ← read (protectedStates tradingAccountId)
  syncProtectiveOrders tradingAccountId exitStates ⟨exitStates.length, 0, 0, 0, 0, 0, []⟩

/-- `SUBMITTED_ORDER_BATCH_LIMIT_PER_ACCOUNT` -/
def submittedOrderBatchLimitPerAccount : Nat := 10

/-- The position of the intent is closed, one of its orders is filled, and the others are filled or replaced. -/
def historicalIntent (store : ExitStore) (intent : OrderIntent) : Bool :=
  let orders := store.brokerOrders.filter fun row => row.orderIntentId == intent.id
  (intent.trackedPositionId.bind store.position).any (·.status == .closed) && orders.any (·.status == .filled) &&
    orders.all fun row => row.status == .filled || row.status == .replaced

/-- `submittedOrderSyncIntentWhere` -/
def submittedOrderSyncIntent (tradingAccountId : Nat) (store : ExitStore) (intent : OrderIntent) : Bool :=
  submittedOrderSyncIntentStatuses.contains intent.status && intent.tradingAccountId == tradingAccountId &&
    !historicalIntent store intent

/-- An intent that has never been synchronized comes first, then the one that was synchronized first. -/
def syncedBefore (left right : OrderIntent) : Bool :=
  match left.lastSubmittedOrderSyncAt, right.lastSubmittedOrderSyncAt with
  | none, _ => true
  | some _, none => false
  | some first, some last => decide (first ≤ last)

/-- The next batch of submitted intents, with their first local order. -/
def submittedIntents (tradingAccountId : Nat) (store : ExitStore) : List (OrderIntent × Option BrokerOrder) :=
  (((store.intents.filter (submittedOrderSyncIntent tradingAccountId store)).insertionSort fun left right =>
    syncedBefore left right = true).take submittedOrderBatchLimitPerAccount).map fun row =>
      (row, store.brokerOrders.find? fun order => order.orderIntentId == row.id)

structure SubmittedOrderFailure where
  orderIntentId : Nat
  brokerOrderRecordId : Option Nat
  error : String

structure SubmittedOrderSyncResult where
  found : Nat
  polled : Bool
  synced : Nat
  failures : List SubmittedOrderFailure

/-- Compare-and-set of the local status, then the status of the intent; whether the status was still the one read. -/
def applyBrokerStatus (brokerOrder : BrokerOrder) (next : OrderStatus) : ExitProgram Bool := do
  let updated ← commit fun store => .ok (store.brokerOrders.any fun row => row.id == brokerOrder.id &&
      row.status == brokerOrder.status, store.updateBrokerOrders fun row =>
        if row.id = brokerOrder.id ∧ row.status = brokerOrder.status then { row with status := next } else row)
  if updated then
    let now ← (answer : ExitProgram Int)
    write fun store => store.updateIntents fun row => if row.id = brokerOrder.orderIntentId then
      { row with status := next, updatedAt := now } else row
    -- The claim of an entry, and the event.
    elsewhere
  return updated

/-- One turn of the submitted-order sync: whether a status was changed. -/
def syncSubmittedOrder (tradingAccountId : Nat) (openOrders : List AlpacaOrder) (intent : OrderIntent)
    (brokerOrder : Option BrokerOrder) : ExitProgram Bool := do
  let now ← (answer : ExitProgram Int)
  write fun store => store.updateIntents fun row => if row.id = intent.id then
    { row with lastSubmittedOrderSyncAt := some now, updatedAt := now } else row
  match brokerOrder with
  | none => return false
  | some brokerOrder =>
    let order ← match openOrders.find? fun order => order.id == brokerOrder.brokerOrderId with
      | some order => pure (some order)
      | none => brokerRead fun store => store.alpacaOrderById tradingAccountId brokerOrder.brokerOrderId
    match order with
    | none => return false
    | some order =>
      let _ ← syncTrailingStopOrderStatus tradingAccountId brokerOrder.clientOrderId brokerOrder.brokerOrderId order.status
      if brokerOrder.status ≠ order.status then applyBrokerStatus brokerOrder order.status
      else
        -- The claim of an entry is looked at again.
        elsewhere
        return false

/-- One turn of the loop: a failure is counted, and the loop goes on. -/
def SubmittedOrderSyncResult.count (result : SubmittedOrderSyncResult) (intent : OrderIntent)
    (brokerOrder : Option BrokerOrder) : Except ExitError Bool → SubmittedOrderSyncResult
  | .ok updated => { result with synced := result.synced + (if updated then 1 else 0) }
  | .error error =>
    { result with failures := result.failures ++ [⟨intent.id, brokerOrder.map (·.id), error.message⟩] }

def syncSubmittedOrders (tradingAccountId : Nat) (openOrders : List AlpacaOrder) :
    List (OrderIntent × Option BrokerOrder) → SubmittedOrderSyncResult → ExitProgram SubmittedOrderSyncResult
  | [], result => return result
  | (intent, brokerOrder) :: rest, result => do
    let outcome ← (syncSubmittedOrder tradingAccountId openOrders intent brokerOrder).attempt
    syncSubmittedOrders tradingAccountId openOrders rest (result.count intent brokerOrder outcome)

def syncSubmittedOrdersForAccount (tradingAccountId : Nat) : ExitProgram SubmittedOrderSyncResult := do
  let intents ← read (submittedIntents tradingAccountId)
  -- An account without submitted intents is not polled, nor one whose poll is not due.
  let due ← (answer : ExitProgram Bool)
  if intents.isEmpty || !due then return ⟨intents.length, false, 0, []⟩
  else
    let openOrders ← brokerRead fun store => (store.broker tradingAccountId).orders.filter fun order =>
      isNonterminalBrokerOrderStatus order.status
    syncSubmittedOrders tradingAccountId openOrders intents ⟨intents.length, true, 0, []⟩

/-- The columns of a position that a sync takes from the broker and from the catalog. -/
structure PositionObservation where
  (side qty : String)
  currentPrice : ℚ
  unrealizedPnLPct : Option ℚ
  securityId : Nat
  exitManagementMode : ExitManagementMode

def TrackedPosition.observe (position : TrackedPosition) (observation : PositionObservation) : TrackedPosition :=
  { position with
    side := observation.side
    qty := observation.qty
    currentPrice := observation.currentPrice
    unrealizedPnLPct := observation.unrealizedPnLPct
    status := .open }

def activePosition (tradingAccountId : Nat) (symbol : String) (store : ExitStore) : Option TrackedPosition :=
  store.positions.reverse.find? fun row =>
    row.tradingAccountId == some tradingAccountId && row.symbol == symbol && row.status.isActive

def nextPositionId (store : ExitStore) : Nat := Table.nextId (store.positions.map (·.id))

/-- Refresh the active position of a symbol or create one, under the lock of the account; no other service closes a
position. -/
def observePosition (tradingAccountId : Nat) (symbol : String) (observation : PositionObservation) (store : ExitStore) :
    Except ExitError ((Nat × Bool) × ExitStore) :=
  match activePosition tradingAccountId symbol store with
  | some existing =>
    .ok ((existing.id, false), store.updatePositions fun row =>
      if row.id = existing.id then row.observe observation else row)
  | none =>
    let id := nextPositionId store
    let position : TrackedPosition :=
      { id, tradingAccountId := some tradingAccountId, symbol, side := observation.side, qty := observation.qty
        currentPrice := observation.currentPrice, unrealizedPnLPct := observation.unrealizedPnLPct, status := .open
        securityId := observation.securityId, subscriptionId := none, exitProfile := none
        tradingAccountSubscription := none }
    let exitState := { initialExitState id none with exitManagementModeSnapshot := observation.exitManagementMode }
    match createExitState exitState (.created id) { store with positions := store.positions ++ [position] } with
    | .ok (_, after) => .ok ((id, true), after)
    | .error error => .error error

/-- What a sync counts. -/
structure PositionSyncCounts where
  (created updated closed : Nat)
  symbolErrors : List (String × String)

/-- One position of the broker; what is counted before a failure stays counted. -/
def syncPosition (tradingAccountId : Nat) (position : AlpacaPosition) (counts : PositionSyncCounts) :
    ExitProgram (PositionSyncCounts × Except ExitError Unit) := do
  if position.side.toList.map Char.toLower = "short".toList then
    return (counts, ← (elsewhere : ExitProgram Unit).attempt)
  else
    -- The security of the symbol, and what the position is attributed to.
    match ← (answer : ExitProgram (Except ExitError PositionObservation)) with
    | .error error => return (counts, .error error)
    | .ok observation =>
      match ← (commit (observePosition tradingAccountId position.symbol
          { observation with side := position.side, qty := position.qty })).attempt with
      | .error error => return (counts, .error error)
      | .ok (id, true) =>
        let rest : ExitProgram Unit := do
          let _ ← resetPositionExitStateForOpenPosition id
          elsewhere
        return ({ counts with created := counts.created + 1 }, ← rest.attempt)
      | .ok (id, false) =>
        match ← (elsewhere : ExitProgram Unit).attempt with
        | .error error => return (counts, .error error)
        | .ok _ =>
          let rest : ExitProgram Unit := do
            let _ ← ensurePositionExitState id
            elsewhere
          return ({ counts with updated := counts.updated + 1 }, ← rest.attempt)

def syncObservedPositions (tradingAccountId : Nat) :
    List AlpacaPosition → PositionSyncCounts → ExitProgram PositionSyncCounts
  | [], counts => return counts
  | position :: rest, counts => do
    match ← syncPosition tradingAccountId position counts with
    | (counts, .ok _) => syncObservedPositions tradingAccountId rest counts
    | (counts, .error error) =>
      syncObservedPositions tradingAccountId rest
        { counts with symbolErrors := counts.symbolErrors ++ [(position.symbol, error.message)] }

/-- Close an active position, unless it is closed already. -/
def closeTracked (trackedPositionId : Nat) (store : ExitStore) : Except ExitError (Bool × ExitStore) :=
  .ok (store.positions.any fun row => row.id == trackedPositionId && row.status.isActive,
    store.updatePositions fun row => if row.id = trackedPositionId ∧ row.status.isActive = true then
      { row with status := .closed } else row)

def closeMissing (brokerSymbols : List String) :
    List TrackedPosition → PositionSyncCounts → ExitProgram PositionSyncCounts
  | [], counts => return counts
  | tracked :: rest, counts => do
    if brokerSymbols.contains tracked.symbol then closeMissing brokerSymbols rest counts
    else
      let closed ← commit (closeTracked tracked.id)
      if closed then
        -- The fills that closed the position are attributed.
        elsewhere
        let _ ← markPositionExitStateClosed tracked.id
        elsewhere
      closeMissing brokerSymbols rest { counts with closed := counts.closed + (if closed then 1 else 0) }

/-- The sync of an account, when its poll is due. -/
def syncTrackedPositionsForAccount (tradingAccountId : Nat) : ExitProgram (Option PositionSyncCounts) := do
  if ← (answer : ExitProgram Bool) then
    let positions ← brokerRead fun store => (store.broker tradingAccountId).positions
    let observed ← syncObservedPositions tradingAccountId positions ⟨0, 0, 0, []⟩
    let active ← read fun store => store.positions.filter fun row =>
      row.tradingAccountId == some tradingAccountId && row.status.isActive
    let counts ← closeMissing (positions.map (·.symbol)) active observed
    return some counts
  else return none

section Evaluation

variable (toISOString : Int → String)

structure ExitEvaluationCounts where
  (protectiveOrdersSynchronized positionsEvaluated positionsSkipped blockedExits exitSignalsTriggered : Nat)
  (closeIntentsCreated failedPositions : Nat)

section

variable (exitProfile : ExitProfile)

def isUnlockTrailingProfile : Bool := exitProfile.exitMode == "unlock_trailing_stop"

/-- `pnlPct <= -(stopLossPct / 100)` -/
def stopLossReached (pnlPct : ℚ) : Bool :=
  exitProfile.stopLossPct.any fun stopLossPct => decide (pnlPct ≤ -(stopLossPct / 100))

def takeProfitReached (pnlPct : ℚ) : Bool :=
  exitProfile.targetPct.any fun targetPct => decide (targetPct / 100 ≤ pnlPct)

end

/-- What an evaluation does with a position and the exit state it has been read with. -/
inductive ExitStep where
  | refuse (message : String)
  | skip (blocked : Bool)
  | trail (exitProfile : ExitProfile)
  | wait
  | close

def exitStep (tradingAccountId : Nat) (position : TrackedPosition) (exitState : Option PositionExitState) : ExitStep :=
  if position.tradingAccountId ≠ some tradingAccountId then
    .refuse s!"TrackedPosition {position.id} account attribution does not match coordinator account {tradingAccountId}."
  else match consistentAssignment position tradingAccountId with
  | none => .refuse s!"TrackedPosition {position.id} has missing or inconsistent account assignment attribution."
  | some assignment => match assignment.exitProfile with
    | none => .skip false
    | some exitProfile =>
      let pnlPct := position.unrealizedPnLPct.getD 0
      let protectiveStopLoss := !isUnlockTrailingProfile exitProfile && stopLossReached exitProfile pnlPct
      if exitState.any (·.trailBrokerOrderId.isSome) then .skip false
      else if position.status = .closing then .skip false
      else if assignment.enabled = false ∨ assignment.exitsEnabled = false then .skip true
      else if exitState.any (·.exitManagementModeSnapshot == .externalSignal) && !protectiveStopLoss then .skip false
      else if isUnlockTrailingProfile exitProfile then .trail exitProfile
      else if takeProfitReached exitProfile pnlPct || stopLossReached exitProfile pnlPct then .close
      else .wait

/-- What is counted of a position, and what it ends with; a failure leaves the counts. -/
abbrev Evaluated : Type := ExitEvaluationCounts × Except ExitError Unit

/-- Count what a program returns, or nothing of it when it fails. -/
def counting (counts : ExitEvaluationCounts) (program : ExitProgram ExitEvaluationCounts) : ExitProgram Evaluated := do
  match ← program.attempt with
  | .ok counted => return (counted, .ok ())
  | .error error => return (counts, .error error)

/-- What a trailing evaluation goes by: the exit state, and whether the target has been unlocked by it. -/
def prepareTrailing (position : TrackedPosition) (exitState : Option PositionExitState) (exitProfile : ExitProfile) :
    ExitProgram (Option (PositionExitState × Bool)) := do
  let exitState ← match exitState with
    | some exitState => pure exitState
    | none => ensurePositionExitState position.id
  let pnlPct := position.unrealizedPnLPct.getD 0
  match exitState.targetPct.or exitProfile.targetPct, exitState.trailingStopPct.or exitProfile.trailingStopPct with
  | some targetPct, some trailingStopPct =>
    if !exitState.targetUnlocked && decide (targetPct / 100 ≤ pnlPct) then
      let unlocked ←
        unlockTrailingStopExitState ⟨position.id, position.currentPrice, pnlPct, targetPct, trailingStopPct⟩
      return some (unlocked, true)
    else return some (exitState, false)
  | _, _ => return none

/-- Submit a trailing stop; a failure is marked before it is thrown again. -/
def submitProtection (tradingAccountId trackedPositionId : Nat) (now : Int) : ExitProgram Unit := do
  match ← (submitTrailingStopExitOrder toISOString tradingAccountId trackedPositionId now).attempt with
  | .ok _ => return ()
  | .error error =>
    let _ ← markTrailingStopOrderSubmitFailed trackedPositionId
    if failureClassification error ≠ .deliveryUncertain then elsewhere
    throw error

/-- The trailing branch of an evaluation. -/
def evaluateTrailing (tradingAccountId : Nat) (position : TrackedPosition) (exitState : Option PositionExitState)
    (exitProfile : ExitProfile) (counts : ExitEvaluationCounts) : ExitProgram Evaluated := do
  match ← (prepareTrailing position exitState exitProfile).attempt with
  | .error error => return (counts, .error error)
  | .ok none => return ({ counts with positionsSkipped := counts.positionsSkipped + 1 }, .ok ())
  | .ok (some (exitState, triggered)) =>
    let signalled :=
      { counts with exitSignalsTriggered := counts.exitSignalsTriggered + (if triggered then 1 else 0) }
    counting signalled do
      if triggered then elsewhere
      if exitState.targetUnlocked && exitState.trailBrokerOrderId.isNone then
        let now ← (answer : ExitProgram Int)
        submitProtection toISOString tradingAccountId position.id now
        return { signalled with closeIntentsCreated := signalled.closeIntentsCreated + 1 }
      else return signalled

/-- The evaluation of one position. -/
def evaluatePosition (tradingAccountId : Nat) (position : TrackedPosition) (exitState : Option PositionExitState)
    (counts : ExitEvaluationCounts) : ExitProgram Evaluated := do
  match exitStep tradingAccountId position exitState with
  | .refuse message => return (counts, .error (.plain message))
  | .skip blocked =>
    return ({ counts with
      positionsSkipped := counts.positionsSkipped + 1
      blockedExits := counts.blockedExits + (if blocked then 1 else 0) }, .ok ())
  | .wait => return (counts, .ok ())
  | .trail exitProfile => evaluateTrailing toISOString tradingAccountId position exitState exitProfile counts
  | .close =>
    let signalled := { counts with exitSignalsTriggered := counts.exitSignalsTriggered + 1 }
    match ← (closePosition position.id .automatedStrategy).attempt with
    | .error error => return (signalled, .error error)
    | .ok _ =>
      let closing := { signalled with closeIntentsCreated := signalled.closeIntentsCreated + 1 }
      counting closing do
        elsewhere
        return closing

structure ExitEvaluation where
  counts : ExitEvaluationCounts
  /-- The positions that failed, with the messages. -/
  failures : List (Nat × String)

def evaluatePositions (tradingAccountId : Nat) :
    List (TrackedPosition × Option PositionExitState) → ExitEvaluation → ExitProgram ExitEvaluation
  | [], evaluation => return evaluation
  | (position, exitState) :: rest, evaluation => do
    let evaluating := { evaluation.counts with positionsEvaluated := evaluation.counts.positionsEvaluated + 1 }
    match ← evaluatePosition toISOString tradingAccountId position exitState evaluating with
    | (counts, .ok _) => evaluatePositions tradingAccountId rest ⟨counts, evaluation.failures⟩
    | (counts, .error error) =>
      evaluatePositions tradingAccountId rest ⟨{ counts with failedPositions := counts.failedPositions + 1 },
        evaluation.failures ++ [(position.id, error.message)]⟩

def evaluateExitsForAccount (tradingAccountId : Nat) : ExitProgram ExitEvaluation := do
  let positions ← read fun store => ((store.positions.filter fun row =>
    row.tradingAccountId == some tradingAccountId && row.status.isActive).insertionSort fun left right =>
      left.id ≤ right.id).map fun row => (row, store.exitState row.id)
  let protectiveSync ← syncProtectiveOrdersForAccount tradingAccountId
  let counts : ExitEvaluationCounts := ⟨protectiveSync.synchronized, 0, 0, 0, 0, 0, protectiveSync.failed⟩
  let failures := protectiveSync.failures.map fun failure => (failure.trackedPositionId, failure.error)
  -- Automatic exits of an account that is only observed are suppressed.
  match ← (answer : ExitProgram (Except ExitError Bool)) with
  | .error error => throw error
  | .ok false => return ⟨{ counts with positionsSkipped := positions.length }, failures⟩
  | .ok true => evaluatePositions toISOString tradingAccountId positions ⟨counts, failures⟩

end Evaluation

end AiTrader.Exit
