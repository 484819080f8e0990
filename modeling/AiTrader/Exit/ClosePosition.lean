import AiTrader.Exit.TrailingStop

/-! # Closing a position

A close claims the position and creates an intent in one transaction, and is then submitted under a client order id that
every close of the position has in common. -/

namespace AiTrader.Exit

open Library Library.Program Entry

inductive ClosePositionMode where
  | automatedStrategy | manualEmergencyClose
deriving DecidableEq

structure CloseClaim where
  position : TrackedPosition
  (tradingAccountId intentId : Nat)
  clientOrderId : String

/-- Intents of a close that may still be under way. -/
def pendingCloseStatuses : List OrderStatus := [.pending, .submitting, .submitted]

def pendingClose (store : ExitStore) (trackedPositionId : Nat) : Bool :=
  store.intents.any fun row => row.trackedPositionId == some trackedPositionId && row.source == .closePosition &&
    pendingCloseStatuses.contains row.status

def nonterminalOrder (store : ExitStore) (trackedPositionId : Nat) : Bool :=
  store.brokerOrders.any fun row => row.trackedPositionId == some trackedPositionId &&
    isNonterminalBrokerOrderStatus row.status

/-- `Math.abs(position.qty)` of a number that is printed. -/
def absoluteQty (qty : String) : String := String.ofList (qty.toList.dropWhile (· == '-'))

def closeIntent (position : TrackedPosition) (tradingAccountId : Nat) (clientOrderId : String) (now : Int) (id : Nat) :
    OrderIntent where
  id := id
  source := .closePosition
  tradingAccountId := tradingAccountId
  trackedPositionId := some position.id
  clientOrderId := some clientOrderId
  symbol := toUpperCase position.symbol
  side := "sell"
  orderType := "market"
  qty := absoluteQty position.qty
  status := .submitting
  blockReason := none
  lastSubmittedOrderSyncAt := none
  updatedAt := now

def setPositionStatus (trackedPositionId : Nat) (before after : PositionStatus) (store : ExitStore) : ExitStore :=
  store.updatePositions fun row => if row.id = trackedPositionId ∧ row.status = before then { row with status := after }
    else row

/-- The serializable transaction that claims the close. -/
def claimClose (trackedPositionId : Nat) (mode : ClosePositionMode) (now : Int) (store : ExitStore) :
    Except ExitError (CloseClaim × ExitStore) :=
  match store.position trackedPositionId with
  | none => .error (.http ⟨404, s!"Active tracked position {trackedPositionId} was not found."⟩)
  | some position => match position.tradingAccountId with
    | none => .error (.http ⟨409, s!"Tracked position {position.id} has no TradingAccount identity."⟩)
    | some tradingAccountId =>
      if position.side.toList.map Char.toLower ≠ "long".toList then
        .error (.http ⟨409, "AI Trader does not automatically cover or manage short exposure."⟩)
      else match consistentAssignment position tradingAccountId with
      | none =>
        .error (.http ⟨409, s!"Tracked position {position.id} has missing or inconsistent account assignment identity."⟩)
      | some assignment =>
        if mode = .automatedStrategy ∧ (assignment.enabled = false ∨ assignment.exitsEnabled = false) then
          .error (.http ⟨409, s!"TradingAccountSubscription {assignment.id} has automated exits disabled."⟩)
        else if position.status ≠ .open ∨ pendingClose store position.id ∨ nonterminalOrder store position.id then
          .error (.http ⟨409, s!"A close is already pending for tracked position {position.id}."⟩)
        else
          let clientOrderId := buildCloseClientOrderId tradingAccountId position.id
          let (intent, after) := createIntent (closeIntent position tradingAccountId clientOrderId now)
            (setPositionStatus position.id .open .closing store)
          .ok (⟨position, tradingAccountId, intent.id, clientOrderId⟩, after)

/-- What a claim is, and what it does. -/
theorem claimClose_ok {trackedPositionId : Nat} {mode : ClosePositionMode} {now : Int} {store after : ExitStore}
    {claim : CloseClaim} (ran : claimClose trackedPositionId mode now store = .ok (claim, after)) :
    store.position trackedPositionId = some claim.position ∧
      claim.clientOrderId = buildCloseClientOrderId claim.tradingAccountId claim.position.id ∧
      after = (createIntent (closeIntent claim.position claim.tradingAccountId claim.clientOrderId now)
        (setPositionStatus claim.position.id .open .closing store)).2 := by
  unfold claimClose at ran
  split at ran
  case h_1 => cases ran
  case h_2 position found =>
    split at ran
    case h_1 => cases ran
    case h_2 tradingAccountId _ =>
      split at ran
      · cases ran
      · split at ran
        case h_1 => cases ran
        case h_2 assignment _ =>
          split_ifs at ran
          cases ran
          exact ⟨found, rfl, rfl⟩

def CloseClaim.context (claim : CloseClaim) : VerifiedExitContext where
  tradingAccountId := claim.tradingAccountId
  trackedPositionId := claim.position.id
  orderIntentId := claim.intentId
  symbol := toUpperCase claim.position.symbol
  localTrackedQty := claim.position.qty
  intendedQty := absoluteQty claim.position.qty
  clientOrderId := claim.clientOrderId
  type := .market
  trailPercent := none

/-- The order that a close returns: a local row, or an order at the broker. -/
inductive ClosedOrder where
  | row (brokerOrderId : Nat)
  | order (brokerOrderId : String)

structure CloseResult where
  trackedPositionId : Nat
  symbol : String
  (tradingAccountId orderIntentId : Nat)
  brokerOrderId : ClosedOrder
  clientOrderId : String

def CloseClaim.result (claim : CloseClaim) (brokerOrderId : ClosedOrder) (clientOrderId : String) : CloseResult where
  trackedPositionId := claim.position.id
  symbol := toUpperCase claim.position.symbol
  tradingAccountId := claim.tradingAccountId
  orderIntentId := claim.intentId
  brokerOrderId := brokerOrderId
  clientOrderId := clientOrderId

/-- `isExitVerificationBlock` -/
def isExitVerificationBlock : ExitError → Option ExitVerificationOutcome
  | .preSubmission _ outcome _ => some outcome
  | _ => none

section

variable (claim : CloseClaim)

/-- Give the claim up: the intent ends and the position is open again. -/
def releaseClose (before : List OrderStatus) (status : OrderStatus) (reason : BlockReason) (now : Int)
    (store : ExitStore) : ExitStore :=
  setPositionStatus claim.position.id .closing .open (store.updateIntents fun row =>
    if row.id = claim.intentId ∧ row.status ∈ before then
      { row with status := status, blockReason := some reason, updatedAt := now } else row)

def closeFailed (error : ExitError) : ExitProgram CloseResult := do
  let now ← (answer : ExitProgram Int)
  match isExitVerificationBlock error with
  | some outcome =>
    write (releaseClose claim [.pending, .submitting] .blocked (.exitVerification outcome) now)
    throw error
  | none =>
    match failureClassification error with
    | .deliveryUncertain =>
      write fun store => store.updateIntents fun row => if row.id = claim.intentId ∧ row.status = .submitting then
        { row with blockReason := some (.delivery .deliveryUncertain error.message), updatedAt := now } else row
      elsewhere
      throw error
    | classification =>
      write (releaseClose claim [.submitting] (if classification = .notSentBlocked then .blocked else .failed)
        (.delivery classification error.message) now)
      elsewhere
      throw error

/-- File the order under its id at the broker. -/
def fileClose (order : AlpacaOrder) (now : Int) (store : ExitStore) : ExitStore :=
  let row (id : Nat) : BrokerOrder :=
    { id
      orderIntentId := claim.intentId
      tradingAccountId := claim.tradingAccountId
      brokerOrderId := order.id
      clientOrderId := order.clientOrderId
      trackedPositionId := some claim.position.id
      symbol := toUpperCase order.symbol
      side := order.side
      status := order.status }
  let filed := match store.brokerOrders.find? fun other =>
      other.tradingAccountId == claim.tradingAccountId && other.brokerOrderId == order.id with
    | some existing => store.updateBrokerOrders fun other => if other.id = existing.id then row existing.id else other
    | none => { store with brokerOrders := store.brokerOrders ++ [row (nextBrokerOrderId store)] }
  filed.updateIntents fun row => if row.id = claim.intentId ∧ row.status = .submitting then
    { row with status := .submitted, blockReason := none, updatedAt := now } else row

end

def closePosition (trackedPositionId : Nat) (mode : ClosePositionMode) : ExitProgram CloseResult := do
  let now ← (answer : ExitProgram Int)
  let claim ← commit (claimClose trackedPositionId mode now)
  match ← (submitVerifiedExit claim.context).attempt with
  | .error error => closeFailed claim error
  | .ok (.recoveredLocal brokerOrderId) =>
    match ← (write (recordDelivery claim.intentId (some .submitted) none now) : ExitProgram Unit).attempt with
    | .error error => closeFailed claim error
    | .ok _ => return claim.result (.row brokerOrderId) claim.clientOrderId
  | .ok (.recoveredBroker order) | .ok (.submitted order) =>
    write (fileClose claim order now)
    elsewhere
    return claim.result (.order order.id) order.clientOrderId

end AiTrader.Exit
