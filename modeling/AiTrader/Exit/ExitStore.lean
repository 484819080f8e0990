import AiTrader.Entry.ExposureClaim
import AiTrader.Library.Service
import Mathlib.Data.Rat.Defs

/-! # Positions, their exits and the broker

The rows that closes, trailing stops and synchronizations read and write, and the broker they talk to. -/

namespace AiTrader.Exit

open Library Library.Program Entry

section Rows

structure ExitProfile where
  (key exitMode takeProfitBehavior : String)
  (targetPct stopLossPct trailingStopPct : Option ℚ)

/-- A `TradingAccountSubscription` with the exit profile of its subscription. -/
structure AccountAssignment where
  (id tradingAccountId subscriptionId : Nat)
  (enabled exitsEnabled : Bool)
  exitProfile : Option ExitProfile

inductive PositionStatus where
  | open | closing | closed
deriving DecidableEq

/-- The statuses of `ACTIVE_POSITION_STATUSES`. -/
def PositionStatus.isActive : PositionStatus → Bool
  | .open | .closing => true
  | .closed => false

/-- A tracked position with the relations that are read with it. A quantity is the text of its number. -/
structure TrackedPosition where
  id : Nat
  tradingAccountId : Option Nat
  (symbol side qty : String)
  currentPrice : ℚ
  unrealizedPnLPct : Option ℚ
  status : PositionStatus
  securityId : Nat
  subscriptionId : Option Nat
  /-- The exit profile of the subscription. -/
  exitProfile : Option ExitProfile
  tradingAccountSubscription : Option AccountAssignment

inductive ExitManagementMode where
  | backendManaged | externalSignal
deriving DecidableEq

inductive ExitStateStatus where
  | watching | targetUnlocked | trailingStopSubmitting | trailingStopSubmitted | trailingStopFilled | trailingStopCanceled
  | trailingStopExpired | trailingStopRejected | trailingStopReplacedAttention | trailingStopDoneForDayAttention
  | trailingStopCalculatedAttention | trailingStopSubmitFailed | closed
deriving DecidableEq

structure PositionExitState where
  (id trackedPositionId : Nat)
  exitManagementModeSnapshot : ExitManagementMode
  status : ExitStateStatus
  targetUnlocked : Bool
  targetUnlockedAt : Option Int
  (targetUnlockedPrice targetUnlockedPnlPct highWaterMark trailStopPrice : Option ℚ)
  (exitProfileKey exitMode takeProfitBehavior : Option String)
  (targetPct trailingStopPct : Option ℚ)
  (trailBroker trailBrokerOrderId trailClientOrderId : Option String)
  trailOrderStatus : Option OrderStatus
  attentionRequired : Bool
  (attentionCode attentionMessage : Option String)
  (attentionAt attentionClearedAt : Option Int)

inductive IntentSource where
  | closePosition | exitEvaluator | other
deriving DecidableEq

inductive ExitVerificationOutcome where
  | positionNotFound | unexpectedShortPosition | quantityMismatch | reservedQuantity | conflictingOpenSellOrder
  | brokerStateUnavailable
deriving DecidableEq

/-- What is recorded as the reason of an intent; the last constructor is any other text. -/
inductive BlockReason where
  | delivery (classification : BrokerWriteDeliveryClassification) (detail : String)
  | exitVerification (outcome : ExitVerificationOutcome)
  | other (text : String)

structure OrderIntent where
  id : Nat
  source : IntentSource
  tradingAccountId : Nat
  trackedPositionId : Option Nat
  clientOrderId : Option String
  (symbol side orderType qty : String)
  status : OrderStatus
  blockReason : Option BlockReason
  lastSubmittedOrderSyncAt : Option Int
  updatedAt : Int

/-- An order of the broker `alpaca` as recorded locally. -/
structure BrokerOrder where
  (id orderIntentId tradingAccountId : Nat)
  (brokerOrderId clientOrderId : String)
  trackedPositionId : Option Nat
  (symbol side : String)
  status : OrderStatus

/-- An order as the broker reports it. -/
structure AlpacaOrder where
  (id clientOrderId symbol side type : String)
  status : OrderStatus
  (qty filledQty limitPrice stopPrice trailPrice trailPercent : Option String)

structure AlpacaPosition where
  (symbol side qty : String)
  qtyAvailable : Option String

/-- An account at the broker. -/
structure BrokerAccount where
  orders : List AlpacaOrder
  positions : List AlpacaPosition

end Rows

/-- What the client order id of a trailing stop is made of. -/
structure TrailName where
  symbol : String
  trackedPositionId : Nat
  targetUnlockedAt : Int

/-- Of a symbol, whose letters are ASCII. -/
def toUpperCase (text : String) : String := String.ofList (text.toList.map Char.toUpper)

section

variable (toISOString : Int → String)

/-- The digits of an instant, up to the second. -/
def compactDate (date : Int) : List Char :=
  ((toISOString date).toList.filter fun letter => !"-:.TZ".toList.contains letter).take 14

/-- The client order id before it is cut. -/
def TrailName.letters (name : TrailName) : List Char :=
  "ai-exit-trail-".toList ++ (toUpperCase name.symbol).toList ++ '-' :: (toString name.trackedPositionId).toList ++
    '-' :: compactDate toISOString name.targetUnlockedAt

def buildTrailingStopClientOrderId (name : TrailName) : String :=
  String.ofList ((name.letters toISOString).take 128)

end

def buildCloseClientOrderId (tradingAccountId trackedPositionId : Nat) : String :=
  String.ofList ((s!"ai-exit-close-{tradingAccountId}-{trackedPositionId}").toList.take 128)

section Store

inductive ExitOrderType where
  | market | trailingStop

/-- What a statement did to an exit state, or met at the broker. -/
inductive ExitEvent where
  /-- A position was opened, or its exit state was found missing. -/
  | created (trackedPositionId : Nat)
  | reset (trackedPositionId : Nat)
  | unlocked (trackedPositionId : Nat)
  | claimed (name : TrailName)
  /-- The status of a trailing order was recorded with the order. -/
  | recorded (name : TrailName) (status : OrderStatus)
  /-- The status of an order was recorded in the exit states that name it. -/
  | synced (clientOrderId : String) (status : OrderStatus) (trackedPositionIds : List Nat)
  | missing (trackedPositionId : Nat)
  | submitFailed (trackedPositionId : Nat)
  | closed (trackedPositionId : Nat)
  /-- A verified exit met an order at the broker under its client order id: its own, or an earlier one. -/
  | met (type : ExitOrderType) (clientOrderId : String) (brokerOrderId : String) (status : OrderStatus)
  /-- A verified exit met a local order under its client order id; the status is that at the broker. -/
  | metLocal (type : ExitOrderType) (clientOrderId : String) (brokerOrderId : Nat) (status : Option OrderStatus)
  /-- A verified exit was sent to the broker. -/
  | posted (clientOrderId : String)

structure ExitStore where
  positions : List TrackedPosition
  exitStates : List PositionExitState
  intents : List OrderIntent
  brokerOrders : List BrokerOrder
  broker : Nat → BrokerAccount
  log : List ExitEvent

namespace ExitStore

section

variable (store : ExitStore)

def record (event : ExitEvent) : ExitStore := { store with log := store.log ++ [event] }

def position (id : Nat) : Option TrackedPosition := store.positions.find? fun row => row.id == id

def exitState (trackedPositionId : Nat) : Option PositionExitState :=
  store.exitStates.find? fun row => row.trackedPositionId == trackedPositionId

/-- The local order of an account under a client order id. -/
def localOrder (tradingAccountId : Nat) (clientOrderId : String) : Option BrokerOrder :=
  store.brokerOrders.find? fun row => row.tradingAccountId == tradingAccountId && row.clientOrderId == clientOrderId

/-- The order of an account at the broker under a client order id. -/
def alpacaOrder (tradingAccountId : Nat) (clientOrderId : String) : Option AlpacaOrder :=
  (store.broker tradingAccountId).orders.find? fun order => order.clientOrderId == clientOrderId

def alpacaOrderById (tradingAccountId : Nat) (id : String) : Option AlpacaOrder :=
  (store.broker tradingAccountId).orders.find? fun order => order.id == id

def updatePositions (change : TrackedPosition → TrackedPosition) : ExitStore :=
  { store with positions := store.positions.map change }

def updateExitStates (change : PositionExitState → PositionExitState) : ExitStore :=
  { store with exitStates := store.exitStates.map change }

def updateIntents (change : OrderIntent → OrderIntent) : ExitStore :=
  { store with intents := store.intents.map change }

def updateBrokerOrders (change : BrokerOrder → BrokerOrder) : ExitStore :=
  { store with brokerOrders := store.brokerOrders.map change }

end

end ExitStore

inductive ExitError where
  | http (error : HttpError)
  /-- A `VerifiedExitPreSubmissionError`. -/
  | preSubmission (error : HttpError) (outcome : ExitVerificationOutcome)
      (deliveryClassification : BrokerWriteDeliveryClassification)
  /-- A `BrokerWriteDeliveryError`. -/
  | delivery (classification : BrokerWriteDeliveryClassification) (message : String)
  | plain (message : String)
  | databaseUnavailable

/-- `error.message` -/
def ExitError.message : ExitError → String
  | .http error | .preSubmission error _ _ => error.message
  | .delivery _ message | .plain message => message
  | .databaseUnavailable => "The database is unavailable."

abbrev ExitProgram := Program ExitStore ExitError

/-- A request to the broker fails, or answers from the account as it is. -/
def brokerRead {α : Type} (view : ExitStore → α) : ExitProgram α := do
  match ← (answer : ExitProgram (Option String)) with
  | some message => throw (.plain message)
  | none => read view

/-- The reads and the writes of another service, which may fail. -/
def elsewhere : ExitProgram Unit := do
  match ← (answer : ExitProgram (Option String)) with
  | some message => throw (.plain message)
  | none => return ()

end Store

end AiTrader.Exit
