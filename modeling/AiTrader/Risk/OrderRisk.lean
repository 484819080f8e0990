import Mathlib.Algebra.Order.Field.Basic
import Mathlib.Algebra.Order.Field.Rat
import Mathlib.Data.Nat.Cast.Order.Basic
import AiTrader.Risk.AllocationRisk
import AiTrader.Risk.DailyEntryWindow

/-! # The entry risk gate

`evaluateOrderRisk` compares the open positions, the pending entries and the requested entry with the limits of the
account, the symbol and the allocation. -/

namespace AiTrader.Risk

open Library Entry

structure BrokerOrder where
  orderIntentId : Nat
  side : String
  status : OrderStatus
  /-- `qty` and `filled_qty` of `rawBrokerJson`. -/
  qty : Option ℚ
  filledQty : ℚ

/-- A row of `EntryExposureClaim` of an intent. -/
structure ClaimState where
  orderIntentId : Option Nat
  status : ClaimStatus

section Usage

section

variable (order : OrderIntent)

/-- A block reason that is neither absent nor empty. -/
def blocked : Bool := order.blockReason.any (· ≠ "")

end

/-- The rows of the account that the usage query reads. -/
structure EntryExposure where
  positions : List TrackedPosition
  intents : List OrderIntent
  brokerOrders : List BrokerOrder
  claims : List ClaimState

end Usage

structure RuntimeTradingConfig where
  (tradingEnabled killSwitchEnabled : Bool)
  (maxDailyEntryOrders maxDailyEntryNotional maxOpenPositions maxSymbolOpenNotional : Option ℚ)

structure AccountRiskSettings where
  enabled : Bool
  (maxDailyEntryOrders maxDailyEntryNotional maxOpenPositions maxSymbolOpenNotional : Option ℚ)

/-- The limit is set and the value lies above it. -/
def above (limit : Option ℚ) (value : ℚ) : Bool := limit.any (decide <| · < value)

/-- The rule that blocks an order. -/
inductive RiskRule where
  | tradingEnabled | securityRegistered | securityEnabled | subscriptionExists | subscriptionEnabled | strategyEnabled
  | exitProfileEnabled | killSwitchEnabled | brokerTradingBlocked | entrySession (rule : String)
  | oneActivePositionPerSymbol | accountMaxDailyEntryOrdersExceeded | accountMaxOpenPositionsExceeded
  | accountMaxDeployableNotionalRequired | accountEntryNotionalRequired | accountMaxDailyEntryNotionalExceeded
  | accountMaxDeployableNotionalExceeded | accountMaxSymbolOpenNotionalExceeded
  | accountSubscriptionIdentityRequired | accountSubscriptionReservationRequired | accountSubscriptionReservedNotionalExceeded
  | allocation (rule : AllocationRule)

structure SubscriptionState where
  (enabled strategyEnabled exitProfileEnabled securityEnabled : Bool)

/-- An order with everything that the gate reads for it. -/
structure OrderRiskRequest where
  tradingAccountId : Nat
  symbol : String
  /-- A BUY whose signal type is `entry`. -/
  isEntryOrder : Bool
  subscriptionNamed : Bool
  (subscriptionId tradingAccountSubscriptionId : Option Nat)
  (qty notional limitPrice requestedNotionalOverride : Option ℚ)
  excludeOrderIntentId : Option Nat
  now : Int
  config : RuntimeTradingConfig
  subscription : Option SubscriptionState
  /-- Whether the security of the symbol is enabled; `none` when it is not registered. -/
  security : Option Bool
  tradingBlocked : Bool
  /-- The rule with which the session guard blocks, when it is enforced. -/
  sessionBlock : Option String
  settings : Option AccountRiskSettings
  maxDeployableNotional : Option ℚ
  tables : RiskTables
  brokerOrders : List BrokerOrder
  claims : List ClaimState

section

variable (request : OrderRiskRequest)

def OrderRiskRequest.exposure : EntryExposure :=
  ⟨request.tables.positions, request.tables.intents, request.brokerOrders, request.claims⟩

end

/-- `evaluateConfiguredHierarchyRisk` once the deployable ceiling is known. -/
def evaluateConfiguredHierarchyRisk (tables : RiskTables) (assignment : AccountSubscription)
    (requestedNotional : Option ℚ) : Option RiskRule :=
  if !(assignment.enabled && assignment.entriesEnabled) then none
  else
    match allocationOf tables assignment with
    | none => some (.allocation .accountSubscriptionAllocationRequired)
    | some allocation =>
      if !allocation.enabled then none
      else if !isCompleteAllocation allocation then some (.allocation .allocationLimitsIncomplete)
      else
        match assignment.reservedNotional with
        | none => some .accountSubscriptionReservationRequired
        | some reserved =>
          if requestedNotional.any (decide <| reserved < ·) then some .accountSubscriptionReservedNotionalExceeded
          else none

/-- The checks beneath the account. -/
def hierarchyRisk (request : OrderRiskRequest) (requestedNotional : Option ℚ) : Option RiskRule :=
  match request.subscriptionId, request.tradingAccountSubscriptionId with
  | some subscriptionId, some assignmentId =>
    match getAllocationRiskAccountSubscription request.tables request.tradingAccountId subscriptionId assignmentId with
    | none => some .accountSubscriptionIdentityRequired
    | some assignment =>
      (evaluateConfiguredHierarchyRisk request.tables assignment requestedNotional).or
        ((getAllocationRiskDetails request.tables request.tradingAccountId assignment requestedNotional
          request.excludeOrderIntentId).bind fun details =>
            (evaluateAllocationRisk details.1 requestedNotional details.2).map .allocation)
  | _, _ => some .accountSubscriptionIdentityRequired

/-- When the reservation admits the request, the other checks are the allocation decision. -/
theorem hierarchyRisk_eq_allocation {request : OrderRiskRequest} {requestedNotional : Option ℚ} {subscriptionId : Nat}
    {assignment : AccountSubscription} {reserved : ℚ} (named : request.subscriptionId = some subscriptionId)
    (identified : request.tradingAccountSubscriptionId = some assignment.id)
    (found : getAllocationRiskAccountSubscription request.tables request.tradingAccountId subscriptionId assignment.id =
      some assignment)
    (reservation : assignment.reservedNotional = some reserved)
    (admits : requestedNotional.any (decide <| reserved < ·) = false) :
    hierarchyRisk request requestedNotional =
      (gateAllocationDecision request.tables request.tradingAccountId subscriptionId assignment.id requestedNotional
        request.excludeOrderIntentId).bind fun decision => decision.blockedBy.map .allocation := by
  have configured : evaluateConfiguredHierarchyRisk request.tables assignment requestedNotional =
      (configuredAllocationRule assignment (allocationOf request.tables assignment)).map .allocation := by
    unfold evaluateConfiguredHierarchyRisk configuredAllocationRule
    split_ifs
    · rfl
    cases allocationOf request.tables assignment with
    | none => rfl
    | some allocation =>
      cases enabled : allocation.enabled <;> cases complete : isCompleteAllocation allocation <;>
        simp [enabled, complete, reservation, admits]
  unfold hierarchyRisk gateAllocationDecision
  rw [named, identified]
  dsimp only
  rw [found]
  cases assigned : allocationOf request.tables assignment <;>
    simp [getAllocationRiskDetails, assigned, configured, Option.map_or]

section

variable (exposure : EntryExposure)

end

section Soundness

variable {usage : EntryRiskUsage} {effective : EffectiveAccountEntryLimits} {symbol : String} {requested : ℚ}
  {requestedNotional limit : Option ℚ} {request : OrderRiskRequest} {daylight : Int → Bool} {exposure : EntryExposure}
  {tradingAccountId : Nat} {excludeOrderIntentId : Option Nat}

end Soundness

end AiTrader.Risk
