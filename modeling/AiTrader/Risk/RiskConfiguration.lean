import AiTrader.Risk.AllocationRisk

/-! # The risk configuration of an account

A change is laid over the stored configuration, and the result is checked as a whole. Amounts are exact rationals. -/

namespace AiTrader.Risk

section Source

inductive PositionSizingType where
  | fixedQty | maxNotional
deriving DecidableEq

inductive AccountRiskConfigurationViolationCode where
  | accountDeployableNotionalRequired
  | accountAllocationTotalExceeded
  | allocationLimitsIncomplete
  | allocationPositionLimitExceedsTotal
  | allocationReservedNotionalExceeded
  | allocationHasEntryEnabledSubscriptions
  | accountSubscriptionAllocationRequired
  | accountSubscriptionAllocationAccountMismatch
  | accountSubscriptionAllocationDisabled
  | accountSubscriptionReservationRequired
  | accountSubscriptionReservationExceedsPositionLimit
  | accountSubscriptionMaxNotionalExceedsReservation
  | accountSubscriptionMaxNotionalRequired
  | accountSubscriptionFixedQtyRequired
deriving DecidableEq

inductive ViolationEntityType where
  | tradingAccount | tradingAccountAllocation | tradingAccountSubscription
deriving DecidableEq

inductive ViolationValue where
  | number (value : ℚ)
  | boolean (value : Bool)
  | null
deriving DecidableEq

def ViolationValue.ofNumber : Option ℚ → ViolationValue
  | some value => .number value
  | none => .null

/-- The outer option of an optional field is whether the field is there, the inner one is `null`. -/
structure AccountRiskConfigurationViolation where
  code : AccountRiskConfigurationViolationCode
  message : String
  entityType : ViolationEntityType
  entityId : Option Int
  path : String
  tradingAccountId : Int
  allocationId : Option (Option Int) := none
  accountSubscriptionId : Option (Option Int) := none
  actualValue : Option ViolationValue := none
  limitValue : Option ℚ := none
deriving DecidableEq

structure SubscriptionConfiguration where
  id : Int
  allocationId : Option Int
  (enabled entriesEnabled : Bool)
  sizingType : PositionSizingType
  (fixedQty maxPositionNotional reservedNotional : Option ℚ)
deriving DecidableEq

structure AllocationLimits where
  id : Int
  enabled : Bool
  (maxAllocatedNotional maxOpenPositions maxPositionNotional : Option ℚ)
deriving DecidableEq

structure AllocationConfiguration extends AllocationLimits where
  accountSubscriptions : List SubscriptionConfiguration

/-- The account with its allocations and the subscriptions without an allocation. -/
structure ConfigurationState where
  id : Int
  maxDeployableNotional : Option ℚ
  allocations : List AllocationConfiguration
  accountSubscriptions : List SubscriptionConfiguration

/-- An absent inner value is `undefined`. -/
structure AccountCandidate where
  maxDeployableNotional : Option (Option ℚ)

structure AllocationCandidate where
  id : Option Int
  enabled : Bool
  (maxAllocatedNotional maxOpenPositions maxPositionNotional : Option ℚ)

structure SubscriptionCandidate where
  (id allocationId : Option Int)
  (enabled entriesEnabled : Bool)
  sizingType : PositionSizingType
  (fixedQty maxPositionNotional reservedNotional : Option ℚ)

structure AccountRiskConfigurationCandidate where
  account : Option AccountCandidate := none
  allocation : Option AllocationCandidate := none
  accountSubscription : Option SubscriptionCandidate := none

def isPositive (value : Option ℚ) : Bool := value.any (decide <| 0 < ·)

/-- A positive limit is exceeded. -/
def exceedsPositive (value : ℚ) (limit : Option ℚ) : Bool := isPositive limit && limit.any (decide <| · < value)

/-- The row of an allocation with the identifier it has or will have. -/
def AllocationCandidate.limits (candidate : AllocationCandidate) (id : Int) : AllocationLimits :=
  ⟨id, candidate.enabled, candidate.maxAllocatedNotional, candidate.maxOpenPositions, candidate.maxPositionNotional⟩

/-- The row of a subscription with the identifier it has or will have. -/
def SubscriptionCandidate.row (candidate : SubscriptionCandidate) (id : Int) : SubscriptionConfiguration :=
  ⟨id, candidate.allocationId, candidate.enabled, candidate.entriesEnabled, candidate.sizingType, candidate.fixedQty,
    candidate.maxPositionNotional, candidate.reservedNotional⟩

/-- Replace the allocation of the candidate, which keeps its subscriptions, or append it. -/
def placeAllocation (candidate : AllocationCandidate) : List AllocationConfiguration → List AllocationConfiguration
  | [] => [⟨candidate.limits (candidate.id.getD (-1)), []⟩]
  | allocation :: rest =>
    if some allocation.id = candidate.id then
      ⟨candidate.limits (candidate.id.getD (-1)), allocation.accountSubscriptions⟩ :: rest
    else allocation :: placeAllocation candidate rest

/-- Push a subscription to the first allocation that it names; `none` when there is none. -/
def pushSubscription (next : SubscriptionConfiguration) :
    List AllocationConfiguration → Option (List AllocationConfiguration)
  | [] => none
  | allocation :: rest =>
    if some allocation.id = next.allocationId then
      some ({ allocation with accountSubscriptions := allocation.accountSubscriptions ++ [next] } :: rest)
    else (pushSubscription next rest).map (allocation :: ·)

/-- The subscription of the candidate is taken out wherever it is, and put where it belongs. -/
def placeSubscription (candidate : SubscriptionCandidate) (allocations : List AllocationConfiguration)
    (unassigned : List SubscriptionConfiguration) : List AllocationConfiguration × List SubscriptionConfiguration :=
  let others := allocations.map fun allocation =>
    { allocation with
      accountSubscriptions := allocation.accountSubscriptions.filter fun subscription => some subscription.id ≠ candidate.id }
  let remaining := unassigned.eraseP fun subscription => some subscription.id = candidate.id
  let next := candidate.row (candidate.id.getD (-1))
  match pushSubscription next others with
  | some pushed => (pushed, remaining)
  | none => (others, remaining ++ [next])

def applyCandidate (state : ConfigurationState) (candidate : AccountRiskConfigurationCandidate) : ConfigurationState :=
  let allocations := match candidate.allocation with
    | some allocation => placeAllocation allocation state.allocations
    | none => state.allocations
  let placed := match candidate.accountSubscription with
    | some subscription => placeSubscription subscription allocations state.accountSubscriptions
    | none => (allocations, state.accountSubscriptions)
  { id := state.id
    maxDeployableNotional := (candidate.account.bind (·.maxDeployableNotional)).getD state.maxDeployableNotional
    allocations := placed.1
    accountSubscriptions := placed.2 }

/-- The subscription may enter positions. -/
def SubscriptionConfiguration.entryEnabled (subscription : SubscriptionConfiguration) : Bool :=
  subscription.enabled && subscription.entriesEnabled

def SubscriptionConfiguration.reserved (subscription : SubscriptionConfiguration) : ℚ :=
  subscription.reservedNotional.getD 0

section

variable (next : ConfigurationState)

def ConfigurationState.enabledAllocations : List AllocationConfiguration :=
  next.allocations.filter (·.enabled)

def ConfigurationState.subscriptions : List SubscriptionConfiguration :=
  next.accountSubscriptions ++ next.allocations.flatMap (·.accountSubscriptions)

def ConfigurationState.enabledAllocatedNotional : ℚ :=
  (next.enabledAllocations.map fun allocation => allocation.maxAllocatedNotional.getD 0).sum

def ConfigurationState.hasActiveEntries : Bool :=
  next.subscriptions.any (·.entryEnabled)

end

/-- A row that is not stored yet has the placeholder -1. -/
def entityId (id : Int) : Option Int := if id < 0 then none else some id

def accountViolations (next : ConfigurationState) : List AccountRiskConfigurationViolation :=
  if (!next.enabledAllocations.isEmpty || next.hasActiveEntries) && !isPositive next.maxDeployableNotional then
    [{ code := .accountDeployableNotionalRequired
       message := "Trading account max deployable notional is required for enabled allocations."
       entityType := .tradingAccount
       entityId := some next.id
       path := "maxDeployableNotional"
       tradingAccountId := next.id
       actualValue := some (.ofNumber next.maxDeployableNotional) }]
  else if exceedsPositive next.enabledAllocatedNotional next.maxDeployableNotional then
    [{ code := .accountAllocationTotalExceeded
       message := "Enabled allocation budgets exceed the account deployable notional."
       entityType := .tradingAccount
       entityId := some next.id
       path := "allocations.enabled.maxAllocatedNotional"
       tradingAccountId := next.id
       actualValue := some (.number next.enabledAllocatedNotional)
       limitValue := next.maxDeployableNotional }]
  else []

def AllocationConfiguration.activeSubscriptions (allocation : AllocationConfiguration) : List SubscriptionConfiguration :=
  allocation.accountSubscriptions.filter (·.entryEnabled)

def AllocationConfiguration.reservedTotal (allocation : AllocationConfiguration) : ℚ :=
  (allocation.activeSubscriptions.map (·.reserved)).sum

/-- The required limits that the allocation lacks. -/
def AllocationLimits.incompleteFields (allocation : AllocationLimits) : List String :=
  [("maxAllocatedNotional", allocation.maxAllocatedNotional), ("maxOpenPositions", allocation.maxOpenPositions),
    ("maxPositionNotional", allocation.maxPositionNotional)].filterMap fun (field, value) =>
      if isPositive value then none else some field

def allocationViolations (tradingAccountId : Int) (allocation : AllocationConfiguration) :
    List AccountRiskConfigurationViolation :=
  (if !allocation.enabled && !allocation.activeSubscriptions.isEmpty then
    [{ code := .allocationHasEntryEnabledSubscriptions
       message := "Allocation cannot be disabled while assigned subscriptions remain enabled for entries."
       entityType := .tradingAccountAllocation
       entityId := entityId allocation.id
       path := "enabled"
       tradingAccountId := tradingAccountId
       allocationId := some (entityId allocation.id)
       actualValue := some (.boolean false) }]
   else []) ++
  (if allocation.enabled && !allocation.incompleteFields.isEmpty then
    [{ code := .allocationLimitsIncomplete
       message := "Enabled allocation is missing required limits: " ++ ", ".intercalate allocation.incompleteFields ++ "."
       entityType := .tradingAccountAllocation
       entityId := entityId allocation.id
       path := ",".intercalate allocation.incompleteFields
       tradingAccountId := tradingAccountId
       allocationId := some (entityId allocation.id) }]
   else []) ++
  (if allocation.maxPositionNotional.any fun limit => decide (0 < limit) && exceedsPositive limit allocation.maxAllocatedNotional
   then
    [{ code := .allocationPositionLimitExceedsTotal
       message := "Allocation per-position limit exceeds its total budget."
       entityType := .tradingAccountAllocation
       entityId := entityId allocation.id
       path := "maxPositionNotional"
       tradingAccountId := tradingAccountId
       allocationId := some (entityId allocation.id)
       actualValue := some (.ofNumber allocation.maxPositionNotional)
       limitValue := allocation.maxAllocatedNotional }]
   else []) ++
  (if exceedsPositive allocation.reservedTotal allocation.maxAllocatedNotional then
    [{ code := .allocationReservedNotionalExceeded
       message := "Entry-enabled subscription reservations exceed the allocation budget."
       entityType := .tradingAccountAllocation
       entityId := entityId allocation.id
       path := "accountSubscriptions.reservedNotional"
       tradingAccountId := tradingAccountId
       allocationId := some (entityId allocation.id)
       actualValue := some (.number allocation.reservedTotal)
       limitValue := allocation.maxAllocatedNotional }]
   else [])

/-- The allocation that a subscription names. -/
def findAllocation (allocations : List AllocationLimits) (allocationId : Option Int) : Option AllocationLimits :=
  allocations.find? fun allocation => some allocation.id = allocationId

section

variable (tradingAccountId : Int)

/-- What is wrong with the allocation of an entry-enabled subscription. -/
def assignmentViolations (allocation : Option AllocationLimits)
    (subscription : SubscriptionConfiguration) : List AccountRiskConfigurationViolation :=
  match subscription.allocationId, allocation with
  | none, _ =>
    [{ code := .accountSubscriptionAllocationRequired
       message := "An enabled, entry-enabled account subscription requires an allocation."
       entityType := .tradingAccountSubscription
       entityId := entityId subscription.id
       path := "allocationId"
       tradingAccountId := tradingAccountId
       accountSubscriptionId := some (entityId subscription.id)
       actualValue := some .null }]
  | some allocationId, none =>
    [{ code := .accountSubscriptionAllocationAccountMismatch
       message := "Assigned allocation must belong to the same trading account."
       entityType := .tradingAccountSubscription
       entityId := entityId subscription.id
       path := "allocationId"
       tradingAccountId := tradingAccountId
       allocationId := some (some allocationId)
       accountSubscriptionId := some (entityId subscription.id)
       actualValue := some (.number allocationId) }]
  | some _, some allocation =>
    if allocation.enabled then []
    else
      [{ code := .accountSubscriptionAllocationDisabled
         message := "Assigned allocation is disabled for new entries."
         entityType := .tradingAccountSubscription
         entityId := entityId subscription.id
         path := "allocationId"
         tradingAccountId := tradingAccountId
         allocationId := some (some allocation.id)
         accountSubscriptionId := some (entityId subscription.id)
         actualValue := some (.number allocation.id) }]

/-- What is wrong with the reservation of an entry-enabled subscription. -/
def reservationViolations (allocation : Option AllocationLimits)
    (subscription : SubscriptionConfiguration) : List AccountRiskConfigurationViolation :=
  (if isPositive subscription.reservedNotional then []
   else
    [{ code := .accountSubscriptionReservationRequired
       message := "An enabled, entry-enabled account subscription requires reserved notional."
       entityType := .tradingAccountSubscription
       entityId := entityId subscription.id
       path := "reservedNotional"
       tradingAccountId := tradingAccountId
       allocationId := some subscription.allocationId
       accountSubscriptionId := some (entityId subscription.id)
       actualValue := some (.ofNumber subscription.reservedNotional) }]) ++
  (match allocation with
   | some allocation =>
    if subscription.reservedNotional.any fun reserved =>
        decide (0 < reserved) && exceedsPositive reserved allocation.maxPositionNotional then
      [{ code := .accountSubscriptionReservationExceedsPositionLimit
         message := "Subscription reservation exceeds the allocation per-position limit."
         entityType := .tradingAccountSubscription
         entityId := entityId subscription.id
         path := "reservedNotional"
         tradingAccountId := tradingAccountId
         allocationId := some (some allocation.id)
         accountSubscriptionId := some (entityId subscription.id)
         actualValue := some (.ofNumber subscription.reservedNotional)
         limitValue := allocation.maxPositionNotional }]
    else []
   | none => [])

/-- What is wrong with the sizing of an entry-enabled subscription. -/
def sizingViolations (subscription : SubscriptionConfiguration) :
    List AccountRiskConfigurationViolation :=
  match subscription.sizingType with
  | .fixedQty =>
    if isPositive subscription.fixedQty then []
    else
      [{ code := .accountSubscriptionFixedQtyRequired
         message := "FIXED_QTY sizing requires fixed quantity."
         entityType := .tradingAccountSubscription
         entityId := entityId subscription.id
         path := "fixedQty"
         tradingAccountId := tradingAccountId
         allocationId := some subscription.allocationId
         accountSubscriptionId := some (entityId subscription.id)
         actualValue := some (.ofNumber subscription.fixedQty) }]
  | .maxNotional =>
    if !isPositive subscription.maxPositionNotional then
      [{ code := .accountSubscriptionMaxNotionalRequired
         message := "MAX_NOTIONAL sizing requires max position notional."
         entityType := .tradingAccountSubscription
         entityId := entityId subscription.id
         path := "maxPositionNotional"
         tradingAccountId := tradingAccountId
         allocationId := some subscription.allocationId
         accountSubscriptionId := some (entityId subscription.id)
         actualValue := some (.ofNumber subscription.maxPositionNotional) }]
    else if subscription.maxPositionNotional.any (exceedsPositive · subscription.reservedNotional) then
      [{ code := .accountSubscriptionMaxNotionalExceedsReservation
         message := "Subscription max position notional exceeds its reservation."
         entityType := .tradingAccountSubscription
         entityId := entityId subscription.id
         path := "maxPositionNotional"
         tradingAccountId := tradingAccountId
         allocationId := some subscription.allocationId
         accountSubscriptionId := some (entityId subscription.id)
         actualValue := some (.ofNumber subscription.maxPositionNotional)
         limitValue := subscription.reservedNotional }]
    else []

def subscriptionViolations (allocations : List AllocationLimits)
    (subscription : SubscriptionConfiguration) : List AccountRiskConfigurationViolation :=
  if subscription.entryEnabled then
    let allocation := findAllocation allocations subscription.allocationId
    assignmentViolations tradingAccountId allocation subscription ++
      reservationViolations tradingAccountId allocation subscription ++
      sizingViolations tradingAccountId subscription
  else []

end

/-- The limits of the allocations without their subscriptions. -/
def ConfigurationState.limits (next : ConfigurationState) : List AllocationLimits :=
  next.allocations.map (·.toAllocationLimits)

/-- The violations of a whole configuration. -/
def configurationViolations (next : ConfigurationState) : List AccountRiskConfigurationViolation :=
  accountViolations next ++ next.allocations.flatMap (allocationViolations next.id) ++
    next.subscriptions.flatMap (subscriptionViolations next.id next.limits)

section

variable (state : ConfigurationState)

def evaluateAccountRiskConfiguration (candidate : AccountRiskConfigurationCandidate) :
    List AccountRiskConfigurationViolation :=
  configurationViolations (applyCandidate state candidate)

/-- The allocations that the change touches: the one it names, and the one the subscription leaves. -/
def relevantAllocationIds (candidate : AccountRiskConfigurationCandidate) : List (Option Int) :=
  (candidate.allocation.map (·.id)).toList ++
    match candidate.accountSubscription with
    | none => []
    | some subscription =>
      subscription.allocationId ::
        ((state.subscriptions.find? fun item => some item.id = subscription.id).map (·.allocationId)).toList

/-- The check reports this violation. -/
def isRelevant (candidate : AccountRiskConfigurationCandidate)
    (item : AccountRiskConfigurationViolation) : Bool :=
  if candidate.account.isSome then item.entityType == .tradingAccount
  else if item.entityType == .tradingAccount then true
  else
    match candidate.accountSubscription, item.entityType with
    | some subscription, .tradingAccountSubscription => item.entityId == subscription.id
    | _, _ => (relevantAllocationIds state candidate).contains (item.allocationId.getD none)

end

/-- `none` when the account does not exist. -/
def validateAccountRiskConfiguration (state : Option ConfigurationState) (candidate : AccountRiskConfigurationCandidate) :
    Option (List AccountRiskConfigurationViolation) :=
  state.map fun state =>
    let violations := evaluateAccountRiskConfiguration state candidate
    if candidate.account.isNone && candidate.allocation.isNone && candidate.accountSubscription.isNone then violations
    else violations.filter (isRelevant state candidate)

/-- The request fails with status 409. -/
structure RiskConfigurationConflict where
  message : String
  violations : List AccountRiskConfigurationViolation
deriving DecidableEq

def assertAccountRiskConfiguration (state : Option ConfigurationState) (candidate : AccountRiskConfigurationCandidate) :
    Except RiskConfigurationConflict Bool :=
  match validateAccountRiskConfiguration state candidate with
  | none => .ok false
  | some [] => .ok true
  | some violations => .error ⟨"Account risk configuration is invalid.", violations⟩

end Source

end AiTrader.Risk
