import Mathlib.Data.Rat.Init
import Mathlib.Algebra.Order.Ring.Rat
import AiTrader.Library.Selection
import AiTrader.Entry.LifecycleStatus

/-! # Allocation risk in the gate and in the preview

The gate and the entry preview add up what an allocation carries with queries of their own. Amounts are exact rationals.
-/

namespace AiTrader.Risk

open Library Entry

structure TradingAccountAllocation where
  (id tradingAccountId : Nat)
  enabled : Bool
  (maxAllocatedNotional maxOpenPositions maxPositionNotional : Option ℚ)
deriving DecidableEq

/-- A row of `TradingAccountSubscription`. -/
structure AccountSubscription where
  (id tradingAccountId subscriptionId : Nat)
  allocationId : Option Nat
  (enabled entriesEnabled : Bool)
  reservedNotional : Option ℚ
deriving DecidableEq

inductive PositionStatus where
  | open_ | closing | closed
deriving DecidableEq

structure TrackedPosition where
  id : Nat
  tradingAccountId : Option Nat
  symbol : String
  status : PositionStatus
  (subscriptionId tradingAccountSubscriptionId : Option Nat)
  (marketValue costBasis : ℚ)

structure OrderIntent where
  id : Nat
  tradingAccountId : Option Nat
  (symbol side : String)
  status : OrderStatus
  blockReason : Option String
  (trackedPositionId subscriptionId tradingAccountSubscriptionId : Option Nat)
  (notional qty limitPrice : Option ℚ)
  /-- `accountSubscriptionSizing.estimatedNotional` of `rawRequestJson` when it is a number. -/
  sizingEstimatedNotional : Option ℚ
  createdAt : Int

/-- The tables with their keys and foreign keys. -/
structure RiskTables where
  allocations : List TradingAccountAllocation
  accountSubscriptions : List AccountSubscription
  positions : List TrackedPosition
  intents : List OrderIntent
  allocationKey : ∀ first ∈ allocations, ∀ second ∈ allocations, first.id = second.id → first = second
  accountSubscriptionKey : ∀ first ∈ accountSubscriptions, ∀ second ∈ accountSubscriptions,
    first.id = second.id → first = second
  /-- The allocation of an assignment belongs to its account. -/
  allocationOwner : ∀ assignment ∈ accountSubscriptions, ∀ id, assignment.allocationId = some id →
    ∃ allocation ∈ allocations, allocation.id = id ∧ allocation.tradingAccountId = assignment.tradingAccountId

section Source

def activePositionStatuses : List PositionStatus := [.open_, .closing]

/-- The entry statuses of the gate. -/
def gateEntryOrderStatuses : List OrderStatus :=
  [.pending, .submitting, .submitted, .new, .accepted, .acceptedForBidding, .pendingNew, .partiallyFilled, .filled]

/-- The entry statuses of the preview. -/
def previewEntryOrderStatuses : List OrderStatus := [.pending, .submitted, .filled]

def getPositionExposure (position : TrackedPosition) : ℚ :=
  |if position.marketValue ≠ 0 then position.marketValue else position.costBasis|

section

variable (order : OrderIntent)

def getAccountSubscriptionSizingEstimatedNotional : Option ℚ :=
  order.sizingEstimatedNotional.filter (decide <| 0 < ·)

def getOrderIntentEstimatedNotional : Option ℚ :=
  match order.notional, order.qty, order.limitPrice with
  | some notional, _, _ => some notional
  | none, some qty, some limitPrice => some (qty * limitPrice)
  | _, _, _ => getAccountSubscriptionSizingEstimatedNotional order

def intentNotional : ℚ := (getOrderIntentEstimatedNotional order).getD 0

end

structure AllocationRiskUsage where
  activePositionCount : Nat
  activeSymbols : List String
  openNotional : ℚ
  pendingEntryOrderCount : Nat
  (pendingEntryNotional currentAllocatedNotional : ℚ)
  projectedAllocatedNotional : Option ℚ

/-- The usage over the positions and the intents that a reader selects. -/
def allocationUsage (countsPosition : TrackedPosition → Bool) (countsIntent : OrderIntent → Bool) (tables : RiskTables)
    (requestedNotional : Option ℚ) : AllocationRiskUsage :=
  let activePositions := tables.positions.filter countsPosition
  let openNotional := Selection.weigh getPositionExposure countsPosition tables.positions
  let pendingEntryNotional := Selection.weigh intentNotional countsIntent tables.intents
  { activePositionCount := activePositions.length
    activeSymbols := (activePositions.map (·.symbol)).eraseDups
    openNotional
    pendingEntryOrderCount := (tables.intents.filter countsIntent).length
    pendingEntryNotional
    currentAllocatedNotional := openNotional + pendingEntryNotional
    projectedAllocatedNotional := requestedNotional.map (openNotional + pendingEntryNotional + ·) }

inductive AllocationRule where
  | accountSubscriptionAllocationRequired | allocationLimitsIncomplete | allocationDisabled | maxPositionNotionalExceeded | maxOpenPositionsExceeded | maxAllocatedNotionalExceeded

def AllocationRule.code : AllocationRule → String
  | .accountSubscriptionAllocationRequired => "account_subscription_allocation_required"
  | .allocationLimitsIncomplete => "allocation_limits_incomplete"
  | .allocationDisabled => "allocation_disabled"
  | .maxPositionNotionalExceeded => "allocation_max_position_notional_exceeded"
  | .maxOpenPositionsExceeded => "allocation_max_open_positions_exceeded"
  | .maxAllocatedNotionalExceeded => "allocation_max_allocated_notional_exceeded"

def AllocationRule.message : AllocationRule → String
  | .accountSubscriptionAllocationRequired =>
    "Entry-enabled account subscription is not assigned to an allocation. New entries are blocked."
  | .allocationLimitsIncomplete => "Assigned allocation has incomplete risk limits. New entries are blocked."
  | .allocationDisabled => "Allocation bucket is disabled for new entries."
  | .maxPositionNotionalExceeded => "Allocation per-position notional limit would be exceeded."
  | .maxOpenPositionsExceeded => "Allocation maximum open position limit reached."
  | .maxAllocatedNotionalExceeded => "Allocation allocated notional limit would be exceeded."

def AllocationRule.statusCode : AllocationRule → Nat
  | .allocationDisabled => 403
  | _ => 409

/-- The first limit of the allocation that the usage and the request break; `none` when the entry is allowed. -/
def evaluateAllocationRisk (allocation : TradingAccountAllocation) (requestedNotional : Option ℚ)
    (usage : AllocationRiskUsage) : Option AllocationRule :=
  if !allocation.enabled then some .allocationDisabled
  else if requestedNotional.any fun requested => allocation.maxPositionNotional.any (decide <| · < requested) then
    some .maxPositionNotionalExceeded
  else if allocation.maxOpenPositions.any (decide <| · ≤ (usage.activePositionCount : ℚ)) then
    some .maxOpenPositionsExceeded
  else if usage.projectedAllocatedNotional.any fun projected =>
      allocation.maxAllocatedNotional.any (decide <| · < projected) then
    some .maxAllocatedNotionalExceeded
  else none

/-- The usage of the assigned allocation and the rule that blocks the entry. -/
structure AllocationDecision where
  usage : Option AllocationRiskUsage
  blockedBy : Option AllocationRule

section

variable (tables : RiskTables)

/-- The row belongs to an assignment of the allocation. -/
def assignedTo (allocationId : Nat) (tradingAccountSubscriptionId : Option Nat) : Bool :=
  tables.accountSubscriptions.any fun assignment =>
    tradingAccountSubscriptionId == some assignment.id && assignment.allocationId == some allocationId

def gateCountsPosition (tradingAccountId allocationId : Nat) (position : TrackedPosition) : Bool :=
  position.tradingAccountId == some tradingAccountId && activePositionStatuses.contains position.status &&
    assignedTo tables allocationId position.tradingAccountSubscriptionId

def gateCountsIntent (tradingAccountId allocationId : Nat) (excludeOrderIntentId : Option Nat)
    (intent : OrderIntent) : Bool :=
  intent.tradingAccountId == some tradingAccountId && intent.side == "buy" && intent.trackedPositionId.isNone &&
    gateEntryOrderStatuses.contains intent.status && excludeOrderIntentId != some intent.id &&
    assignedTo tables allocationId intent.tradingAccountSubscriptionId

/-- The assignment named by an entry. -/
def getAllocationRiskAccountSubscription (tradingAccountId subscriptionId assignmentId : Nat) :
    Option AccountSubscription :=
  tables.accountSubscriptions.find? fun assignment => assignment.tradingAccountId == tradingAccountId &&
    assignment.subscriptionId == subscriptionId && assignment.id == assignmentId

/-- The allocation of an assignment. -/
def allocationOf (assignment : AccountSubscription) : Option TradingAccountAllocation :=
  tables.allocations.find? fun allocation => assignment.allocationId == some allocation.id

end

def isCompleteAllocation (allocation : TradingAccountAllocation) : Bool :=
  allocation.maxAllocatedNotional.isSome && allocation.maxOpenPositions.isSome && allocation.maxPositionNotional.isSome

/-- What `evaluateConfiguredHierarchyRisk` asks of the allocation of an assignment that takes entries. -/
def configuredAllocationRule (assignment : AccountSubscription) (allocation : Option TradingAccountAllocation) :
    Option AllocationRule :=
  if !(assignment.enabled && assignment.entriesEnabled) then none
  else
    match allocation with
    | none => some .accountSubscriptionAllocationRequired
    | some allocation =>
      if allocation.enabled && !isCompleteAllocation allocation then some .allocationLimitsIncomplete else none

section

variable (tables : RiskTables)

/-- The allocation of an assignment with what it carries. -/
def getAllocationRiskDetails (tradingAccountId : Nat) (assignment : AccountSubscription)
    (requestedNotional : Option ℚ) (excludeOrderIntentId : Option Nat) :
    Option (TradingAccountAllocation × AllocationRiskUsage) :=
  (allocationOf tables assignment).map fun allocation =>
    (allocation, allocationUsage (gateCountsPosition tables tradingAccountId allocation.id)
      (gateCountsIntent tables tradingAccountId allocation.id excludeOrderIntentId) tables requestedNotional)

/-- The allocation part of `evaluateOrderRisk`; `none` when it does not find the assignment. -/
def gateAllocationDecision (tradingAccountId subscriptionId assignmentId : Nat)
    (requestedNotional : Option ℚ) (excludeOrderIntentId : Option Nat) : Option AllocationDecision :=
  (getAllocationRiskAccountSubscription tables tradingAccountId subscriptionId assignmentId).map fun assignment =>
    let details := getAllocationRiskDetails tables tradingAccountId assignment requestedNotional excludeOrderIntentId
    { usage := details.map (·.2)
      blockedBy := (configuredAllocationRule assignment (details.map (·.1))).or
        (details.bind fun details => evaluateAllocationRisk details.1 requestedNotional details.2) }

/-- The assignments of the allocation in the account. -/
def allocationAccountSubscriptions (tradingAccountId allocationId : Nat) : List AccountSubscription :=
  tables.accountSubscriptions.filter fun assignment =>
    assignment.tradingAccountId == tradingAccountId && assignment.allocationId == some allocationId

end

/-- The row names one of the assignments or one of their subscriptions. -/
def allocationMembership (members : List AccountSubscription) (tradingAccountSubscriptionId subscriptionId : Option Nat) :
    Bool :=
  members.any (tradingAccountSubscriptionId == some ·.id) || members.any (subscriptionId == some ·.subscriptionId)

section

variable (tables : RiskTables)

def previewCountsPosition (tradingAccountId allocationId : Nat) (position : TrackedPosition) : Bool :=
  position.tradingAccountId == some tradingAccountId && activePositionStatuses.contains position.status &&
    allocationMembership (allocationAccountSubscriptions tables tradingAccountId allocationId)
      position.tradingAccountSubscriptionId position.subscriptionId

def previewCountsIntent (tradingAccountId allocationId : Nat) (intent : OrderIntent) : Bool :=
  intent.tradingAccountId == some tradingAccountId && intent.side == "buy" &&
    previewEntryOrderStatuses.contains intent.status &&
    allocationMembership (allocationAccountSubscriptions tables tradingAccountId allocationId)
      intent.tradingAccountSubscriptionId intent.subscriptionId

/-- The assignment of a previewed subscription. -/
def previewAccountSubscription (tradingAccountId subscriptionId : Nat) : Option AccountSubscription :=
  tables.accountSubscriptions.find? fun assignment =>
    assignment.tradingAccountId == tradingAccountId && assignment.subscriptionId == subscriptionId

/-- Without an allocation the preview allows the entry unchecked. -/
def getAllocationRiskPreview (assignment : AccountSubscription) (requestedNotional : Option ℚ) :
    AllocationDecision :=
  match allocationOf tables assignment with
  | none => ⟨none, none⟩
  | some allocation =>
    let usage := allocationUsage (previewCountsPosition tables assignment.tradingAccountId allocation.id)
      (previewCountsIntent tables assignment.tradingAccountId allocation.id) tables requestedNotional
    ⟨some usage, evaluateAllocationRisk allocation requestedNotional usage⟩

end

end Source

section Agreement

variable {tables : RiskTables} {tradingAccountId subscriptionId : Nat} {assignment : AccountSubscription}
  {allocation : TradingAccountAllocation}

/-- The used notional, the used slots, and whether the entry is allowed. -/
def AllocationDecision.answer (decision : AllocationDecision) : Option ℚ × Option Nat × Bool :=
  (decision.usage.map (·.currentAllocatedNotional), decision.usage.map (·.activePositionCount), decision.blockedBy.isNone)

/-- The gate takes an allocation decision, with the answer of the preview. -/
def Agree (preview : AllocationDecision) (gate : Option AllocationDecision) : Prop :=
  gate.map AllocationDecision.answer = some preview.answer

instance (preview : AllocationDecision) (gate : Option AllocationDecision) : Decidable (Agree preview gate) :=
  inferInstanceAs (Decidable (_ = _))

/-- An intent with an estimated notional that one of the queries selects and the other does not. -/
def countedByOne (tables : RiskTables) (tradingAccountId allocationId : Nat) (intent : OrderIntent) : Bool :=
  previewCountsIntent tables tradingAccountId allocationId intent !=
      gateCountsIntent tables tradingAccountId allocationId none intent &&
    decide (intentNotional intent ≠ 0)

/-- An assignment that takes entries has an allocation, complete while enabled, and no position or intent with a notional is
selected by one query only. -/
structure CountedAlike (tables : RiskTables) (assignment : AccountSubscription) : Prop where
  configured : assignment.enabled = true → assignment.entriesEnabled = true →
    ∃ allocation, allocationOf tables assignment = some allocation ∧
      (allocation.enabled = true → isCompleteAllocation allocation = true)
  positions : ∀ allocation, allocationOf tables assignment = some allocation → ∀ position ∈ tables.positions,
    previewCountsPosition tables assignment.tradingAccountId allocation.id position = true →
      gateCountsPosition tables assignment.tradingAccountId allocation.id position = true
  intents : ∀ allocation, allocationOf tables assignment = some allocation → ∀ intent ∈ tables.intents,
    countedByOne tables assignment.tradingAccountId allocation.id intent = false

section

variable (found : previewAccountSubscription tables tradingAccountId subscriptionId = some assignment)
include found

theorem previewAccountSubscription_spec :
    assignment ∈ tables.accountSubscriptions ∧ assignment.tradingAccountId = tradingAccountId ∧
      assignment.subscriptionId = subscriptionId := by
  have named := List.find?_some found
  simp only [Bool.and_eq_true, beq_iff_eq] at named
  exact ⟨List.mem_of_find?_eq_some found, named⟩

theorem getAllocationRiskAccountSubscription_eq :
    getAllocationRiskAccountSubscription tables tradingAccountId subscriptionId assignment.id = some assignment := by
  obtain ⟨member, account, subscription⟩ := previewAccountSubscription_spec found
  unfold getAllocationRiskAccountSubscription
  cases named : tables.accountSubscriptions.find? fun other => other.tradingAccountId == tradingAccountId &&
      other.subscriptionId == subscriptionId && other.id == assignment.id with
  | none =>
    have missed := List.find?_eq_none.mp named assignment member
    exact absurd (by simp [account, subscription]) missed
  | some other =>
    have same := List.find?_some named
    simp only [Bool.and_eq_true, beq_iff_eq] at same
    rw [tables.accountSubscriptionKey other (List.mem_of_find?_eq_some named) assignment member same.2]

end

theorem allocationOf_account (member : assignment ∈ tables.accountSubscriptions)
    (assigned : allocationOf tables assignment = some allocation) :
    allocation.tradingAccountId = assignment.tradingAccountId ∧ allocation ∈ tables.allocations := by
  have listed := List.mem_of_find?_eq_some assigned
  have named := List.find?_some assigned
  simp only [beq_iff_eq] at named
  obtain ⟨owner, ownerListed, same, account⟩ := tables.allocationOwner assignment member allocation.id named
  rw [tables.allocationKey owner ownerListed allocation listed same] at account
  exact ⟨account, listed⟩

/-- What belongs to an assignment of the allocation is a member of it in the preview too. -/
theorem allocationMembership_of_assignedTo {accountSubscriptionId rowSubscriptionId : Option Nat}
    (listed : allocation ∈ tables.allocations) (assigned : assignedTo tables allocation.id accountSubscriptionId = true) :
    allocationMembership (allocationAccountSubscriptions tables allocation.tradingAccountId allocation.id)
      accountSubscriptionId rowSubscriptionId = true := by
  obtain ⟨holder, member, named⟩ := List.any_eq_true.mp assigned
  simp only [Bool.and_eq_true, beq_iff_eq] at named
  obtain ⟨owner, ownerListed, same, account⟩ := tables.allocationOwner holder member allocation.id named.2
  rw [tables.allocationKey owner ownerListed allocation listed same] at account
  have inAccount : holder ∈ allocationAccountSubscriptions tables allocation.tradingAccountId allocation.id := by
    apply List.mem_filter.mpr
    simp [member, account, named.2]
  unfold allocationMembership
  rw [Bool.or_eq_true]
  left
  exact List.any_eq_true.mpr ⟨holder, inAccount, by simp [named.1]⟩

/-- The preview counts every position that the gate counts. -/
theorem previewCountsPosition_of_gate {position : TrackedPosition} (listed : allocation ∈ tables.allocations)
    (counted : gateCountsPosition tables allocation.tradingAccountId allocation.id position = true) :
    previewCountsPosition tables allocation.tradingAccountId allocation.id position = true := by
  unfold gateCountsPosition at counted
  unfold previewCountsPosition
  rw [Bool.and_eq_true] at counted ⊢
  exact ⟨counted.1, allocationMembership_of_assignedTo listed counted.2⟩

/-- Positions that both readers count alike weigh the same. -/
theorem weigh_positions_eq {first second : TrackedPosition → Bool}
    (forward : ∀ position ∈ tables.positions, first position = true → second position = true)
    (backward : ∀ position, second position = true → first position = true) :
    Selection.weigh getPositionExposure first tables.positions =
      Selection.weigh getPositionExposure second tables.positions := by
  have same : tables.positions.filter first = tables.positions.filter second := by
    apply List.filter_congr
    intro position member
    cases counted : second position with
    | true => exact backward position counted
    | false =>
      cases kept : first position with
      | true => rw [forward position member kept] at counted; cases counted
      | false => rfl
  unfold Selection.weigh
  rw [same]

/-- The limits depend on the used slots and the projected notional only. -/
theorem evaluateAllocationRisk_congr {requestedNotional : Option ℚ} {first second : AllocationRiskUsage}
    (slots : first.activePositionCount = second.activePositionCount)
    (projected : first.projectedAllocatedNotional = second.projectedAllocatedNotional) :
    evaluateAllocationRisk allocation requestedNotional first = evaluateAllocationRisk allocation requestedNotional second := by
  unfold evaluateAllocationRisk
  rw [slots, projected]

/-- A configuration without a gap passes the checks that only the gate makes. -/
theorem configuredAllocationRule_eq_none (alike : CountedAlike tables assignment) :
    configuredAllocationRule assignment (allocationOf tables assignment) = none := by
  unfold configuredAllocationRule
  split_ifs with taking
  · rfl
  simp only [Bool.not_eq_true, Bool.not_eq_false', Bool.and_eq_true] at taking
  obtain ⟨allocation, assigned, complete⟩ := alike.configured taking.1 taking.2
  rw [assigned]
  cases enabled : allocation.enabled with
  | true => simp [enabled, complete enabled]
  | false => simp [enabled]

end Agreement

/-- Preview and gate agree when they count alike and the configuration has no gap; when they agree, they count the same
positions, and not exactly one intent with a notional is counted by one alone. -/
theorem preview_agrees (tables : RiskTables) (tradingAccountId subscriptionId : Nat) (requestedNotional : Option ℚ)
    {assignment : AccountSubscription}
    (found : previewAccountSubscription tables tradingAccountId subscriptionId = some assignment) :
    (CountedAlike tables assignment → Agree (getAllocationRiskPreview tables assignment requestedNotional)
        (gateAllocationDecision tables tradingAccountId subscriptionId assignment.id requestedNotional none)) ∧
    (Agree (getAllocationRiskPreview tables assignment requestedNotional)
        (gateAllocationDecision tables tradingAccountId subscriptionId assignment.id requestedNotional none) →
      ∀ allocation, allocationOf tables assignment = some allocation →
        (∀ position ∈ tables.positions, previewCountsPosition tables tradingAccountId allocation.id position = true →
          gateCountsPosition tables tradingAccountId allocation.id position = true) ∧
        (tables.intents.filter (countedByOne tables tradingAccountId allocation.id)).length ≠ 1) := by
  obtain ⟨member, account, _⟩ := previewAccountSubscription_spec found
  have covers : ∀ allocation, allocationOf tables assignment = some allocation → ∀ position,
      gateCountsPosition tables tradingAccountId allocation.id position = true →
        previewCountsPosition tables tradingAccountId allocation.id position = true := by
    intro allocation assigned position counted
    obtain ⟨owner, listed⟩ := allocationOf_account member assigned
    rw [← account, ← owner] at counted ⊢
    exact previewCountsPosition_of_gate listed counted
  unfold getAllocationRiskPreview gateAllocationDecision getAllocationRiskDetails
  rw [getAllocationRiskAccountSubscription_eq found, Option.map_some]
  constructor
  · intro alike
    have configured := configuredAllocationRule_eq_none alike
    cases assigned : allocationOf tables assignment with
    | none =>
      rw [assigned] at configured
      simp [Agree, AllocationDecision.answer, configured]
    | some allocation =>
      rw [assigned] at configured
      have inside := alike.positions allocation assigned
      have intents := alike.intents allocation assigned
      rw [account] at inside intents ⊢
      have slots := (@Selection.length_filter_eq_iff _ tables.positions _ _ (covers allocation assigned)).mpr inside
      have openSame := weigh_positions_eq inside (covers allocation assigned)
      have pendingSame : Selection.weigh intentNotional (previewCountsIntent tables tradingAccountId allocation.id)
          tables.intents =
          Selection.weigh intentNotional (gateCountsIntent tables tradingAccountId allocation.id none) tables.intents := by
        apply Selection.weigh_eq_of_agree
        intro intent listed weighs
        have alone := intents intent listed
        unfold countedByOne at alone
        simpa [weighs] using alone
      have answer : evaluateAllocationRisk allocation requestedNotional
          (allocationUsage (previewCountsPosition tables tradingAccountId allocation.id)
            (previewCountsIntent tables tradingAccountId allocation.id) tables requestedNotional) =
          evaluateAllocationRisk allocation requestedNotional
          (allocationUsage (gateCountsPosition tables tradingAccountId allocation.id)
            (gateCountsIntent tables tradingAccountId allocation.id none) tables requestedNotional) := by
        apply evaluateAllocationRisk_congr slots
        simp only [allocationUsage, openSame, pendingSame]
      simp only [Agree, AllocationDecision.answer, Option.map_some, Option.bind_some, configured, Option.none_or, answer]
      simp only [allocationUsage, slots, openSame, pendingSame]
  · intro agree allocation assigned
    rw [assigned, account] at agree
    simp only [Agree, AllocationDecision.answer, Option.map_some, Option.some.injEq, Prod.mk.injEq] at agree
    obtain ⟨notional, count, _⟩ := agree
    simp only [allocationUsage] at notional count
    have inside := (@Selection.length_filter_eq_iff _ tables.positions _ _ (covers allocation assigned)).mp count.symm
    refine ⟨inside, ?_⟩
    rw [weigh_positions_eq inside (covers allocation assigned)] at notional
    exact Selection.length_ne_one_of_weigh_eq (add_left_cancel notional).symm

/-- One assignment in an allocation of 600 with the given entry. -/
def oneEntry (intent : OrderIntent) : RiskTables where
  allocations := [⟨1, 1, true, some 600, some 5, some 600⟩]
  accountSubscriptions := [⟨1, 1, 1, some 1, true, true, some 600⟩]
  positions := [⟨1, some 1, "MSFT", .open_, some 1, some 1, 100, 90⟩]
  intents := [intent]
  allocationKey := by simp
  accountSubscriptionKey := by simp
  allocationOwner := by simp

/-- An entry of 300 that is still submitted and unattached. -/
def submittedEntry : OrderIntent :=
  ⟨1, some 1, "AAPL", "buy", .submitted, none, none, some 1, some 1, some 300, none, none, none, 0⟩

/-- Beside a position of 100 and an entry of 300, both allow another 200 and neither allows 201. -/
theorem preview_agrees_submittedEntry :
    (getAllocationRiskPreview (oneEntry submittedEntry) ⟨1, 1, 1, some 1, true, true, some 600⟩ (some 200)).answer =
      (some 400, some 1, true) ∧
    Agree (getAllocationRiskPreview (oneEntry submittedEntry) ⟨1, 1, 1, some 1, true, true, some 600⟩ (some 200))
      (gateAllocationDecision (oneEntry submittedEntry) 1 1 1 (some 200) none) ∧
    (getAllocationRiskPreview (oneEntry submittedEntry) ⟨1, 1, 1, some 1, true, true, some 600⟩ (some 201)).answer =
      (some 400, some 1, false) ∧
    Agree (getAllocationRiskPreview (oneEntry submittedEntry) ⟨1, 1, 1, some 1, true, true, some 600⟩ (some 201))
      (gateAllocationDecision (oneEntry submittedEntry) 1 1 1 (some 201) none) := by
  have found : previewAccountSubscription (oneEntry submittedEntry) 1 1 =
      some ⟨1, 1, 1, some 1, true, true, some 600⟩ := by
    decide +kernel
  have assigned : allocationOf (oneEntry submittedEntry) ⟨1, 1, 1, some 1, true, true, some 600⟩ =
      some ⟨1, 1, true, some 600, some 5, some 600⟩ := by
    decide +kernel
  have alike : CountedAlike (oneEntry submittedEntry) ⟨1, 1, 1, some 1, true, true, some 600⟩ := by
    constructor
    · intro _ _
      exact ⟨_, assigned, fun _ => rfl⟩
    · intro allocation same
      rw [assigned] at same
      cases same
      decide +kernel
    · intro allocation same
      rw [assigned] at same
      cases same
      decide +kernel
  exact ⟨by decide +kernel, (preview_agrees (oneEntry submittedEntry) 1 1 (some 200) found).1 alike,
    by decide +kernel, (preview_agrees (oneEntry submittedEntry) 1 1 (some 201) found).1 alike⟩

/-- Once the broker reports the entry as new, another 300 passes the preview and not the gate. -/
theorem preview_disagrees : ¬ ∀ (tables : RiskTables) (tradingAccountId subscriptionId : Nat)
    (requestedNotional : Option ℚ) (assignment : AccountSubscription),
    previewAccountSubscription tables tradingAccountId subscriptionId = some assignment →
      Agree (getAllocationRiskPreview tables assignment requestedNotional)
        (gateAllocationDecision tables tradingAccountId subscriptionId assignment.id requestedNotional none) := by
  intro agree
  have agreed := agree (oneEntry { submittedEntry with status := .new }) 1 1 (some 300)
    ⟨1, 1, 1, some 1, true, true, some 600⟩ (by decide +kernel)
  revert agreed
  decide +kernel

end AiTrader.Risk
