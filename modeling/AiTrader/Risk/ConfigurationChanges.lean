import Mathlib.Algebra.Order.BigOperators.Group.List
import Mathlib.Logic.Relation
import AiTrader.Library.Table
import AiTrader.Risk.RiskConfiguration

/-! # Changes keep a risk configuration free of violations

The check of a change reports only what concerns the change; whatever it leaves out was a violation before. -/

namespace AiTrader.Risk

open Library

variable {allocationId : Option Int} {subscription : SubscriptionConfiguration} {allocation : AllocationConfiguration}
  {item : AccountRiskConfigurationViolation} {next : ConfigurationState} {tradingAccountId : Int}

section Tags

variable {allocations : List AllocationLimits}

theorem entityType_of_account (member : item ∈ accountViolations next) : item.entityType = .tradingAccount := by
  unfold accountViolations at member
  split at member
  · rw [List.mem_singleton.mp member]
  · split at member
    · rw [List.mem_singleton.mp member]
    · cases member

/-- A violation of an allocation names it. -/
theorem tags_of_allocation (member : item ∈ allocationViolations tradingAccountId allocation) :
    item.entityType = .tradingAccountAllocation ∧ item.allocationId.getD none = entityId allocation.id := by
  unfold allocationViolations at member
  simp only [List.mem_append] at member
  rcases member with ((listed | listed) | listed) | listed
  all_goals
    split at listed
    · rw [List.mem_singleton.mp listed]
      exact ⟨rfl, rfl⟩
    · cases listed

theorem findAllocation_id {found : AllocationLimits}
    (named : findAllocation allocations allocationId = some found) : some found.id = allocationId := by
  simpa using List.find?_some named

/-- A violation of a subscription names it and its allocation. -/
theorem tags_of_subscription (member : item ∈ subscriptionViolations tradingAccountId allocations subscription) :
    item.entityType = .tradingAccountSubscription ∧ item.entityId = entityId subscription.id ∧
      item.allocationId.getD none = subscription.allocationId := by
  unfold subscriptionViolations at member
  split at member
  case isFalse => cases member
  case isTrue =>
    simp only [List.mem_append] at member
    rcases member with (assignment | reservation) | sizing
    · unfold assignmentViolations at assignment
      split at assignment
      case h_1 unassigned => rw [List.mem_singleton.mp assignment, unassigned]; exact ⟨rfl, rfl, rfl⟩
      case h_2 named _ => rw [List.mem_singleton.mp assignment, named]; exact ⟨rfl, rfl, rfl⟩
      case h_3 named found =>
        split at assignment
        · cases assignment
        · rw [List.mem_singleton.mp assignment]
          exact ⟨rfl, rfl, findAllocation_id found⟩
    · unfold reservationViolations at reservation
      rcases List.mem_append.mp reservation with missing | excess
      · split at missing
        · cases missing
        · rw [List.mem_singleton.mp missing]
          exact ⟨rfl, rfl, rfl⟩
      · split at excess
        case h_2 => cases excess
        case h_1 found =>
          split at excess
          · rw [List.mem_singleton.mp excess]
            exact ⟨rfl, rfl, findAllocation_id found⟩
          · cases excess
    · unfold sizingViolations at sizing
      split at sizing
      · split at sizing
        · cases sizing
        · rw [List.mem_singleton.mp sizing]
          exact ⟨rfl, rfl, rfl⟩
      · split at sizing
        · rw [List.mem_singleton.mp sizing]
          exact ⟨rfl, rfl, rfl⟩
        · split at sizing
          · rw [List.mem_singleton.mp sizing]
            exact ⟨rfl, rfl, rfl⟩
          · cases sizing

theorem mem_configurationViolations : item ∈ configurationViolations next ↔
    item ∈ accountViolations next ∨ (∃ allocation ∈ next.allocations, item ∈ allocationViolations next.id allocation) ∨
      ∃ subscription ∈ next.subscriptions, item ∈ subscriptionViolations next.id next.limits subscription := by
  unfold configurationViolations
  rw [List.mem_append, List.mem_append, List.mem_flatMap, List.mem_flatMap, or_assoc]

end Tags

/-- The allocation has no violation. -/
structure AllocationSound (allocation : AllocationConfiguration) : Prop where
  idle : allocation.enabled = false → allocation.activeSubscriptions = []
  complete : allocation.enabled = true → isPositive allocation.maxAllocatedNotional = true ∧
    isPositive allocation.maxOpenPositions = true ∧ isPositive allocation.maxPositionNotional = true
  position : ∀ limit, allocation.maxPositionNotional = some limit → 0 < limit →
    exceedsPositive limit allocation.maxAllocatedNotional = false
  reservations : exceedsPositive allocation.reservedTotal allocation.maxAllocatedNotional = false

/-- The size of a subscription is given, and a maximum stays within the reservation. -/
def Sized (subscription : SubscriptionConfiguration) : Prop :=
  match subscription.sizingType with
  | .fixedQty => isPositive subscription.fixedQty = true
  | .maxNotional => ∃ maximum, subscription.maxPositionNotional = some maximum ∧ 0 < maximum ∧
      exceedsPositive maximum subscription.reservedNotional = false

/-- The entry-enabled subscription has no violation. -/
structure SubscriptionSound (allocation : Option AllocationLimits) (subscription : SubscriptionConfiguration) : Prop where
  assigned : ∃ limits, allocation = some limits ∧ limits.enabled = true ∧
    exceedsPositive subscription.reserved limits.maxPositionNotional = false
  reserved : isPositive subscription.reservedNotional = true
  sized : Sized subscription

/-- The configuration has no violation. -/
structure Sound (next : ConfigurationState) : Prop where
  deployable : (next.enabledAllocations ≠ [] ∨ ∃ subscription ∈ next.subscriptions, subscription.entryEnabled = true) →
    isPositive next.maxDeployableNotional = true
  total : exceedsPositive next.enabledAllocatedNotional next.maxDeployableNotional = false
  allocations : ∀ allocation ∈ next.allocations, AllocationSound allocation
  subscriptions : ∀ subscription ∈ next.subscriptions, subscription.entryEnabled = true →
    SubscriptionSound (findAllocation next.limits subscription.allocationId) subscription

theorem isPositive_iff {value : Option ℚ} : isPositive value = true ↔ ∃ amount, value = some amount ∧ 0 < amount := by
  cases value with
  | none => simp [isPositive]
  | some amount => simp [isPositive]

theorem exceedsPositive_eq_false_iff {amount : ℚ} {limit : Option ℚ} :
    exceedsPositive amount limit = false ↔ ∀ bound, limit = some bound → 0 < bound → amount ≤ bound := by
  cases limit with
  | none => simp [exceedsPositive, isPositive]
  | some bound => simp [exceedsPositive, isPositive]

theorem incompleteFields_eq_nil_iff {limits : AllocationLimits} : limits.incompleteFields = [] ↔
    isPositive limits.maxAllocatedNotional = true ∧ isPositive limits.maxOpenPositions = true ∧
      isPositive limits.maxPositionNotional = true := by
  unfold AllocationLimits.incompleteFields
  simp only [List.filterMap_cons, List.filterMap_nil]
  cases isPositive limits.maxAllocatedNotional with
  | false => simp
  | true =>
    cases isPositive limits.maxOpenPositions with
    | false => simp
    | true => cases isPositive limits.maxPositionNotional <;> simp

theorem accountViolations_eq_nil_iff : accountViolations next = [] ↔
    ((next.enabledAllocations ≠ [] ∨ ∃ subscription ∈ next.subscriptions, subscription.entryEnabled = true) →
      isPositive next.maxDeployableNotional = true) ∧
    exceedsPositive next.enabledAllocatedNotional next.maxDeployableNotional = false := by
  have active : (!next.enabledAllocations.isEmpty || next.hasActiveEntries) = true ↔
      (next.enabledAllocations ≠ [] ∨ ∃ subscription ∈ next.subscriptions, subscription.entryEnabled = true) := by
    simp [ConfigurationState.hasActiveEntries]
  rw [← active]
  unfold accountViolations
  cases positive : isPositive next.maxDeployableNotional with
  | true => simp
  | false =>
    have within : exceedsPositive next.enabledAllocatedNotional next.maxDeployableNotional = false := by
      simp [exceedsPositive, positive]
    cases next.enabledAllocations.isEmpty <;> cases next.hasActiveEntries <;> simp [within]

theorem allocationViolations_eq_nil_iff : allocationViolations tradingAccountId allocation = [] ↔ AllocationSound allocation := by
  have position : (allocation.maxPositionNotional.any fun limit =>
      decide (0 < limit) && exceedsPositive limit allocation.maxAllocatedNotional) = false ↔
      ∀ limit, allocation.maxPositionNotional = some limit → 0 < limit →
        exceedsPositive limit allocation.maxAllocatedNotional = false := by
    cases allocation.maxPositionNotional <;> simp
  unfold allocationViolations
  simp only [List.append_eq_nil_iff, ite_eq_right_iff, List.cons_ne_nil, imp_false, Bool.not_eq_true]
  rw [position]
  constructor
  · rintro ⟨⟨⟨idle, complete⟩, within⟩, reservations⟩
    refine ⟨fun disabled => ?_, fun enabled => ?_, within, reservations⟩
    · simpa [disabled] using idle
    · rw [← incompleteFields_eq_nil_iff]
      simpa [enabled] using complete
  · intro sound
    refine ⟨⟨⟨?_, ?_⟩, sound.position⟩, sound.reservations⟩
    · cases enabled : allocation.enabled with
      | true => rfl
      | false => simp [sound.idle enabled]
    · cases enabled : allocation.enabled with
      | false => rfl
      | true => simp [incompleteFields_eq_nil_iff.mpr (sound.complete enabled)]

theorem sizingViolations_eq_nil_iff : sizingViolations tradingAccountId subscription = [] ↔ Sized subscription := by
  unfold sizingViolations Sized
  cases subscription.sizingType with
  | fixedQty => simp
  | maxNotional =>
    cases given : subscription.maxPositionNotional with
    | none => simp [isPositive]
    | some maximum =>
      by_cases positive : 0 < maximum
      · simp [isPositive, positive]
      · simp [isPositive, positive]

theorem subscriptionViolations_eq_nil_iff {allocations : List AllocationLimits} :
    subscriptionViolations tradingAccountId allocations subscription = [] ↔
      (subscription.entryEnabled = true →
        SubscriptionSound (findAllocation allocations subscription.allocationId) subscription) := by
  unfold subscriptionViolations
  cases active : subscription.entryEnabled with
  | false => simp
  | true =>
    simp only [if_true, List.append_eq_nil_iff, sizingViolations_eq_nil_iff, true_imp_iff]
    cases named : findAllocation allocations subscription.allocationId with
    | none =>
      constructor
      · rintro ⟨⟨assigned, _⟩, _⟩
        unfold assignmentViolations at assigned
        split at assigned <;> simp_all
      · intro sound
        obtain ⟨limits, absent, _⟩ := sound.assigned
        cases absent
    | some limits =>
      have given : subscription.allocationId = some limits.id := (findAllocation_id named).symm
      have assigned : assignmentViolations tradingAccountId (some limits) subscription = [] ↔ limits.enabled = true := by
        simp [assignmentViolations, given]
      have reserved : reservationViolations tradingAccountId (some limits) subscription = [] ↔
          isPositive subscription.reservedNotional = true ∧
            exceedsPositive subscription.reserved limits.maxPositionNotional = false := by
        unfold reservationViolations SubscriptionConfiguration.reserved
        cases given : subscription.reservedNotional with
        | none => simp [isPositive]
        | some amount =>
          by_cases positive : 0 < amount
          · simp [isPositive, positive]
          · simp [isPositive, positive]
      rw [assigned, reserved]
      constructor
      · rintro ⟨⟨enabled, positive, within⟩, sized⟩
        exact ⟨⟨limits, rfl, enabled, within⟩, positive, sized⟩
      · intro sound
        obtain ⟨other, same, enabled, within⟩ := sound.assigned
        cases same
        exact ⟨⟨enabled, sound.reserved, within⟩, sound.sized⟩

/-- The check finds nothing exactly when the configuration is sound. -/
theorem configurationViolations_eq_nil_iff : configurationViolations next = [] ↔ Sound next := by
  unfold configurationViolations
  simp only [List.append_eq_nil_iff, List.flatMap_eq_nil_iff, accountViolations_eq_nil_iff,
    allocationViolations_eq_nil_iff, subscriptionViolations_eq_nil_iff]
  constructor
  · rintro ⟨⟨⟨deployable, total⟩, allocations⟩, subscriptions⟩
    exact ⟨deployable, total, allocations, subscriptions⟩
  · intro sound
    exact ⟨⟨⟨sound.deployable, sound.total⟩, sound.allocations⟩, sound.subscriptions⟩

section Reported

/-- The change of one row: the account, an allocation or an account subscription, stored or new. -/
inductive RiskConfigurationChange where
  | account (maxDeployableNotional : Option ℚ)
  | allocation (values : AllocationCandidate)
  | accountSubscription (values : SubscriptionCandidate)

def RiskConfigurationChange.candidate : RiskConfigurationChange → AccountRiskConfigurationCandidate
  | .account maxDeployableNotional => { account := some ⟨some maxDeployableNotional⟩ }
  | .allocation values => { allocation := some values }
  | .accountSubscription values => { accountSubscription := some values }

/-- The row that the change names; `none` for a new row and for the account. -/
def RiskConfigurationChange.id : RiskConfigurationChange → Option Int
  | .account _ => none
  | .allocation values => values.id
  | .accountSubscription values => values.id

/-- What the selection of an account returns. -/
structure Selected (state : ConfigurationState) : Prop where
  storedAllocation : ∀ allocation ∈ state.allocations, 0 ≤ allocation.id
  assigned : ∀ allocation ∈ state.allocations, ∀ subscription ∈ allocation.accountSubscriptions,
    subscription.allocationId = some allocation.id
  unassigned : ∀ subscription ∈ state.accountSubscriptions, subscription.allocationId = none
  subscriptionKey : ∀ first ∈ state.subscriptions, ∀ second ∈ state.subscriptions, first.id = second.id → first = second

variable {state : ConfigurationState}

theorem mem_subscriptions : subscription ∈ state.subscriptions ↔ subscription ∈ state.accountSubscriptions ∨
      ∃ allocation ∈ state.allocations, subscription ∈ allocation.accountSubscriptions := by
  unfold ConfigurationState.subscriptions
  rw [List.mem_append, List.mem_flatMap]

theorem entityId_of_nonneg {id : Int} (stored : 0 ≤ id) : entityId id = some id := by
  unfold entityId
  rw [if_neg (by omega)]

/-- The placeholder of a new row is shown as `null`. -/
theorem entityId_candidate {id : Option Int} (stored : ∀ value, id = some value → 0 ≤ value) : entityId (id.getD (-1)) = id := by
  cases id with
  | none => rfl
  | some value => exact entityId_of_nonneg (stored value rfl)

section Allocation

variable {candidate : AllocationCandidate} {allocations : List AllocationConfiguration}

theorem mem_placeAllocation (member : allocation ∈ placeAllocation candidate allocations) :
    allocation.id = candidate.id.getD (-1) ∨ allocation ∈ allocations := by
  induction allocations with
  | nil =>
    rw [placeAllocation, List.mem_singleton] at member
    exact .inl (by rw [member]; rfl)
  | cons first rest ih =>
    unfold placeAllocation at member
    split at member
    · rcases List.mem_cons.mp member with same | later
      · exact .inl (by rw [same]; rfl)
      · exact .inr (List.mem_cons_of_mem _ later)
    · rcases List.mem_cons.mp member with same | later
      · exact .inr (by rw [same]; exact List.mem_cons_self)
      · exact (ih later).imp_right (List.mem_cons_of_mem _)

theorem subscriptions_placeAllocation : (placeAllocation candidate allocations).flatMap (·.accountSubscriptions) =
    allocations.flatMap (·.accountSubscriptions) := by
  induction allocations with
  | nil => rfl
  | cons first rest ih =>
    unfold placeAllocation
    split
    · rfl
    · rw [List.flatMap_cons, List.flatMap_cons, ih]

theorem findAllocation_cons {limits : AllocationLimits} {rest : List AllocationLimits} :
    findAllocation (limits :: rest) allocationId =
      if some limits.id = allocationId then some limits else findAllocation rest allocationId := by
  unfold findAllocation
  rw [List.find?_cons]
  by_cases same : some limits.id = allocationId
  · simp [same]
  · simp [same]

/-- Another allocation is found as before. -/
theorem findAllocation_placeAllocation (other : allocationId ≠ candidate.id)
    (stored : allocationId ≠ some (candidate.id.getD (-1))) :
    findAllocation ((placeAllocation candidate allocations).map (·.toAllocationLimits)) allocationId =
      findAllocation (allocations.map (·.toAllocationLimits)) allocationId := by
  induction allocations with
  | nil =>
    rw [placeAllocation, List.map_singleton, findAllocation_cons]
    exact if_neg (Ne.symm stored)
  | cons first rest ih =>
    unfold placeAllocation
    split
    case isTrue same =>
      rw [List.map_cons, List.map_cons, findAllocation_cons, findAllocation_cons]
      exact (if_neg (Ne.symm stored)).trans (if_neg fun named => other (named.symm.trans same)).symm
    case isFalse => rw [List.map_cons, List.map_cons, findAllocation_cons, findAllocation_cons, ih]

/-- What the check of an allocation leaves out was a violation before. -/
theorem mem_of_placeAllocation (selected : Selected state) (stored : ∀ value, candidate.id = some value → 0 ≤ value)
    (member : item ∈ evaluateAccountRiskConfiguration state { allocation := some candidate })
    (left : isRelevant state { allocation := some candidate } item = false) : item ∈ configurationViolations state := by
  have irrelevant : item.entityType ≠ .tradingAccount ∧ item.allocationId.getD none ≠ candidate.id := by
    simpa [isRelevant, relevantAllocationIds] using left
  refine mem_configurationViolations.mpr (.inr ?_)
  rcases mem_configurationViolations.mp member with account | ⟨allocation, listed, violated⟩ | ⟨subscription, listed, violated⟩
  · exact absurd (entityType_of_account account) irrelevant.1
  · rcases mem_placeAllocation listed with placed | kept
    · rw [(tags_of_allocation violated).2, placed, entityId_candidate stored] at irrelevant
      exact absurd rfl irrelevant.2
    · exact .inl ⟨allocation, kept, violated⟩
  · have before : subscription ∈ state.subscriptions := by
      unfold ConfigurationState.subscriptions at listed ⊢
      simpa only [applyCandidate, subscriptions_placeAllocation] using listed
    have other : subscription.allocationId ≠ candidate.id := by
      rw [← (tags_of_subscription violated).2.2]
      exact irrelevant.2
    have placeholder : subscription.allocationId ≠ some (candidate.id.getD (-1)) := by
      cases named : candidate.id with
      | some value =>
        rw [named] at other
        exact other
      | none =>
        intro unstored
        rcases mem_subscriptions.mp before with unassigned | ⟨allocation, present, within⟩
        · rw [selected.unassigned subscription unassigned] at unstored
          cases unstored
        · have given := (selected.assigned allocation present subscription within).symm.trans unstored
          have bound := selected.storedAllocation allocation present
          simp only [Option.getD_none, Option.some.injEq] at given
          omega
    refine .inr ⟨subscription, before, ?_⟩
    have same : findAllocation ((placeAllocation candidate state.allocations).map (·.toAllocationLimits))
        subscription.allocationId = findAllocation (state.allocations.map (·.toAllocationLimits)) subscription.allocationId :=
      findAllocation_placeAllocation other placeholder
    unfold subscriptionViolations at violated ⊢
    simpa only [applyCandidate, ConfigurationState.limits, same] using violated

end Allocation

section Subscription

variable {candidate : SubscriptionCandidate} {allocations pushed : List AllocationConfiguration}
  {next : SubscriptionConfiguration}

/-- Taking a subscription out of an allocation. -/
def withoutSubscription (id : Option Int) (allocation : AllocationConfiguration) : AllocationConfiguration :=
  { allocation with
    accountSubscriptions := allocation.accountSubscriptions.filter fun subscription => some subscription.id ≠ id }

theorem limits_pushSubscription (push : pushSubscription next allocations = some pushed) :
    pushed.map (·.toAllocationLimits) = allocations.map (·.toAllocationLimits) := by
  induction allocations generalizing pushed with
  | nil => cases push
  | cons first rest ih =>
    unfold pushSubscription at push
    split at push
    · cases push
      rfl
    · obtain ⟨tail, later, same⟩ := Option.map_eq_some_iff.mp push
      rw [← same, List.map_cons, List.map_cons, ih later]

theorem mem_pushSubscription (push : pushSubscription next allocations = some pushed) {allocation : AllocationConfiguration}
    (member : allocation ∈ pushed) : allocation ∈ allocations ∨ ∃ old ∈ allocations, some old.id = next.allocationId ∧
      allocation = { old with accountSubscriptions := old.accountSubscriptions ++ [next] } := by
  induction allocations generalizing pushed with
  | nil => cases push
  | cons first rest ih =>
    unfold pushSubscription at push
    split at push
    case isTrue named =>
      cases push
      rcases List.mem_cons.mp member with same | later
      · exact .inr ⟨first, List.mem_cons_self, named, same⟩
      · exact .inl (List.mem_cons_of_mem _ later)
    case isFalse =>
      obtain ⟨tail, later, same⟩ := Option.map_eq_some_iff.mp push
      rw [← same] at member
      rcases List.mem_cons.mp member with first | among
      · exact .inl (by rw [first]; exact List.mem_cons_self)
      · rcases ih later among with kept | ⟨old, present, named, equal⟩
        · exact .inl (List.mem_cons_of_mem _ kept)
        · exact .inr ⟨old, List.mem_cons_of_mem _ present, named, equal⟩

/-- The allocations and the subscriptions after the change of a subscription. -/
theorem placeSubscription_cases (candidate : SubscriptionCandidate) (allocations : List AllocationConfiguration)
    (unassigned : List SubscriptionConfiguration) :
    (∃ pushed, pushSubscription (candidate.row (candidate.id.getD (-1)))
        (allocations.map (withoutSubscription candidate.id)) = some pushed ∧
      placeSubscription candidate allocations unassigned =
        (pushed, unassigned.eraseP fun subscription => some subscription.id = candidate.id)) ∨
    (pushSubscription (candidate.row (candidate.id.getD (-1)))
        (allocations.map (withoutSubscription candidate.id)) = none ∧
      placeSubscription candidate allocations unassigned = (allocations.map (withoutSubscription candidate.id),
        (unassigned.eraseP fun subscription => some subscription.id = candidate.id) ++
          [candidate.row (candidate.id.getD (-1))])) := by
  unfold placeSubscription
  have others : (allocations.map fun allocation : AllocationConfiguration =>
      { allocation with
        accountSubscriptions := allocation.accountSubscriptions.filter fun subscription => some subscription.id ≠ candidate.id }) =
      allocations.map (withoutSubscription candidate.id) := rfl
  dsimp only
  rw [others]
  cases push : pushSubscription (candidate.row (candidate.id.getD (-1))) (allocations.map (withoutSubscription candidate.id)) with
  | some pushed => exact .inl ⟨pushed, rfl, rfl⟩
  | none => exact .inr ⟨rfl, rfl⟩

theorem limits_placeSubscription (candidate : SubscriptionCandidate) (allocations : List AllocationConfiguration)
    (unassigned : List SubscriptionConfiguration) :
    (placeSubscription candidate allocations unassigned).1.map (·.toAllocationLimits) =
      allocations.map (·.toAllocationLimits) := by
  have kept : (allocations.map (withoutSubscription candidate.id)).map (·.toAllocationLimits) =
      allocations.map (·.toAllocationLimits) := by
    rw [List.map_map]
    rfl
  rcases placeSubscription_cases candidate allocations unassigned with ⟨pushed, push, placed⟩ | ⟨_, placed⟩
  · rw [placed, ← kept]
    exact limits_pushSubscription push
  · rw [placed, kept]

/-- An allocation keeps its limits, and its subscriptions but the one that comes or goes. -/
theorem mem_placeSubscription {unassigned : List SubscriptionConfiguration}
    (member : allocation ∈ (placeSubscription candidate allocations unassigned).1) :
    allocation ∈ allocations ∨ some allocation.id = candidate.allocationId ∨
      ∃ old ∈ allocations, old.id = allocation.id ∧ ∃ subscription ∈ old.accountSubscriptions,
        some subscription.id = candidate.id := by
  have others : ∀ other ∈ allocations.map (withoutSubscription candidate.id), other ∈ allocations ∨
      ∃ old ∈ allocations, old.id = other.id ∧ ∃ subscription ∈ old.accountSubscriptions,
        some subscription.id = candidate.id := by
    intro other listed
    obtain ⟨old, present, same⟩ := List.mem_map.mp listed
    by_cases holds : ∃ subscription ∈ old.accountSubscriptions, some subscription.id = candidate.id
    · exact .inr ⟨old, present, by rw [← same]; rfl, holds⟩
    · have kept : withoutSubscription candidate.id old = old := by
        unfold withoutSubscription
        have all : old.accountSubscriptions.filter (fun subscription => some subscription.id ≠ candidate.id) =
            old.accountSubscriptions := List.filter_eq_self.mpr fun subscription within => by
          simpa using fun named => holds ⟨subscription, within, named⟩
        rw [all]
      exact .inl (by rw [← same, kept]; exact present)
  rcases placeSubscription_cases candidate allocations unassigned with ⟨pushed, push, placed⟩ | ⟨_, placed⟩
  · rw [placed] at member
    rcases mem_pushSubscription push member with kept | ⟨old, _, named, same⟩
    · exact (others allocation kept).imp_right .inr
    · refine .inr (.inl ?_)
      rw [same]
      exact named
  · rw [placed] at member
    exact (others allocation member).imp_right .inr

theorem mem_subscriptions_placeSubscription
    (member : subscription ∈ (applyCandidate state { accountSubscription := some candidate }).subscriptions) :
    subscription = candidate.row (candidate.id.getD (-1)) ∨ subscription ∈ state.subscriptions := by
  have stays : ∀ allocation ∈ state.allocations.map (withoutSubscription candidate.id),
      ∀ other ∈ allocation.accountSubscriptions, other ∈ state.subscriptions := by
    intro allocation listed other within
    obtain ⟨old, present, same⟩ := List.mem_map.mp listed
    rw [← same] at within
    exact mem_subscriptions.mpr (.inr ⟨old, present, (List.mem_filter.mp within).1⟩)
  have remains : ∀ other ∈ state.accountSubscriptions.eraseP (fun other => some other.id = candidate.id),
      other ∈ state.subscriptions := fun other within =>
    mem_subscriptions.mpr (.inl (List.mem_of_mem_eraseP within))
  rw [mem_subscriptions] at member
  rcases placeSubscription_cases candidate state.allocations state.accountSubscriptions with
    ⟨pushed, push, placed⟩ | ⟨_, placed⟩
  · simp only [applyCandidate, placed] at member
    rcases member with unassigned | ⟨allocation, listed, within⟩
    · exact .inr (remains subscription unassigned)
    · rcases mem_pushSubscription push listed with kept | ⟨old, present, _, same⟩
      · exact .inr (stays allocation kept subscription within)
      · rw [same] at within
        rcases List.mem_append.mp within with before | added
        · exact .inr (stays old present subscription before)
        · exact .inl (List.mem_singleton.mp added)
  · simp only [applyCandidate, placed] at member
    rcases member with unassigned | ⟨allocation, listed, within⟩
    · rcases List.mem_append.mp unassigned with before | added
      · exact .inr (remains subscription before)
      · exact .inl (List.mem_singleton.mp added)
    · exact .inr (stays allocation listed subscription within)

theorem mem_of_placeSubscription (selected : Selected state) (stored : ∀ value, candidate.id = some value → 0 ≤ value)
    (member : item ∈ evaluateAccountRiskConfiguration state { accountSubscription := some candidate })
    (left : isRelevant state { accountSubscription := some candidate } item = false) :
    item ∈ configurationViolations state := by
  refine mem_configurationViolations.mpr (.inr ?_)
  rcases mem_configurationViolations.mp member with account | ⟨allocation, listed, violated⟩ | ⟨subscription, listed, violated⟩
  · have tag := entityType_of_account account
    simp [isRelevant, tag] at left
  · obtain ⟨tag, named⟩ := tags_of_allocation violated
    have irrelevant : item.allocationId.getD none ∉ relevantAllocationIds state { accountSubscription := some candidate } := by
      simpa [isRelevant, tag] using left
    rw [named] at irrelevant
    simp only [relevantAllocationIds, Option.map_none, Option.toList_none, List.nil_append, List.mem_cons, not_or,
      Option.mem_toList, Option.map_eq_some_iff, not_exists, not_and] at irrelevant
    obtain ⟨elsewhere, notLeft⟩ := irrelevant
    have limits := limits_placeSubscription candidate state.allocations state.accountSubscriptions
    have storedHere : 0 ≤ allocation.id := by
      have shown : allocation.toAllocationLimits ∈ state.allocations.map (·.toAllocationLimits) := by
        rw [← limits]
        exact List.mem_map_of_mem listed
      obtain ⟨old, present, same⟩ := List.mem_map.mp shown
      have bound := selected.storedAllocation old present
      rw [same] at bound
      exact bound
    rw [entityId_of_nonneg storedHere] at elsewhere notLeft
    rcases mem_placeSubscription listed with kept | arrives | ⟨old, present, same, subscription, within, leaves⟩
    · exact .inl ⟨allocation, kept, violated⟩
    · exact absurd arrives elsewhere
    · have among : subscription ∈ state.subscriptions := mem_subscriptions.mpr (.inr ⟨old, present, within⟩)
      cases found : state.subscriptions.find? fun item => some item.id = candidate.id with
      | none =>
        have missed := List.find?_eq_none.mp found subscription among
        exact absurd leaves (by simpa using missed)
      | some first =>
        have sameId : some first.id = candidate.id := by simpa using List.find?_some found
        have only := selected.subscriptionKey first (List.mem_of_find?_eq_some found) subscription among
          (Option.some.inj (sameId.trans leaves.symm))
        refine absurd ?_ (notLeft first found)
        rw [only, selected.assigned old present subscription within, same]
  · obtain ⟨tag, named, _⟩ := tags_of_subscription violated
    have irrelevant : item.entityId ≠ candidate.id := by
      simpa [isRelevant, tag] using left
    have limits := limits_placeSubscription candidate state.allocations state.accountSubscriptions
    rcases mem_subscriptions_placeSubscription listed with changed | before
    · rw [named, changed] at irrelevant
      exact absurd (entityId_candidate stored) irrelevant
    · refine .inr ⟨subscription, before, ?_⟩
      unfold ConfigurationState.limits at violated ⊢
      simp only [applyCandidate] at violated
      rw [limits] at violated
      exact violated

end Subscription

variable {change : RiskConfigurationChange}

theorem mem_of_not_relevant (selected : Selected state) (stored : ∀ value, change.id = some value → 0 ≤ value)
    (member : item ∈ evaluateAccountRiskConfiguration state change.candidate)
    (left : isRelevant state change.candidate item = false) : item ∈ configurationViolations state := by
  cases change with
  | account maxDeployableNotional =>
    have irrelevant : item.entityType ≠ .tradingAccount := by
      simpa [RiskConfigurationChange.candidate, isRelevant] using left
    rcases mem_configurationViolations.mp member with account | within
    · exact absurd (entityType_of_account account) irrelevant
    · exact mem_configurationViolations.mpr (.inr within)
  | allocation values => exact mem_of_placeAllocation selected stored member left
  | accountSubscription values => exact mem_of_placeSubscription selected stored member left

/-- An accepted change of a configuration without violations leaves none. -/
theorem sound_of_assert (selected : Selected state)
    (stored : ∀ value, change.id = some value → 0 ≤ value) (sound : Sound state)
    (accepted : assertAccountRiskConfiguration (some state) change.candidate = .ok true) :
    Sound (applyCandidate state change.candidate) := by
  have reported : (evaluateAccountRiskConfiguration state change.candidate).filter (isRelevant state change.candidate) = [] := by
    have given : (change.candidate.account.isNone && change.candidate.allocation.isNone &&
        change.candidate.accountSubscription.isNone) = false := by
      cases change <;> rfl
    unfold assertAccountRiskConfiguration validateAccountRiskConfiguration at accepted
    simp only [Option.map_some, given, Bool.false_eq_true, if_false] at accepted
    split at accepted
    case h_1 absent => cases absent
    case h_2 empty => exact Option.some.inj empty
    case h_3 => cases accepted
  rw [← configurationViolations_eq_nil_iff]
  apply List.eq_nil_iff_forall_not_mem.mpr
  intro item member
  cases relevant : isRelevant state change.candidate item with
  | true => exact (List.filter_eq_nil_iff.mp reported) item member relevant
  | false =>
    have before := mem_of_not_relevant selected stored member relevant
    rw [configurationViolations_eq_nil_iff.mpr sound] at before
    cases before

end Reported

end AiTrader.Risk
