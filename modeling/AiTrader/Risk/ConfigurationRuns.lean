import AiTrader.Risk.ConfigurationChanges

/-! # Runs of changes of a risk configuration

The rows of an account, the selection that the check reads, and the writes that follow an accepted check. -/

namespace AiTrader.Risk

open Library Table

/-- The rows of an account. -/
structure ConfigurationTables where
  id : Int
  maxDeployableNotional : Option ℚ
  allocations : List AllocationLimits
  accountSubscriptions : List SubscriptionConfiguration
deriving DecidableEq

/-- The subscriptions with this allocation. -/
def ConfigurationTables.subscriptionsOf (tables : ConfigurationTables) (allocationId : Option Int) :
    List SubscriptionConfiguration :=
  tables.accountSubscriptions.filter fun subscription => decide (subscription.allocationId = allocationId)

/-- `CONFIGURATION_SELECT`. -/
def ConfigurationTables.select (tables : ConfigurationTables) : ConfigurationState where
  id := tables.id
  maxDeployableNotional := tables.maxDeployableNotional
  allocations := tables.allocations.map fun limits => ⟨limits, tables.subscriptionsOf (some limits.id)⟩
  accountSubscriptions := tables.subscriptionsOf none

inductive RiskConfigurationError where
  | conflict (conflict : RiskConfigurationConflict)
  /-- The allocation of a subscription must be one of the same account. -/
  | foreignKey
deriving DecidableEq

/-- The row that the change names is there. -/
def ConfigurationTables.holds (tables : ConfigurationTables) : RiskConfigurationChange → Bool
  | .account _ => true
  | .allocation values => values.id.all fun id => tables.allocations.any fun limits => limits.id == id
  | .accountSubscription values => values.id.all fun id => tables.accountSubscriptions.any fun row => row.id == id

/-- Write the rows of a change; a new row has the identifier `fresh`. -/
def ConfigurationTables.write (fresh : Int) (tables : ConfigurationTables) :
    RiskConfigurationChange → Except RiskConfigurationError ConfigurationTables
  | .account maxDeployableNotional => .ok { tables with maxDeployableNotional := maxDeployableNotional }
  | .allocation values => .ok
    { tables with
      allocations := match values.id with
        | none => tables.allocations ++ [values.limits fresh]
        | some id => updateWhere (·.id == id) (fun _ => values.limits id) tables.allocations }
  | .accountSubscription values =>
    if values.allocationId.all fun id => tables.allocations.any fun limits => limits.id == id then .ok
      { tables with
        accountSubscriptions := match values.id with
          | none => tables.accountSubscriptions ++ [values.row fresh]
          | some id => updateWhere (·.id == id) (fun _ => values.row id) tables.accountSubscriptions }
    else .error .foreignKey

/-- One serializable transaction of a service that changes the configuration; `none` when a row is missing. -/
def changeRiskConfiguration (fresh : Int) (tables : ConfigurationTables) (change : RiskConfigurationChange) :
    Except RiskConfigurationError (Option ConfigurationTables) :=
  if tables.holds change then
    match assertAccountRiskConfiguration (some tables.select) change.candidate with
    | .error conflict => .error (.conflict conflict)
    | .ok _ => (tables.write fresh change).map some
  else .ok none

variable {change : RiskConfigurationChange} {tables after : ConfigurationTables} {fresh : Int}

/-- The keys of the tables and what the request schemas admit. -/
structure WellFormed (tables : ConfigurationTables) : Prop where
  allocationIds : (tables.allocations.map (·.id)).Nodup
  subscriptionIds : (tables.accountSubscriptions.map (·.id)).Nodup
  storedAllocation : ∀ limits ∈ tables.allocations, 0 < limits.id
  storedSubscription : ∀ subscription ∈ tables.accountSubscriptions, 0 < subscription.id
  /-- The allocation of a subscription is one of the account. -/
  owned : ∀ subscription ∈ tables.accountSubscriptions, ∀ id, subscription.allocationId = some id →
    ∃ limits ∈ tables.allocations, limits.id = id
  deployable : ∀ amount, tables.maxDeployableNotional = some amount → 0 < amount
  budgets : ∀ limits ∈ tables.allocations, ∀ amount, limits.maxAllocatedNotional = some amount → 0 < amount

/-- The identifiers of the table that a change may add a row to. -/
def ConfigurationTables.ids (tables : ConfigurationTables) : RiskConfigurationChange → List Int
  | .account _ => []
  | .allocation _ => tables.allocations.map (·.id)
  | .accountSubscription _ => tables.accountSubscriptions.map (·.id)

/-- The database gives a new row a positive identifier that its table does not have. -/
def Fresh (tables : ConfigurationTables) (change : RiskConfigurationChange) (fresh : Int) : Prop :=
  0 < fresh ∧ fresh ∉ tables.ids change

/-- The request schemas admit positive amounts only. -/
def RiskConfigurationChange.Validated : RiskConfigurationChange → Prop
  | .account maxDeployableNotional => ∀ amount, maxDeployableNotional = some amount → 0 < amount
  | .allocation values => ∀ amount, values.maxAllocatedNotional = some amount → 0 < amount
  | .accountSubscription _ => True

/-- An accepted change. -/
def Accepted (tables after : ConfigurationTables) : Prop :=
  ∃ fresh change, Fresh tables change fresh ∧ change.Validated ∧ changeRiskConfiguration fresh tables change = .ok (some after)

theorem subscriptions_select (wellFormed : WellFormed tables) {subscription : SubscriptionConfiguration} :
    subscription ∈ tables.select.subscriptions ↔ subscription ∈ tables.accountSubscriptions := by
  rw [mem_subscriptions]
  constructor
  · rintro (unassigned | ⟨allocation, listed, within⟩)
    · exact (List.mem_filter.mp unassigned).1
    · obtain ⟨limits, _, same⟩ := List.mem_map.mp listed
      rw [← same] at within
      exact (List.mem_filter.mp within).1
  · intro member
    cases named : subscription.allocationId with
    | none => exact .inl (List.mem_filter.mpr ⟨member, by simp [named]⟩)
    | some id =>
      obtain ⟨limits, listed, same⟩ := wellFormed.owned subscription member id named
      exact .inr ⟨_, List.mem_map_of_mem listed, List.mem_filter.mpr ⟨member, by simp [named, same]⟩⟩

theorem eq_of_id {Row : Type} {id : Row → Int} {rows : List Row} (distinct : (rows.map id).Nodup) {first second : Row}
    (one : first ∈ rows) (other : second ∈ rows) (same : id first = id second) : first = second :=
  List.inj_on_of_nodup_map distinct one other same

theorem selected_select (wellFormed : WellFormed tables) : Selected tables.select where
  storedAllocation := by
    intro allocation listed
    obtain ⟨limits, present, same⟩ := List.mem_map.mp listed
    rw [← same]
    exact le_of_lt (wellFormed.storedAllocation limits present)
  assigned := by
    intro allocation listed subscription within
    obtain ⟨limits, _, same⟩ := List.mem_map.mp listed
    rw [← same] at within ⊢
    exact of_decide_eq_true (List.mem_filter.mp within).2
  unassigned := fun subscription within => of_decide_eq_true (List.mem_filter.mp within).2
  subscriptionKey := fun first one second other same => eq_of_id wellFormed.subscriptionIds
    ((subscriptions_select wellFormed).mp one) ((subscriptions_select wellFormed).mp other) same

/-- What an accepted change has checked and written. -/
theorem changeRiskConfiguration_cases (changed : changeRiskConfiguration fresh tables change = .ok (some after)) :
    tables.holds change = true ∧ assertAccountRiskConfiguration (some tables.select) change.candidate = .ok true ∧
      tables.write fresh change = .ok after := by
  unfold changeRiskConfiguration at changed
  split at changed
  case isFalse => cases changed
  case isTrue there =>
    split at changed
    case h_1 => cases changed
    case h_2 answer asserted =>
      have positive : answer = true := by
        unfold assertAccountRiskConfiguration at asserted
        split at asserted
        case h_1 absent => cases absent
        case h_2 => exact (Except.ok.inj asserted).symm
        case h_3 => cases asserted
      refine ⟨there, positive ▸ asserted, ?_⟩
      cases written : tables.write fresh change with
      | error error =>
        rw [written] at changed
        cases changed
      | ok result =>
        rw [written] at changed
        cases changed
        rfl

theorem stored_of_holds (wellFormed : WellFormed tables) (there : tables.holds change = true) :
    ∀ value, change.id = some value → 0 ≤ value := by
  intro value named
  cases change with
  | account => cases named
  | allocation values =>
    change values.id = some value at named
    simp only [ConfigurationTables.holds, named, Option.all_some, List.any_eq_true, beq_iff_eq] at there
    obtain ⟨limits, listed, same⟩ := there
    exact le_of_lt (same ▸ wellFormed.storedAllocation limits listed)
  | accountSubscription values =>
    change values.id = some value at named
    simp only [ConfigurationTables.holds, named, Option.all_some, List.any_eq_true, beq_iff_eq] at there
    obtain ⟨subscription, listed, same⟩ := there
    exact le_of_lt (same ▸ wellFormed.storedSubscription subscription listed)

variable {subscription : SubscriptionConfiguration}

section Writes

/-- Two configurations that differ in row identifiers and the order of subscriptions only. -/
structure Alike (first second : ConfigurationState) : Prop where
  deployable : second.maxDeployableNotional = first.maxDeployableNotional
  budgets : second.enabledAllocations.map (·.maxAllocatedNotional) = first.enabledAllocations.map (·.maxAllocatedNotional)
  allocations : ∀ allocation ∈ second.allocations, ∃ other ∈ first.allocations,
    allocation.toAllocationLimits = { other.toAllocationLimits with id := allocation.id } ∧
    (allocation.activeSubscriptions.map (·.reserved)).Perm (other.activeSubscriptions.map (·.reserved))
  subscriptions : ∀ subscription ∈ second.subscriptions, ∃ other ∈ first.subscriptions,
    subscription = { other with id := subscription.id } ∧
    findAllocation second.limits subscription.allocationId = findAllocation first.limits other.allocationId

theorem AllocationSound.of_alike {allocation other : AllocationConfiguration} (sound : AllocationSound other)
    (limits : allocation.toAllocationLimits = { other.toAllocationLimits with id := allocation.id })
    (reservations : (allocation.activeSubscriptions.map (·.reserved)).Perm (other.activeSubscriptions.map (·.reserved))) :
    AllocationSound allocation := by
  have enabled : allocation.enabled = other.enabled := by rw [limits]
  have allocated : allocation.maxAllocatedNotional = other.maxAllocatedNotional := by rw [limits]
  have positions : allocation.maxOpenPositions = other.maxOpenPositions := by rw [limits]
  have position : allocation.maxPositionNotional = other.maxPositionNotional := by rw [limits]
  have total : allocation.reservedTotal = other.reservedTotal := reservations.sum_eq
  constructor
  · intro disabled
    rw [enabled] at disabled
    rw [sound.idle disabled] at reservations
    exact List.map_eq_nil_iff.mp (List.perm_nil.mp reservations)
  · rw [enabled, allocated, positions, position]
    exact sound.complete
  · rw [allocated, position]
    exact sound.position
  · rw [allocated, total]
    exact sound.reservations

theorem SubscriptionSound.of_alike {other : SubscriptionConfiguration} {found : Option AllocationLimits}
    (sound : SubscriptionSound found other) (same : subscription = { other with id := subscription.id }) :
    SubscriptionSound found subscription := by
  rw [same]
  exact ⟨sound.assigned, sound.reserved, sound.sized⟩

theorem Sound.of_alike {first second : ConfigurationState} (sound : Sound first) (alike : Alike first second) :
    Sound second := by
  have total : second.enabledAllocatedNotional = first.enabledAllocatedNotional := by
    have sums := congrArg (fun budgets : List (Option ℚ) => (budgets.map fun budget => budget.getD 0).sum) alike.budgets
    simpa only [List.map_map, Function.comp_def, ConfigurationState.enabledAllocatedNotional] using sums
  constructor
  · intro active
    rw [alike.deployable]
    apply sound.deployable
    rcases active with enabled | ⟨subscription, member, entry⟩
    · left
      intro absent
      have budgets := alike.budgets
      rw [absent] at budgets
      exact enabled (List.map_eq_nil_iff.mp budgets)
    · obtain ⟨other, present, same, _⟩ := alike.subscriptions subscription member
      rw [same] at entry
      exact .inr ⟨other, present, entry⟩
  · rw [alike.deployable, total]
    exact sound.total
  · intro allocation member
    obtain ⟨other, present, limits, reservations⟩ := alike.allocations allocation member
    exact (sound.allocations other present).of_alike limits reservations
  · intro subscription member entry
    obtain ⟨other, present, same, found⟩ := alike.subscriptions subscription member
    rw [found]
    rw [same] at entry
    exact (sound.subscriptions other present entry).of_alike same

section Allocation

variable {candidate : AllocationCandidate}

/-- Laying a stored allocation over the selection is selecting the written row. -/
theorem placeAllocation_stored {id : Int} (named : candidate.id = some id)
    (build : Int → List SubscriptionConfiguration) {allocations : List AllocationLimits}
    (distinct : (allocations.map (·.id)).Nodup) (present : id ∈ allocations.map (·.id)) :
    placeAllocation candidate (allocations.map fun limits => ⟨limits, build limits.id⟩) =
      (updateWhere (·.id == id) (fun _ => candidate.limits id) allocations).map fun limits =>
        ⟨limits, build limits.id⟩ := by
  induction allocations with
  | nil => cases present
  | cons first rest ih =>
    rw [List.map_cons, List.nodup_cons] at distinct
    rw [List.map_cons, placeAllocation, named]
    by_cases same : first.id = id
    · have others : ∀ limits ∈ rest, (limits.id == id) = false := by
        intro limits member
        have different : limits.id ≠ first.id := fun equal => distinct.1 (equal ▸ List.mem_map_of_mem member)
        simpa [← same] using different
      rw [if_pos (congrArg some same), updateWhere_cons, if_pos (by simp [same]), updateWhere_of_none others,
        List.map_cons, Option.getD_some, same]
      rfl
    · have later : id ∈ rest.map (·.id) := by
        rcases List.mem_cons.mp present with head | tail
        · exact absurd head.symm same
        · exact tail
      rw [if_neg (fun equal => same (Option.some.inj equal)), updateWhere_cons, if_neg (by simp [same]),
        List.map_cons, ih distinct.2 later]

/-- A new allocation is appended to the selection. -/
theorem placeAllocation_new (named : candidate.id = none) (allocations : List AllocationConfiguration) :
    placeAllocation candidate allocations = allocations ++ [⟨candidate.limits (-1), []⟩] := by
  induction allocations with
  | nil => rw [placeAllocation, named]; rfl
  | cons first rest ih =>
    rw [placeAllocation, if_neg (by simp [named]), ih]
    rfl

theorem Alike.refl (state : ConfigurationState) : Alike state state where
  deployable := rfl
  budgets := rfl
  allocations := fun allocation member => ⟨allocation, member, rfl, List.Perm.refl _⟩
  subscriptions := fun subscription member => ⟨subscription, member, rfl, rfl⟩

theorem findAllocation_append {first second : List AllocationLimits} {allocationId : Option Int} :
    findAllocation (first ++ second) allocationId =
      (findAllocation first allocationId).or (findAllocation second allocationId) :=
  List.find?_append

/-- The allocation of a stored subscription is found. -/
theorem findAllocation_owned (wellFormed : WellFormed tables) {subscription : SubscriptionConfiguration}
    (member : subscription ∈ tables.accountSubscriptions) (later : List AllocationLimits) :
    findAllocation (tables.allocations ++ later) subscription.allocationId =
      findAllocation tables.allocations subscription.allocationId := by
  rw [findAllocation_append]
  cases found : findAllocation tables.allocations subscription.allocationId with
  | some limits => rfl
  | none =>
    have missed := List.find?_eq_none.mp found
    cases named : subscription.allocationId with
    | none =>
      refine List.find?_eq_none.mpr fun limits _ => ?_
      simp
    | some id =>
      obtain ⟨limits, listed, same⟩ := wellFormed.owned subscription member id named
      exact absurd (by simp [named, same]) (missed limits listed)

/-- The configuration that the check of an allocation sees is the one that the tables hold afterwards. -/
theorem alike_allocation (wellFormed : WellFormed tables) (unused : fresh ∉ tables.allocations.map (·.id))
    (there : tables.holds (.allocation candidate) = true) (written : tables.write fresh (.allocation candidate) = .ok after) :
    Alike (applyCandidate tables.select { allocation := some candidate }) after.select := by
  cases written
  cases named : candidate.id with
  | some id =>
    simp only [ConfigurationTables.holds, named, Option.all_some, List.any_eq_true, beq_iff_eq] at there
    obtain ⟨limits, listed, same⟩ := there
    have placed := placeAllocation_stored named (fun id => tables.subscriptionsOf (some id)) wellFormed.allocationIds
      (same ▸ List.mem_map_of_mem listed)
    have equal : applyCandidate tables.select { allocation := some candidate } =
        ConfigurationTables.select { tables with
          allocations := updateWhere (·.id == id) (fun _ => candidate.limits id) tables.allocations } := by
      simp only [applyCandidate, ConfigurationTables.select, placed]
      rfl
    rw [equal]
    exact Alike.refl _
  | none =>
    have empty : tables.subscriptionsOf (some fresh) = [] := by
      refine List.filter_eq_nil_iff.mpr fun subscription member refers => ?_
      obtain ⟨limits, listed, same⟩ := wellFormed.owned subscription member fresh (of_decide_eq_true refers)
      exact unused (same ▸ List.mem_map_of_mem listed)
    have before : (applyCandidate tables.select { allocation := some candidate }).allocations =
        tables.select.allocations ++ [⟨candidate.limits (-1), []⟩] := placeAllocation_new named _
    have afterwards : (ConfigurationTables.select { tables with
        allocations := tables.allocations ++ [candidate.limits fresh] }).allocations =
        tables.select.allocations ++ [⟨candidate.limits fresh, []⟩] := by
      change List.map _ (tables.allocations ++ [candidate.limits fresh]) = _
      rw [List.map_append, List.map_singleton]
      change _ ++ [AllocationConfiguration.mk (candidate.limits fresh) (tables.subscriptionsOf (some fresh))] = _
      rw [empty]
      rfl
    constructor
    · rfl
    · simp only [ConfigurationState.enabledAllocations]
      rw [before, afterwards, List.filter_append, List.filter_append, List.map_append, List.map_append]
      cases enabled : candidate.enabled <;> simp [AllocationCandidate.limits, enabled]
    · intro allocation member
      rw [afterwards] at member
      rw [before]
      rcases List.mem_append.mp member with kept | new
      · exact ⟨allocation, List.mem_append_left _ kept, rfl, List.Perm.refl _⟩
      · rw [List.mem_singleton.mp new]
        exact ⟨_, List.mem_append_right _ (List.mem_singleton.mpr rfl), rfl, List.Perm.refl _⟩
    · intro subscription member
      have stored : subscription ∈ tables.accountSubscriptions := by
        rcases mem_subscriptions.mp member with unassigned | ⟨allocation, listed, within⟩
        · exact (List.mem_filter.mp unassigned).1
        · rw [afterwards] at listed
          rcases List.mem_append.mp listed with kept | new
          · exact (subscriptions_select wellFormed).mp (mem_subscriptions.mpr (.inr ⟨allocation, kept, within⟩))
          · rw [List.mem_singleton.mp new] at within
            cases within
      have limitsBefore : (applyCandidate tables.select { allocation := some candidate }).limits =
          tables.allocations ++ [candidate.limits (-1)] := by
        unfold ConfigurationState.limits
        rw [before, List.map_append, ConfigurationTables.select, List.map_map]
        exact congrArg (· ++ _) (List.map_id _)
      have limitsAfter : (ConfigurationTables.select { tables with
          allocations := tables.allocations ++ [candidate.limits fresh] }).limits =
          tables.allocations ++ [candidate.limits fresh] := by
        unfold ConfigurationState.limits ConfigurationTables.select
        rw [List.map_map]
        exact List.map_id _
      refine ⟨subscription, ?_, rfl, ?_⟩
      · have among := (subscriptions_select wellFormed).mpr stored
        unfold ConfigurationState.subscriptions at among ⊢
        simpa only [applyCandidate, subscriptions_placeAllocation] using among
      · rw [limitsBefore, limitsAfter, findAllocation_owned wellFormed stored, findAllocation_owned wellFormed stored]

end Allocation

section Subscription

variable {candidate : SubscriptionCandidate}

variable {allocations : List AllocationConfiguration} {next : SubscriptionConfiguration}

theorem pushSubscription_none
    (push : pushSubscription next allocations = none) : ∀ allocation ∈ allocations, some allocation.id ≠ next.allocationId := by
  induction allocations with
  | nil => exact nofun
  | cons first rest ih =>
    unfold pushSubscription at push
    split at push
    · cases push
    case isFalse other =>
      intro allocation member
      rcases List.mem_cons.mp member with same | later
      · rw [same]
        exact other
      · exact ih (Option.map_eq_none_iff.mp push) allocation later

theorem pushSubscription_unassigned (unassigned : next.allocationId = none) : pushSubscription next allocations = none := by
  induction allocations with
  | nil => rfl
  | cons first rest ih =>
    unfold pushSubscription
    rw [unassigned, if_neg (by simp), ih]
    rfl

/-- The subscription joins the one allocation that it names. -/
theorem mem_of_pushSubscription {pushed : List AllocationConfiguration}
    (distinct : (allocations.map (·.id)).Nodup) (push : pushSubscription next allocations = some pushed)
    {allocation : AllocationConfiguration} (member : allocation ∈ allocations) :
    { allocation with
      accountSubscriptions := allocation.accountSubscriptions ++
        if some allocation.id = next.allocationId then [next] else [] } ∈ pushed := by
  induction allocations generalizing pushed with
  | nil => cases push
  | cons first rest ih =>
    rw [List.map_cons, List.nodup_cons] at distinct
    unfold pushSubscription at push
    split at push
    case isTrue named =>
      cases push
      rcases List.mem_cons.mp member with same | later
      · rw [same, if_pos named]
        exact List.mem_cons_self
      · have other : some allocation.id ≠ next.allocationId := fun equal =>
          distinct.1 (Option.some.inj (equal.trans named.symm) ▸ List.mem_map_of_mem later)
        rw [if_neg other, List.append_nil]
        exact List.mem_cons_of_mem _ later
    case isFalse other =>
      obtain ⟨tail, later, same⟩ := Option.map_eq_some_iff.mp push
      rw [← same]
      rcases List.mem_cons.mp member with head | among
      · rw [head, if_neg other, List.append_nil]
        exact List.mem_cons_self
      · exact List.mem_cons_of_mem _ (ih distinct.2 later among)

/-- The subscriptions of an allocation once the changed one is taken out and put where it belongs. -/
def movedSubscriptions (tables : ConfigurationTables) (candidate : SubscriptionCandidate) (id : Int) :
    List SubscriptionConfiguration :=
  (tables.subscriptionsOf (some id)).filter (fun subscription => some subscription.id ≠ candidate.id) ++
    if some id = candidate.allocationId then [candidate.row (candidate.id.getD (-1))] else []

theorem mem_applyCandidate_subscription (wellFormed : WellFormed tables) {limits : AllocationLimits}
    (listed : limits ∈ tables.allocations) :
    ⟨limits, movedSubscriptions tables candidate limits.id⟩ ∈
      (applyCandidate tables.select { accountSubscription := some candidate }).allocations := by
  have row : withoutSubscription candidate.id ⟨limits, tables.subscriptionsOf (some limits.id)⟩ ∈
      tables.select.allocations.map (withoutSubscription candidate.id) :=
    List.mem_map_of_mem (List.mem_map_of_mem listed)
  rcases placeSubscription_cases candidate tables.select.allocations tables.select.accountSubscriptions with
    ⟨pushed, push, placed⟩ | ⟨push, placed⟩
  · have distinct : ((tables.select.allocations.map (withoutSubscription candidate.id)).map (·.id)).Nodup := by
      rw [ConfigurationTables.select, List.map_map, List.map_map]
      exact wellFormed.allocationIds
    have joined := mem_of_pushSubscription distinct push row
    simp only [applyCandidate, placed]
    exact joined
  · have elsewhere : some limits.id ≠ candidate.allocationId := pushSubscription_none push _ row
    unfold movedSubscriptions
    rw [if_neg elsewhere, List.append_nil]
    simp only [applyCandidate, placed]
    exact row

/-- The identifier of a row does not count for its reservation. -/
theorem reservations_row (first second : Int) :
    ([candidate.row first].filter (·.entryEnabled)).map (·.reserved) =
      ([candidate.row second].filter (·.entryEnabled)).map (·.reserved) := by
  have same : (candidate.row first).entryEnabled = (candidate.row second).entryEnabled := rfl
  cases active : (candidate.row second).entryEnabled with
  | true =>
    rw [active] at same
    simp only [List.filter_cons, same, active]
    rfl
  | false =>
    rw [active] at same
    simp only [List.filter_cons, same, active]
    rfl

/-- The written rows are the other rows and the changed one, up to order. -/
theorem perm_written (wellFormed : WellFormed tables) (there : tables.holds (.accountSubscription candidate) = true)
    (written : tables.write fresh (.accountSubscription candidate) = .ok after) :
    after.accountSubscriptions.Perm
      (tables.accountSubscriptions.filter (fun subscription => some subscription.id ≠ candidate.id) ++
        [candidate.row (candidate.id.getD fresh)]) ∧
    after.allocations = tables.allocations ∧ after.maxDeployableNotional = tables.maxDeployableNotional ∧
    ∀ id, candidate.allocationId = some id → ∃ limits ∈ tables.allocations, limits.id = id := by
  simp only [ConfigurationTables.write] at written
  split at written
  case isFalse => cases written
  case isTrue foreign =>
    cases written
    refine ⟨?_, rfl, rfl, fun id named => by simpa [named] using foreign⟩
    cases named : candidate.id with
    | none =>
      have all : tables.accountSubscriptions.filter (fun subscription => some subscription.id ≠ none) =
          tables.accountSubscriptions := List.filter_eq_self.mpr fun subscription _ => by simp
      rw [all]
      exact List.Perm.refl _
    | some id =>
      simp only [ConfigurationTables.holds, named, Option.all_some, List.any_eq_true, beq_iff_eq] at there
      obtain ⟨subscription, listed, same⟩ := there
      have one : tables.accountSubscriptions.countP (·.id == id) = 1 := by
        have present : subscription.id ∈ tables.accountSubscriptions.map (·.id) := List.mem_map_of_mem listed
        have counted := List.count_eq_one_of_mem wellFormed.subscriptionIds present
        rw [List.count, List.countP_map, same] at counted
        exact counted
      have others : tables.accountSubscriptions.filter (fun subscription => some subscription.id ≠ some id) =
          tables.accountSubscriptions.filter fun subscription => !(subscription.id == id) :=
        List.filter_congr fun row _ => by
          by_cases equal : row.id = id <;> simp [equal]
      rw [others]
      exact perm_updateWhere one

/-- The check of a subscription sees the configuration that the tables hold afterwards. -/
theorem alike_subscription (wellFormed : WellFormed tables) (there : tables.holds (.accountSubscription candidate) = true)
    (written : tables.write fresh (.accountSubscription candidate) = .ok after) :
    Alike (applyCandidate tables.select { accountSubscription := some candidate }) after.select := by
  obtain ⟨rows, allocations, deployable, foreign⟩ := perm_written wellFormed there written
  have limitsBefore : (applyCandidate tables.select { accountSubscription := some candidate }).limits =
      tables.allocations := by
    have kept := limits_placeSubscription candidate tables.select.allocations tables.select.accountSubscriptions
    unfold ConfigurationState.limits
    simp only [applyCandidate]
    rw [kept, ConfigurationTables.select, List.map_map]
    exact List.map_id _
  have limitsAfter : after.select.limits = tables.allocations := by
    unfold ConfigurationState.limits ConfigurationTables.select
    rw [List.map_map, ← allocations]
    exact List.map_id _
  constructor
  · exact deployable
  · have enabled : ∀ state : ConfigurationState, state.enabledAllocations.map (·.maxAllocatedNotional) =
        (state.limits.filter (·.enabled)).map (·.maxAllocatedNotional) := by
      intro state
      unfold ConfigurationState.enabledAllocations ConfigurationState.limits
      rw [List.filter_map, List.map_map]
      rfl
    rw [enabled, enabled, limitsBefore, limitsAfter]
  · intro allocation member
    obtain ⟨limits, listed, same⟩ := List.mem_map.mp member
    rw [allocations] at listed
    refine ⟨_, mem_applyCandidate_subscription wellFormed listed, by rw [← same], ?_⟩
    rw [← same]
    have moved := (((rows.filter fun subscription => decide (subscription.allocationId = some limits.id)).filter
      (·.entryEnabled)).map (·.reserved))
    refine moved.trans ?_
    have swap := List.filter_comm (fun subscription => decide (subscription.allocationId = some limits.id))
      (fun subscription => decide (some subscription.id ≠ candidate.id)) tables.accountSubscriptions
    unfold movedSubscriptions AllocationConfiguration.activeSubscriptions ConfigurationTables.subscriptionsOf
    rw [List.filter_append, List.filter_append, List.filter_append, List.map_append, List.map_append, swap]
    refine List.Perm.append_left _ (List.Perm.of_eq ?_)
    by_cases assigned : candidate.allocationId = some limits.id
    · have chosen : [candidate.row (candidate.id.getD fresh)].filter
          (fun subscription => decide (subscription.allocationId = some limits.id)) =
          [candidate.row (candidate.id.getD fresh)] :=
        List.filter_eq_self.mpr fun row member => by
          rw [List.mem_singleton.mp member]
          exact decide_eq_true assigned
      rw [if_pos assigned.symm, chosen]
      exact reservations_row _ _
    · simp [assigned, Ne.symm assigned, SubscriptionCandidate.row]
  · intro subscription member
    have stored : subscription ∈ after.accountSubscriptions := by
      rcases mem_subscriptions.mp member with unassigned | ⟨allocation, listed, within⟩
      · exact (List.mem_filter.mp unassigned).1
      · obtain ⟨limits, _, same⟩ := List.mem_map.mp listed
        rw [← same] at within
        exact (List.mem_filter.mp within).1
    rw [limitsBefore, limitsAfter]
    rcases List.mem_append.mp (rows.mem_iff.mp stored) with kept | changed
    · obtain ⟨before, other⟩ := List.mem_filter.mp kept
      refine ⟨subscription, ?_, rfl, rfl⟩
      cases named : subscription.allocationId with
      | none =>
        refine mem_subscriptions.mpr (.inl ?_)
        have unassigned : subscription ∈ tables.select.accountSubscriptions.eraseP
            (fun row => some row.id = candidate.id) :=
          (List.mem_eraseP_of_neg (by simpa using other)).mpr (List.mem_filter.mpr ⟨before, by simp [named]⟩)
        rcases placeSubscription_cases candidate tables.select.allocations tables.select.accountSubscriptions with
          ⟨pushed, push, placed⟩ | ⟨push, placed⟩
        · simp only [applyCandidate, placed]
          exact unassigned
        · simp only [applyCandidate, placed]
          exact List.mem_append_left _ unassigned
      | some id =>
        obtain ⟨limits, listed, same⟩ := wellFormed.owned subscription before id named
        refine mem_subscriptions.mpr (.inr ⟨_, mem_applyCandidate_subscription wellFormed listed, ?_⟩)
        refine List.mem_append_left _ (List.mem_filter.mpr ⟨?_, other⟩)
        exact List.mem_filter.mpr ⟨before, by simp [named, same]⟩
    · rw [List.mem_singleton.mp changed]
      refine ⟨candidate.row (candidate.id.getD (-1)), mem_subscriptions.mpr ?_, rfl, rfl⟩
      cases named : candidate.allocationId with
      | none =>
        left
        rcases placeSubscription_cases candidate tables.select.allocations tables.select.accountSubscriptions with
          ⟨pushed, push, placed⟩ | ⟨push, placed⟩
        · rw [pushSubscription_unassigned named] at push
          cases push
        · simp only [applyCandidate, placed]
          exact List.mem_append_right _ (List.mem_singleton.mpr rfl)
      | some id =>
        right
        obtain ⟨limits, listed, same⟩ := foreign id named
        refine ⟨_, mem_applyCandidate_subscription wellFormed listed, ?_⟩
        unfold movedSubscriptions
        rw [if_pos (by rw [named, same])]
        exact List.mem_append_right _ (List.mem_singleton.mpr rfl)

end Subscription

end Writes

theorem WellFormed.write (wellFormed : WellFormed tables) (unused : Fresh tables change fresh) (validated : change.Validated)
    (there : tables.holds change = true) (written : tables.write fresh change = .ok after) : WellFormed after := by
  cases change with
  | account maxDeployableNotional =>
    cases written
    exact { wellFormed with deployable := validated }
  | allocation values =>
    cases written
    cases named : values.id with
    | none =>
      have mem : ∀ limits, limits ∈ tables.allocations ++ [values.limits fresh] →
          limits ∈ tables.allocations ∨ limits = values.limits fresh := fun limits listed =>
        (List.mem_append.mp listed).imp_right List.mem_singleton.mp
      constructor
      · dsimp only
        rw [List.map_append, List.map_singleton]
        refine List.nodup_append.mpr ⟨wellFormed.allocationIds, List.nodup_singleton _, fun id listed other single same => ?_⟩
        have equal : id = fresh := same.trans (List.mem_singleton.mp single)
        exact unused.2 (show fresh ∈ tables.allocations.map (·.id) from equal ▸ listed)
      · exact wellFormed.subscriptionIds
      · intro limits listed
        rcases mem limits listed with kept | new
        · exact wellFormed.storedAllocation limits kept
        · rw [new]
          exact unused.1
      · exact wellFormed.storedSubscription
      · intro subscription member id refers
        obtain ⟨limits, listed, same⟩ := wellFormed.owned subscription member id refers
        exact ⟨limits, List.mem_append_left _ listed, same⟩
      · exact wellFormed.deployable
      · intro limits listed amount given
        rcases mem limits listed with kept | new
        · exact wellFormed.budgets limits kept amount given
        · rw [new] at given
          exact validated amount given
    | some id =>
      have mem : ∀ limits ∈ updateWhere (·.id == id) (fun _ => values.limits id) tables.allocations,
          limits ∈ tables.allocations ∨ limits = values.limits id := by
        intro limits listed
        obtain ⟨old, present, same⟩ := mem_updateWhere.mp listed
        rw [same]
        split
        · exact .inr rfl
        · exact .inl present
      have ids : (updateWhere (·.id == id) (fun _ => values.limits id) tables.allocations).map (·.id) =
          tables.allocations.map (·.id) := map_updateWhere fun row same => (beq_iff_eq.mp same).symm
      constructor
      · dsimp only
        rw [ids]
        exact wellFormed.allocationIds
      · exact wellFormed.subscriptionIds
      · intro limits listed
        have among : limits.id ∈ tables.allocations.map (·.id) := by
          rw [← ids]
          exact List.mem_map_of_mem listed
        obtain ⟨old, present, same⟩ := List.mem_map.mp among
        exact same ▸ wellFormed.storedAllocation old present
      · exact wellFormed.storedSubscription
      · intro subscription member other refers
        obtain ⟨limits, listed, same⟩ := wellFormed.owned subscription member other refers
        have among : other ∈ (updateWhere (·.id == id) (fun _ => values.limits id) tables.allocations).map (·.id) := by
          rw [ids]
          exact same ▸ List.mem_map_of_mem listed
        obtain ⟨row, present, named⟩ := List.mem_map.mp among
        exact ⟨row, present, named⟩
      · exact wellFormed.deployable
      · intro limits listed amount given
        rcases mem limits listed with kept | new
        · exact wellFormed.budgets limits kept amount given
        · rw [new] at given
          exact validated amount given
  | accountSubscription values =>
    obtain ⟨rows, allocations, deployable, foreign⟩ := perm_written wellFormed there written
    have mem : ∀ subscription ∈ after.accountSubscriptions,
        subscription ∈ tables.accountSubscriptions ∨ subscription = values.row (values.id.getD fresh) := by
      intro subscription member
      rcases List.mem_append.mp (rows.mem_iff.mp member) with kept | new
      · exact .inl (List.mem_filter.mp kept).1
      · exact .inr (List.mem_singleton.mp new)
    constructor
    · rw [allocations]
      exact wellFormed.allocationIds
    · refine ((rows.map (·.id)).nodup_iff).mpr ?_
      rw [List.map_append, List.map_singleton]
      refine List.nodup_append.mpr ⟨?_, List.nodup_singleton _, ?_⟩
      · exact wellFormed.subscriptionIds.sublist (List.filter_sublist.map _)
      · intro id listed other single same
        rw [List.mem_singleton.mp single] at same
        obtain ⟨subscription, kept, equal⟩ := List.mem_map.mp listed
        obtain ⟨before, different⟩ := List.mem_filter.mp kept
        cases named : values.id with
        | none =>
          rw [named] at same
          have collides : subscription.id = fresh := equal.trans same
          exact unused.2 (show fresh ∈ tables.accountSubscriptions.map (·.id) from collides ▸ List.mem_map_of_mem before)
        | some value =>
          rw [named] at same
          have equalId : some subscription.id = values.id := by
            rw [named, equal, same]
            rfl
          exact of_decide_eq_true different equalId
    · rw [allocations]
      exact wellFormed.storedAllocation
    · intro subscription member
      rcases mem subscription member with kept | new
      · exact wellFormed.storedSubscription subscription kept
      · rw [new]
        cases named : values.id with
        | none => exact unused.1
        | some value =>
          simp only [ConfigurationTables.holds, named, Option.all_some, List.any_eq_true, beq_iff_eq] at there
          obtain ⟨stored, listed, same⟩ := there
          exact same ▸ wellFormed.storedSubscription stored listed
    · intro subscription member id refers
      rw [allocations]
      rcases mem subscription member with kept | new
      · exact wellFormed.owned subscription kept id refers
      · rw [new] at refers
        exact foreign id refers
    · rw [deployable]
      exact wellFormed.deployable
    · rw [allocations]
      exact wellFormed.budgets

theorem accepted_sound (wellFormed : WellFormed tables) (sound : Sound tables.select) (accepted : Accepted tables after) :
    WellFormed after ∧ Sound after.select := by
  obtain ⟨fresh, change, unused, validated, changed⟩ := accepted
  obtain ⟨there, asserted, written⟩ := changeRiskConfiguration_cases changed
  refine ⟨wellFormed.write unused validated there written, ?_⟩
  have checked := sound_of_assert (selected_select wellFormed) (stored_of_holds wellFormed there) sound asserted
  cases change with
  | account maxDeployableNotional =>
    cases written
    exact checked
  | allocation values => exact checked.of_alike (alike_allocation wellFormed unused.2 there written)
  | accountSubscription values => exact checked.of_alike (alike_subscription wellFormed there written)

theorem run_sound (wellFormed : WellFormed tables) (sound : Sound tables.select)
    (run : Relation.ReflTransGen Accepted tables after) : WellFormed after ∧ Sound after.select := by
  induction run with
  | refl => exact ⟨wellFormed, sound⟩
  | tail _ accepted ih => exact accepted_sound ih.1 ih.2 accepted

/-- The sums of a configuration stay within their limits; a limit of `null` is zero. -/
structure Budgeted (tables : ConfigurationTables) : Prop where
  /-- The reservations of the entry-enabled subscriptions of each allocation. -/
  reservations : ∀ limits ∈ tables.allocations,
    Selection.weigh (·.reserved) (fun subscription => subscription.entryEnabled &&
      decide (subscription.allocationId = some limits.id)) tables.accountSubscriptions ≤ limits.maxAllocatedNotional.getD 0
  /-- The budgets of the enabled allocations. -/
  budgets : Selection.weigh (fun limits => limits.maxAllocatedNotional.getD 0) (·.enabled) tables.allocations ≤
    tables.maxDeployableNotional.getD 0
  maxima : ∀ subscription ∈ tables.accountSubscriptions, subscription.entryEnabled = true →
    subscription.sizingType = .maxNotional → ∃ maximum reserved, subscription.maxPositionNotional = some maximum ∧
      subscription.reservedNotional = some reserved ∧ maximum ≤ reserved
  /-- The reservations of the entry-enabled subscriptions of the account. -/
  total : Selection.weigh (·.reserved) (·.entryEnabled) tables.accountSubscriptions ≤ tables.maxDeployableNotional.getD 0
  /-- The maxima of the entry-enabled subscriptions of the account. -/
  totalMaxima : Selection.weigh (fun subscription => subscription.maxPositionNotional.getD 0)
    (fun subscription => subscription.entryEnabled && subscription.sizingType == .maxNotional)
    tables.accountSubscriptions ≤ tables.maxDeployableNotional.getD 0

theorem nonneg_getD {amount : Option ℚ} (positive : ∀ value, amount = some value → 0 < value) : 0 ≤ amount.getD 0 := by
  cases amount with
  | none => exact le_refl _
  | some value => exact le_of_lt (positive value rfl)

theorem limits_select : tables.select.limits = tables.allocations := by
  unfold ConfigurationState.limits ConfigurationTables.select
  rw [List.map_map]
  exact List.map_id _

section

variable (wellFormed : WellFormed tables)
include wellFormed

section

variable (sound : Sound tables.select)
include sound

/-- An entry-enabled subscription is sound with respect to the allocation it names. -/
theorem subscriptionSound_of_sound (member : subscription ∈ tables.accountSubscriptions)
    (entry : subscription.entryEnabled = true) :
    SubscriptionSound (findAllocation tables.allocations subscription.allocationId) subscription := by
  have held := sound.subscriptions subscription ((subscriptions_select wellFormed).mpr member) entry
  rw [limits_select] at held
  exact held

theorem reservations_le {limits : AllocationLimits} (listed : limits ∈ tables.allocations) :
    Selection.weigh (·.reserved) (fun subscription => subscription.entryEnabled &&
      decide (subscription.allocationId = some limits.id)) tables.accountSubscriptions ≤
        limits.maxAllocatedNotional.getD 0 := by
  have held := sound.allocations ⟨limits, tables.subscriptionsOf (some limits.id)⟩ (List.mem_map_of_mem listed)
  have total : Selection.weigh (·.reserved) (fun subscription => subscription.entryEnabled &&
      decide (subscription.allocationId = some limits.id)) tables.accountSubscriptions =
      (AllocationConfiguration.mk limits (tables.subscriptionsOf (some limits.id))).reservedTotal := by
    unfold Selection.weigh AllocationConfiguration.reservedTotal AllocationConfiguration.activeSubscriptions
      ConfigurationTables.subscriptionsOf
    rw [List.filter_filter]
  rw [total]
  cases enabled : limits.enabled with
  | false =>
    unfold AllocationConfiguration.reservedTotal
    rw [held.idle enabled]
    exact nonneg_getD (wellFormed.budgets limits listed)
  | true =>
    obtain ⟨budget, given, positive⟩ := isPositive_iff.mp (held.complete enabled).1
    rw [given]
    exact exceedsPositive_eq_false_iff.mp held.reservations budget given positive

theorem budgets_le : Selection.weigh (fun limits => limits.maxAllocatedNotional.getD 0) (·.enabled) tables.allocations ≤
      tables.maxDeployableNotional.getD 0 := by
  have rows : tables.select.enabledAllocations.map (·.toAllocationLimits) = tables.allocations.filter (·.enabled) := by
    unfold ConfigurationState.enabledAllocations ConfigurationTables.select
    rw [List.filter_map, List.map_map]
    exact List.map_id _
  have total : Selection.weigh (fun limits => limits.maxAllocatedNotional.getD 0) (·.enabled) tables.allocations =
      tables.select.enabledAllocatedNotional := by
    unfold Selection.weigh ConfigurationState.enabledAllocatedNotional
    rw [← rows, List.map_map]
    rfl
  rw [total]
  cases given : tables.maxDeployableNotional with
  | none =>
    have idle : tables.select.enabledAllocations = [] := by
      by_contra enabled
      have positive := sound.deployable (.inl enabled)
      simp [ConfigurationTables.select, given, isPositive] at positive
    unfold ConfigurationState.enabledAllocatedNotional
    rw [idle]
    exact le_refl _
  | some amount => exact exceedsPositive_eq_false_iff.mp sound.total amount given (wellFormed.deployable amount given)

theorem total_le :
    Selection.weigh (·.reserved) (·.entryEnabled) tables.accountSubscriptions ≤ tables.maxDeployableNotional.getD 0 := by
  have distinct : ((tables.allocations.filter (·.enabled)).map fun limits => some limits.id).Nodup := by
    have ids : ((tables.allocations.filter (·.enabled)).map (·.id)).Nodup :=
      wellFormed.allocationIds.sublist (List.filter_sublist.map _)
    have named := ids.map (Option.some_injective Int)
    rw [List.map_map] at named
    exact named
  have covered : ∀ subscription ∈ tables.accountSubscriptions, subscription.entryEnabled = true →
      subscription.allocationId ∈ (tables.allocations.filter (·.enabled)).map fun limits => some limits.id := by
    intro subscription member entry
    obtain ⟨limits, found, enabled, _⟩ := (subscriptionSound_of_sound wellFormed sound member entry).assigned
    rw [← findAllocation_id found]
    exact List.mem_map_of_mem (List.mem_filter.mpr ⟨List.mem_of_find?_eq_some found, enabled⟩)
  have parts := Selection.weigh_partition SubscriptionConfiguration.reserved (·.entryEnabled) (·.allocationId) distinct covered
  rw [parts, List.map_map]
  refine le_trans (List.sum_le_sum fun limits listed => ?_) (budgets_le wellFormed sound)
  exact reservations_le wellFormed sound (List.mem_filter.mp listed).1

theorem maximum_le (member : subscription ∈ tables.accountSubscriptions)
    (entry : subscription.entryEnabled = true) (sizing : subscription.sizingType = .maxNotional) :
    ∃ maximum reserved, subscription.maxPositionNotional = some maximum ∧
      subscription.reservedNotional = some reserved ∧ maximum ≤ reserved := by
  have held := subscriptionSound_of_sound wellFormed sound member entry
  obtain ⟨reserved, given, positive⟩ := isPositive_iff.mp held.reserved
  have sized := held.sized
  unfold Sized at sized
  rw [sizing] at sized
  obtain ⟨maximum, named, _, within⟩ := sized
  exact ⟨maximum, reserved, named, given, exceedsPositive_eq_false_iff.mp within reserved given positive⟩

theorem budgeted_of_sound : Budgeted tables where
  reservations := fun _ listed => reservations_le wellFormed sound listed
  budgets := budgets_le wellFormed sound
  maxima := fun _ member entry sizing => maximum_le wellFormed sound member entry sizing
  total := total_le wellFormed sound
  totalMaxima := by
    refine le_trans (Selection.weigh_mono fun subscription member => ?_) (total_le wellFormed sound)
    cases entry : subscription.entryEnabled with
    | false => simp
    | true =>
      obtain ⟨reserved, given, positive⟩ :=
        isPositive_iff.mp (subscriptionSound_of_sound wellFormed sound member entry).reserved
      have amount : subscription.reserved = reserved := by
        unfold SubscriptionConfiguration.reserved
        rw [given]
        rfl
      cases sizing : subscription.sizingType with
      | fixedQty =>
        simp only [amount]
        exact le_of_lt positive
      | maxNotional =>
        obtain ⟨maximum, other, named, same, below⟩ := maximum_le wellFormed sound member entry sizing
        rw [given] at same
        cases same
        simp [amount, named, below]

end

end

/-- Accepted changes keep a configuration free of violations, and its sums within their limits. -/
theorem changeRiskConfiguration_clean {start : ConfigurationTables} (wellFormed : WellFormed start)
    (clean : evaluateAccountRiskConfiguration start.select {} = []) (run : Relation.ReflTransGen Accepted start tables) :
    evaluateAccountRiskConfiguration tables.select {} = [] ∧ Budgeted tables := by
  have sound : Sound start.select := configurationViolations_eq_nil_iff.mp clean
  obtain ⟨wellFormedAfter, soundAfter⟩ := run_sound wellFormed sound run
  exact ⟨configurationViolations_eq_nil_iff.mpr soundAfter, budgeted_of_sound wellFormedAfter soundAfter⟩

/-- An account that may deploy 1000, before anything is configured. -/
def deployable : ConfigurationTables := ⟨1, some 1000, [], []⟩

/-- An allocation of 600. -/
def firstAllocation : AllocationCandidate := ⟨none, true, some 600, some 3, some 200⟩

/-- A subscription that reserves 200 in the allocation. -/
def firstReservation : SubscriptionCandidate := ⟨none, some 1, true, true, .maxNotional, none, some 150, some 200⟩

/-- The allocation and the subscription are the first rows of their tables. -/
theorem changeRiskConfiguration_clean_firstReservation :
    evaluateAccountRiskConfiguration
        (ConfigurationTables.mk 1 (some 1000) [firstAllocation.limits 1] [firstReservation.row 1]).select {} = [] ∧
      Budgeted ⟨1, some 1000, [firstAllocation.limits 1], [firstReservation.row 1]⟩ := by
  have wellFormed : WellFormed deployable :=
    ⟨by decide, by decide, by decide, by decide, by simp [deployable], by rintro _ ⟨⟩; decide +kernel, by simp [deployable]⟩
  have allocated : Accepted deployable ⟨1, some 1000, [firstAllocation.limits 1], []⟩ :=
    ⟨1, .allocation firstAllocation, ⟨by decide, by decide⟩, by rintro _ ⟨⟩; decide +kernel,
      by decide +kernel⟩
  have reserved : Accepted ⟨1, some 1000, [firstAllocation.limits 1], []⟩
      ⟨1, some 1000, [firstAllocation.limits 1], [firstReservation.row 1]⟩ :=
    ⟨1, .accountSubscription firstReservation, ⟨by decide, by decide⟩, trivial, by decide +kernel⟩
  exact changeRiskConfiguration_clean wellFormed (by decide +kernel) (.tail (.single allocated) reserved)

end AiTrader.Risk
