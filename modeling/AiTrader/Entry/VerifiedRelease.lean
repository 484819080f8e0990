import AiTrader.Library.Table
import AiTrader.Entry.RecoveryContracts

/-! # What a verified release has seen

Any writer may commit between two statements; the release still rests on everything that was committed when its
transaction began. -/

namespace AiTrader.Entry

open Library Library.Program EntryLifecycle

variable {assessment : EntryClaimAssessment} {now : Nat}

/-- An outcome that proves that no order exists at the broker. -/
structure DeliveryOutcome.Releasable (outcome : DeliveryOutcome) (now : Nat) : Prop where
  harmless : outcome.classification.isLocalNonSend = true ∨ outcome.classification = .brokerRejected
  definitive : outcome.classification = .brokerRejected →
    ∃ statusCode ∈ definitiveBrokerRejectionStatusCodes, outcome.statusCode = some statusCode
  settled : outcome.classification = .brokerRejected → outcome.recordedAt + entryDispatchRejectionSettleMs ≤ now

variable {guarantee : EntryLifecycle → EntryLifecycle → Prop} {began before after : EntryLifecycle}

variable {claim : EntryExposureClaim} {α : Type} {others : EntryLifecycle → EntryLifecycle → Prop} {start : EntryLifecycle}

section Observation

/-- Any number of steps of the other writers. -/
abbrev Later (others : EntryLifecycle → EntryLifecycle → Prop) : EntryLifecycle → EntryLifecycle → Prop :=
  Relation.ReflTransGen others

/-- The other writers only append claim events, and the clock does not go back. -/
structure AppendOnly (others : EntryLifecycle → EntryLifecycle → Prop) : Prop where
  events : ∀ {store after}, others store after → store.events <+: after.events
  clock : ∀ {store after}, others store after → store.clock ≤ after.clock

theorem AppendOnly.later_deliveryEvents (appendOnly : AppendOnly others) {store after : EntryLifecycle}
    (later : Later others store after) : store.deliveryEvents <+: after.deliveryEvents := by
  induction later with
  | refl => exact List.prefix_rfl
  | tail _ step ih => exact ih.trans ((appendOnly.events step).filter _)

theorem AppendOnly.later_clock (appendOnly : AppendOnly others) {store after : EntryLifecycle}
    (later : Later others store after) : store.clock ≤ after.clock := by
  induction later with
  | refl => exact le_rfl
  | tail _ step ih => exact ih.trans (appendOnly.clock step)

/-- A statement that ran at some store between `began` and `before` found `fact`. -/
def Observed (others : EntryLifecycle → EntryLifecycle → Prop) (began before : EntryLifecycle)
    (fact : EntryLifecycle → Prop) : Prop :=
  ∃ seen, Later others began seen ∧ Later others seen before ∧ fact seen

variable {fact : EntryLifecycle → Prop}

theorem Observed.later (observed : Observed others began before fact) (later : Later others before after) :
    Observed others began after fact := by
  obtain ⟨seen, since, until_, held⟩ := observed
  exact ⟨seen, since, until_.trans later, held⟩

theorem Observed.since {later : EntryLifecycle}
    (observed : Observed others later before fact) (earlier : Later others began later) :
    Observed others began before fact := by
  obtain ⟨seen, since, until_, held⟩ := observed
  exact ⟨seen, earlier.trans since, until_, held⟩

variable {current : EntryLifecycle}

/-- The contract of a program that relies on nothing but the steps of `others`. -/
def watching (others : EntryLifecycle → EntryLifecycle → Prop)
    (guarantee : EntryLifecycle → EntryLifecycle → Prop) (refl : ∀ store, guarantee store store) :
    Contract EntryLifecycle where
  invariant := fun _ => True
  rely := Later others
  guarantee := guarantee
  rely_refl := fun _ => .refl
  rely_trans := .trans
  guarantee_refl := refl

/-- What an assessment that began at `start` has read by `current`. -/
structure Assessed (others : EntryLifecycle → EntryLifecycle → Prop) (now : Nat) (start : EntryLifecycle)
    (assessment : EntryClaimAssessment) (current : EntryLifecycle) : Prop where
  rows : Observed others start current fun seen =>
    seen.claim = some assessment.claim ∧ seen.intent = some assessment.intent
  deliveryEvents : assessment.deliveryEvents <+: current.deliveryEvents
  now : assessment.now = now
  clock : start.clock ≤ current.clock

theorem Assessed.later (appendOnly : AppendOnly others) (assessed : Assessed others now start assessment current)
    (later : Later others current after) : Assessed others now start assessment after where
  rows := assessed.rows.later later
  deliveryEvents := assessed.deliveryEvents.trans (appendOnly.later_deliveryEvents later)
  now := assessed.now
  clock := assessed.clock.trans (appendOnly.later_clock later)

/-- What an assessment has read before it knows the broker's answer. -/
structure Assessed.Read (others : EntryLifecycle → EntryLifecycle → Prop) (start : EntryLifecycle)
    (claim : EntryExposureClaim) (intent : OrderIntent) (deliveryEvents : List ClaimEvent)
    (current : EntryLifecycle) : Prop where
  rows : Observed others start current fun seen => seen.claim = some claim ∧ seen.intent = some intent
  deliveryEvents : deliveryEvents <+: current.deliveryEvents
  clock : start.clock ≤ current.clock

theorem Assessed.Read.later {intent : OrderIntent} {deliveryEvents : List ClaimEvent} (appendOnly : AppendOnly others)
    (read : Assessed.Read others start claim intent deliveryEvents current) (later : Later others current after) :
    Assessed.Read others start claim intent deliveryEvents after where
  rows := read.rows.later later
  deliveryEvents := read.deliveryEvents.trans (appendOnly.later_deliveryEvents later)
  clock := read.clock.trans (appendOnly.later_clock later)

end Observation

variable {refl : ∀ store, guarantee store store}

section Transaction

/-- The queries for rows that would contradict an unsubmitted entry ran after `began` and found none. -/
structure Unexposed (others : EntryLifecycle → EntryLifecycle → Prop) (startedAt : Option Nat)
    (began before : EntryLifecycle) : Prop where
  orders : Observed others began before fun seen => seen.brokerOrders = []
  activities : Observed others began before fun seen => seen.brokerActivities = []
  positions : Observed others began before fun seen =>
    ∀ position ∈ seen.pairPositions, position ∉ activePositionStatuses
  executableBuys : Observed others began before fun seen =>
    ∀ order ∈ seen.pairBuyOrders, order.status ∈ conclusivelyNonExecutableStatuses
  unattributedFills : Observed others began before fun seen =>
    ∀ time ∈ seen.unattributedBuyFills, fillMayBelong startedAt time = false

variable {startedAt : Option Nat}

theorem Unexposed.later (unexposed : Unexposed others startedAt began before) (later : Later others before after) :
    Unexposed others startedAt began after where
  orders := unexposed.orders.later later
  activities := unexposed.activities.later later
  positions := unexposed.positions.later later
  executableBuys := unexposed.executableBuys.later later
  unattributedFills := unexposed.unattributedFills.later later

theorem Unexposed.since {began' : EntryLifecycle}
    (unexposed : Unexposed others startedAt began' before) (earlier : Later others began began') :
    Unexposed others startedAt began before where
  orders := unexposed.orders.since earlier
  activities := unexposed.activities.since earlier
  positions := unexposed.positions.since earlier
  executableBuys := unexposed.executableBuys.since earlier
  unattributedFills := unexposed.unattributedFills.since earlier

variable {exposure : LocalExposure}

end Transaction

section Release

theorem DeliveryOutcome.Releasable.later {outcome : DeliveryOutcome} {later : Nat}
    (releasable : outcome.Releasable now) (passed : now ≤ later) : outcome.Releasable later :=
  ⟨releasable.harmless, releasable.definitive, fun rejected => (releasable.settled rejected).trans passed⟩

end Release

end AiTrader.Entry
