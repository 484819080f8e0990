import AiTrader.Approval.LiveWriteApproval

/-! # Revocation of the risk-reducing approval beside entries

A revocation of one LIVE account reads the exposure in four separate reads and then commits a transaction that does not
read it again. -/

namespace AiTrader.Approval

open Library Entry

inductive OrderSide where
  | buy | sell

/-- An order as it is sent and as the broker holds it. -/
structure Order where
  (clientOrderId symbol : String)
  side : OrderSide
  qty : Nat

structure BrokerPosition where
  symbol : String
  qty : Int

/-- A revocation with the lengths of the lists it has read so far. -/
structure Revocation where
  request : RevokeLiveWriteApproval
  (positions orders localPositions localOrders : Option Nat)

def Revocation.start (request : RevokeLiveWriteApproval) : Revocation := ⟨request, none, none, none, none⟩

/-- The reads that a revocation makes are done; only RISK_REDUCING is read for. -/
def Revocation.complete (revocation : Revocation) : Bool :=
  revocation.request.capability != .riskReducing ||
    (revocation.positions.isSome && revocation.orders.isSome && revocation.localPositions.isSome &&
      revocation.localOrders.isSome)

/-- Some read has found exposure, which refuses the revocation with status 409. -/
def Revocation.exposed (revocation : Revocation) : Bool :=
  revocation.request.capability == .riskReducing &&
    (revocation.positions.any (· != 0) || revocation.orders.any (· != 0) || revocation.localPositions.any (· != 0) ||
      revocation.localOrders.any (· != 0))

structure LiveSystem where
  store : ApprovalStore
  positions : List BrokerPosition
  openOrders : List Order
  /-- The entry requests that passed the authorization and that the broker has not answered. -/
  outstanding : List Order
  revocations : List Revocation

inductive LiveEvent where
  | authorized | delivered | undelivered | filled | closed | synchronized | administered
  | began | positionsRead | ordersRead | localPositionsRead | localOrdersRead | abandoned
  | committed (capability : LiveWriteCapability)
deriving DecidableEq

/-- Nothing of the account is at the broker or on its way there. -/
def LiveSystem.Flat (system : LiveSystem) : Prop :=
  system.positions = [] ∧ system.openOrders = [] ∧ system.outstanding = []

/-- One step of the system. -/
inductive LiveStep (deployment : Deployment) (tradingAccountId : Nat) : LiveEvent → LiveSystem → LiveSystem → Prop where
  /-- An entry request passes its authorization, at the step that reads the risk-reducing approval. -/
  | authorize {system : LiveSystem} (order : Order) (seen : ApprovalStore)
      (approval : loadApproval .riskReducing seen = loadApproval .riskReducing system.store)
      (passed : authorizeLiveBrokerWrite deployment tradingAccountId .entryWrite seen = .ok ()) :
      LiveStep deployment tradingAccountId .authorized system
        { system with outstanding := system.outstanding ++ [order] }
  | deliver {system : LiveSystem} {earlier later : List Order} {order : Order}
      (pending : system.outstanding = earlier ++ order :: later) :
      LiveStep deployment tradingAccountId .delivered system
        { system with outstanding := earlier ++ later, openOrders := system.openOrders ++ [order] }
  /-- The request is refused or never arrives. -/
  | lose {system : LiveSystem} {earlier later : List Order} {order : Order}
      (pending : system.outstanding = earlier ++ order :: later) :
      LiveStep deployment tradingAccountId .undelivered system { system with outstanding := earlier ++ later }
  /-- The broker fills an open order in whole or in part. -/
  | fill {system : LiveSystem} {earlier later remaining : List Order} {order : Order} (positions : List BrokerPosition)
      (working : system.openOrders = earlier ++ order :: later) :
      LiveStep deployment tradingAccountId .filled system
        { system with positions := positions, openOrders := earlier ++ remaining ++ later }
  /-- An order is canceled or expires. -/
  | close {system : LiveSystem} {earlier later : List Order} {order : Order}
      (working : system.openOrders = earlier ++ order :: later) :
      LiveStep deployment tradingAccountId .closed system { system with openOrders := earlier ++ later }
  /-- The order and position synchronization write the local rows. -/
  | synchronize {system : LiveSystem} (trackedPositions : List PositionStatus) (brokerOrders : List OrderStatus) :
      LiveStep deployment tradingAccountId .synchronized system
        { system with
          store := { system.store with trackedPositions := trackedPositions, brokerOrders := brokerOrders } }
  /-- Other requests change the account, its configuration and its approvals. -/
  | administer {system : LiveSystem} (store : ApprovalStore) :
      LiveStep deployment tradingAccountId .administered system { system with store := store }
  | begin {system : LiveSystem} (request : RevokeLiveWriteApproval) :
      LiveStep deployment tradingAccountId .began system
        { system with revocations := system.revocations ++ [.start request] }
  | readPositions {system : LiveSystem} {earlier later : List Revocation} {revocation : Revocation}
      (running : system.revocations = earlier ++ revocation :: later) (unread : revocation.positions = none) :
      LiveStep deployment tradingAccountId .positionsRead system
        { system with
          revocations := earlier ++ { revocation with positions := some system.positions.length } :: later }
  | readOrders {system : LiveSystem} {earlier later : List Revocation} {revocation : Revocation}
      (running : system.revocations = earlier ++ revocation :: later) (unread : revocation.orders = none) :
      LiveStep deployment tradingAccountId .ordersRead system
        { system with revocations := earlier ++ { revocation with orders := some system.openOrders.length } :: later }
  | readLocalPositions {system : LiveSystem} {earlier later : List Revocation} {revocation : Revocation}
      (running : system.revocations = earlier ++ revocation :: later) (unread : revocation.localPositions = none) :
      LiveStep deployment tradingAccountId .localPositionsRead system
        { system with
          revocations := earlier ++ { revocation with localPositions := some (localPositions system.store) } :: later }
  | readLocalOrders {system : LiveSystem} {earlier later : List Revocation} {revocation : Revocation}
      (running : system.revocations = earlier ++ revocation :: later) (unread : revocation.localOrders = none) :
      LiveStep deployment tradingAccountId .localOrdersRead system
        { system with
          revocations := earlier ++ { revocation with localOrders := some (localOrders system.store) } :: later }
  /-- A revocation is refused, or one of its reads or its transaction fails. -/
  | abandon {system : LiveSystem} {earlier later : List Revocation} {revocation : Revocation}
      (running : system.revocations = earlier ++ revocation :: later) :
      LiveStep deployment tradingAccountId .abandoned system { system with revocations := earlier ++ later }
  | commit {system : LiveSystem} {earlier later : List Revocation} {revocation : Revocation} {store : ApprovalStore}
      {approval : TradingAccountLiveWriteApproval} (running : system.revocations = earlier ++ revocation :: later)
      (complete : revocation.complete = true) (unexposed : revocation.exposed = false)
      (changed : changeApprovalState revocation.request system.store = .ok (approval, store)) :
      LiveStep deployment tradingAccountId (.committed revocation.request.capability) system
        { system with store := store, revocations := earlier ++ later }

/-- The window of a revocation stays quiet: nothing is on its way when it finds no open order, nothing is authorized later,
and nothing fills between its two reads. -/
def Quiet (event : LiveEvent) (system : LiveSystem) : Prop :=
  match event with
  | .ordersRead => system.openOrders = [] → system.outstanding = []
  | .authorized => ∀ revocation ∈ system.revocations, revocation.orders ≠ some 0
  | .filled => ∀ revocation ∈ system.revocations, revocation.positions = some 0 → revocation.orders ≠ none
  | _ => True

/-- A step that keeps the windows of all revocations quiet. -/
def QuietStep (deployment : Deployment) (tradingAccountId : Nat) (event : LiveEvent) (system after : LiveSystem) : Prop :=
  LiveStep deployment tradingAccountId event system after ∧ Quiet event system

section Runs

variable {deployment : Deployment} {tradingAccountId : Nat} {system after : LiveSystem} {event : LiveEvent}

/-- What a revocation has found empty still is; the positions at least until the orders are read. -/
structure Standing (revocation : Revocation) (system : LiveSystem) : Prop where
  orders : revocation.orders = some 0 → system.openOrders = [] ∧ system.outstanding = []
  positions : revocation.positions = some 0 → (revocation.orders = none ∨ revocation.orders = some 0) →
    system.positions = []

/-- Every revocation under way stands on what it has read. -/
def AllStanding (system : LiveSystem) : Prop := ∀ revocation ∈ system.revocations, Standing revocation system

variable {revocation : Revocation} {earlier later : List Revocation}

theorem AllStanding.replace {changed : Revocation}
    (standing : AllStanding system) (running : system.revocations = earlier ++ revocation :: later)
    (next : Standing revocation system → Standing changed system) :
    AllStanding { system with revocations := earlier ++ changed :: later } := by
  rw [AllStanding, running, List.forall_mem_append, List.forall_mem_cons] at standing
  have stands : ∀ other ∈ earlier ++ changed :: later, Standing other system :=
    List.forall_mem_append.mpr ⟨standing.1, List.forall_mem_cons.mpr ⟨next standing.2.1, standing.2.2⟩⟩
  exact fun other member => ⟨(stands other member).orders, (stands other member).positions⟩

theorem AllStanding.drop (standing : AllStanding system)
    (running : system.revocations = earlier ++ revocation :: later) (store : ApprovalStore) :
    AllStanding { system with store := store, revocations := earlier ++ later } := by
  rw [AllStanding, running, List.forall_mem_append, List.forall_mem_cons] at standing
  have stands := List.forall_mem_append.mpr ⟨standing.1, standing.2.2⟩
  exact fun other member => ⟨(stands other member).orders, (stands other member).positions⟩

/-- While an order is open or outstanding, none has found no orders. -/
theorem Standing.orders_ne (held : Standing revocation system) {front back : List Order} {order : Order}
    (busy : system.openOrders = front ++ order :: back ∨ system.outstanding = front ++ order :: back) :
    revocation.orders ≠ some 0 := by
  intro empty
  obtain ⟨closed, idle⟩ := held.orders empty
  simp [closed, idle] at busy

/-- A quiet step keeps every revocation standing. -/
theorem standing_of_step (standing : AllStanding system) (quiet : QuietStep deployment tradingAccountId event system after) :
    AllStanding after := by
  obtain ⟨step, window⟩ := quiet
  cases step with
  | authorize order seen approval passed =>
    intro revocation member
    have held := standing revocation member
    exact ⟨fun empty => absurd empty (window revocation member), held.positions⟩
  | deliver pending =>
    intro revocation member
    have held := standing revocation member
    exact ⟨fun empty => absurd empty (held.orders_ne (.inr pending)), held.positions⟩
  | lose pending =>
    intro revocation member
    have held := standing revocation member
    exact ⟨fun empty => absurd empty (held.orders_ne (.inr pending)), held.positions⟩
  | fill positions working =>
    intro revocation member
    have held := standing revocation member
    have busy := held.orders_ne (.inl working)
    refine ⟨fun empty => absurd empty busy, fun found unread => ?_⟩
    rcases unread with unread | empty
    · exact absurd unread (window revocation member found)
    · exact absurd empty busy
  | close working =>
    intro revocation member
    have held := standing revocation member
    exact ⟨fun empty => absurd empty (held.orders_ne (.inl working)), held.positions⟩
  | synchronize trackedPositions brokerOrders =>
    intro revocation member
    have held := standing revocation member
    exact ⟨held.orders, held.positions⟩
  | administer store =>
    intro revocation member
    have held := standing revocation member
    exact ⟨held.orders, held.positions⟩
  | begin request =>
    intro revocation member
    rcases List.mem_append.mp member with running | new
    · have held := standing revocation running
      exact ⟨held.orders, held.positions⟩
    · rw [List.mem_singleton.mp new]
      constructor
      · intro unread
        cases unread
      · intro unread
        cases unread
  | readPositions running unread =>
    refine standing.replace running fun held => ⟨held.orders, fun found _ => ?_⟩
    exact List.length_eq_zero_iff.mp (Option.some.inj found)
  | readOrders running unread =>
    refine standing.replace running fun held => ⟨fun found => ?_, fun found _ => held.positions found (.inl unread)⟩
    have empty := List.length_eq_zero_iff.mp (Option.some.inj found)
    exact ⟨empty, window empty⟩
  | readLocalPositions running unread => exact standing.replace running fun held => ⟨held.orders, held.positions⟩
  | readLocalOrders running unread => exact standing.replace running fun held => ⟨held.orders, held.positions⟩
  | abandon running => exact standing.drop running system.store
  | commit running complete unexposed changed => exact standing.drop running _

/-- A complete and unexposed revocation of RISK_REDUCING has found no position and no order. -/
theorem read_of_unexposed (capability : revocation.request.capability = .riskReducing)
    (complete : revocation.complete = true) (unexposed : revocation.exposed = false) :
    revocation.positions = some 0 ∧ revocation.orders = some 0 := by
  obtain ⟨request, positions, orders, localPositions, localOrders⟩ := revocation
  dsimp only at capability
  cases positions with
  | none => simp [Revocation.complete, capability] at complete
  | some positions =>
    cases orders with
    | none => simp [Revocation.complete, capability] at complete
    | some orders =>
      simp only [Revocation.exposed, capability, beq_self_eq_true, Bool.true_and, Option.any_some, Bool.or_eq_false_iff,
        bne_eq_false_iff_eq] at unexposed
      exact ⟨congrArg some unexposed.1.1.1, congrArg some unexposed.1.1.2⟩

/-- A revocation of RISK_REDUCING that commits while every revocation stands leaves nothing behind. -/
theorem flat_of_commit (standing : AllStanding system)
    (step : LiveStep deployment tradingAccountId (.committed .riskReducing) system after) : after.Flat := by
  generalize named : LiveEvent.committed .riskReducing = event at step
  cases step with
  | commit running complete unexposed changed =>
    have capability := (LiveEvent.committed.inj named).symm
    obtain ⟨positions, orders⟩ := read_of_unexposed capability complete unexposed
    have held := standing _ (running ▸ List.mem_append_right _ List.mem_cons_self)
    obtain ⟨noOrder, nothing⟩ := held.orders orders
    exact ⟨held.positions positions (.inr orders), noOrder, nothing⟩
  | _ => cases named

end Runs

/-- With quiet windows, a committed revocation of RISK_REDUCING leaves no position, no open order and no authorized entry
request on its way. -/
theorem revokeLiveWriteApproval_flat {deployment : Deployment} {tradingAccountId : Nat} {start system after : LiveSystem}
    {events : List LiveEvent} (idle : start.revocations = [])
    (run : Served (QuietStep deployment tradingAccountId) start events system)
    (committed : QuietStep deployment tradingAccountId (.committed .riskReducing) system after) : after.Flat := by
  have initial : AllStanding start := by
    intro revocation member
    rw [idle] at member
    cases member
  exact flat_of_commit (run.invariant initial fun _ _ _ standing quiet => standing_of_step standing quiet) committed.1

section Sample

def production : Deployment := ⟨true, true, true, true⟩

def approvalPrints : ApprovalFingerprints := ⟨"configuration", "credential"⟩

/-- The granted approval of a capability. -/
def grantedApproval (id : Nat) (capability : LiveWriteCapability) : TradingAccountLiveWriteApproval :=
  ⟨id, capability, .granted, 1, "configuration", "credential", none, none, none, none, none⟩

/-- A LIVE account armed for entries, with both approvals and no exposure. -/
def armedStore : ApprovalStore where
  account := some ⟨.live, .active, true, false⟩
  approvals := [grantedApproval 1 .riskReducing, grantedApproval 2 .entry]
  fingerprints := fun _ => some approvalPrints
  decisions := []
  trackedPositions := []
  brokerOrders := []
  clock := 1

def firstEntry : Order := ⟨"entry-1", "RSP", .buy, 1⟩

def revokeRiskReducing : RevokeLiveWriteApproval := ⟨.riskReducing, 7, "Rotation.", 1⟩

/-- The revocation that has read nothing anywhere. -/
def readRevocation : Revocation := ⟨revokeRiskReducing, some 0, some 0, some 0, some 0⟩

/-- The store that the revocation leaves. -/
def revokedStore : ApprovalStore :=
  match changeApprovalState revokeRiskReducing armedStore with
  | .ok (_, store) => store
  | .error _ => armedStore

section

variable (outstanding : List Order)

/-- The flat account with revocations under way. -/
def reading (revocations : List Revocation) : LiveSystem := ⟨armedStore, [], [], outstanding, revocations⟩

/-- A step that neither authorizes nor fills anything. -/
def PlainStep (event : LiveEvent) (system after : LiveSystem) : Prop :=
  LiveStep production 1 event system after ∧ system.outstanding = outstanding ∧ event ≠ .authorized ∧ event ≠ .filled

theorem reads_served : Served (PlainStep outstanding) (reading outstanding [])
    [.began, .positionsRead, .ordersRead, .localPositionsRead, .localOrdersRead] (reading outstanding [readRevocation]) := by
  have began : Served (PlainStep outstanding) (reading outstanding []) [.began]
      (reading outstanding [.start revokeRiskReducing]) :=
    Served.start.next ⟨.begin revokeRiskReducing, rfl, by decide, by decide⟩
  have positions := began.next ⟨@LiveStep.readPositions _ _ (reading outstanding _) [] []
    (.start revokeRiskReducing) rfl rfl, rfl, by decide, by decide⟩
  have orders := positions.next ⟨@LiveStep.readOrders _ _ (reading outstanding _) [] []
    ⟨revokeRiskReducing, some 0, none, none, none⟩ rfl rfl, rfl, by decide, by decide⟩
  have locals := orders.next ⟨@LiveStep.readLocalPositions _ _ (reading outstanding _) [] []
    ⟨revokeRiskReducing, some 0, some 0, none, none⟩ rfl rfl, rfl, by decide, by decide⟩
  exact locals.next ⟨@LiveStep.readLocalOrders _ _ (reading outstanding _) [] []
    ⟨revokeRiskReducing, some 0, some 0, some 0, none⟩ rfl rfl, rfl, by decide, by decide⟩

/-- The committing step of the revocation. -/
theorem commit_reading : LiveStep production 1 (.committed .riskReducing)
    (reading outstanding [readRevocation]) ⟨revokedStore, [], [], outstanding, []⟩ := by
  have changed : changeApprovalState revokeRiskReducing armedStore =
      .ok ({ grantedApproval 1 .riskReducing with
        status := .revoked, revision := 2, revokedByUserId := some 7, revokedAt := some 1 }, revokedStore) := rfl
  exact @LiveStep.commit _ _ (reading outstanding _) [] [] readRevocation _ _ rfl (by decide) (by decide) changed

end

theorem authorized_firstEntry : LiveStep production 1 .authorized (reading [] []) (reading [firstEntry] []) :=
  .authorize firstEntry armedStore rfl (by decide +kernel)

/-- An entry is authorized, arrives and is canceled before the revocation reads. -/
theorem revokeLiveWriteApproval_flat_idle : LiveSystem.Flat ⟨revokedStore, [], [], [], []⟩ := by
  have entered : Served (QuietStep production 1) (reading [] []) [.authorized, .delivered] _ :=
    (Served.start.next ⟨authorized_firstEntry, nofun⟩).next ⟨@LiveStep.deliver _ _ _ [] [] _ rfl, trivial⟩
  have canceled := entered.next ⟨@LiveStep.close _ _ _ [] [] _ rfl, trivial⟩
  refine revokeLiveWriteApproval_flat rfl (canceled.append ((reads_served []).mono fun event system after plain =>
    ⟨plain.1, ?_⟩)) ⟨commit_reading [], trivial⟩
  obtain ⟨_, nothing, unauthorized, unfilled⟩ := plain
  cases event with
  | ordersRead => exact fun _ => nothing
  | authorized => exact absurd rfl unauthorized
  | filled => exact absurd rfl unfilled
  | _ => trivial

/-- An entry that is authorized before a revocation reads and still on its way when it commits. -/
theorem revokeLiveWriteApproval_not_flat : ¬ ∀ (deployment : Deployment) (tradingAccountId : Nat)
    (start system after : LiveSystem) (events : List LiveEvent), start.revocations = [] →
      Served (LiveStep deployment tradingAccountId) start events system →
        LiveStep deployment tradingAccountId (.committed .riskReducing) system after → after.Flat := by
  intro flat
  have first : Served (LiveStep production 1) (reading [] []) [.authorized] _ := Served.start.next authorized_firstEntry
  have run := first.append ((reads_served [firstEntry]).mono fun _ _ _ plain => plain.1)
  have left := flat production 1 _ _ _ _ rfl run (commit_reading [firstEntry])
  exact absurd left.2.2 (List.cons_ne_nil _ _)

end Sample

end AiTrader.Approval
