import AiTrader.Exclusivity.ClaimStore
import AiTrader.Entry.ConfirmedTerminal

/-! # Operations on the claim store

The transactions of acquisition, transition, attachment, release and sweep, and of the writers of the rows
they look at. The other conditions of the releases are those of the entry lifecycle; leaving them out only
adds releases here. -/

namespace AiTrader.Exclusivity

open Library Entry

namespace ClaimStore

variable (store : ClaimStore)

def setStatus (claimId : Nat) (observed target : ClaimStatus) : ClaimStore :=
  store.updateClaim claimId observed fun claim => { claim with status := target }

def release (claimId : Nat) (observed : ClaimStatus) (reason : String) : ClaimStore :=
  store.updateClaim claimId observed fun claim =>
    { claim with status := .released, releasedAt := some store.clock, releaseReason := some reason }

/-- `attachEntryExposureClaimToPosition`: an unclaimed position gets an `UNRESOLVED` claim of its own. -/
def attach (pair : ExposurePair) (trackedPositionId : Nat) (expectedOrderIntentId : Option Nat) :
    Option ClaimStore :=
  match store.activeClaim pair with
  | some active =>
    if expectedOrderIntentId.isSome ∧ active.orderIntentId ≠ expectedOrderIntentId then
      some (store.setStatus active.id active.status .unresolved)
    else if active.status = .unresolved then some store
    else if active.trackedPositionId = some trackedPositionId ∧ active.status = .positionOpen then some store
    else if active.trackedPositionId.isSome ∧ active.trackedPositionId ≠ some trackedPositionId then
      some (store.setStatus active.id active.status .unresolved)
    else if store.claims.any fun claim => claim.id != active.id && claim.trackedPositionId == some trackedPositionId then
      none
    else some (store.updateClaim active.id active.status fun claim =>
      { claim with trackedPositionId := some trackedPositionId, status := .positionOpen })
  | none =>
    (insertClaim
      { id := Table.nextId (store.claims.map (·.id))
        pair
        orderIntentId := none
        trackedPositionId := some trackedPositionId
        ownerKey := s!"broker-position:{pair.tradingAccountId}:{trackedPositionId}"
        status := .unresolved
        releasedAt := none
        releaseReason := none } store.claims).map fun claims => { store with claims }

/-- No active position, and no BUY outside `chain` that can still execute. -/
def unexposed (pair : ExposurePair) (chain : List String) : Bool :=
  !store.positions.any (isActivePosition pair) &&
    !store.brokerOrders.any fun order => !chain.contains order.brokerOrderId && isUnconcludedBuy pair order

/-- The releasing transaction of `releaseConfirmedTerminalEntryClaim`. -/
def releaseConfirmedTerminal (claim : ClaimRow) (chain : List String) (brokerFilled : ℚ) (reason : String) :
    Option ClaimStore :=
  if claim ∈ store.claims ∧ claim.releasedAt = none ∧ store.unexposed claim.pair chain ∧
      (∀ orderIntentId, claim.orderIntentId = some orderIntentId →
        brokerFilled ≤ store.filledQty orderIntentId + fillTolerance) then
    some (store.release claim.id claim.status reason)
  else none

end ClaimStore

/-- One committed transaction. -/
inductive ClaimOperation where
  | acquire (pair : ExposurePair) (ownerKey : String) (newIntent : IntentRow)
  | transition (claimId : Nat) (observed target : ClaimStatus)
  | markUnresolved (claimId : Nat) (observed : ClaimStatus)
  | attach (pair : ExposurePair) (trackedPositionId : Nat) (expectedOrderIntentId : Option Nat)
  /-- A position is created and attached in one transaction. -/
  | openPosition (pair : ExposurePair) (expectedOrderIntentId : Option Nat)
  | releaseUnsubmitted (claimId : Nat) (observed : ClaimStatus) (reason : String)
  | releaseVerified (claim : ClaimRow) (reason : String)
  | releaseConfirmedTerminal (claim : ClaimRow) (chain : List String) (brokerFilled : ℚ) (reason : String)
  | releaseClosedAdoptedPosition (claim : ClaimRow)
  | position (positionId : Nat) (status : PositionStatus)
  | createBrokerOrder (order : BrokerOrderRow)
  | brokerOrder (brokerOrderId : String) (status : OrderStatus)
  | intent (orderIntentId : Nat) (status : OrderStatus) (trackedPositionId : Option Nat)
  | fill (fill : FillRow)

namespace ClaimOperation

/-- The store after the transaction, `none` when it rolls back. Order sync and stale-submission recovery write orders and
intents without the lock of a pair. -/
def apply (store : ClaimStore) : ClaimOperation → Option ClaimStore
  | acquire pair ownerKey newIntent =>
    match applyAcquisition pair ownerKey newIntent store with
    | .ok (_, after) => some after
    | .error _ => none
  | transition claimId observed target =>
    if canTransitionEntryExposureClaim observed target then some (store.setStatus claimId observed target) else none
  | markUnresolved claimId observed => some (store.setStatus claimId observed .unresolved)
  | attach pair trackedPositionId expectedOrderIntentId =>
    store.attach pair trackedPositionId expectedOrderIntentId
  | openPosition pair expectedOrderIntentId =>
    let id := Table.nextId (store.positions.map (·.id))
    let opened : ClaimStore := { store with positions := store.positions ++ [⟨id, pair, .opened⟩] }
    opened.attach pair id expectedOrderIntentId
  | releaseUnsubmitted claimId observed reason =>
    if preDispatchClaimStatuses.contains observed then some (store.release claimId observed reason) else none
  | releaseVerified claim reason =>
    if claim ∈ store.claims ∧ recoverableClaimStatuses.contains claim.status ∧ store.unexposed claim.pair [] then
      some (store.release claim.id claim.status reason)
    else none
  | releaseConfirmedTerminal claim chain brokerFilled reason =>
    store.releaseConfirmedTerminal claim chain brokerFilled reason
  | releaseClosedAdoptedPosition claim =>
    if claim ∈ store.claims ∧ claim.orderIntentId = none ∧ store.unexposed claim.pair [] then
      some (store.release claim.id claim.status "OPERATOR_VERIFIED_CLOSED_ADOPTED_POSITION_NO_BROKER_EXPOSURE")
    else none
  | position positionId status =>
    let active := fun position : PositionRow =>
      position.id == positionId && activePositionStatuses.contains position.status
    some { store with positions := Table.updateWhere active (fun row => { row with status }) store.positions }
  | createBrokerOrder order => some { store with brokerOrders := store.brokerOrders ++ [order] }
  | brokerOrder brokerOrderId status =>
    let named := fun order : BrokerOrderRow => order.brokerOrderId == brokerOrderId
    some { store with brokerOrders := Table.updateWhere named (fun row => { row with status }) store.brokerOrders }
  | intent orderIntentId status trackedPositionId =>
    let named := fun row : IntentRow => row.id == orderIntentId
    some { store with intents := Table.updateWhere named (fun row => { row with status, trackedPositionId }) store.intents }
  | fill row => some { store with fills := store.fills ++ [row] }

/-- The pair whose advisory lock the transaction holds. -/
def lock (store : ClaimStore) : ClaimOperation → Option ExposurePair
  | acquire pair _ _ | attach pair _ _ | openPosition pair _ => some pair
  | releaseUnsubmitted claimId _ _ => (store.claims.find? (·.id == claimId)).map (·.pair)
  | releaseVerified claim _ | releaseConfirmedTerminal claim _ _ _ | releaseClosedAdoptedPosition claim =>
    some claim.pair
  | _ => none

/-- The operations that release a claim. -/
def releases : ClaimOperation → Bool
  | releaseUnsubmitted .. | releaseVerified .. | releaseConfirmedTerminal .. | releaseClosedAdoptedPosition .. => true
  | _ => false

theorem released {operation : ClaimOperation} {store after : ClaimStore} (releases : operation.releases = true)
    (applied : operation.apply store = some after) :
    ∃ claimId observed reason, after = store.release claimId observed reason := by
  cases operation with
  | releaseUnsubmitted | releaseVerified | releaseConfirmedTerminal | releaseClosedAdoptedPosition =>
    simp only [apply, ClaimStore.releaseConfirmedTerminal] at applied
    split_ifs at applied
    cases applied
    exact ⟨_, _, _, rfl⟩
  | _ => cases releases

end ClaimOperation

/-- What another caller may commit while the lock of `pair` is held. -/
def OtherCaller (pair : ExposurePair) (store after : ClaimStore) : Prop :=
  ∃ operation : ClaimOperation, operation.apply store = some after ∧ operation.lock store ≠ some pair

end AiTrader.Exclusivity
