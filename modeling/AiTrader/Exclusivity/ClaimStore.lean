import Mathlib.Algebra.Ring.Rat
import AiTrader.Library.Table
import AiTrader.Entry.ExposureClaim

/-! # The store of entry exposure claims

Every claim of every account, with the local rows an acquisition and a release look at. Each operation is
one committed transaction; what its caller read before the transaction is an argument, so that a stale
observation is one of the cases. -/

namespace AiTrader.Exclusivity

open Library Entry

/-- A trading account and a security. -/
structure ExposurePair where
  (tradingAccountId securityId : Nat)
deriving DecidableEq

/-- A row of `EntryExposureClaim`. -/
structure ClaimRow where
  id : Nat
  pair : ExposurePair
  (orderIntentId trackedPositionId : Option Nat)
  ownerKey : String
  status : ClaimStatus
  releasedAt : Option Nat
  releaseReason : Option String
deriving DecidableEq

structure PositionRow where
  id : Nat
  pair : ExposurePair
  status : PositionStatus
deriving DecidableEq

structure IntentRow where
  id : Nat
  tradingAccountId : Option Nat
  (symbol side : String)
  status : OrderStatus
  trackedPositionId : Option Nat
deriving DecidableEq

/-- The entry may still reach the broker, or its fill has no position yet. -/
def IntentRow.unresolved (intent : IntentRow) : Bool :=
  unresolvedOrderIntentStatuses.contains intent.status || (intent.status == .filled && intent.trackedPositionId.isNone)

structure BrokerOrderRow where
  brokerOrderId : String
  orderIntentId : Nat
  tradingAccountId : Option Nat
  securityId : Nat
  side : String
  status : OrderStatus
deriving DecidableEq

/-- A BUY fill activity of an intent; its quantity is taken as an exact rational. -/
structure FillRow where
  orderIntentId : Nat
  qty : ℚ
deriving DecidableEq

structure ClaimStore where
  clock : Nat
  securities : List (String × Nat)
  claims : List ClaimRow
  positions : List PositionRow
  intents : List IntentRow
  brokerOrders : List BrokerOrderRow
  fills : List FillRow
deriving DecidableEq

/-- The pair a claim occupies: the key of the partial unique index on unreleased claims. -/
def ClaimRow.occupied (claim : ClaimRow) : Option ExposurePair :=
  if claim.releasedAt.isNone then some claim.pair else none

/-- The case-insensitive comparison of the queries. -/
def isBuy (side : String) : Bool := String.ofList (side.toList.map Char.toLower) == "buy"

/-- Insert a claim; the unique indexes on owner, intent, position and unreleased pair may refuse it. -/
def insertClaim (claim : ClaimRow) (claims : List ClaimRow) : Option (List ClaimRow) := do
  let _ ← Table.insertUnique (fun row => some row.ownerKey) claim claims
  let _ ← Table.insertUnique ClaimRow.orderIntentId claim claims
  let _ ← Table.insertUnique ClaimRow.trackedPositionId claim claims
  Table.insertUnique ClaimRow.occupied claim claims

namespace ClaimStore

variable (store : ClaimStore)

def activeClaim (pair : ExposurePair) : Option ClaimRow :=
  store.claims.find? fun claim => claim.pair == pair && claim.releasedAt.isNone

/-- Some claim belongs to the intent, released or not. -/
def claimed (orderIntentId : Nat) : Bool :=
  store.claims.any fun claim => claim.orderIntentId == some orderIntentId

def isActivePosition (pair : ExposurePair) (position : PositionRow) : Bool :=
  position.pair == pair && activePositionStatuses.contains position.status

/-- An unresolved entry intent from before claims existed. -/
def isUnresolvedPreClaim (tradingAccountId : Nat) (symbol : String) (intent : IntentRow) : Bool :=
  intent.tradingAccountId == some tradingAccountId && intent.symbol == symbol && intent.side == "buy" &&
    intent.unresolved && !store.claimed intent.id

section

variable (pair : ExposurePair)

/-- A BUY order of the pair that can still execute. -/
def isActiveBuy (order : BrokerOrderRow) : Bool :=
  order.tradingAccountId == some pair.tradingAccountId && order.securityId == pair.securityId && isBuy order.side &&
    brokerActiveEntryStatuses.contains order.status

def isActivePreClaimBuy (order : BrokerOrderRow) : Bool :=
  isActiveBuy pair order && !store.claimed order.orderIntentId

/-- The BUY orders of the pair that the release queries count. -/
def isUnconcludedBuy (order : BrokerOrderRow) : Bool :=
  order.tradingAccountId == some pair.tradingAccountId && order.securityId == pair.securityId && isBuy order.side &&
    !conclusivelyNonExecutableStatuses.contains order.status

end

def filledQty (orderIntentId : Nat) : ℚ :=
  ((store.fills.filter (·.orderIntentId == orderIntentId)).map (·.qty)).sum

/-- Compare-and-set of a claim: it must still be unreleased with the observed status. -/
def updateClaim (claimId : Nat) (observed : ClaimStatus) (update : ClaimRow → ClaimRow) : ClaimStore :=
  let unchanged := fun claim : ClaimRow => claim.id == claimId && claim.status == observed && claim.releasedAt.isNone
  { store with claims := Table.updateWhere unchanged update store.claims }

end ClaimStore

/-- Why an acquisition is refused. -/
inductive AcquireRefusal where
  | securityNotFound | entryAlreadyPending | alreadyInPosition | positionClosing | entryExposureUnresolved
  | uniqueIndex
  | technical (message : String)

structure Acquisition where
  orderIntentId : Nat
  duplicate : Bool
  claimId : Nat

/-- The writes of an acquisition: the intent of the caller, then its claim. -/
def applyAcquisition (pair : ExposurePair) (ownerKey : String) (newIntent : IntentRow) (store : ClaimStore) :
    Except AcquireRefusal (Acquisition × ClaimStore) :=
  let intent :=
    { newIntent with id := Table.nextId (store.intents.map (·.id)), status := .received, trackedPositionId := none }
  let claim : ClaimRow :=
    { id := Table.nextId (store.claims.map (·.id))
      pair
      orderIntentId := some intent.id
      trackedPositionId := none
      ownerKey
      status := .entryPending
      releasedAt := none
      releaseReason := none }
  match insertClaim claim store.claims with
  | none => .error .uniqueIndex
  | some claims => .ok (⟨intent.id, false, claim.id⟩, { store with intents := store.intents ++ [intent], claims })

/-- The refusal for a pair that another lifecycle owns. -/
def ownedRefusal (claim : ClaimRow) (position : Option PositionStatus) : AcquireRefusal :=
  if position = some .closing then .positionClosing
  else if position.isSome then .alreadyInPosition
  else if claim.status = .unresolved then .entryExposureUnresolved
  else .entryAlreadyPending

end AiTrader.Exclusivity
