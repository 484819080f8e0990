import AiTrader.Library.Assurance
import AiTrader.Exclusivity.Operations

/-! # Entry exclusivity

An operation either updates claims without bringing one back, or inserts one that the unique indexes admit. -/

namespace AiTrader.Exclusivity

open Library Library.Program Entry Table Relation

section Claims

/-- What an update of a claim may do: it keeps the intent, and the pair unless it releases. -/
structure ClaimRow.Kept (claim updated : ClaimRow) : Prop where
  orderIntentId : updated.orderIntentId = claim.orderIntentId
  occupied : updated.occupied = claim.occupied ∨ updated.occupied = none

/-- What one transaction may do to the claims. -/
inductive ClaimsChange (claims : List ClaimRow) : List ClaimRow → Prop where
  | same : ClaimsChange claims claims
  | updated {guard : ClaimRow → Bool} {update : ClaimRow → ClaimRow} (kept : ∀ claim : ClaimRow, claim.Kept (update claim)) :
      ClaimsChange claims (updateWhere guard update claims)
  | inserted {claim : ClaimRow} {after : List ClaimRow} (admitted : insertClaim claim claims = some after) :
      ClaimsChange claims after

variable {claims after : List ClaimRow}

theorem insertUnique_of_insertClaim {claim : ClaimRow} (admitted : insertClaim claim claims = some after) :
    insertUnique ClaimRow.occupied claim claims = some after := by
  simp only [insertClaim, Option.bind_eq_bind, Option.bind_eq_some_iff] at admitted
  obtain ⟨_, _, _, _, _, _, inserted⟩ := admitted
  exact inserted

theorem ClaimsChange.unique (change : ClaimsChange claims after)
    (unique : Unique ClaimRow.occupied claims) : Unique ClaimRow.occupied after := by
  cases change with
  | same => exact unique
  | updated kept => exact unique.updateWhere fun claim _ => (kept claim).occupied
  | inserted admitted => exact unique.insertUnique (insertUnique_of_insertClaim admitted)

theorem ClaimsChange.claimed (change : ClaimsChange claims after) {orderIntentId : Nat}
    (claimed : ∃ claim ∈ claims, claim.orderIntentId = some orderIntentId) :
    ∃ claim ∈ after, claim.orderIntentId = some orderIntentId := by
  obtain ⟨claim, member, owned⟩ := claimed
  cases change with
  | same => exact ⟨claim, member, owned⟩
  | @updated guard update kept =>
    refine ⟨_, mem_updateWhere.mpr ⟨claim, member, rfl⟩, ?_⟩
    split
    · exact (kept claim).orderIntentId.trans owned
    · exact owned
  | inserted admitted =>
    rw [eq_append_of_insertUnique (insertUnique_of_insertClaim admitted)]
    exact ⟨claim, List.mem_append_left _ member, owned⟩

end Claims

variable {pair : ExposurePair}

namespace ClaimStore

variable {store after : ClaimStore}

variable {observed : ClaimStatus}

variable {claimId : Nat}

variable {expectedOrderIntentId : Option Nat}

variable {trackedPositionId : Nat}

end ClaimStore

variable {newIntent : IntentRow} {ownerKey : String} {acquisition : Acquisition}

section Steps

variable {store after : ClaimStore}

end Steps

section Evidence

variable {symbol : String} {store after : ClaimStore}

section

variable (store : ClaimStore)

/-- No active position of the pair is recorded. -/
def ClaimStore.NoActivePosition (pair : ExposurePair) : Prop :=
  ∀ position ∈ store.positions, isActivePosition pair position = false

/-- No unresolved entry intent without a claim is recorded. -/
def ClaimStore.NoUnresolvedIntent (tradingAccountId : Nat) (symbol : String) : Prop :=
  ∀ intent ∈ store.intents, store.isUnresolvedPreClaim tradingAccountId symbol intent = false

/-- No active BUY of an intent without a claim is recorded. -/
def ClaimStore.NoActivePreClaimBuy (pair : ExposurePair) : Prop :=
  ∀ order ∈ store.brokerOrders, store.isActivePreClaimBuy pair order = false

end

/-- What no transaction without the pair's lock adds: an active position, an intent without a claim. -/
structure RowsFrom (pair : ExposurePair) (store after : ClaimStore) : Prop where
  positions : ∀ position ∈ after.positions, ClaimStore.isActivePosition pair position = true →
    ∃ old ∈ store.positions, ClaimStore.isActivePosition pair old = true
  intents : ∀ intent ∈ after.intents, after.claimed intent.id = true ∨
    ∃ old ∈ store.intents, old.id = intent.id ∧ old.tradingAccountId = intent.tradingAccountId ∧
      old.symbol = intent.symbol ∧ old.side = intent.side

theorem RowsFrom.of_positions (positions : ∀ position ∈ after.positions,
      ClaimStore.isActivePosition pair position = true →
      ∃ old ∈ store.positions, ClaimStore.isActivePosition pair old = true)
    (intents : after.intents = store.intents) : RowsFrom pair store after where
  positions := positions
  intents := fun intent member => .inr ⟨intent, intents ▸ member, rfl, rfl, rfl, rfl⟩

theorem RowsFrom.of_same (positions : after.positions = store.positions) (intents : after.intents = store.intents) :
    RowsFrom pair store after :=
  .of_positions (fun position member active => ⟨position, positions ▸ member, active⟩) intents

end Evidence

section Acquire

/-- What an acquisition found absent under its lock, and what of it holds at the commit: no active position, and no
unresolved intent but one read as resolved. -/
structure ClaimStore.Unowned (atIntents atOrders commit : ClaimStore) (pair : ExposurePair) (symbol : String) : Prop where
  intents : atIntents.NoUnresolvedIntent pair.tradingAccountId symbol
  brokerOrders : atOrders.NoActivePreClaimBuy pair
  positions : commit.NoActivePosition pair
  turned : ∀ intent ∈ commit.intents, commit.isUnresolvedPreClaim pair.tradingAccountId symbol intent = true →
    ∃ old ∈ atIntents.intents, old.id = intent.id ∧ old.unresolved = false

/-- An acquisition that met only other callers since `start` committed to an unowned pair, and returned. -/
def Acquired (pair : ExposurePair) (symbol ownerKey : String) (newIntent : IntentRow) (start : ClaimStore)
    (acquisition : Acquisition) (current : ClaimStore) : Prop :=
  ∃ atIntents atOrders before after, ReflTransGen (OtherCaller pair) start atIntents ∧
    ReflTransGen (OtherCaller pair) atIntents atOrders ∧
    ReflTransGen (OtherCaller pair) atOrders before ∧ atIntents.Unowned atOrders before pair symbol ∧
    applyAcquisition pair ownerKey newIntent before = .ok (acquisition, after) ∧
    ReflTransGen (OtherCaller pair) after current

end Acquire

end AiTrader.Exclusivity
