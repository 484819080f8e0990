import Mathlib.Algebra.Ring.Rat
import AiTrader.Entry.DispatchRecovery

/-! # Release on confirmed terminal broker evidence

A claim whose broker order is terminal is released when the complete replacement chain is
non-executable, no position or open BUY order remains and every broker fill is accounted locally. -/

namespace AiTrader.Entry

open Library EntryLifecycle Program

/-- An answer of one broker lookup. -/
abbrev LookupAnswer (α : Type) := Except String α

def lookup {α : Type} : EntryProgram α := do
  match ← (answer : EntryProgram (LookupAnswer α)) with
  | .ok value => pure value
  | .error message => throw (.technical message)

/-- Follow `replaced_by` through at most `depth` orders; a missing or repeated order breaks the chain. -/
def followReplacements (chain : List AlpacaOrderView) (order : AlpacaOrderView) :
    Nat → EntryProgram (List AlpacaOrderView × AlpacaOrderView)
  | 0 =>
    if order.replacedBy.isSome then throw (.technical "Replacement order chain exceeded its bounded depth.")
    else pure (chain, order)
  | depth + 1 =>
    if order.replacedBy.isNone then pure (chain, order)
    else do
      match ← (lookup : EntryProgram (Option AlpacaOrderView)) with
      | none => throw (.technical "Replacement order chain is incomplete or cyclic.")
      | some replacement =>
        if chain.any fun earlier => earlier.id == replacement.id then
          throw (.technical "Replacement order chain is incomplete or cyclic.")
        else followReplacements (chain ++ [replacement]) replacement depth

/-- Everything the broker knows about the entry of a claim. -/
structure TerminalBrokerEvidence where
  chain : List AlpacaOrderView
  order : Option AlpacaOrderView
  position : Option AlpacaPositionView
  openOrders : List AlpacaOrderView

/-- The quantity filled over the whole chain, if it is a finite number; sums are exact where the source adds doubles. -/
def TerminalBrokerEvidence.brokerFilled (evidence : TerminalBrokerEvidence) : Option ℚ :=
  (evidence.chain.mapM AlpacaOrderView.filledQty).map List.sum

/-- The replacement chain of the entry order, found by its local row or its stable client order ID. -/
def lookupReplacementChain : EntryProgram (List AlpacaOrderView × Option AlpacaOrderView) := do
  match ← (lookup : EntryProgram (Option AlpacaOrderView)) with
  | none => pure ([], none)
  | some order =>
    let (chain, last) ← followReplacements [order] order 10
    pure (chain, some last)

def acquireTerminalBrokerEvidence (identified : Bool) : EntryProgram TerminalBrokerEvidence := do
  let (chain, order) ← (if identified then lookupReplacementChain else pure ([], none) :
    EntryProgram (List AlpacaOrderView × Option AlpacaOrderView))
  let position ← (lookup : EntryProgram (Option AlpacaPositionView))
  let openOrders ← (lookup : EntryProgram (List AlpacaOrderView))
  pure { chain, order, position, openOrders }

def buyFillQty (activities : List LocalActivity) : ℚ :=
  ((activities.filter (·.isBuyFill)).map (·.qty)).sum

/-- The tolerance of the fill comparison. -/
def fillTolerance : ℚ := 1 / 1000000000

def noActivePosition (store : EntryLifecycle) : Bool := !store.pairPositions.any activePositionStatuses.contains

/-- No BUY order of the pair outside the chain may still execute. -/
def noOtherExecutableBuy (evidence : TerminalBrokerEvidence) (store : EntryLifecycle) : Bool :=
  !store.pairBuyOrders.any fun order => !(evidence.chain.map (·.id)).contains order.brokerOrderId &&
    !conclusivelyNonExecutableStatuses.contains order.status

def fillsAccounted (brokerFilled : ℚ) (store : EntryLifecycle) : Bool :=
  decide (brokerFilled ≤ buyFillQty store.brokerActivities + fillTolerance)

def OrderStatus.releaseReasonText : OrderStatus → String
  | .filled => "BROKER_FILLED_NO_EXPOSURE"
  | .expired => "BROKER_EXPIRED_NO_EXPOSURE"
  | .rejected => "BROKER_REJECTED_NO_EXPOSURE"
  | .cancelled => "BROKER_CANCELLED_NO_EXPOSURE"
  | _ => "BROKER_CANCELED_NO_EXPOSURE"

/-- The releasing transaction: it re-reads under the entry-exposure lock, then compares and sets. -/
def confirmedTerminalTransaction (evidence : TerminalBrokerEvidence) (order : AlpacaOrderView)
    (brokerFilled : ℚ) : EntryProgram Unit := do
  match ← read (·.claim) with
  | none => pure ()
  | some current =>
    if current.releasedAt.isSome then pure ()
    else
      let inactive ← read noActivePosition
      let unopened ← read (noOtherExecutableBuy evidence)
      let accounted ← read (fillsAccounted brokerFilled)
      if !(inactive && unopened && accounted) then appendClaimDiagnostic .authoritativeReleaseRevalidationBlocked {}
      else
        write (releaseClaim current.status order.status.releaseReasonText .releasedAuthoritativeNoExposure {})

def releaseConfirmedTerminalEntryClaim (brokerStatus : OrderStatus) (allowUnresolved : Bool) :
    EntryProgram Unit := do
  if !isTerminalBrokerOrderStatus brokerStatus then pure ()
  else
    match ← read fun store => (store.claim, store.attachedPosition, store.intent, store.securities) with
    | (none, _) => pure ()
    | (some claim, attached, intent, securities) =>
      if claim.releasedAt.isSome || (claim.status == .unresolved && !allowUnresolved) then pure ()
      else if brokerStatus = .filled ∧ claim.trackedPositionId.isNone ∧ !allowUnresolved then
        transitionEntryExposureClaim .filledAwaitingPosition .brokerOrderFilledAwaitingPosition {}
      else if claim.trackedPositionId.isSome && attached.any activePositionStatuses.contains then pure ()
      else
        let localOrder ← read (·.brokerOrders.getLast?)
        let identified := localOrder.isSome || (intent.bind (·.clientOrderId)).isSome
        match ← (acquireTerminalBrokerEvidence identified).attempt with
        | .error _ => appendClaimDiagnostic .authoritativeReleaseRetryable {}
        | .ok evidence =>
          let symbol := claimSymbol securities claim
          if evidence.chain.any fun order =>
              normalizeSymbol order.symbol != symbol || order.side.toLower != "buy" then
            markClaimUnresolved .authoritativeReleaseIdentityConflict {}
          else
            match evidence.order with
            | none => appendClaimDiagnostic .authoritativeReleaseBlocked {}
            | some order =>
              if !conclusivelyNonExecutableStatuses.contains order.status || evidence.position.isSome ||
                  evidence.openOrders != [] then
                appendClaimDiagnostic .authoritativeReleaseBlocked {}
              else
                let activities ← read (·.brokerActivities)
                match evidence.brokerFilled with
                | none => appendClaimDiagnostic .authoritativeReleaseFillsIncomplete {}
                | some brokerFilled =>
                  if brokerFilled < 0 ∨ buyFillQty activities + fillTolerance < brokerFilled then
                    appendClaimDiagnostic .authoritativeReleaseFillsIncomplete {}
                  else confirmedTerminalTransaction evidence order brokerFilled

end AiTrader.Entry
