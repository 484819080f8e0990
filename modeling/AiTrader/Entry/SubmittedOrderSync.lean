import AiTrader.Entry.ConfirmedTerminal

/-! # Submitted-order synchronization

The status the broker reports is copied to the local order and the intent, and the claim follows, under the
lifecycle-mutation lock. -/

namespace AiTrader.Entry

open Library EntryLifecycle

/-- Statuses an intent has before a broker knows its order; no broker reports them. -/
def preBrokerIntentStatuses : List OrderStatus := [.received, .pending, .submitting]

/-- An order as the broker reports it, in the broker's own vocabulary. -/
structure ReportedOrder where
  order : AlpacaOrderView
  reported : order.status ∉ preBrokerIntentStatuses

def submittedOrderSyncIntentStatuses : List OrderStatus :=
  brokerActiveEntryStatuses.filter (fun status => !preBrokerIntentStatuses.contains status) ++
    [.doneForDay, .calculated, .replaced]

/-- The intent is over: its position is closed and its orders are fills or replaced predecessors. -/
def coherentlyHistorical (store : EntryLifecycle) : Bool :=
  store.attachedPosition == some .closed &&
  store.brokerOrders.any (fun order => order.status == .filled) &&
  store.brokerOrders.all fun order => order.status == .filled || order.status == .replaced

def submittedOrderSyncSelects (store : EntryLifecycle) : Bool :=
  store.intent.any (fun intent => submittedOrderSyncIntentStatuses.contains intent.status) &&
    !coherentlyHistorical store

def observedClaimStatus : OrderStatus → ClaimStatus
  | .partiallyFilled => .partiallyFilled
  | .filled => .filledAwaitingPosition
  | _ => .brokerOrderActive

section

variable (observed : LocalBrokerOrder)

/-- Compare-and-set of the local order's status. -/
def compareAndSetOrderStatus (next : OrderStatus) (store : EntryLifecycle) :
    Except EntryError (Bool × EntryLifecycle) :=
  .ok (store.brokerOrders.contains observed,
    { store with
      brokerOrders := store.brokerOrders.map fun order =>
        if order = observed then { order with status := next } else order })

/-- A changed status moves the local order, then the intent, then the claim. -/
def applyObservedStatus (next : OrderStatus) : EntryProgram Unit := do
  let updated ← Program.commit (compareAndSetOrderStatus observed next)
  if !updated then pure ()
  else
    Program.write fun store => store.updateIntent fun row => { row with status := next }
    let _ ← (transitionEntryExposureClaim (observedClaimStatus next) .brokerOrderStatusObserved
      { detail := observed.brokerOrderId }).attempt
    releaseConfirmedTerminalEntryClaim next false
    elsewhere

def observeReportedOrder (next : OrderStatus) : EntryProgram Unit := do
  elsewhere
  if observed.status ≠ next then applyObservedStatus observed next
  else if [OrderStatus.replaced, .doneForDay, .calculated].contains next then
    releaseConfirmedTerminalEntryClaim next false
  else pure ()

end

/-- One turn of `syncSubmittedOrdersForAccountUnlocked` for one BUY intent. -/
def syncSubmittedOrder : EntryProgram Unit := do
  match ← Program.read fun store => (submittedOrderSyncSelects store, store.brokerOrders.head?) with
  | (false, _) => pure ()
  | (true, localOrder) =>
    Program.write fun store => store.updateIntent id
    match localOrder with
    | none =>
      let _ ← (appendClaimDiagnostic .submittedOrderLocalBrokerOrderMissing {}).attempt
      pure ()
    | some observed =>
      match ← (lookup : EntryProgram (Option ReportedOrder)) with
      | none => pure ()
      | some reported => observeReportedOrder observed reported.order.status

end AiTrader.Entry
