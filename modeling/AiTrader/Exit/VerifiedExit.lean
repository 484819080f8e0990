import AiTrader.Exit.ExitStore
import AiTrader.Library.CanonicalDecimal

/-! # Verified exits

A sell is sent only after fresh evidence of the broker: no order under its client order id, a long position whose held,
available, local and intended quantities agree, and no other open sell. -/

namespace AiTrader.Exit

open Library Library.Program Entry

/-- A decimal as its coefficient, the number of digits after the point, and its text. -/
structure ExactDecimal where
  (coefficient scale : Nat)
  canonical : String
deriving DecidableEq

def parseExactNonNegativeDecimal (text : String) : Option ExactDecimal :=
  let letters := trim text
  let (whole, fraction) := Decimal.split letters
  if (whole = ['0'] ∨ whole ≠ [] ∧ whole.head? ≠ some '0') ∧ whole.all Char.isDigit ∧ fraction.all Char.isDigit ∧
      (letters.contains '.' → fraction ≠ []) then
    let trimmed := fraction.rdropWhile (· == '0')
    some ⟨Decimal.natural (whole ++ trimmed), trimmed.length,
      String.ofList (if trimmed = [] then whole else whole ++ '.' :: trimmed)⟩
  else none

def parseExactPositiveDecimal (text : String) : Option ExactDecimal :=
  (parseExactNonNegativeDecimal text).filter fun parsed => decide (0 < parsed.coefficient)

section

variable (left right : ExactDecimal)

/-- The coefficients of two decimals over their larger scale. -/
def alignedPair : Nat × Nat :=
  let scale := max left.scale right.scale
  (Decimal.aligned left.coefficient left.scale scale, Decimal.aligned right.coefficient right.scale scale)

/-- `compareDecimal(left, right) > 0` -/
def exceedsDecimal : Bool := decide ((alignedPair left right).2 < (alignedPair left right).1)

def equalDecimal : Bool := (alignedPair left right).1 == (alignedPair left right).2

/-- The text of `left - right`, unless it is negative. -/
def subtractDecimal : Option String :=
  let scale := max left.scale right.scale
  let (left, right) := alignedPair left right
  if left < right then none
  else if scale = 0 then some (String.ofList (Decimal.digits (left - right)))
  else
    let (whole, fraction) := Decimal.cut scale (left - right)
    let fraction := fraction.rdropWhile (· == '0')
    some (String.ofList (if fraction = [] then whole else whole ++ '.' :: fraction))

/-- Whether `left - right` is a decimal, which is not negative. -/
def subtractable : Bool := decide ((alignedPair left right).2 ≤ (alignedPair left right).1)

end

/-- The quantities of two decimals, as rational numbers. -/
def ExactDecimal.value (decimal : ExactDecimal) : ℚ := Decimal.scaled decimal.coefficient decimal.scale

theorem equalDecimal_iff {left right : ExactDecimal} : equalDecimal left right = true ↔ left.value = right.value := by
  rw [equalDecimal, beq_iff_eq]
  exact Decimal.aligned_eq_iff (le_max_left _ _) (le_max_right _ _)

inductive VerificationMode where
  | normalExactClose | correctiveRemainderClose
deriving DecidableEq

structure VerifiedExitContext where
  verificationMode : VerificationMode := .normalExactClose
  (tradingAccountId trackedPositionId orderIntentId : Nat)
  (symbol localTrackedQty intendedQty : String)
  /-- Of a corrective close. -/
  attributedExitFilledQty : Option String := none
  clientOrderId : String
  type : ExitOrderType
  /-- Of a trailing stop. -/
  trailPercent : Option ℚ

/-- An open sell of the symbol that is not this exit's; an open buy too for a corrective close. -/
def conflictingOrders (context : VerifiedExitContext) (openOrders : List AlpacaOrder) : List AlpacaOrder :=
  openOrders.filter fun order => toUpperCase order.symbol == toUpperCase context.symbol &&
    (context.verificationMode == .correctiveRemainderClose || order.side == "sell") &&
    isNonterminalBrokerOrderStatus order.status && order.clientOrderId != context.clientOrderId

/-- The remaining quantity of a conflicting order can be told. -/
def remainingKnown (order : AlpacaOrder) : Bool :=
  match order.qty.bind parseExactPositiveDecimal, parseExactNonNegativeDecimal (order.filledQty.getD "0") with
  | some qty, some filled => subtractable qty filled
  | _, _ => false

def formatBrokerPrice (value : String) : String :=
  let (whole, fraction) := Decimal.split value.toList
  String.ofList (whole ++ '.' :: fraction.rightpad 2 '0')

def conflictPrice (order : AlpacaOrder) : String :=
  match order.limitPrice, order.stopPrice, order.trailPercent, order.trailPrice with
  | some price, _, _, _ => "$" ++ formatBrokerPrice price ++ " limit"
  | none, some price, _, _ => "$" ++ formatBrokerPrice price ++ " stop"
  | none, none, some percent, _ => percent ++ "% trailing-stop"
  | none, none, none, some price => "$" ++ formatBrokerPrice price ++ " trailing-stop"
  | none, none, none, none => order.type.map fun letter => if letter = '_' then ' ' else letter

def conflictMessage (symbol held : String) (conflicts : List AlpacaOrder) : String :=
  match conflicts with
  | [order] => s!"Close blocked: {symbol}'s {held} shares are reserved by an open {conflictPrice order} sell. Cancel or complete that order, then retry. No additional sell was submitted."
  | conflicts => s!"Close blocked: {symbol}'s {held} shares are reserved by {conflicts.length} open sell orders. Review or cancel those orders, or allow them to complete, then retry. No additional sell was submitted."

section

variable (context : VerifiedExitContext)

/-- The held, the intended and the local quantity agree, the last less the attributed fills when corrective. -/
def quantityVerified (held intended tracked : ExactDecimal) : Bool :=
  match context.verificationMode with
  | .normalExactClose => equalDecimal held intended && equalDecimal held tracked
  | .correctiveRemainderClose =>
    match context.attributedExitFilledQty.bind parseExactPositiveDecimal with
    | none => false
    | some attributed => match subtractDecimal tracked attributed with
      | none => false
      | some expectedRemainder => expectedRemainder != "0" &&
          (parseExactPositiveDecimal expectedRemainder).any (equalDecimal intended) && equalDecimal held intended

def quantityMismatchMessage : String :=
  match context.verificationMode with
  | .normalExactClose => s!"{toUpperCase context.symbol} held, local, and intended quantities do not match exactly."
  | .correctiveRemainderClose =>
    s!"{toUpperCase context.symbol} corrective lifecycle equation could not be verified exactly."

/-- The quantity that the broker's position and orders allow, or the outcome with its message. -/
def verifyExit (position : Option AlpacaPosition) (openOrders : List AlpacaOrder) :
    Except (ExitVerificationOutcome × String) ExactDecimal :=
  let symbol := toUpperCase context.symbol
  match position with
  | none => .error (.positionNotFound, s!"{symbol} is absent at the broker; no sell was submitted.")
  | some position =>
    if position.side = "short" then
      .error (.unexpectedShortPosition, s!"{symbol} is short at the broker. All sell automation is blocked.")
    else if toUpperCase position.symbol ≠ symbol ∨ position.side ≠ "long" then
      .error (.brokerStateUnavailable, s!"{symbol} broker position identity is ambiguous.")
    else match parseExactPositiveDecimal position.qty, position.qtyAvailable.bind parseExactNonNegativeDecimal,
        parseExactPositiveDecimal context.intendedQty, parseExactPositiveDecimal context.localTrackedQty with
    | some held, some available, some intended, some tracked =>
      let conflicts := conflictingOrders context openOrders
      if conflicts.any fun order => !remainingKnown order then
        .error (.brokerStateUnavailable, s!"{symbol} has an active sell order with ambiguous remaining quantity.")
      else if conflicts ≠ [] then .error (.conflictingOpenSellOrder, conflictMessage symbol held.canonical conflicts)
      else if !quantityVerified context held intended tracked then
        .error (.quantityMismatch, quantityMismatchMessage context)
      else if exceedsDecimal available held then
        .error (.reservedQuantity, s!"{symbol} broker-available quantity exceeds held quantity; no sell was submitted.")
      else if !equalDecimal held available then
        .error (.reservedQuantity,
          s!"{symbol} broker-available quantity is lower than held quantity; no sell was submitted.")
      else .ok intended
    | _, _, _, _ => .error (.brokerStateUnavailable,
        s!"{symbol} quantity evidence is missing or malformed; no sell was submitted.")

end

section Submission

inductive VerifiedExitSubmissionResult where
  | recoveredLocal (brokerOrderId : Nat)
  | recoveredBroker (order : AlpacaOrder)
  | submitted (order : AlpacaOrder)

/-- Refuse the exit: the intent is blocked first, then an attention is opened. -/
def block {α : Type} (context : VerifiedExitContext) (outcome : ExitVerificationOutcome) (message : String) :
    ExitProgram α := do
  let now ← (answer : ExitProgram Int)
  write fun store => store.updateIntents fun row => if row.id = context.orderIntentId then
    { row with status := .blocked, blockReason := some (.exitVerification outcome), updatedAt := now } else row
  match ← (elsewhere : ExitProgram Unit).attempt with
  | .error _ => throw (.preSubmission ⟨503, s!"{toUpperCase context.symbol} close was safely blocked before broker submission, but operational attention could not be refreshed. Retry after the internal issue is corrected. No sell was submitted."⟩ outcome .notSentRetryable)
  | .ok _ => throw (.preSubmission ⟨409, message⟩ outcome .notSentBlocked)

/-- What becomes of a request to place an order. -/
inductive PlacementOutcome where
  /-- Refused, or deferred, by this side. -/
  | notSent (retryable : Bool) (message : String)
  | rejected (message : String)
  /-- No reply; the order may have arrived. -/
  | uncertain (message : String) (arrived : Option AlpacaOrder)
  | accepted (order : AlpacaOrder)

/-- The order as the broker files it, with the client order id and the quantity of the request. -/
def VerifiedExitContext.filed (context : VerifiedExitContext) (qty : String) (order : AlpacaOrder) : AlpacaOrder :=
  { order with
    clientOrderId := context.clientOrderId
    symbol := toUpperCase context.symbol
    side := "sell"
    qty := some qty
    type := match context.type with
      | .market => "market"
      | .trailingStop => "trailing_stop" }

def ExitStore.file (store : ExitStore) (tradingAccountId : Nat) (order : AlpacaOrder) : ExitStore :=
  { store with
    broker := Function.update store.broker tradingAccountId
      { store.broker tradingAccountId with orders := (store.broker tradingAccountId).orders ++ [order] } }

section

variable (context : VerifiedExitContext)

/-- Send the order. What is sent before the reply is lost may arrive. -/
def submitVerifiedAlpacaExitOrder (qty : String) : ExitProgram AlpacaOrder := do
  match ← (answer : ExitProgram PlacementOutcome) with
  | .notSent retryable message => throw (.delivery (if retryable then .notSentRetryable else .notSentBlocked) message)
  | .rejected message =>
    write fun store => store.record (.posted context.clientOrderId)
    throw (.delivery .brokerRejected message)
  | .uncertain message arrived =>
    write fun store => match arrived with
      | none => store.record (.posted context.clientOrderId)
      | some order => (store.file context.tradingAccountId (context.filed qty order)).record (.posted context.clientOrderId)
    throw (.delivery .deliveryUncertain message)
  | .accepted order =>
    let filed := context.filed qty order
    write fun store => ((store.file context.tradingAccountId filed).record (.posted context.clientOrderId)).record
      (.met context.type context.clientOrderId filed.id filed.status)
    return filed

/-- Look an order up at the broker by the client order id of the exit. -/
def recoverFromBroker : ExitProgram (Option AlpacaOrder) := do
  match ← (answer : ExitProgram (Option String)) with
  | some message => throw (.plain message)
  | none => commit fun store =>
      match store.alpacaOrder context.tradingAccountId context.clientOrderId with
      | none => .ok (none, store)
      | some order =>
        .ok (some order, store.record (.met context.type context.clientOrderId order.id order.status))

/-- Look the order up locally by the client order id of the exit. -/
def recoverLocally : ExitProgram (Option Nat) :=
  commit fun store =>
    match store.localOrder context.tradingAccountId context.clientOrderId with
    | none => .ok (none, store)
    | some row => .ok (some row.id, store.record (.metLocal context.type context.clientOrderId row.id
        ((store.alpacaOrderById context.tradingAccountId row.brokerOrderId).map (·.status))))

end

/-- Look something up at the broker; without an answer the exit is blocked. -/
def lookUpEvidence {α : Type} (context : VerifiedExitContext) (what : String) (view : ExitStore → α) : ExitProgram α := do
  match ← (brokerRead view).attempt with
  | .ok found => return found
  | .error _ =>
    block context .brokerStateUnavailable s!"{toUpperCase context.symbol} {what} lookup failed; no sell was submitted."

section

variable (context : VerifiedExitContext)

/-- The evidence of the broker that an exit is verified with. -/
def readExitEvidence : ExitProgram (Option AlpacaPosition × List AlpacaOrder) := do
  let position ← lookUpEvidence context "broker position" fun store =>
    (store.broker context.tradingAccountId).positions.find? fun position => position.symbol == toUpperCase context.symbol
  let openOrders ← lookUpEvidence context "open-order" fun store =>
    (store.broker context.tradingAccountId).orders.filter fun order => isNonterminalBrokerOrderStatus order.status
  return (position, openOrders)

/-- Send a verified order, and after a rejection look whether it has arrived all the same. -/
def placeVerifiedExit (qty : String) : ExitProgram VerifiedExitSubmissionResult := do
  match ← (submitVerifiedAlpacaExitOrder context qty).attempt with
  | .ok order => return .submitted order
  | .error (.delivery .brokerRejected message) =>
    match ← (recoverFromBroker context).attempt with
    | .ok (some order) => return .recoveredBroker order
    | .ok none => throw (.delivery .brokerRejected message)
    | .error _ => throw (.delivery .deliveryUncertain
        "Broker rejection could not be confirmed because deterministic recovery failed.")
  | .error error => throw error

/-- Resolve the attentions that a verification clears; a corrective close clears none. -/
def resolveClearedAttentions : ExitProgram Unit :=
  match context.verificationMode with
  | .normalExactClose => elsewhere
  | .correctiveRemainderClose => return ()

def executeVerifiedExit : ExitProgram VerifiedExitSubmissionResult := do
  let symbol := toUpperCase context.symbol
  -- The account is looked up.
  elsewhere
  match ← recoverLocally context with
  | some brokerOrderId => return .recoveredLocal brokerOrderId
  | none =>
    match ← (recoverFromBroker context).attempt with
    | .error _ => block context .brokerStateUnavailable s!"{symbol} deterministic exit recovery could not be verified."
    | .ok (some order) => return .recoveredBroker order
    | .ok none =>
      let (position, openOrders) ← readExitEvidence context
      match verifyExit context position openOrders with
      | .error (outcome, message) => block context outcome message
      | .ok intended =>
        resolveClearedAttentions context
        -- The write is authorized.
        match ← (answer : ExitProgram (Except HttpError Unit)) with
        | .error refusal => throw (.http refusal)
        | .ok _ => placeVerifiedExit context intended.canonical

end

inductive LockOutcome where
  | acquired | notAcquired | lockError

def LockOutcome.text : LockOutcome → String
  | .acquired => "ACQUIRED_AND_COMPLETED"
  | .notAcquired => "NOT_ACQUIRED"
  | .lockError => "LOCK_ERROR"

/-- Under the exit-submission lock of the account, or not at all. -/
def submitVerifiedExit (context : VerifiedExitContext) : ExitProgram VerifiedExitSubmissionResult := do
  if context.tradingAccountId = 0 then throw (.plain "A real positive tradingAccountId is required for an advisory lock.")
  else match ← (answer : ExitProgram LockOutcome) with
    | .acquired => executeVerifiedExit context
    | outcome => throw (.http ⟨503, s!"Exit submission lock was not acquired safely ({outcome.text})."⟩)

end Submission

end AiTrader.Exit
