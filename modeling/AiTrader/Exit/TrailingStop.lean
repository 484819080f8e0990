import AiTrader.Exit.ExitState
import AiTrader.Exit.VerifiedExit
import AiTrader.Library.Assurance

/-! # Trailing stops

The claim of a trailing stop writes its intent and its client order id before the broker is asked; a later call finds
them, and goes by the delivery that the intent records. -/

namespace AiTrader.Exit

open Library Library.Program Entry

/-- `PROTECTIVE_SUBMISSION_RECOVERY_BACKOFF_MS` -/
def protectiveSubmissionRecoveryBackoffMs : Int := 30000

/-- The classification that a reason records. -/
def getDeliveryClassification : Option BlockReason → Option BrokerWriteDeliveryClassification
  | some (.delivery classification _) => some classification
  | some (.exitVerification _) | some (.other _) | none => none

section

variable (store : ExitStore)

/-- A fresh id, as the sequence of the table gives it. -/
def nextIntentId : Nat := Table.nextId (store.intents.map (·.id))

def nextBrokerOrderId : Nat := Table.nextId (store.brokerOrders.map (·.id))

/-- The newest intent of an account under a client order id. -/
def findIntent (tradingAccountId : Nat) (clientOrderId : String) : Option OrderIntent :=
  store.intents.reverse.find? fun row =>
    row.tradingAccountId == tradingAccountId && row.clientOrderId == some clientOrderId

end

def createIntent (row : Nat → OrderIntent) (store : ExitStore) : OrderIntent × ExitStore :=
  let created := row (nextIntentId store)
  (created, { store with intents := store.intents ++ [created] })

/-- The intent of a trailing stop. -/
def trailingIntent (position : TrackedPosition) (tradingAccountId : Nat) (clientOrderId side : String) (status : OrderStatus)
    (now : Int) (id : Nat) : OrderIntent where
  id := id
  source := .exitEvaluator
  tradingAccountId := tradingAccountId
  trackedPositionId := some position.id
  clientOrderId := some clientOrderId
  symbol := position.symbol
  side := side
  orderType := "trailing_stop"
  qty := position.qty
  status := status
  blockReason := none
  lastSubmittedOrderSyncAt := none
  updatedAt := now

/-- The assignment of a position, if it is that of its account and its subscription. -/
def consistentAssignment (position : TrackedPosition) (tradingAccountId : Nat) : Option AccountAssignment :=
  position.tradingAccountSubscription.filter fun assignment =>
    assignment.tradingAccountId == tradingAccountId && some assignment.subscriptionId == position.subscriptionId

/-- Set the reason of an intent, and its status unless it is kept. -/
def recordDelivery (intentId : Nat) (status : Option OrderStatus) (reason : Option BlockReason) (now : Int)
    (store : ExitStore) : ExitStore :=
  store.updateIntents fun row => if row.id = intentId then
    { row with status := status.getD row.status, blockReason := reason, updatedAt := now } else row

section Persistence

variable (toISOString : Int → String)

/-- File a broker order locally, under its client order id. -/
def fileBrokerOrder (order : Nat → BrokerOrder) (store : ExitStore) : ExitStore :=
  let row := order (nextBrokerOrderId store)
  match store.localOrder row.tradingAccountId row.clientOrderId with
  | some existing => store.updateBrokerOrders fun other => if other.id = existing.id then order existing.id else other
  | none => { store with brokerOrders := store.brokerOrders ++ [row] }

def persistTrailingStopOrder (tradingAccountId : Nat) (name : TrailName) (order : AlpacaOrder) : ExitProgram Unit := do
  let clientOrderId := buildTrailingStopClientOrderId toISOString name
  match ← read fun store => store.position name.trackedPositionId with
  | none => throw (.plain s!"Tracked position {name.trackedPositionId} was not found.")
  | some position =>
    if position.tradingAccountId ≠ some tradingAccountId ∨ consistentAssignment position tradingAccountId = none then
      throw (.plain s!"TrackedPosition {position.id} has missing or inconsistent account attribution; refusing trailing-stop persistence.")
    else
      let side := if position.side = "short" then "buy" else "sell"
      let now ← (answer : ExitProgram Int)
      let intent ← match ← read fun store => findIntent store tradingAccountId clientOrderId with
        | some existing =>
          if existing.trackedPositionId ≠ some position.id then
            throw (.plain s!"Protective OrderIntent {existing.id} belongs to a different tracked position.")
          else pure existing
        | none =>
          commit fun store =>
            .ok (createIntent (trailingIntent position tradingAccountId clientOrderId side .submitted now) store)
      write (fileBrokerOrder fun id =>
        { id
          orderIntentId := intent.id
          tradingAccountId := tradingAccountId
          brokerOrderId := order.id
          clientOrderId := clientOrderId
          trackedPositionId := some position.id
          symbol := position.symbol
          side := side
          status := order.status })
      write (recordDelivery intent.id (some .submitted) none now)
      let _ ← markTrailingStopOrderSubmitted toISOString name order.id order.status

/-- Filing an order is harmless if its statements are. -/
theorem persistTrailingStopOrder_harmless {contract : Contract ExitStore} {fault : ExitError → Prop}
    (creates : ∀ row : Nat → OrderIntent, (∀ id, (row id).blockReason = none) →
      (commit fun store => .ok (createIntent row store) : ExitProgram OrderIntent).Harmless contract fault)
    (files : ∀ row, (write (fileBrokerOrder row) : ExitProgram Unit).Harmless contract fault)
    (records : ∀ intentId status now,
      (write (recordDelivery intentId status none now) : ExitProgram Unit).Harmless contract fault)
    (marks : ∀ name brokerOrderId orderStatus,
      (markTrailingStopOrderSubmitted toISOString name brokerOrderId orderStatus).Harmless contract fault)
    (tradingAccountId : Nat) (name : TrailName) (order : AlpacaOrder) :
    (persistTrailingStopOrder toISOString tradingAccountId name order).Harmless contract fault := by
  refine harmless_read.bind fun position => ?_
  cases position with
  | none => exact harmless_throw
  | some position =>
    refine harmless_ite harmless_throw <| harmless_answer.bind fun now => harmless_read.bind
      fun found => ?_
    extract_lets finish
    have rest (intent : OrderIntent) : (finish intent).Harmless contract fault :=
      (files _).bind fun _ => (records _ _ _).bind fun _ => (marks _ _ _).bind fun _ => harmless_pure
    cases found with
    | some existing =>
      exact harmless_ite (harmless_throw.bind rest) <| harmless_pure.bind rest
    | none => exact (creates _ fun _ => rfl).bind rest

end Persistence

section Submission

variable (toISOString : Int → String)

inductive SubmissionReason where
  | alreadySubmitted | alreadyPersisted | recoveryBackoff | alreadyAtBroker | recoveryInconclusive

def SubmissionReason.text : SubmissionReason → String
  | .alreadySubmitted => "already_submitted"
  | .alreadyPersisted => "already_persisted"
  | .recoveryBackoff => "recovery_backoff"
  | .alreadyAtBroker => "already_at_broker"
  | .recoveryInconclusive => "recovery_inconclusive"

structure TrailingSubmissionResult where
  submitted : Bool
  reason : Option SubmissionReason
  (brokerOrderId clientOrderId : Option String)

/-- `getWholeShareQty` -/
def getWholeShareQty (qty : String) : Except ExitError String :=
  match parseExactPositiveDecimal qty with
  | none => .error (.plain s!"Invalid trailing stop quantity: {qty}")
  | some parsed =>
    if parsed.scale ≠ 0 then
      .error (.plain s!"Broker-native trailing stop exits require a whole-share quantity. Received qty={qty}.")
    else .ok parsed.canonical

/-- What a trailing stop is submitted with. -/
structure TrailingRequest where
  tradingAccountId : Nat
  position : TrackedPosition
  name : TrailName
  qty : String
  trailingStopPct : ℚ

/-- The checks of a position and its exit state, in their order. -/
def checkTrailingStop (tradingAccountId : Nat) (position : TrackedPosition) (exitState : PositionExitState) :
    Except ExitError (TrailingRequest ⊕ TrailingSubmissionResult) := do
  if !exitState.targetUnlocked then
    .error (.plain s!"Cannot submit trailing stop for {position.symbol}; target has not been unlocked.")
  else match exitState.targetUnlockedAt with
    | none => .error (.plain s!"Cannot submit trailing stop for {position.symbol}; targetUnlockedAt is missing.")
    | some targetUnlockedAt =>
      if exitState.trailBrokerOrderId.isSome then
        .ok (.inr ⟨false, some .alreadySubmitted, exitState.trailBrokerOrderId, exitState.trailClientOrderId⟩)
      else match exitState.trailingStopPct with
        | none => .error (.plain s!"Cannot submit trailing stop for {position.symbol}; trailingStopPct is missing.")
        | some trailingStopPct =>
          let qty ← getWholeShareQty position.qty
          .ok (.inl ⟨tradingAccountId, position, ⟨position.symbol, position.id, targetUnlockedAt⟩, qty, trailingStopPct⟩)

/-- The position may be managed in the account. -/
def checkTrailingPosition (tradingAccountId : Nat) (position : TrackedPosition) : Except ExitError Unit :=
  if position.tradingAccountId ≠ some tradingAccountId then
    .error (.plain s!"TrackedPosition {position.id} does not belong to TradingAccount {tradingAccountId}; refusing trailing-stop broker access.")
  else if position.side.toList.map Char.toLower ≠ "long".toList then
    .error (.plain "AI Trader does not automatically cover or manage short exposure.")
  else if consistentAssignment position tradingAccountId = none then
    .error (.plain s!"TrackedPosition {position.id} has missing or inconsistent account assignment attribution.")
  else .ok ()

structure TrailingClaim where
  intent : OrderIntent
  created : Bool

/-- The serializable transaction that claims the submission. -/
def claimTrailingStop (request : TrailingRequest) (now : Int) (store : ExitStore) :
    Except ExitError (TrailingClaim × ExitStore) :=
  let clientOrderId := buildTrailingStopClientOrderId toISOString request.name
  match findIntent store request.tradingAccountId clientOrderId with
  | some existing =>
    if existing.trackedPositionId ≠ some request.position.id then
      .error (.plain s!"Protective OrderIntent {existing.id} belongs to a different tracked position.")
    else .ok (⟨existing, false⟩, store)
  | none =>
    if (store.exitState request.position.id).any fun row =>
        row.trailBrokerOrderId.isNone && row.trailClientOrderId.isNone then
      let claimed := (store.updateExitStates fun row => if row.trackedPositionId = request.position.id then
        { row with
          status := .trailingStopSubmitting
          trailBroker := some "alpaca"
          trailClientOrderId := some clientOrderId
          trailOrderStatus := some (.unlisted "pending_submit") } else row).record (.claimed request.name)
      let (intent, after) := createIntent
        (trailingIntent request.position request.tradingAccountId clientOrderId "sell" .submitting now) claimed
      .ok (⟨intent, true⟩, after)
    else .error (.plain s!"Protective submission for TrackedPosition {request.position.id} is already claimed.")

def TrailingRequest.context (request : TrailingRequest) (clientOrderId : String) (intentId : Nat) : VerifiedExitContext where
  tradingAccountId := request.tradingAccountId
  trackedPositionId := request.position.id
  orderIntentId := intentId
  symbol := request.position.symbol
  localTrackedQty := request.position.qty
  intendedQty := request.qty
  clientOrderId := clientOrderId
  type := .trailingStop
  trailPercent := some request.trailingStopPct

/-- How the catch block reads an error. -/
def failureClassification : ExitError → BrokerWriteDeliveryClassification
  | .delivery classification _ => classification
  | _ => .deliveryUncertain

/-- The status an intent gets with a classification. -/
def failureStatus : BrokerWriteDeliveryClassification → OrderStatus
  | .notSentBlocked => .blocked
  | .notSentRetryable => .failed
  | .brokerRejected | .deliveryUncertain => .submitting

def atBroker (order : AlpacaOrder) (clientOrderId : String) : TrailingSubmissionResult :=
  ⟨false, some .alreadyAtBroker, some order.id, some clientOrderId⟩

/-- Record the failure with its intent, and throw the error again. -/
def recordTrailingFailure (intentId : Nat) (classification : BrokerWriteDeliveryClassification) (error : ExitError) :
    ExitProgram TrailingSubmissionResult := do
  let now ← (answer : ExitProgram Int)
  write (recordDelivery intentId (some (failureStatus classification)) (some (.delivery classification error.message)) now)
  if classification = .deliveryUncertain then elsewhere
  throw error

section

variable (request : TrailingRequest)

/-- After a rejection the broker is asked once more. -/
def handleTrailingFailure (intentId : Nat) (error : ExitError) :
    ExitProgram TrailingSubmissionResult := do
  let clientOrderId := buildTrailingStopClientOrderId toISOString request.name
  if failureClassification error = .brokerRejected then
    match ← (brokerRead fun store => store.alpacaOrder request.tradingAccountId clientOrderId).attempt with
    | .error _ => recordTrailingFailure intentId .deliveryUncertain error
    | .ok (some order) =>
      persistTrailingStopOrder toISOString request.tradingAccountId request.name order
      return atBroker order clientOrderId
    | .ok none => recordTrailingFailure intentId .brokerRejected error
  else recordTrailingFailure intentId (failureClassification error) error

/-- Persist an order that the broker has accepted. -/
def persistAccepted (intentId : Nat) (order : AlpacaOrder) :
    ExitProgram TrailingSubmissionResult := do
  match ← (persistTrailingStopOrder toISOString request.tradingAccountId request.name order).attempt with
  | .ok _ =>
    elsewhere
    return ⟨true, none, some order.id, some (buildTrailingStopClientOrderId toISOString request.name)⟩
  | .error _ =>
    let now ← (answer : ExitProgram Int)
    write (recordDelivery intentId (some .submitting)
      (some (.delivery .deliveryUncertain "broker accepted before local persistence completed")) now)
    elsewhere
    throw (.delivery .deliveryUncertain "Protective order was accepted but local persistence did not complete.")

/-- Submit a claimed trailing stop, and record what becomes of it. -/
def submitClaimedTrailingStop (intentId : Nat) : ExitProgram TrailingSubmissionResult := do
  let clientOrderId := buildTrailingStopClientOrderId toISOString request.name
  match ← (submitVerifiedExit (request.context clientOrderId intentId)).attempt with
  | .ok (.recoveredLocal brokerOrderId) =>
    return ⟨false, some .alreadyPersisted, some (toString brokerOrderId), some clientOrderId⟩
  | .ok (.recoveredBroker order) | .ok (.submitted order) => persistAccepted toISOString request intentId order
  | .error error => handleTrailingFailure toISOString request intentId error

end

/-- What a call goes on to: the submission under the intent it has claimed, or a result without one. -/
abbrev Prepared : Type := (TrailingRequest × Nat) ⊕ TrailingSubmissionResult

/-- Claim the submission; then backoff, look-up at the broker, and what the intent records. -/
def prepareTrailingRequest (request : TrailingRequest) (now : Int) : ExitProgram Prepared := do
  let clientOrderId := buildTrailingStopClientOrderId toISOString request.name
  match ← read fun store => store.localOrder request.tradingAccountId clientOrderId with
  | some existing =>
    let _ ← markTrailingStopOrderSubmitted toISOString request.name existing.brokerOrderId existing.status
    return .inr ⟨false, some .alreadyPersisted, some existing.brokerOrderId, some clientOrderId⟩
  | none =>
    let writtenAt ← (answer : ExitProgram Int)
    let claim ← commit (claimTrailingStop toISOString request writtenAt)
    if !claim.created ∧ now - claim.intent.updatedAt < protectiveSubmissionRecoveryBackoffMs then
      return .inr ⟨false, some .recoveryBackoff, none, some clientOrderId⟩
    else match ← brokerRead fun store => store.alpacaOrder request.tradingAccountId clientOrderId with
      | some order =>
        persistTrailingStopOrder toISOString request.tradingAccountId request.name order
        return .inr (atBroker order clientOrderId)
      | none =>
        match (getDeliveryClassification claim.intent.blockReason).filter fun classification => !claim.created &&
            (classification == .deliveryUncertain || classification == .brokerRejected) with
        | some classification =>
          let now ← (answer : ExitProgram Int)
          write (recordDelivery claim.intent.id none
            (some (.delivery classification "broker lookup remains inconclusive")) now)
          return .inr ⟨false, some .recoveryInconclusive, none, some clientOrderId⟩
        | none => return .inl (request, claim.intent.id)

def prepareTrailingStop (tradingAccountId trackedPositionId : Nat) (now : Int) : ExitProgram Prepared := do
  match ← read fun store => (store.position trackedPositionId, store.exitState trackedPositionId) with
  | (none, _) => throw (.plain s!"Tracked position {trackedPositionId} was not found.")
  | (some position, exitState) =>
    .done (checkTrailingPosition tradingAccountId position)
    let exitState ← match exitState with
      | some exitState => pure exitState
      | none => ensurePositionExitState position.id
    match ← .done (checkTrailingStop tradingAccountId position exitState) with
    | .inr result => return .inr result
    | .inl request => prepareTrailingRequest toISOString request now

def submitTrailingStopExitOrder (tradingAccountId trackedPositionId : Nat) (now : Int) :
    ExitProgram TrailingSubmissionResult := do
  match ← prepareTrailingStop toISOString tradingAccountId trackedPositionId now with
  | .inr result => return result
  | .inl (request, intentId) => submitClaimedTrailingStop toISOString request intentId

end Submission

end AiTrader.Exit
