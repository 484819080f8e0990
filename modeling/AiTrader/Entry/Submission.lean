import AiTrader.Entry.DispatchOutcome
import AiTrader.Entry.ConfirmedTerminal

/-! # The entry broker boundary and the order worker

The worker takes a pending intent, re-checks it and crosses the broker boundary once. -/

namespace AiTrader.Entry

open Library EntryLifecycle Program

/-- How `authorizeDispatch` records its final authorization. -/
inductive PreparedDispatch where
  | notApplicable
  | unobligated
  | frozenObligation

/-- A broker-time market-policy refusal. -/
structure DispatchRefusal where
  technical : Bool
  (outcome reasonCode : String)
  decisionId : Option Nat

def DispatchRefusal.error (refusal : DispatchRefusal) : EntryError :=
  .dispatchRefused refusal.technical refusal.outcome refusal.reasonCode refusal.decisionId

/-- The market-policy evaluation, which this store does not hold. -/
def evaluateMarketPolicy {α : Type} : EntryProgram α := do
  match ← (answer : EntryProgram (Except DispatchRefusal α)) with
  | .ok value => pure value
  | .error refusal => throw refusal.error

/-- The broker-time guard of a new entry POST; LIVE accounts have no market-policy authority. -/
def prepareEntryBrokerDispatch : EntryProgram PreparedDispatch := do
  match ← (read fun store => store.intent.bind (·.environment) : EntryProgram _).attempt with
  | .error _ => throw (.dispatchRefused true "TECHNICAL_FAILURE" "TECHNICAL_FAILURE_INTENT_LOAD" none)
  | .ok (some .paper) =>
    let obligated ← (evaluateMarketPolicy : EntryProgram Bool)
    pure (if obligated then .frozenObligation else .unobligated)
  | .ok _ => pure .notApplicable

/-- A record that committed although its caller saw an error: nothing more may be sent. -/
def throwIfDispatchRecorded : EntryProgram Unit := do
  let consumption ← (read (·.consumption) : EntryProgram _).attempt
  let unenforced ← (read (·.unenforcedDispatch) : EntryProgram _).attempt
  match consumption, unenforced with
  | .ok (some record), .ok _ => throw (.dispatchRecordedNotSent "CONSUMPTION" record.id)
  | .ok none, .ok (some record) => throw (.dispatchRecordedNotSent "UNENFORCED_DISPATCH" record.id)
  | _, _ => pure ()

section

variable (identity : EntryIdentity)

/-- The final serialized authorization of an un-obligated PAPER entry. -/
def recordUnenforcedDispatch (recordId : Nat) (store : EntryLifecycle) :
    Except EntryError (Unit × EntryLifecycle) :=
  match store.claim with
  | some claim =>
    if executableIdentity identity claim store.intent (store.securityId identity.symbol) &&
        claim.releasedAt.isNone && store.intent.any (fun intent => intent.environment == some .paper) &&
        store.consumption.isNone && store.unenforcedDispatch.isNone then
      .ok ((), { store with
        unenforcedDispatch := some ⟨recordId, identity.clientOrderId, identity.tradingAccountId,
          claim.securityId, store.clock⟩ })
    else .error (.technical "ENTRY_NOT_EXECUTABLE")
  | none => .error (.technical "ENTRY_NOT_EXECUTABLE")

/-- Consume the single-use broker-time decision; the intent has at most one consumption. -/
def consumeDecision (recordId : Nat) (store : EntryLifecycle) :
    Except EntryError (Unit × EntryLifecycle) :=
  match store.claim with
  | some claim =>
    if store.consumption.isNone then
      .ok ((), { store with
        consumption := some ⟨recordId, identity.clientOrderId, store.clock, identity.orderIntentId,
          identity.tradingAccountId, some claim.securityId, identity.clientOrderId⟩ })
    else .error (.technical "BROKER_DISPATCH_CONSUMPTION_FAILED")
  | none => .error (.technical "BROKER_DISPATCH_CONSUMPTION_FAILED")

/-- One attempt to consume a decision; PostgreSQL may refuse it. -/
def attemptConsumption : EntryProgram (Except EntryError Unit) := do
  let recordId ← (answer : EntryProgram Nat)
  (commit (consumeDecision identity recordId)).attempt

/-- The last step before the adapter. -/
def authorizeDispatch : PreparedDispatch → EntryProgram Unit
  | .notApplicable => pure ()
  | .unobligated => do
    let recordId ← (answer : EntryProgram Nat)
    match ← (do
      let quarantined ← (answer : EntryProgram (Option DispatchRefusal))
      if quarantined.isNone then commit (recordUnenforcedDispatch identity recordId) else pure ()
      pure quarantined : EntryProgram (Option DispatchRefusal)).attempt with
    | .ok none => pure ()
    | .ok (some refusal) => throw refusal.error
    | .error _ =>
      throwIfDispatchRecorded
      throw (.dispatchRefused true "TECHNICAL_FAILURE" "TECHNICAL_FAILURE_FINAL_AUTHORIZATION_COMMIT" none)
  | .frozenObligation => do
    match ← attemptConsumption identity with
    | .ok _ => pure ()
    | .error _ =>
      throwIfDispatchRecorded
      (evaluateMarketPolicy : EntryProgram Unit)
      match ← attemptConsumption identity with
      | .ok _ => pure ()
      | .error _ =>
        throwIfDispatchRecorded
        throw (.dispatchRefused true "TECHNICAL_FAILURE" "TECHNICAL_FAILURE_DISPATCH_CONSUMPTION" none)

end

/-- What the adapter's local guards answer; `none` passes. -/
abbrev AdapterGuard := Option (Bool × String)

def guardError (guarded : Bool × String) : EntryError :=
  .brokerWrite (if guarded.1 then .notSentRetryable else .notSentBlocked) none guarded.2

/-- What `fetch` returned for the POST. -/
inductive PostResponse where
  | accepted (order : AlpacaOrderView)
  | httpError (statusCode : Nat)
  | networkFailure
  | unreadableBody (message : String)

/-- The classification of a broker write that reached `fetch`. -/
def classifyPostResponse : PostResponse → Except EntryError AlpacaOrderView
  | .accepted order => .ok order
  | .httpError statusCode =>
    if 500 ≤ statusCode then .error (.brokerWrite .deliveryUncertain (some statusCode)
      "Broker write delivery is uncertain after an Alpaca server error.")
    else .error (.brokerWrite .brokerRejected (some statusCode)
      ("Alpaca explicitly rejected broker write with status " ++ toString statusCode ++ "."))
  | .networkFailure => .error (.brokerWrite .deliveryUncertain none
      "Broker write delivery is uncertain after a network or response failure.")
  | .unreadableBody message => .error (.technical message)

/-- Consume the account's one-shot LIVE arming for this intent. -/
def authorizeAndConsumeNewPositionEntry (identity : EntryIdentity) : EntryProgram Unit := do
  match ← (answer : EntryProgram (Except String Nat)) with
  | .error message => throw (.technical message)
  | .ok terminationId =>
    commit fun store =>
      if store.intentStatus = some .submitting then
        .ok ((), { store with
          liveArmingConsumption := some ⟨terminationId, some identity.clientOrderId, store.clock⟩ })
      else .error (.technical "LIVE entry intent is not submitting.")

/-- The POST itself: from here on the request may have reached the broker. -/
def issuePost : EntryProgram Unit := write fun store => { store with posts := store.posts + 1 }

/-- The guards of the adapter that run without the store. -/
def passLocalGuards : EntryProgram Unit := do
  match ← (answer : EntryProgram AdapterGuard) with
  | some guarded => throw (guardError guarded)
  | none => pure ()

/-- A LIVE entry consumes its arming before `fetch`; a failure blocks the write. -/
def passLiveEntryGuard (identity : EntryIdentity) : EntryProgram Unit := do
  let live ← read fun store => store.intent.bind (·.environment) == some .live
  if live then
    match ← (authorizeAndConsumeNewPositionEntry identity).attempt with
    | .ok _ => pure ()
    | .error _ => throw (guardError (false, "LIVE ENTRY_WRITE blocked."))
  else pure ()

/-- `fetch` and the classification of its result. -/
def postOrder : EntryProgram AlpacaOrderView := do
  match ← issuePost.attempt with
  | .error _ => throw (.brokerWrite .deliveryUncertain none
      "Broker write delivery is uncertain after a network or response failure.")
  | .ok _ =>
    let response ← (answer : EntryProgram PostResponse)
    done (classifyPostResponse response)

/-- The entry order request of the adapter: every guard runs before `fetch`. -/
def submitAlpacaEntryOrder (identity : EntryIdentity) : EntryProgram AlpacaOrderView := do
  passLocalGuards
  passLiveEntryGuard identity
  passLocalGuards
  postOrder

/-- How far one submission attempt came. -/
inductive EntryBrokerSubmissionPhase where
  | unclassified | notDispatched | existingOrderFound | dispatchStarted | brokerResponded
deriving DecidableEq

structure EntrySubmission where
  duplicate : Bool
  order : AlpacaOrderView

def assertExistingEntryOrderIdentity (order : AlpacaOrderView) (identity : EntryIdentity) : EntryProgram Unit :=
  if order.clientOrderId ≠ identity.clientOrderId ∨ normalizeSymbol order.symbol ≠ normalizeSymbol identity.symbol ∨
      normalizeSide order.side ≠ "buy" then
    throw (.conflict .existingBrokerOrderIdentityMismatch
      "Broker order found by stable client order ID does not match the entry identity.")
  else pure ()

/-- A lookup miss is not proof that an earlier dispatch never reached Alpaca. -/
def assertNoLocalEntryDispatchEvidence : EntryProgram Unit := do
  let consumptions ← read (·.consumption.toList.length)
  let unenforcedDispatches ← read (·.unenforcedDispatch.toList.length)
  let dispatchEvents ← read fun store =>
    (store.opportunityEvents.filter dispatchOpportunityEventTypes.contains).length
  let brokerOrders ← read (·.brokerOrders.length)
  if consumptions ≠ 0 ∨ unenforcedDispatches ≠ 0 ∨ dispatchEvents ≠ 0 ∨ brokerOrders ≠ 0 then
    throw (.conflict .priorEntryDispatchEvidence
      "Entry has prior dispatch evidence; a missing broker lookup result is not proof of non-delivery.")
  else pure ()

/-- The durable marker, written in its own statement before the adapter call. -/
def recordAdapterInvocationStarted : EntryProgram Unit :=
  write (·.appendEvent .adapterInvocationStarted { adapterMarkerProtocol := true })

/-- The telemetry of a failed adapter call. -/
def opportunityEventOfFailure : EntryError → OpportunityEventType
  | .brokerWrite .brokerRejected _ _ => .brokerRejected
  | .brokerWrite .notSentBlocked _ _ => .definitelyNotSent
  | .brokerWrite .notSentRetryable _ _ => .deferred
  | _ => .deliveryUncertain

section

variable (identity : EntryIdentity)

/-- The claim check and the stable client-order-ID lookup. -/
def lookupExistingEntryOrder : EntryProgram (Option AlpacaOrderView) := do
  let _ ← requireExecutableEntryExposureClaim identity
  lookup

/-- The steps between the confirmed absence and the adapter: nothing is sent by any of them. -/
def authorizeAndMark : EntryProgram Unit := do
  let dispatch ← prepareEntryBrokerDispatch
  authorizeDispatch identity dispatch
  recordAdapterInvocationStarted

/-- The adapter call with its telemetry. -/
def dispatchToAdapter : EntryProgram AlpacaOrderView := do
  bestEffortAppendBrokerOpportunityEvent .adapterDispatchReached
  match ← (submitAlpacaEntryOrder identity).attempt with
  | .ok order => pure order
  | .error error =>
    bestEffortAppendBrokerOpportunityEvent (opportunityEventOfFailure error)
    throw error

/-- One crossing of the broker boundary, with the phase at which it returned or threw. -/
def submitOrderToBroker :
    EntryProgram (EntryBrokerSubmissionPhase × Except EntryError EntrySubmission) := do
  match ← (lookupExistingEntryOrder identity).attempt with
  | .error error => pure (.unclassified, .error error)
  | .ok (some existing) =>
    match ← (assertExistingEntryOrderIdentity existing identity).attempt with
    | .error error => pure (.existingOrderFound, .error error)
    | .ok _ =>
      bestEffortAppendBrokerOpportunityEvent .brokerOrderMaterialized
      pure (.existingOrderFound, .ok ⟨true, existing⟩)
  | .ok none =>
    match ← assertNoLocalEntryDispatchEvidence.attempt with
    | .error error => pure (.unclassified, .error error)
    | .ok _ =>
      match ← (authorizeAndMark identity).attempt with
      | .error error => pure (.notDispatched, .error error)
      | .ok _ =>
        match ← (dispatchToAdapter identity).attempt with
        | .error error => pure (.dispatchStarted, .error error)
        | .ok order =>
          bestEffortAppendBrokerOpportunityEvent .brokerResponseConfirmed
          bestEffortAppendBrokerOpportunityEvent .brokerOrderMaterialized
          pure (.brokerResponded, .ok ⟨false, order⟩)

end

end AiTrader.Entry
