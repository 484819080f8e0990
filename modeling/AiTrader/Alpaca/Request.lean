import AiTrader.Approval.LiveWriteApproval

/-! # Requests to the broker

One function sends every request of an account to Alpaca. -/

namespace AiTrader.Alpaca

open Entry Approval

inductive RequestMethod where
  | get | post | delete | patch
deriving DecidableEq

def RequestMethod.text : RequestMethod → String
  | .get => "GET"
  | .post => "POST"
  | .delete => "DELETE"
  | .patch => "PATCH"

inductive AlpacaApiRequestClass where
  | criticalWrite | informationalRead | synchronizationRead
deriving DecidableEq

def alpacaApiOperations : List String :=
  ["account_read", "account_snapshot", "bootstrap_snapshot", "broker_activity_sync", "market_calendar", "market_clock",
    "manual_admin_action", "open_orders_sync", "order_cancel", "order_cancel_all", "pending_order_idempotency_check",
    "pending_order_submission", "position_close", "positions_read", "protective_order_idempotency_check",
    "protective_order_submission", "protective_order_sync", "reconciliation_check", "risk_gate_account_check",
    "submitted_order_sync", "tracked_position_sync"]

def alpacaApiEndpoints : List String :=
  ["GET /v2/account", "GET /v2/account/activities", "GET /v2/account/activities/:activityType", "GET /v2/calendar",
    "GET /v2/clock", "GET /v2/orders", "GET /v2/orders/:orderId", "GET /v2/orders:by_client_order_id",
    "GET /v2/positions", "GET /v2/positions/:symbol", "DELETE /v2/orders", "DELETE /v2/orders/:orderId",
    "DELETE /v2/positions/:symbol", "POST /v2/orders"]

structure AlpacaRequestMetadata where
  (operation endpoint : String)
  method : RequestMethod
  requestClass : AlpacaApiRequestClass
  operationClass : Option AlpacaBrokerOperationClass
  deferDuringRateLimit : Bool
  /-- The metadata carries a context that authorizes a new position. -/
  newPositionEntryContext : Bool

/-- What the platform throws: an `Error` with its name and message, or another value. -/
inductive NativeError where
  | error (name message : String)
  | value (text : String)

/-- `error instanceof Error && error.name === 'AbortError'` -/
def NativeError.aborted : NativeError → Bool
  | .error name _ => name == "AbortError"
  | .value _ => false

/-- What the client throws or passes on. -/
inductive ClientError where
  | brokerWriteDelivery (classification : BrokerWriteDeliveryClassification) (message : String) (statusCode : Option Nat)
      (cause : Option ClientError)
  | alpacaApi (statusCode : Nat) (responseBody : String)
  | rateLimitDeferred (operation : String) (backoffUntil : Option Int)
  | native (error : NativeError)

/-- The message of an `Error`. -/
def ClientError.message : ClientError → Option String
  | .brokerWriteDelivery _ message _ _ => some message
  | .alpacaApi statusCode responseBody => some s!"Alpaca request failed ({statusCode}): {responseBody}"
  | .rateLimitDeferred operation _ => some s!"Alpaca request deferred during active rate-limit backoff: {operation}"
  | .native (.error _ message) => some message
  | .native (.value _) => none

/-- A failed write is thrown with its classification, any other failure as it is. -/
def ClientError.classified (error : ClientError) (isWrite : Bool) (classification : BrokerWriteDeliveryClassification)
    (message : String) : ClientError :=
  if isWrite then .brokerWriteDelivery classification message none (some error) else error

def definitelyNotSent (classification : BrokerWriteDeliveryClassification) : Bool :=
  classification == .notSentRetryable || classification == .notSentBlocked

/-- The options of a request; the body is what `JSON.stringify` makes of it. -/
structure AccountRequestOptions where
  method : Option RequestMethod
  body : Option (Except NativeError String)
  returnNullOn404 : Bool
  metadata : AlpacaRequestMetadata

structure AlpacaConfig where
  environment : Environment
  (baseUrl apiKey apiSecret : String)

/-- The shared rate-limit state of the usage registry. -/
structure RateLimitState where
  active : Bool
  backoffUntil : Option Int

/-- A response of `fetch`; the body is read at most once. -/
structure Response where
  status : Nat
  contentType : Option String
  text : Except NativeError String

/-- `response.ok` -/
def Response.ok (response : Response) : Bool := 200 ≤ response.status && response.status ≤ 299

inductive FetchOutcome where
  | thrown (error : NativeError)
  | responded (response : Response)

/-- What the function meets outside itself. -/
structure RequestWorld where
  rateLimit : RateLimitState
  now : Int
  /-- `resolveAlpacaConfigForTradingAccount` -/
  config : Except ClientError AlpacaConfig
  /-- `authorizePaperBrokerWrite` -/
  paperAuthority : Except ClientError Unit
  (allowLiveTrading allowLiveRiskReducingWrites : Bool)
  /-- `authorizeAndConsumeNewPositionEntry` -/
  newPositionEntry : Except ClientError Unit
  /-- `authorizeLiveBrokerWrite` -/
  liveAuthority : AlpacaBrokerOperationClass → Except ClientError Unit
  fetch : FetchOutcome

/-- `assertKnownAlpacaOperation` -/
def assertKnownAlpacaOperation (operation : String) : Except ClientError Unit :=
  if alpacaApiOperations.contains operation then .ok ()
  else .error (.native (.error "Error" s!"Unknown Alpaca API operation: {operation}"))

/-- `assertKnownAlpacaEndpoint` -/
def assertKnownAlpacaEndpoint (endpoint : String) : Except ClientError Unit :=
  if alpacaApiEndpoints.contains endpoint then .ok ()
  else .error (.native (.error "Error" s!"Unknown Alpaca API endpoint: {endpoint}"))

/-- Throw unless the condition holds. -/
def assertThat (held : Bool) (message : String) : Except ClientError Unit :=
  if held then .ok () else .error (.native (.error "Error" message))

/-- The checks of the metadata against the method. -/
def validateMetadata (method : RequestMethod) (metadata : AlpacaRequestMetadata) : Except ClientError Unit := do
  let isWrite := method != .get
  assertKnownAlpacaOperation metadata.operation
  assertKnownAlpacaEndpoint metadata.endpoint
  assertThat (metadata.method == method)
    s!"Alpaca request metadata method {metadata.method.text} does not match request method {method.text}."
  assertThat ((method.text ++ " ").toList.isPrefixOf metadata.endpoint.toList)
    s!"Alpaca endpoint metadata {metadata.endpoint} does not match request method {method.text}."
  assertThat (!(isWrite && (metadata.requestClass != .criticalWrite || metadata.operationClass == some .lifecycleRead)))
    "Mutating Alpaca requests must be classified as critical writes with a write operation class."
  assertThat (!(!isWrite && metadata.requestClass == .criticalWrite))
    "Read-only Alpaca requests cannot be classified as critical writes."

/-- `AlpacaApiUsageRegistry.shouldDefer` -/
def RateLimitState.shouldDefer (state : RateLimitState) (now : Int) (metadata : AlpacaRequestMetadata) : Bool :=
  metadata.deferDuringRateLimit && state.active && state.backoffUntil.any (now < ·)

/-- Run a local step; its failure is classified when the request is a write. -/
def guarded {α : Type} (isWrite : Bool) (classification : BrokerWriteDeliveryClassification) (message : String)
    (step : Except ClientError α) : Except ClientError α :=
  step.mapError (·.classified isWrite classification message)

/-- Ask an authority; its refusal blocks the write. -/
def authorized (fallback : String) (authority : Except ClientError Unit) : Except ClientError Unit :=
  authority.mapError fun error => .brokerWriteDelivery .notSentBlocked (error.message.getD fallback) none (some error)

/-- The deployment policy for LIVE writes. -/
def livePolicyAllowed (world : RequestWorld) : AlpacaBrokerOperationClass → Bool
  | .riskReducingWrite => world.allowLiveRiskReducingWrites
  | .entryWrite => world.allowLiveTrading && world.allowLiveRiskReducingWrites
  | .lifecycleRead => false

/-- The authorities that a LIVE critical write needs. -/
def authorizeLiveRequest (world : RequestWorld) (tradingAccountId : Nat) (metadata : AlpacaRequestMetadata) :
    Except ClientError Unit :=
  let operationClass := metadata.operationClass.getD .entryWrite
  let required := if operationClass = .riskReducingWrite then "ALLOW_LIVE_RISK_REDUCING_WRITES"
    else "ALLOW_LIVE_TRADING and ALLOW_LIVE_RISK_REDUCING_WRITES"
  if livePolicyAllowed world operationClass = true then
    authorized s!"LIVE {operationClass.text} blocked."
      (if operationClass = .entryWrite ∧ metadata.newPositionEntryContext = true then world.newPositionEntry
      else world.liveAuthority operationClass)
  else .error (.brokerWriteDelivery .notSentBlocked
    s!"LIVE {operationClass.text} blocked for TradingAccount {tradingAccountId}: {required} must be true." none none)

/-- The request as `fetch` gets it. -/
structure SentRequest where
  url : String
  method : RequestMethod
  (apiKey apiSecret : String)
  body : Option String

/-- Everything before `fetch`. -/
def prepareRequest (world : RequestWorld) (tradingAccountId : Nat) (path : String)
    (options : AccountRequestOptions) : Except ClientError SentRequest := do
  let method := options.method.getD .get
  let isWrite := method != .get
  let metadata := options.metadata
  guarded isWrite .notSentBlocked "Broker write blocked by local request metadata validation."
    (validateMetadata method metadata)
  guarded isWrite .notSentRetryable "Broker write deferred locally before request delivery."
    (if world.rateLimit.shouldDefer world.now metadata then
      .error (.rateLimitDeferred metadata.operation world.rateLimit.backoffUntil)
    else .ok ())
  let config ← guarded isWrite .notSentBlocked
    s!"Broker write blocked because TradingAccount {tradingAccountId} credentials are unavailable." world.config
  (if isWrite = true ∧ config.environment = .paper then
    authorized "PAPER broker write blocked by deployment authority." world.paperAuthority
  else .ok ())
  (if metadata.requestClass = .criticalWrite ∧ config.environment = .live then
    authorizeLiveRequest world tradingAccountId metadata
  else .ok ())
  let body ← guarded isWrite .notSentBlocked "Broker write blocked by local request preparation."
    (match options.body with
    | none => .ok none
    | some body => (body.map some).mapError .native)
  pure ⟨config.baseUrl ++ path, method, config.apiKey, config.apiSecret, body⟩

variable {Value : Type}

inductive AlpacaApiOutcome where
  | clientError | networkError | rateLimited | serverError | success | timeout

/-- An argument of `completeRequest`. -/
structure RequestCompletion where
  statusCode : Option Nat
  outcome : AlpacaApiOutcome
  responseFailedBeforeHeaders : Bool

/-- What the promise is resolved with. -/
inductive Answer (Value : Type) where
  | null
  | undefined
  | json (value : Value)
  | text (body : String)

/-- One call: its result, what was sent and answered, and what the usage registry was told. -/
structure RequestRun (Value : Type) where
  result : Except ClientError (Answer Value)
  fetched : Option (SentRequest × FetchOutcome)
  completions : List RequestCompletion

/-- The content type that makes the client parse the body. -/
def Response.json (response : Response) : Bool :=
  (response.contentType.getD "").toList.tails.any fun rest => "application/json".toList.isPrefixOf rest

/-- A response that arrived, as the usage registry is told. -/
def Response.completion (response : Response) : RequestCompletion where
  statusCode := some response.status
  outcome :=
    if response.ok then .success
    else if response.status = 429 then .rateLimited
    else if 500 ≤ response.status then .serverError
    else .clientError
  responseFailedBeforeHeaders := false

/-- The error of a response with an unsuccessful status. -/
def statusError (isWrite : Bool) (statusCode : Nat) (text : String) : ClientError :=
  if isWrite then
    if 500 ≤ statusCode then
      .brokerWriteDelivery .deliveryUncertain
        s!"Broker write delivery is uncertain after Alpaca returned {statusCode}." (some statusCode)
        (some (.alpacaApi statusCode text))
    else
      .brokerWriteDelivery .brokerRejected
        s!"Alpaca explicitly rejected broker write with status {statusCode}." (some statusCode)
        (some (.alpacaApi statusCode text))
  else .alpacaApi statusCode text

/-- The end of the `catch` block for everything but an `AlpacaApiError`. -/
def uncertainError (isWrite : Bool) (error : NativeError) : ClientError :=
  (ClientError.native error).classified isWrite .deliveryUncertain "Broker write delivery is uncertain after a network or response failure."

/-- The completion of a request that failed before it was measured. -/
def failedCompletion (error : NativeError) : RequestCompletion :=
  ⟨none, if error.aborted then .timeout else .networkError, true⟩

/-- The body of a successful response; JSON is returned unawaited, so its rejection leaves the function past the `catch`. -/
def readBody (parseJson : String → Except NativeError Value) (isWrite : Bool) (response : Response) :
    Except ClientError (Answer Value) :=
  if response.json = true then ((response.text.bind parseJson).map .json).mapError .native
  else (response.text.map .text).mapError (uncertainError isWrite)

/-- A response with any other status; its text is read before the request is measured. -/
def refuse (isWrite : Bool) (response : Response) : ClientError × RequestCompletion :=
  match response.text with
  | .ok body => (statusError isWrite response.status body, response.completion)
  | .error error => (uncertainError isWrite error, failedCompletion error)

/-- Everything from `fetch` on. -/
def deliver (parseJson : String → Except NativeError Value) (isWrite returnNullOn404 : Bool) :
    FetchOutcome → Except ClientError (Answer Value) × List RequestCompletion
  | .thrown error => (.error (uncertainError isWrite error), [failedCompletion error])
  | .responded response =>
    if response.status = 404 ∧ returnNullOn404 = true then
      (.ok .null, [{ response.completion with outcome := .success }])
    else if response.status = 204 then (.ok .undefined, [response.completion])
    else if response.ok = true then (readBody parseJson isWrite response, [response.completion])
    else (.error (refuse isWrite response).1, [(refuse isWrite response).2])

def alpacaRequestForAccount (parseJson : String → Except NativeError Value) (world : RequestWorld)
    (tradingAccountId : Nat) (path : String) (options : AccountRequestOptions) : RequestRun Value :=
  match prepareRequest world tradingAccountId path options with
  | .error error => ⟨.error error, none, []⟩
  | .ok request =>
    let (result, completions) := deliver parseJson (options.method.getD .get != .get) options.returnNullOn404 world.fetch
    ⟨result, some (request, world.fetch), completions⟩

variable {options : AccountRequestOptions} {tradingAccountId : Nat} {world : RequestWorld} {path : String}

section Contract

variable {parseJson : String → Except NativeError Value}

/-- The request is a write. -/
def AccountRequestOptions.isWrite (options : AccountRequestOptions) : Bool := options.method.getD .get != .get

/-- A non-ok response with a status below 500. -/
def FetchOutcome.Refused : FetchOutcome → Prop
  | .thrown _ => False
  | .responded response => response.ok = false ∧ response.status < 500

/-- The disposition of a failed write follows from whether `fetch` was invoked and what it answered. -/
structure Disposed (run : RequestRun Value) (classification : BrokerWriteDeliveryClassification) : Prop where
  notSent : definitelyNotSent classification = true ↔ run.fetched = none
  rejected : classification = .brokerRejected ↔ ∃ sent ∈ run.fetched, sent.2.Refused
  uncertain : classification = .deliveryUncertain ↔ ∃ sent ∈ run.fetched, ¬ sent.2.Refused

/-- Every failure is a `BrokerWriteDeliveryError` with the right disposition. -/
def FailuresClassified (run : RequestRun Value) : Prop :=
  ∀ error, run.result = .error error → ∃ classification message statusCode cause,
    error = .brokerWriteDelivery classification message statusCode cause ∧ Disposed run classification

/-- The body is read where the classification rests on it: as JSON when an ok response says so, as text when a write is
refused. -/
def BodyRead (parseJson : String → Except NativeError Value) (returnNullOn404 : Bool) : FetchOutcome → Prop
  | .thrown _ => True
  | .responded response =>
    (response.ok = true → response.status ≠ 204 → response.json = true → (response.text.bind parseJson).isOk = true) ∧
    (response.ok = false → response.status < 500 → ¬ (response.status = 404 ∧ returnNullOn404 = true) →
      response.text.isOk = true)

/-- What a write fails with before `fetch`. -/
def NotSent (error : ClientError) : Prop :=
  ∃ classification message cause, error = .brokerWriteDelivery classification message none cause ∧
    definitelyNotSent classification = true

variable {error : ClientError} {classification : BrokerWriteDeliveryClassification}

theorem notSent_of_guarded {α : Type} {message : String}
    {step : Except ClientError α} (unsent : definitelyNotSent classification = true)
    (failed : guarded true classification message step = .error error) : NotSent error := by
  cases step with
  | ok value => cases failed
  | error cause =>
    cases failed
    exact ⟨_, _, _, rfl, unsent⟩

theorem notSent_of_authorized {fallback : String} {authority : Except ClientError Unit}
    (failed : authorized fallback authority = .error error) : NotSent error := by
  cases authority with
  | ok value => cases failed
  | error cause =>
    cases failed
    exact ⟨_, _, _, rfl, rfl⟩

theorem notSent_of_authorizeLiveRequest {metadata : AlpacaRequestMetadata}
    (failed : authorizeLiveRequest world tradingAccountId metadata = .error error) : NotSent error := by
  unfold authorizeLiveRequest at failed
  by_cases allowed : livePolicyAllowed world (metadata.operationClass.getD .entryWrite) = true
  · rw [if_pos allowed] at failed
    exact notSent_of_authorized failed
  · rw [if_neg allowed] at failed
    cases failed
    exact ⟨_, _, _, rfl, rfl⟩

/-- Whatever stops a write before `fetch` says that it was not sent. -/
theorem notSent_of_prepareRequest (write : options.isWrite = true)
    (failed : prepareRequest world tradingAccountId path options = .error error) : NotSent error := by
  unfold prepareRequest at failed
  dsimp only at failed
  rw [show (options.method.getD .get != .get) = true from write] at failed
  rcases Library.bind_eq_error.mp failed with invalid | ⟨_, _, failed⟩
  · exact notSent_of_guarded rfl invalid
  rcases Library.bind_eq_error.mp failed with deferred | ⟨_, _, failed⟩
  · exact notSent_of_guarded rfl deferred
  rcases Library.bind_eq_error.mp failed with unavailable | ⟨config, _, failed⟩
  · exact notSent_of_guarded rfl unavailable
  rcases Library.bind_eq_error.mp failed with refused | ⟨_, _, failed⟩
  · split at refused
    · exact notSent_of_authorized refused
    · cases refused
  rcases Library.bind_eq_error.mp failed with refused | ⟨_, _, failed⟩
  · split at refused
    · exact notSent_of_authorizeLiveRequest refused
    · cases refused
  rcases Library.bind_eq_error.mp failed with unprepared | ⟨_, _, failed⟩
  · exact notSent_of_guarded rfl unprepared
  · cases failed

variable {reply : FetchOutcome} {returnNullOn404 : Bool} {request : SentRequest} {run : RequestRun Value}

theorem disposed_rejected (fetched : run.fetched = some (request, reply)) (refused : reply.Refused) :
    Disposed run .brokerRejected := by
  constructor <;> simp [fetched, refused, definitelyNotSent]

theorem disposed_uncertain (fetched : run.fetched = some (request, reply)) (unrefused : ¬ reply.Refused) :
    Disposed run .deliveryUncertain := by
  constructor <;> simp [fetched, unrefused, definitelyNotSent]

theorem classified_of_uncertain {error : NativeError} (fetched : run.fetched = some (request, reply))
    (failed : run.result = .error (uncertainError true error)) (unrefused : ¬ reply.Refused) : FailuresClassified run := by
  intro thrown same
  obtain rfl := Except.error.inj (failed.symm.trans same)
  exact ⟨_, _, _, _, rfl, disposed_uncertain fetched unrefused⟩

theorem classified_of_ok {answer : Answer Value} (returned : run.result = .ok answer) : FailuresClassified run := by
  intro error failed
  rw [returned] at failed
  cases failed

/-- A successful response: only a JSON body that cannot be read escapes the classification. -/
theorem readBody_classified_iff {response : Response} (fetched : run.fetched = some (request, .responded response))
    (delivered : run.result = readBody parseJson true response) (successful : response.ok = true)
    (filled : response.status ≠ 204) :
    FailuresClassified run ↔ BodyRead parseJson returnNullOn404 (.responded response) := by
  have unrefused : ¬ (FetchOutcome.responded response).Refused := fun refused => by
    have unsuccessful := refused.1
    rw [successful] at unsuccessful
    cases unsuccessful
  have accepted : BodyRead parseJson returnNullOn404 (.responded response) ↔
      (response.json = true → (response.text.bind parseJson).isOk = true) := by
    simp [BodyRead, successful, filled]
  rw [accepted]
  unfold readBody at delivered
  by_cases json : response.json = true
  · rw [if_pos json] at delivered
    cases body : response.text.bind parseJson with
    | ok value =>
      rw [body] at delivered
      exact iff_of_true (classified_of_ok delivered) fun _ => rfl
    | error error =>
      -- The rejection of `response.json()` is passed on as it is.
      rw [body] at delivered
      refine iff_of_false (fun classified => ?_) fun read => Bool.false_ne_true (read json)
      obtain ⟨_, _, _, _, same, _⟩ := classified _ delivered
      cases same
  · rw [if_neg json] at delivered
    refine iff_of_true ?_ fun parsed => absurd parsed json
    cases body : response.text with
    | ok text =>
      rw [body] at delivered
      exact classified_of_ok delivered
    | error error =>
      rw [body] at delivered
      exact classified_of_uncertain fetched delivered unrefused

/-- An unsuccessful response: a refusal whose text cannot be read passes for an uncertain delivery. -/
theorem refuse_classified_iff {response : Response} (fetched : run.fetched = some (request, .responded response))
    (delivered : run.result = .error (refuse true response).1) (unsuccessful : response.ok = false)
    (present : ¬ (response.status = 404 ∧ returnNullOn404 = true)) :
    FailuresClassified run ↔ BodyRead parseJson returnNullOn404 (.responded response) := by
  have accepted : BodyRead parseJson returnNullOn404 (.responded response) ↔
      (response.status < 500 → response.text.isOk = true) := by
    simp only [BodyRead, unsuccessful, Bool.false_eq_true, false_implies, true_and, true_implies]
    exact ⟨fun read early => read early present, fun read early _ => read early⟩
  rw [accepted]
  unfold refuse at delivered
  by_cases early : response.status < 500
  · have refused : (FetchOutcome.responded response).Refused := ⟨unsuccessful, early⟩
    cases body : response.text with
    | ok text =>
      rw [body] at delivered
      refine iff_of_true (fun error same => ?_) fun _ => rfl
      obtain rfl := Except.error.inj (delivered.symm.trans same)
      dsimp only [statusError]
      rw [if_pos rfl, if_neg (Nat.not_le.mpr early)]
      exact ⟨_, _, _, _, rfl, disposed_rejected fetched refused⟩
    | error error =>
      rw [body] at delivered
      refine iff_of_false (fun classified => ?_) fun read => Bool.false_ne_true (read early)
      obtain ⟨classification, _, _, _, same, disposed⟩ := classified _ delivered
      cases same
      cases disposed.rejected.mpr ⟨(request, .responded response), by simp [fetched], refused⟩
  · have unrefused : ¬ (FetchOutcome.responded response).Refused := fun refused => early refused.2
    refine iff_of_true ?_ fun first => absurd first early
    cases body : response.text with
    | ok text =>
      rw [body] at delivered
      intro error same
      obtain rfl := Except.error.inj (delivered.symm.trans same)
      dsimp only [statusError]
      rw [if_pos rfl, if_pos (Nat.not_lt.mp early)]
      exact ⟨_, _, _, _, rfl, disposed_uncertain fetched unrefused⟩
    | error error =>
      rw [body] at delivered
      exact classified_of_uncertain fetched delivered unrefused

/-- From `fetch` on, failures are classified right exactly when the needed body was read. -/
theorem deliver_classified_iff (fetched : run.fetched = some (request, reply))
    (delivered : run.result = (deliver parseJson true returnNullOn404 reply).1) :
    FailuresClassified run ↔ BodyRead parseJson returnNullOn404 reply := by
  cases reply with
  | thrown error =>
    exact iff_of_true (classified_of_uncertain fetched delivered fun refused => refused) trivial
  | responded response =>
    dsimp only [deliver] at delivered
    by_cases missing : response.status = 404 ∧ returnNullOn404 = true
    · have unsuccessful : response.ok = false := by simp [Response.ok, missing.1]
      rw [if_pos missing] at delivered
      refine iff_of_true (classified_of_ok delivered) ⟨fun ok => ?_, fun _ _ present => absurd missing present⟩
      rw [unsuccessful] at ok
      cases ok
    rw [if_neg missing] at delivered
    by_cases empty : response.status = 204
    · have successful : response.ok = true := by simp [Response.ok, empty]
      rw [if_pos empty] at delivered
      refine iff_of_true (classified_of_ok delivered) ⟨fun _ filled => absurd empty filled, fun unsuccessful => ?_⟩
      rw [successful] at unsuccessful
      cases unsuccessful
    rw [if_neg empty] at delivered
    by_cases successful : response.ok = true
    · rw [if_pos successful] at delivered
      exact readBody_classified_iff fetched delivered successful empty
    · rw [if_neg successful] at delivered
      exact refuse_classified_iff fetched delivered (Bool.eq_false_iff.mpr successful) missing

end Contract

section Claim

variable {parseJson : String → Except NativeError Value}

/-- Every failed write is a `BrokerWriteDeliveryError` with the disposition of its delivery, exactly when it never reaches
`fetch` or the needed body is read. -/
theorem alpacaRequestForAccount_classified_iff (write : options.isWrite = true) :
    FailuresClassified (alpacaRequestForAccount parseJson world tradingAccountId path options) ↔
      ∀ request, prepareRequest world tradingAccountId path options = .ok request →
        BodyRead parseJson options.returnNullOn404 world.fetch := by
  unfold alpacaRequestForAccount
  cases prepared : prepareRequest world tradingAccountId path options with
  | error error =>
    refine iff_of_true (fun thrown same => ?_) nofun
    obtain rfl := Except.error.inj same
    obtain ⟨classification, message, cause, rfl, unsent⟩ := notSent_of_prepareRequest write prepared
    refine ⟨_, _, _, _, rfl, ⟨iff_of_true unsent rfl, ?_, ?_⟩⟩
    · refine iff_of_false (fun rejected => ?_) fun ⟨_, sent, _⟩ => by cases sent
      rw [rejected] at unsent
      cases unsent
    · refine iff_of_false (fun uncertain => ?_) fun ⟨_, sent, _⟩ => by cases sent
      rw [uncertain] at unsent
      cases unsent
  | ok request =>
    rw [show (options.method.getD .get != .get) = true from write]
    exact (deliver_classified_iff rfl rfl).trans ⟨fun read _ _ => read, fun read => read request rfl⟩

end Claim

/-- A parser that knows the empty object. -/
def parseEmptyObject (text : String) : Except NativeError Unit :=
  if text = "\x7b\x7d" then .ok () else .error (.error "SyntaxError" "Unexpected token")

/-- A market order of a PAPER account that all local checks let pass. -/
def orderOptions : AccountRequestOptions where
  method := some .post
  body := some (.ok "\x7b\x7d")
  returnNullOn404 := false
  metadata := ⟨"pending_order_submission", "POST /v2/orders", .post, .criticalWrite, some .entryWrite, false, false⟩

def paperWorld (fetch : FetchOutcome) : RequestWorld where
  rateLimit := ⟨false, none⟩
  now := 0
  config := .ok ⟨.paper, "https://paper-api.alpaca.markets", "key", "secret"⟩
  paperAuthority := .ok ()
  allowLiveTrading := false
  allowLiveRiskReducingWrites := false
  newPositionEntry := .ok ()
  liveAuthority := fun _ => .ok ()
  fetch := fetch

/-- The broker refuses the order with a readable text. -/
def refusal : Response := ⟨422, some "text/plain", .ok "invalid order"⟩

/-- The broker accepts the order and the connection breaks off in the JSON body. -/
def truncatedAcceptance : Response := ⟨200, some "application/json", .ok "\x7b"⟩

theorem alpacaRequestForAccount_classified_iff_refusal :
    FailuresClassified (alpacaRequestForAccount parseEmptyObject (paperWorld (.responded refusal)) 1 "/v2/orders"
      orderOptions) :=
  (alpacaRequestForAccount_classified_iff rfl).mpr fun _ _ => ⟨fun ok => absurd ok (by decide), fun _ _ _ => rfl⟩

/-- The failure of an accepted write with a broken JSON body is no `BrokerWriteDeliveryError`. -/
theorem alpacaRequestForAccount_unclassified : ¬ ∀ (parseJson : String → Except NativeError Unit) (world : RequestWorld)
    (tradingAccountId : Nat) (path : String) (options : AccountRequestOptions), options.isWrite = true →
      FailuresClassified (alpacaRequestForAccount parseJson world tradingAccountId path options) := by
  intro classified
  obtain ⟨_, _, _, _, same, _⟩ := classified parseEmptyObject (paperWorld (.responded truncatedAcceptance)) 1 "/v2/orders"
    orderOptions rfl (.native (.error "SyntaxError" "Unexpected token")) rfl
  cases same

end AiTrader.Alpaca
