import AiTrader.Library.Json
import AiTrader.Momentum.CandidateEligibility

/-! # Momentum scanner handoffs

A handoff carries the payload of a candidate to its review. Each statement commits by itself, and the log tells which
statement did what. -/

namespace AiTrader.Momentum

open Library Library.Program Approval

/-- A generated key, which has no colon. -/
structure Cuid where
  text : String
  plain : ':' ∉ text.toList
deriving DecidableEq

/-- A price check as the payload shows it; decimals are their texts. -/
structure PriceCheck where
  id : String
  observedAt : Int
  (lastPrice previousClose pctFromPreviousClose intradayHigh intradayLow distanceFromHighPct : Option String)
  sessionVwap : Option String
  aboveVwap : Option Bool
  dayVolume : Option Int
  (dollarVolume relativeVolume recentMovePct : Option String)
  recentVolume : Option Int
  confirmed : Bool
  (decision blockedReason : Option String)

/-- A catalyst event; its enumerations are their texts. -/
structure CatalystEvent where
  (id source : String)
  sourcePublisher : Option String
  title : String
  (summary sourceUrl : Option String)
  publishedAt : Option Int
  (eventType eventTier sentiment : String)

structure CatalystTickerImpact where
  id : String
  (sentimentReasoning catalystRole : Option String)
  totalCatalystScore : Int

/-- A candidate with what is included of its relations, but its handoffs. -/
structure MomentumCandidate where
  id : Cuid
  symbol : String
  state : MomentumCandidateState
  (totalScore catalystScore priceActionScore volumeScore riskScore : Int)
  (reason blockedReason : Option String)
  discoveredAt : Int
  (lastEvaluatedAt expiresAt : Option Int)
  catalystEvent : Option CatalystEvent
  catalystImpact : Option CatalystTickerImpact
  latestPriceCheck : Option PriceCheck
  security : Option CandidateSecurity

structure CandidatePayload where
  (id symbol : String)
  state : MomentumCandidateState
  (totalScore catalystScore priceActionScore volumeScore riskScore : Int)
  reason : Option String
  discoveredAt : Int
  (lastEvaluatedAt expiresAt : Option Int)

structure CatalystPayload where
  eventId : String
  impactId : Option String
  source : String
  publisher : Option String
  title : String
  (summary url : Option String)
  publishedAt : Option Int
  (eventType eventTier sentiment : String)
  (sentimentReasoning tickerRole : Option String)
  totalCatalystScore : Int

structure ReviewGuidance where
  recommendedAction : String
  tradingAllowed : Bool
  notes : List String

/-- The payload; its dates are instants. -/
structure HandoffPayload where
  (type version idempotencyKey : String)
  candidate : CandidatePayload
  catalyst : Option CatalystPayload
  priceConfirmation : Option PriceCheck
  reviewGuidance : ReviewGuidance

inductive MomentumScannerHandoffStatus where
  | pending | sent | acknowledged | failed | cancelled
deriving DecidableEq

def MomentumScannerHandoffStatus.text : MomentumScannerHandoffStatus → String
  | .pending => "PENDING"
  | .sent => "SENT"
  | .acknowledged => "ACKNOWLEDGED"
  | .failed => "FAILED"
  | .cancelled => "CANCELLED"

/-- The statuses of `ACTIVE_HANDOFF_STATUSES`. -/
def MomentumScannerHandoffStatus.isActive : MomentumScannerHandoffStatus → Bool
  | .pending | .sent | .acknowledged => true
  | .failed | .cancelled => false

structure MomentumScannerHandoff where
  (id momentumCandidateId : Cuid)
  symbol : String
  status : MomentumScannerHandoffStatus
  payloadVersion : String
  payload : HandoffPayload
  preparedAt : Int
  (sentAt acknowledgedAt failedAt : Option Int)
  attempts : Nat
  lastError : Option String
  idempotencyKey : String
  metadata : Option Json

def buildIdempotencyKey (candidateId : Cuid) (payloadVersion : String) : String :=
  "momentum-candidate:" ++ candidateId.text ++ ":" ++ payloadVersion

section

variable (candidate : MomentumCandidate)

def buildMomentumScannerPayloadFromCandidate (payloadVersion : String) : HandoffPayload where
  type := "momentum_candidate.ready"
  version := payloadVersion
  idempotencyKey := buildIdempotencyKey candidate.id payloadVersion
  candidate := ⟨candidate.id.text, candidate.symbol, candidate.state, candidate.totalScore, candidate.catalystScore,
    candidate.priceActionScore, candidate.volumeScore, candidate.riskScore, candidate.reason, candidate.discoveredAt,
    candidate.lastEvaluatedAt, candidate.expiresAt⟩
  catalyst := candidate.catalystEvent.map fun event =>
    { eventId := event.id
      impactId := candidate.catalystImpact.map (·.id)
      source := event.source
      publisher := event.sourcePublisher
      title := event.title
      summary := event.summary
      url := event.sourceUrl
      publishedAt := event.publishedAt
      eventType := event.eventType
      eventTier := event.eventTier
      sentiment := event.sentiment
      sentimentReasoning := candidate.catalystImpact.bind (·.sentimentReasoning)
      tickerRole := candidate.catalystImpact.bind (·.catalystRole)
      totalCatalystScore := (candidate.catalystImpact.map (·.totalCatalystScore)).getD candidate.catalystScore }
  priceConfirmation := candidate.latestPriceCheck
  reviewGuidance := ⟨"REVIEW_ONLY", false,
    ["Backend handoff only. n8n should review/alert but must not create orders in this phase."]⟩

def handoffEligibilityContext : MomentumCandidateEligibilityContext where
  state := candidate.state
  expiresAt := candidate.expiresAt
  blockedReason := candidate.blockedReason
  latestConfirmed := candidate.latestPriceCheck.map (·.confirmed)
  security := candidate.security

/-- Why no handoff is prepared; `active` is an active handoff of the candidate. -/
def getIneligibilityReason (active : Option MomentumScannerHandoff) (force : Bool)
    (minScore : Int) (now : Int) : Option String :=
  let eligibility := evaluateMomentumHandoffEligibility (handoffEligibilityContext candidate) now
  if !eligibility.eligible then some (", ".intercalate (eligibility.reasons.map EligibilityReason.text))
  else if candidate.totalScore < minScore then
    some s!"Candidate totalScore {candidate.totalScore} is below minimum {minScore}."
  else if !force && active.isSome then some "Candidate already has an active scanner handoff."
  else none

end

inductive MomentumScannerHandoffStaleReason where
  | candidateNoLongerEntryReady | candidateExpired | candidateBlocked | scoreBelowHandoffThreshold | candidateIneligible
  | candidateMissing
deriving DecidableEq

def MomentumScannerHandoffStaleReason.text : MomentumScannerHandoffStaleReason → String
  | .candidateNoLongerEntryReady => "CANDIDATE_NO_LONGER_ENTRY_READY"
  | .candidateExpired => "CANDIDATE_EXPIRED"
  | .candidateBlocked => "CANDIDATE_BLOCKED"
  | .scoreBelowHandoffThreshold => "SCORE_BELOW_HANDOFF_THRESHOLD"
  | .candidateIneligible => "CANDIDATE_INELIGIBLE"
  | .candidateMissing => "CANDIDATE_MISSING"

def getStalePendingReason (candidate : Option MomentumCandidate) (minScore : Int) (now : Int) :
    Option MomentumScannerHandoffStaleReason :=
  match candidate with
  | none => some .candidateMissing
  | some candidate =>
    let eligibility := evaluateMomentumHandoffEligibility (handoffEligibilityContext candidate) now
    if !eligibility.eligible then
      if eligibility.reasons.contains .candidateBlocked then some .candidateBlocked
      else if eligibility.reasons.contains .candidateExpired then some .candidateExpired
      else if eligibility.reasons.contains .candidateInactive || eligibility.reasons.contains .candidateUnconfirmed then
        some .candidateNoLongerEntryReady
      else some .candidateIneligible
    else if candidate.totalScore < minScore then some .scoreBelowHandoffThreshold
    else none

/-- `{ ...base, [key]: value }` -/
def setField (key : String) (value : Json) (fields : List (String × Json)) : List (String × Json) :=
  if fields.any (·.1 == key) then fields.map fun field => if field.1 = key then (key, value) else field
  else fields ++ [(key, value)]

def buildStaleCancellationMetadata (toISOString : Int → String) (metadata : Option Json)
    (reason : MomentumScannerHandoffStaleReason) (now : Int) : Json :=
  let base := match metadata with
    | some (.object fields) => fields
    | _ => []
  .object (setField "staleCancelledAt" (.string (toISOString now))
    (setField "staleCancellationReason" (.string reason.text) base))

/-- What a prepare call meets when it looks up its idempotency key. -/
structure Lookup where
  call : Nat
  force : Bool
  candidate : MomentumCandidate
  payload : HandoffPayload
  existing : Option MomentumScannerHandoff
  /-- Whether the candidate has an active handoff then. -/
  active : Bool

/-- What a statement did. -/
inductive HandoffEvent where
  | lookedUp (lookup : Lookup)
  | prepared (call : Nat) (handoff : MomentumScannerHandoff)
  | listed (call : Nat) (handoffs : List Cuid)
  | cancelled (call : Nat) (handoff : Cuid)
  /-- Sent, acknowledged or failed. -/
  | marked (handoff : Cuid) (status : MomentumScannerHandoffStatus)

structure HandoffStore where
  candidates : List MomentumCandidate
  /-- In order of creation. -/
  handoffs : List MomentumScannerHandoff
  log : List HandoffEvent

def HandoffStore.record (store : HandoffStore) (event : HandoffEvent) : HandoffStore :=
  { store with log := store.log ++ [event] }

def HandoffStore.candidate (store : HandoffStore) (id : String) : Option MomentumCandidate :=
  store.candidates.find? fun row => row.id.text == id

def HandoffStore.find (store : HandoffStore) (id : String) : Option MomentumScannerHandoff :=
  store.handoffs.find? fun row => row.id.text == id

section

variable (store : HandoffStore)

/-- The newest active handoff of a candidate. -/
def HandoffStore.activeHandoff (candidateId : Cuid) : Option MomentumScannerHandoff :=
  ((store.handoffs.filter fun row => row.momentumCandidateId == candidateId && row.status.isActive).mergeSort
    fun one other => decide (other.preparedAt ≤ one.preparedAt)).head?

def HandoffStore.keyed (idempotencyKey : String) : Option MomentumScannerHandoff :=
  store.handoffs.find? fun row => row.idempotencyKey == idempotencyKey

def HandoffStore.update (id : Cuid) (change : MomentumScannerHandoff → MomentumScannerHandoff) :
    HandoffStore :=
  { store with handoffs := store.handoffs.map fun row => if row.id = id then change row else row }

end

inductive HandoffError where
  | http (error : HttpError)
  | recordNotFound
  | uniqueConstraint
  | foreignKeyConstraint
  | databaseUnavailable

abbrev HandoffProgram := Program HandoffStore HandoffError

section Calls

/-- What the calls read of the environment and the runtime. -/
structure HandoffEnvironment where
  minScore : Int
  maxCandidates : Nat
  payloadVersion : String
  toISOString : Int → String

variable (env : HandoffEnvironment)

def normalizeId (value field : String) : Except HandoffError String :=
  let id := String.ofList (Entry.trim value)
  if id = "" then .error (.http ⟨400, s!"{field} is required."⟩) else .ok id

/-- An option is missing unless it is an integer. -/
def normalizeScore (value : Option Int) : Int :=
  match value with
  | some value => if 0 < value then min value 100 else env.minScore
  | none => env.minScore

def normalizePositiveInteger (value : Option Int) (fallback max : Nat) : Nat :=
  match value with
  | some value => if 0 < value then min value.toNat max else fallback
  | none => fallback

def normalizePayloadVersion (value : Option String) : String :=
  match value.map fun text => String.ofList (Entry.trim text) with
  | some version => if version = "" then env.payloadVersion else version
  | none => env.payloadVersion

/-- `options.now ?? new Date()` -/
def nowOr : Option Int → HandoffProgram Int
  | some now => return now
  | none => answer

structure PrepareOptions where
  force : Bool
  (minScore now : Option Int)
  payloadVersion : Option String

structure PrepareResult where
  skipped : Bool
  reason : Option String
  handoff : Option MomentumScannerHandoff
  candidate : MomentumCandidate
  eligibility : MomentumCandidateEligibility

section

variable (call : Nat)

/-- Look up the handoff of the payload. -/
def lookUp (force : Bool) (candidate : MomentumCandidate) (payload : HandoffPayload) (store : HandoffStore) :
    Except HandoffError (Option MomentumScannerHandoff × HandoffStore) :=
  let existing := store.keyed payload.idempotencyKey
  .ok (existing, store.record
    (.lookedUp ⟨call, force, candidate, payload, existing, (store.activeHandoff candidate.id).isSome⟩))

/-- Make an existing handoff pending again, with a new payload. -/
def refreshHandoff (existing : MomentumScannerHandoff) (payload : HandoffPayload) (now : Int)
    (store : HandoffStore) : Except HandoffError (MomentumScannerHandoff × HandoffStore) :=
  match store.find existing.id.text with
  | none => .error .recordNotFound
  | some row =>
    let handoff := { row with
      status := .pending
      payload := payload
      preparedAt := now
      sentAt := none
      acknowledgedAt := none
      failedAt := none
      lastError := none
      metadata := some (.object [("forceRefreshedAt", .string (env.toISOString now)),
        ("previousStatus", .string existing.status.text)]) }
    .ok (handoff, (store.update row.id fun _ => handoff).record (.prepared call handoff))

def createHandoff (id : Cuid) (candidate : MomentumCandidate) (payload : HandoffPayload)
    (payloadVersion : String) (now : Int) (store : HandoffStore) :
    Except HandoffError (MomentumScannerHandoff × HandoffStore) :=
  if (store.handoffs.any fun row => row.id == id || row.idempotencyKey == payload.idempotencyKey) then .error .uniqueConstraint
  else if store.candidates.all fun row => row.id != candidate.id then .error .foreignKeyConstraint
  else
    let handoff : MomentumScannerHandoff :=
      { id, momentumCandidateId := candidate.id, symbol := candidate.symbol, status := .pending, payloadVersion, payload
        preparedAt := now, sentAt := none, acknowledgedAt := none, failedAt := none, attempts := 0, lastError := none
        idempotencyKey := payload.idempotencyKey
        metadata := some (.object [("phase", .string "momentum_scanner_handoff_phase_5"), ("tradingAllowed", .bool false)]) }
    .ok (handoff, { store with handoffs := store.handoffs ++ [handoff] }.record (.prepared call handoff))

/-- Prepare the handoff of a candidate that has been read. -/
def prepareForCandidate (candidate : MomentumCandidate) (options : PrepareOptions) (now : Int) :
    HandoffProgram PrepareResult := do
  let active ← read fun store => store.activeHandoff candidate.id
  let eligibility := evaluateMomentumHandoffEligibility (handoffEligibilityContext candidate) now
  match getIneligibilityReason candidate active options.force (normalizeScore env options.minScore) now with
  | some reason => return ⟨true, some reason, none, candidate, eligibility⟩
  | none =>
    let payloadVersion := normalizePayloadVersion env options.payloadVersion
    let payload := buildMomentumScannerPayloadFromCandidate candidate payloadVersion
    match ← commit (lookUp call options.force candidate payload) with
    | some existing =>
      if options.force then
        let handoff ← commit (refreshHandoff env call existing payload now)
        return ⟨false, none, some handoff, candidate, eligibility⟩
      else return ⟨false, none, some existing, candidate, eligibility⟩
    | none =>
      let id : Cuid ← answer
      let handoff ← commit (createHandoff call id candidate payload payloadVersion now)
      return ⟨false, none, some handoff, candidate, eligibility⟩

def prepareMomentumScannerHandoff (candidateId : String) (options : PrepareOptions) :
    HandoffProgram PrepareResult := do
  let id ← .done (normalizeId candidateId "Momentum candidate id")
  let now ← nowOr options.now
  match ← read fun store => store.candidate id with
  | none => throw (.http ⟨404, "Momentum candidate not found."⟩)
  | some candidate => prepareForCandidate env call candidate options now

end

structure CancelOptions where
  (candidateId symbol : Option String)
  (minScore limit now : Option Int)

/-- A handoff with its candidate. -/
structure HandoffForEligibility where
  handoff : MomentumScannerHandoff
  momentumCandidate : Option MomentumCandidate

/-- List pending handoffs, the newest first. -/
def listPending (call : Nat) (candidateId : Option String) (symbol : Option String) (limit : Nat) (store : HandoffStore) :
    Except HandoffError (List HandoffForEligibility × HandoffStore) :=
  let pending := store.handoffs.filter fun row => row.status == .pending &&
    candidateId.all (row.momentumCandidateId.text == ·) && symbol.all (row.symbol == ·)
  let handoffs := (pending.reverse.mergeSort fun one other => decide (other.preparedAt ≤ one.preparedAt)).take limit
  .ok (handoffs.map fun handoff => ⟨handoff, store.candidate handoff.momentumCandidateId.text⟩,
    store.record (.listed call (handoffs.map (·.id))))

def cancelHandoff (call : Nat) (handoff : MomentumScannerHandoff) (reason : MomentumScannerHandoffStaleReason) (now : Int)
    (store : HandoffStore) : Except HandoffError (MomentumScannerHandoff × HandoffStore) :=
  match store.find handoff.id.text with
  | none => .error .recordNotFound
  | some row =>
    let cancelled := { row with
      status := .cancelled
      lastError := some reason.text
      metadata := some (buildStaleCancellationMetadata env.toISOString handoff.metadata reason now) }
    .ok (cancelled, (store.update row.id fun _ => cancelled).record (.cancelled call row.id))

/-- Cancel the listed handoffs whose candidate is no longer eligible. -/
def cancelListed (call : Nat) (minScore : Int) (now : Int) :
    List HandoffForEligibility → HandoffProgram (List MomentumScannerHandoff)
  | [] => return []
  | listed :: rest => do
    match getStalePendingReason listed.momentumCandidate minScore now with
    | none => cancelListed call minScore now rest
    | some reason =>
      let cancelled ← commit (cancelHandoff env call listed.handoff reason now)
      let others ← cancelListed call minScore now rest
      return cancelled :: others

structure CancelResult where
  scanned : Nat
  handoffs : List MomentumScannerHandoff

def maxLimit : Nat := 500

def normalizeSymbolOption (symbol : Option String) : Option String :=
  (symbol.map Entry.normalizeSymbol).filter (· ≠ "")

/-- The normalized id, if one is given. -/
def normalizeIdOption (value : Option String) (field : String) : Except HandoffError (Option String) :=
  match value with
  | none => .ok none
  | some value => (normalizeId value field).map some

def cancelStalePendingHandoffs (call : Nat) (options : CancelOptions) : HandoffProgram CancelResult := do
  let now ← nowOr options.now
  let candidateId ← .done (normalizeIdOption options.candidateId "Momentum candidate id")
  let handoffs ← commit (listPending call candidateId (normalizeSymbolOption options.symbol)
    (normalizePositiveInteger options.limit maxLimit maxLimit))
  let cancelled ← cancelListed env call (normalizeScore env options.minScore) now handoffs
  return ⟨handoffs.length, cancelled⟩

structure SkippedCandidate where
  candidateId : Cuid
  (symbol reason : String)

structure BatchSummary where
  (prepared skipped : Nat)
  handoffs : List MomentumScannerHandoff
  skippedReasons : List SkippedCandidate
  skipCounts : List (EligibilityReason × Nat)

/-- `skipCounts[reason] = (skipCounts[reason] ?? 0) + 1` -/
def countReason (counts : List (EligibilityReason × Nat)) (reason : EligibilityReason) : List (EligibilityReason × Nat) :=
  if counts.any (·.1 == reason) then counts.map fun entry => if entry.1 = reason then (reason, entry.2 + 1) else entry
  else counts ++ [(reason, 1)]

structure BatchOptions extends PrepareOptions where
  candidateId : Option String
  maxCandidates : Option Int

/-- What the cancellation of stale handoffs takes of the options. -/
def BatchOptions.cancel (options : BatchOptions) : CancelOptions :=
  ⟨options.candidateId, none, options.minScore, none, options.now⟩

def BatchSummary.skip (summary : BatchSummary) (candidate : MomentumCandidate) (reason : String) : BatchSummary :=
  { summary with
    skipped := summary.skipped + 1
    skippedReasons := summary.skippedReasons ++ [⟨candidate.id, candidate.symbol, reason⟩] }

/-- Candidates by score, then the last evaluated, then the first discovered. -/
def readyCandidates (force : Bool) (minScore now : Int) (limit : Nat) (store : HandoffStore) : List MomentumCandidate :=
  let later (one other : Option Int) : Bool := match one, other with
    | some one, some other => decide (other ≤ one)
    | none, some _ => false
    | _, none => true
  ((store.candidates.filter fun row => row.state == .entryReady && decide (minScore ≤ row.totalScore) &&
      row.blockedReason.isNone && row.expiresAt.all (fun expiresAt => decide (now < expiresAt)) &&
      (force || (store.activeHandoff row.id).isNone)).mergeSort fun one other =>
    if one.totalScore ≠ other.totalScore then decide (other.totalScore ≤ one.totalScore)
    else if one.lastEvaluatedAt ≠ other.lastEvaluatedAt then later one.lastEvaluatedAt other.lastEvaluatedAt
    else decide (one.discoveredAt ≤ other.discoveredAt)).take limit

/-- Prepare the handoffs of the first eligible candidates; `selected` are prepared already. -/
def prepareCandidates (call : Nat) (options : PrepareOptions) (now : Int) (maxCandidates : Nat) :
    List MomentumCandidate → Nat → BatchSummary → HandoffProgram BatchSummary
  | [], _, summary => return summary
  | candidate :: rest, selected, summary => do
    let eligibility := evaluateMomentumHandoffEligibility (handoffEligibilityContext candidate) now
    if !eligibility.eligible then
      let skipped := summary.skip candidate (", ".intercalate (eligibility.reasons.map EligibilityReason.text))
      prepareCandidates call options now maxCandidates rest selected
        { skipped with skipCounts := eligibility.reasons.foldl countReason skipped.skipCounts }
    else if maxCandidates ≤ selected then return summary
    else
      let result ← prepareMomentumScannerHandoff env call candidate.id.text options
      prepareCandidates call options now maxCandidates rest (selected + 1)
        (if result.skipped then summary.skip result.candidate (result.reason.getD "Skipped.")
        else { summary with prepared := summary.prepared + 1, handoffs := summary.handoffs ++ result.handoff.toList })

def prepareReadyMomentumScannerHandoffs (call : Nat) (options : BatchOptions) : HandoffProgram BatchSummary := do
  let _ ← cancelStalePendingHandoffs env call options.cancel
  match options.candidateId with
  | some candidateId =>
    let result ← prepareMomentumScannerHandoff env call candidateId options.toPrepareOptions
    return if result.skipped then
        { prepared := 0, skipped := 1, handoffs := result.handoff.toList
          skippedReasons := [⟨result.candidate.id, result.candidate.symbol, result.reason.getD "Skipped."⟩]
          skipCounts := result.eligibility.reasons.foldl countReason [] }
      else { prepared := 1, skipped := 0, handoffs := result.handoff.toList, skippedReasons := [], skipCounts := [] }
  | none =>
    let now ← nowOr options.now
    let minScore := normalizeScore env options.minScore
    let maxCandidates := normalizePositiveInteger options.maxCandidates env.maxCandidates 100
    let candidates ← read (readyCandidates options.force minScore now (min (maxCandidates * 5) maxLimit))
    prepareCandidates env call { options.toPrepareOptions with minScore := some minScore, now := some now } now maxCandidates
      candidates 0 ⟨0, 0, [], [], []⟩

/-- Set the status of a handoff, whatever it is. -/
def markHandoff (id : String) (status : MomentumScannerHandoffStatus) (now : Option Int)
    (change : Int → MomentumScannerHandoff → MomentumScannerHandoff) (metadata : Option Json) :
    HandoffProgram MomentumScannerHandoff := do
  let now ← nowOr now
  let id ← .done (normalizeId id "Momentum scanner handoff id")
  commit fun store => match store.find id with
    | none => .error .recordNotFound
    | some row =>
      let marked := { change now row with status := status, metadata := metadata.orElse fun _ => row.metadata }
      .ok (marked, (store.update row.id fun _ => marked).record (.marked row.id status))

def markMomentumScannerHandoffSent (id : String) (now : Option Int) (metadata : Option Json) :
    HandoffProgram MomentumScannerHandoff :=
  markHandoff id .sent now
    (fun now row => { row with sentAt := some now, attempts := row.attempts + 1, lastError := none }) metadata

def markMomentumScannerHandoffAcknowledged (id : String) (now : Option Int) (metadata : Option Json) :
    HandoffProgram MomentumScannerHandoff :=
  markHandoff id .acknowledged now (fun now row => { row with acknowledgedAt := some now, lastError := none }) metadata

/-- Runs of blanks become one blank, and at most 1000 characters are kept. -/
def sanitizeError (error : String) : String :=
  let words := (error.toList.splitBy fun one other => isBlank one == isBlank other).map fun run =>
    if run.all isBlank then [' '] else run
  String.ofList ((Entry.trim (String.ofList words.flatten)).take 1000)

def markMomentumScannerHandoffFailed (id error : String) (now : Option Int) (metadata : Option Json) :
    HandoffProgram MomentumScannerHandoff :=
  markHandoff id .failed now
    (fun now row => { row with failedAt := some now, lastError := some (sanitizeError error) }) metadata

end Calls

end AiTrader.Momentum
