import AiTrader.Entry.ExposureClaim
import AiTrader.Library.Service
import AiTrader.Library.Table

/-! # Operational attention

A condition that needs an operator is one row until it is resolved; every transition leaves a linked system event. The
transactions are serializable. -/

namespace AiTrader.Attention

open Library

/-- A JSON value; numbers by their text. -/
inductive Details where
  | null
  | boolean (value : Bool)
  | number (text : String)
  | string (text : String)
  | array (items : List Details)
  | object (entries : List (String × Details))

/-- The words that mark a key as sensitive. -/
def sensitiveWords : List String :=
  ["authorization", "password", "secret", "credential", "apikey", "api_key", "api-key", "token", "cookie"]

/-- `SENSITIVE_KEY.test` -/
def sensitiveKey (key : String) : Bool :=
  sensitiveWords.any fun word => (key.toList.map Char.toLower).tails.any fun rest => word.toList.isPrefixOf rest

/-- `sanitize`, with the levels left before truncation. -/
def sanitize : Nat → Details → Details
  | 0, _ => .string "[TRUNCATED]"
  | _ + 1, .null => .null
  | _ + 1, .boolean value => .boolean value
  | _ + 1, .number text => .number text
  | _ + 1, .string text => .string text
  | levels + 1, .array items => .array (items.map (sanitize levels))
  | levels + 1, .object entries => .object (entries.map fun (key, item) =>
      (key, if sensitiveKey key then .string "[REDACTED]" else sanitize levels item))

def sanitizeOperationalAttentionDetails (value : Details) : Details := sanitize 9 value

/-- An object or an array with at least one key. -/
def Details.hasKeys : Details → Bool
  | .array items => !items.isEmpty
  | .object entries => !entries.isEmpty
  | _ => false

section Source

inductive OperationalAttentionStatus where
  | opened | acknowledged | resolved
deriving DecidableEq

def OperationalAttentionStatus.text : OperationalAttentionStatus → String
  | .opened => "OPEN"
  | .acknowledged => "ACKNOWLEDGED"
  | .resolved => "RESOLVED"

inductive SystemEventSeverity where
  | info | warning | error | critical
deriving DecidableEq

def SystemEventSeverity.text : SystemEventSeverity → String
  | .info => "INFO"
  | .warning => "WARNING"
  | .error => "ERROR"
  | .critical => "CRITICAL"

def severityRank : SystemEventSeverity → Nat
  | .info => 0
  | .warning => 1
  | .error => 2
  | .critical => 3

inductive ResolutionPolicy where
  | authoritativeOnly | manualAllowed
deriving DecidableEq

inductive ResolutionMethod where
  | authoritative | manual
deriving DecidableEq

def ResolutionMethod.text : ResolutionMethod → String
  | .authoritative => "AUTHORITATIVE"
  | .manual => "MANUAL"

inductive EventRelationKind where
  | opened | observed | escalated | acknowledged | resolved
deriving DecidableEq

structure LifecycleLinks where
  (trackedPositionId orderIntentId brokerOrderId : Option Nat)

/-- A row of `OperationalAttention`. -/
structure OperationalAttention where
  (id tradingAccountId : Nat)
  (code source : String)
  status : OperationalAttentionStatus
  severity : SystemEventSeverity
  (title message : String)
  detailsJson : Details
  fingerprint : String
  (materialFingerprint activeKey : Option String)
  occurrenceCount : Nat
  (firstObservedAt lastObservedAt : Int)
  revision : Nat
  resolutionPolicy : ResolutionPolicy
  acknowledgedAt : Option Int
  (acknowledgedByUserId acknowledgedByUserIdSnapshot : Option Nat)
  resolvedAt : Option Int
  (resolvedByUserId resolvedByUserIdSnapshot : Option Nat)
  resolutionMethod : Option ResolutionMethod
  resolutionReason : Option String
  links : LifecycleLinks

/-- `eventPayload`, with the fields of the attention first and the extra fields after them. -/
structure EventPayload where
  (operationalAttentionId tradingAccountId : Nat)
  (code source : String)
  status : OperationalAttentionStatus
  severity : SystemEventSeverity
  revision : Nat
  links : LifecycleLinks
  extra : List (String × Details)

structure SystemEvent where
  id : Nat
  (type entityType : String)
  (entityId tradingAccountId : Nat)
  actorUserId : Option Nat
  message : String
  severity : SystemEventSeverity
  payloadJson : EventPayload

/-- A row of `OperationalAttentionSystemEvent`. -/
structure EvidenceLink where
  (operationalAttentionId systemEventId : Nat)
  relationKind : EventRelationKind

/-- The tables of the attention; `eventIds` are the identifiers of the events of other writers. -/
structure AttentionStore where
  attentions : List OperationalAttention
  events : List SystemEvent
  eventIds : List Nat
  links : List EvidenceLink

/-- The accounts, and the account of every position, intent and order, as a transaction reads them. -/
structure Ownership where
  tradingAccounts : List Nat
  trackedPositions : Nat → Option Nat
  orderIntents : Nat → Option Nat
  brokerOrders : Nat → Option Nat

structure OpenOrObserve where
  links : LifecycleLinks
  tradingAccountId : Nat
  (code source : String)
  severity : SystemEventSeverity
  (title message : String)
  details : Details
  fingerprint : String
  materialFingerprint : Option String
  resolutionPolicy : ResolutionPolicy
  observedAt : Int
  observedSystemEventId : Option Nat
  orderIntentIsObservationContext : Bool

structure Acknowledge where
  (id actorUserId expectedRevision : Nat)
  acknowledgedAt : Int

structure Resolve where
  (id expectedRevision : Nat)
  method : ResolutionMethod
  reason : String
  evidence : Details
  actorUserId : Option Nat
  resolvedAt : Int

/-- `requireText` -/
def requireText (value label : String) : Except HttpError String :=
  let normalized := String.ofList (Entry.trim value)
  if normalized = "" then .error ⟨400, s!"{label} is required."⟩ else .ok normalized

/-- An identifier that JavaScript treats as given. -/
def given (id : Option Nat) : Option Nat := id.filter (· ≠ 0)

/-- One check of `validateOwnership`. -/
def requireOwned (label : String) (id : Option Nat) (owner : Nat → Option Nat) (tradingAccountId : Nat) :
    Except HttpError Unit :=
  match given id with
  | none => .ok ()
  | some id =>
    require (decide (owner id = some tradingAccountId)) 409
      s!"{label} {id} does not belong to TradingAccount {tradingAccountId}."

def validateOwnership (ownership : Ownership) (tradingAccountId : Nat) (links : LifecycleLinks) : Except HttpError Unit := do
  require (ownership.tradingAccounts.contains tradingAccountId) 404 s!"TradingAccount {tradingAccountId} was not found."
  requireOwned "TrackedPosition" links.trackedPositionId ownership.trackedPositions tradingAccountId
  requireOwned "OrderIntent" links.orderIntentId ownership.orderIntents tradingAccountId
  requireOwned "BrokerOrder" links.brokerOrderId ownership.brokerOrders tradingAccountId

def eventPayload (attention : OperationalAttention) (extra : List (String × Details)) : EventPayload :=
  { operationalAttentionId := attention.id, tradingAccountId := attention.tradingAccountId, code := attention.code
    source := attention.source, status := attention.status, severity := attention.severity
    revision := attention.revision, links := attention.links
    extra := extra.map fun (key, item) => (key, if sensitiveKey key then .string "[REDACTED]" else sanitize 8 item) }

namespace AttentionStore

section

variable (store : AttentionStore)

def findById (id : Nat) : Option OperationalAttention :=
  store.attentions.find? (·.id = id)

/-- The unique index on the active key. -/
def findActive (key : String) : Option OperationalAttention :=
  store.attentions.find? (·.activeKey = some key)

/-- The identifiers of all system events. -/
def allEventIds : List Nat := store.events.map (·.id) ++ store.eventIds

def updateAttention (updated : OperationalAttention) : AttentionStore :=
  { store with attentions := Table.updateWhere (·.id = updated.id) (fun _ => updated) store.attentions }

/-- `createTransitionEvidence` -/
def createTransitionEvidence (attention : OperationalAttention) (type : String)
    (relationKind : EventRelationKind) (message : String) (severity : SystemEventSeverity) (actorUserId : Option Nat)
    (extra : List (String × Details)) : AttentionStore :=
  let event : SystemEvent :=
    { id := Table.nextId store.allEventIds, type, entityType := "operationalAttention", entityId := attention.id
      tradingAccountId := attention.tradingAccountId, actorUserId, message, severity
      payloadJson := eventPayload attention extra }
  { store with
    events := store.events ++ [event]
    links := store.links ++ [⟨attention.id, event.id, relationKind⟩] }

/-- `upsert` of an observation link with an empty update; the event has to exist. -/
def observe (attentionId : Nat) (observedSystemEventId : Option Nat) :
    Except HttpError AttentionStore :=
  match given observedSystemEventId with
  | none => .ok store
  | some eventId =>
    if store.links.any fun link => link.operationalAttentionId = attentionId ∧ link.systemEventId = eventId then .ok store
    else if eventId ∈ store.allEventIds then .ok { store with links := store.links ++ [⟨attentionId, eventId, .observed⟩] }
    else .error ⟨500, "Foreign key constraint violated"⟩

end

end AttentionStore

/-- What a transaction has done to which attention, with the row before and after. -/
inductive Transition where
  | created (attention : OperationalAttention)
  | observed (before after : OperationalAttention) (escalated : Bool)
  | acknowledged (before after : OperationalAttention)
  | resolved (before after : OperationalAttention)

/-- The row a transaction returns. -/
def Transition.attention : Transition → OperationalAttention
  | .created attention => attention
  | .observed _ after _ => after
  | .acknowledged _ after => after
  | .resolved _ after => after

/-- The condition of an observation is that of the row which holds its key. -/
def OpenOrObserve.conflicts (args : OpenOrObserve) (fingerprint : String) (existing : OperationalAttention) : Bool :=
  existing.tradingAccountId ≠ args.tradingAccountId ∨
    existing.fingerprint ≠ fingerprint ∨
    existing.code ≠ args.code ∨
    existing.source ≠ args.source ∨
    existing.links.trackedPositionId ≠ args.links.trackedPositionId ∨
    (args.orderIntentIsObservationContext = false ∧ existing.links.orderIntentId ≠ args.links.orderIntentId) ∨
    existing.links.brokerOrderId ≠ args.links.brokerOrderId

/-- The row after one more observation. -/
def observedAttention (args : OpenOrObserve) (existing : OperationalAttention) (title message : String)
    (materialFingerprint : String) (escalated : Bool) : OperationalAttention :=
  let counted :=
    { existing with
      occurrenceCount := existing.occurrenceCount + 1
      lastObservedAt := args.observedAt
      detailsJson := sanitizeOperationalAttentionDetails args.details
      title
      message
      materialFingerprint := some materialFingerprint
      revision := existing.revision + 1
      severity := if escalated then args.severity else existing.severity }
  if escalated ∧ existing.status = .acknowledged then
    { counted with
      status := .opened
      acknowledgedAt := none
      acknowledgedByUserId := none
      acknowledgedByUserIdSnapshot := none }
  else counted

/-- The row of a condition that was not active. -/
def createdAttention (id : Nat) (args : OpenOrObserve) (fingerprint title message materialFingerprint : String) :
    OperationalAttention :=
  { id
    tradingAccountId := args.tradingAccountId
    code := args.code
    source := args.source
    status := .opened
    severity := args.severity
    title
    message
    detailsJson := sanitizeOperationalAttentionDetails args.details
    fingerprint
    materialFingerprint := some materialFingerprint
    activeKey := some fingerprint
    occurrenceCount := 1
    firstObservedAt := args.observedAt
    lastObservedAt := args.observedAt
    revision := 1
    resolutionPolicy := args.resolutionPolicy
    acknowledgedAt := none
    acknowledgedByUserId := none
    acknowledgedByUserIdSnapshot := none
    resolvedAt := none
    resolvedByUserId := none
    resolvedByUserIdSnapshot := none
    resolutionMethod := none
    resolutionReason := none
    links := args.links }

def openOrObserveTransaction (ownership : Ownership) (args : OpenOrObserve) (store : AttentionStore) :
    Except HttpError (Transition × AttentionStore) := do
  require (args.severity ≠ .info) 400 "Active operational attention must be at least WARNING severity."
  validateOwnership ownership args.tradingAccountId args.links
  let fingerprint ← requireText args.fingerprint "Attention fingerprint"
  let title ← requireText args.title "Attention title"
  let message ← requireText args.message "Attention message"
  let detailsJson := sanitizeOperationalAttentionDetails args.details
  let materialFingerprint := args.materialFingerprint.getD fingerprint
  match store.findActive fingerprint with
  | some existing =>
    require (!args.conflicts fingerprint existing) 409 "Active attention key conflicts with a different condition."
    let escalated := decide (severityRank existing.severity < severityRank args.severity)
    let materialChanged := existing.materialFingerprint.any (· ≠ materialFingerprint)
    let updated := observedAttention args existing title message materialFingerprint escalated
    let observed ← (store.updateAttention updated).observe updated.id args.observedSystemEventId
    let evident :=
      if escalated then
        observed.createTransitionEvidence updated "operational_attention.escalated" .escalated
          s!"{updated.title} escalated to {updated.severity.text}." updated.severity none
          [("previousSeverity", .string existing.severity.text), ("observedAt", .object []), ("details", detailsJson)]
      else if materialChanged then
        observed.createTransitionEvidence updated "operational_attention.material_changed" .observed
          s!"{updated.title} materially changed." updated.severity none
          [("previousMaterialFingerprint", (existing.materialFingerprint.map .string).getD .null),
            ("materialFingerprint", .string materialFingerprint), ("details", detailsJson)]
      else observed
    .ok (.observed existing updated escalated, evident)
  | none =>
    let created := createdAttention (Table.nextId (store.attentions.map (·.id))) args fingerprint title message materialFingerprint
    let opened := { store with attentions := store.attentions ++ [created] }.createTransitionEvidence created
      "operational_attention.opened" .opened created.message created.severity none
      [("observedAt", .object []), ("details", detailsJson)]
    let observed ← opened.observe created.id args.observedSystemEventId
    .ok (.created created, observed)

def loadLockedAttention (store : AttentionStore) (id : Nat) : Except HttpError OperationalAttention :=
  requireSome (store.findById id) 404 s!"OperationalAttention {id} was not found."

def acknowledgedAttention (args : Acknowledge) (existing : OperationalAttention) : OperationalAttention :=
  { existing with
    status := .acknowledged
    acknowledgedAt := some args.acknowledgedAt
    acknowledgedByUserId := some args.actorUserId
    acknowledgedByUserIdSnapshot := some args.actorUserId
    revision := existing.revision + 1 }

def acknowledgeOperationalAttention (args : Acknowledge) (store : AttentionStore) :
    Except HttpError (Transition × AttentionStore) := do
  let existing ← loadLockedAttention store args.id
  require (existing.revision = args.expectedRevision) 409 "Operational attention revision is stale."
  require (existing.status = .opened) 409 "Only open operational attention can be acknowledged."
  let updated := acknowledgedAttention args existing
  let evident := (store.updateAttention updated).createTransitionEvidence updated "operational_attention.acknowledged"
    .acknowledged s!"{updated.title} was acknowledged." .info (some args.actorUserId)
    [("previousStatus", .string existing.status.text), ("acknowledgedAt", .object []),
      ("actorUserId", .number (toString args.actorUserId))]
  .ok (.acknowledged existing updated, evident)

def resolvedAttention (args : Resolve) (reason : String) (existing : OperationalAttention) : OperationalAttention :=
  { existing with
    status := .resolved
    activeKey := none
    resolvedAt := some args.resolvedAt
    resolvedByUserId := args.actorUserId
    resolvedByUserIdSnapshot := args.actorUserId
    resolutionMethod := some args.method
    resolutionReason := some reason
    detailsJson := sanitizeOperationalAttentionDetails args.evidence
    revision := existing.revision + 1 }

def resolveOperationalAttention (args : Resolve) (store : AttentionStore) :
    Except HttpError (Transition × AttentionStore) := do
  let existing ← loadLockedAttention store args.id
  require (existing.revision = args.expectedRevision) 409 "Operational attention revision is stale."
  require (existing.status ≠ .resolved) 409 "Resolved operational attention cannot be reopened or resolved again."
  require (args.method ≠ .manual ∨ existing.resolutionPolicy = .manualAllowed) 409
    "This operational attention requires authoritative resolution."
  let reason ← requireText args.reason "Resolution reason"
  require (args.method ≠ .manual ∨ (given args.actorUserId).isSome) 400 "Manual resolution requires an actor."
  require (args.method ≠ .authoritative ∨ args.evidence.hasKeys) 400 "Authoritative resolution requires evidence."
  let updated := resolvedAttention args reason existing
  let type := if args.method = .manual then "operational_attention.manually_resolved" else "operational_attention.resolved"
  let evident := (store.updateAttention updated).createTransitionEvidence updated type .resolved
    s!"{updated.title} was resolved." .info args.actorUserId
    [("previousStatus", .string existing.status.text), ("resolutionMethod", .string args.method.text),
      ("resolutionReason", .string reason), ("resolvedAt", .object []),
      ("actorUserId", (args.actorUserId.map fun id => Details.number (toString id)).getD .null),
      ("evidence", sanitizeOperationalAttentionDetails args.evidence)]
  .ok (.resolved existing updated, evident)

end Source

end AiTrader.Attention
