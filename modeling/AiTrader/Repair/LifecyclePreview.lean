import AiTrader.Library.Json
import AiTrader.Library.Service
import AiTrader.Repair.FillEvidence

/-! # The preview of an entry lifecycle repair

The evidence is built from two listings of one order's activities: one in the order of their times, one in no order. -/

namespace AiTrader.Repair

open Library JsNumber

/-- How the language writes and orders texts, and a column keeps the fields of a value. -/
structure Language (N : Type) extends Texts N where
  numberText : N → Option NumberText
  toISOString : Int → String
  sha256 : List Char → String
  localeCompare : String → String → Bool
  total : ∀ first second, localeCompare first second = true ∨ localeCompare second first = true
  trans : ∀ first second third, localeCompare first second = true → localeCompare second third = true →
    localeCompare first third = true
  antisymm : ∀ first second, localeCompare first second = true → localeCompare second first = true → first = second
  columnOrder : String → String → Bool

variable {N : Type}

section Stable

variable (language : Language N)

/-- The text of a value with the fields of its objects sorted. Its arrays keep their order. -/
def stable (value : Json) : List Char :=
  (Json.sorted (fun first second => language.localeCompare first second = true) value).text

/-- A value as its column returns it. -/
def persisted (value : Json) : Json := Json.sorted (fun first second => language.columnOrder first second = true) value

def hash (value : Json) : String := language.sha256 (stable language value)

theorem stable_persisted {value : Json} (distinct : value.Distinct) :
    stable language (persisted language value) = stable language value := by
  have total : Std.Total fun first second => language.localeCompare first second = true := ⟨language.total⟩
  have trans : IsTrans String fun first second => language.localeCompare first second = true := ⟨language.trans⟩
  have antisymm : Std.Antisymm fun first second => language.localeCompare first second = true := ⟨language.antisymm⟩
  exact congrArg Json.text (Json.sorted_sorted distinct)

end Stable

structure ActivityRow (N : Type) extends FillActivity N where
  activityId : String
  (orderIntentId trackedPositionId : Option Nat)
  trackedPositionLinkSource : Option String
  trackedPositionLinkedAt : Option Int
  rawBrokerJson : Json

structure OrderRow where
  (id orderIntentId : Nat)
  tradingAccountId : Option Nat
  (broker brokerOrderId clientOrderId symbol side status : String)
  rawBrokerJson : Json
  createdAt : Int
  trackedPositionId : Option Nat

structure IntentRow (N : Type) where
  id : Nat
  tradingAccountId : Option Nat
  (symbol side status : String)
  (qty limitPrice : Option N)
  (subscriptionId tradingAccountSubscriptionId trackedPositionId : Option Nat)

/-- A position, with the sides and the types of its activities. -/
structure PositionRow (N : Type) where
  id : Nat
  tradingAccountId : Option Nat
  (broker symbol status : String)
  (qty avgEntryPrice : N)
  openedAt : Int
  closedAt : Option Int
  (subscriptionId tradingAccountSubscriptionId : Option Nat)
  brokerActivities : List (Option String × String)

inductive AttentionStatus where
  | open_ | acknowledged | resolved
deriving DecidableEq

structure RepairAttention where
  code : String
  brokerOrderId : Option Nat
  tradingAccountId : Nat
  status : AttentionStatus
  fingerprint : String
  activeKey : Option String

/-- The queries for rows near a completion time, and for the last position closed before it. -/
structure Surroundings where
  openingOrders : Int → Nat
  openingIntents : Int → Nat
  openingFills : List Nat → Int → Nat
  positionIntervals : Nat → Int → Nat
  precedingClosed : Nat → Int → Option Nat

/-- An order with its intent and its activities. -/
structure Target (N : Type) where
  order : OrderRow
  intent : IntentRow N
  activities : List (ActivityRow N)

/-- What is stored about the order of an attention. Positions are listed by their opening. -/
structure RepairWorld (N : Type) extends Target N where
  paper : Bool
  attention : RepairAttention
  positions : List (PositionRow N)
  surroundings : Surroundings
  intentId : intent.id = order.orderIntentId
  related : ∀ activity ∈ activities, activity.brokerOrderRecordId = some order.id
  distinct : (activities.map fun activity => activity.id).Nodup

section Views

variable (language : Language N)

def Language.number (value : N) : Json := Json.ofOption .number (language.numberText value)

def natural? : Option Nat → Json := Json.ofOption Json.ofNat

def string? : Option String → Json := Json.ofOption .string

def number? : Option N → Json := Json.ofOption language.number

def instant? (value : Option Int) : Json := string? (value.map language.toISOString)

def lifecycleState (target : Target N) : Json :=
  .object [
    ("brokerOrder", .object [("id", .ofNat target.order.id), ("tradingAccountId", natural? target.order.tradingAccountId),
      ("broker", .string target.order.broker), ("brokerOrderId", .string target.order.brokerOrderId),
      ("clientOrderId", .string target.order.clientOrderId), ("symbol", .string target.order.symbol),
      ("side", .string target.order.side), ("status", .string target.order.status),
      ("trackedPositionId", natural? target.order.trackedPositionId)]),
    ("orderIntent", .object [("id", .ofNat target.intent.id), ("tradingAccountId", natural? target.intent.tradingAccountId),
      ("status", .string target.intent.status), ("qty", number? language target.intent.qty),
      ("subscriptionId", natural? target.intent.subscriptionId),
      ("tradingAccountSubscriptionId", natural? target.intent.tradingAccountSubscriptionId),
      ("trackedPositionId", natural? target.intent.trackedPositionId)]),
    ("activities", .array (target.activities.map fun activity => .object [("id", .ofNat activity.id),
      ("activityId", .string activity.activityId), ("broker", string? activity.broker), ("orderId", string? activity.orderId),
      ("activityType", .string activity.activityType), ("tradingAccountId", natural? activity.tradingAccountId),
      ("brokerOrderRecordId", natural? activity.brokerOrderRecordId), ("orderIntentId", natural? activity.orderIntentId),
      ("trackedPositionId", natural? activity.trackedPositionId),
      ("trackedPositionLinkSource", string? activity.trackedPositionLinkSource),
      ("trackedPositionLinkedAt", instant? language activity.trackedPositionLinkedAt), ("qty", number? language activity.qty),
      ("cumQty", number? language activity.cumQty), ("leavesQty", number? language activity.leavesQty),
      ("price", number? language activity.price), ("transactionTime", instant? language activity.transactionTime)]))]

/-- `stable` writes a date as an object without fields. -/
def date? (value : Option Int) : Json := if value.isSome then .object [] else .null

/-- Fields that the rows do not have are undefined on both sides, and left out. -/
def protectedActivity (activity : ActivityRow N) : List (String × Json) :=
  [("id", .ofNat activity.id), ("activityId", .string activity.activityId), ("orderId", string? activity.orderId),
    ("brokerOrderRecordId", natural? activity.brokerOrderRecordId), ("orderIntentId", natural? activity.orderIntentId),
    ("qty", number? language activity.qty), ("cumQty", number? language activity.cumQty),
    ("leavesQty", number? language activity.leavesQty), ("price", number? language activity.price),
    ("transactionTime", date? activity.transactionTime), ("rawBrokerJson", activity.rawBrokerJson),
    ("trackedPositionId", natural? activity.trackedPositionId)]

def protectedLifecycleValues (target : Target N) : Json :=
  .object [
    ("brokerOrder", .object [("id", .ofNat target.order.id), ("orderIntentId", .ofNat target.order.orderIntentId),
      ("tradingAccountId", natural? target.order.tradingAccountId), ("broker", .string target.order.broker),
      ("brokerOrderId", .string target.order.brokerOrderId), ("clientOrderId", .string target.order.clientOrderId),
      ("symbol", .string target.order.symbol), ("side", .string target.order.side),
      ("rawBrokerJson", target.order.rawBrokerJson), ("trackedPositionId", natural? target.order.trackedPositionId)]),
    ("orderIntent", .object [("id", .ofNat target.intent.id), ("tradingAccountId", natural? target.intent.tradingAccountId),
      ("symbol", .string target.intent.symbol), ("side", .string target.intent.side),
      ("qty", number? language target.intent.qty), ("limitPrice", number? language target.intent.limitPrice),
      ("createdAt", .object []), ("trackedPositionId", natural? target.intent.trackedPositionId)]),
    ("activities", .array (target.activities.map fun activity => .object (protectedActivity language activity)))]

/-- The protected values of a target without its links. -/
def withoutLifecycleLinks (target : Target N) : Target N where
  order := { target.order with trackedPositionId := none }
  intent := { target.intent with trackedPositionId := none }
  activities := target.activities.map fun activity => { activity with trackedPositionId := none }

end Views

section Diagnosis

variable [JsNumber N] (language : Language N)

/-- The terminal statuses, with the other spelling of one of them. -/
def terminalStatuses : List String :=
  ["filled", "canceled", "expired", "rejected", "replaced", "done_for_day", "calculated", "cancelled"]

def isTerminalStatus (status : String) : Bool := terminalStatuses.contains (language.toLowerCase (trimmed status))

/-- `HISTORICAL_PRICE_TOLERANCE` -/
def priceTolerance : N := number (1 / 10000)

def historicalPositionTimeToleranceMs : Nat := 5000

def historicalOrderMinimumAgeMs : Int := 15 * 60000

def fillOrder (target : Target N) (tradingAccountId : Nat) : FillOrder N :=
  ⟨target.intent.qty, tradingAccountId, target.order.id, target.order.brokerOrderId, target.order.broker⟩

inductive PositionRejection where
  | account | broker | symbol | subscription | assignment | quantity | price | time

def PositionRejection.text : PositionRejection → String
  | .account => "account_mismatch"
  | .broker => "broker_mismatch"
  | .symbol => "symbol_mismatch"
  | .subscription => "subscription_mismatch"
  | .assignment => "assignment_mismatch"
  | .quantity => "quantity_mismatch"
  | .price => "price_outside_tolerance"
  | .time => "time_outside_window"

def evaluateHistoricalPositionCandidate (target : Target N) (fill : FillSummary N) (candidate : PositionRow N) :
    List PositionRejection :=
  let near (actual : N) (expected : Option N) (tolerance : N) : Bool := expected.any (closeEnough actual · tolerance)
  [(candidate.tradingAccountId != target.order.tradingAccountId, .account),
    (language.toLowerCase candidate.broker != language.toLowerCase target.order.broker, .broker),
    (language.toUpperCase candidate.symbol != language.toUpperCase target.order.symbol, .symbol),
    (candidate.subscriptionId != target.intent.subscriptionId, .subscription),
    (candidate.tradingAccountSubscriptionId != target.intent.tradingAccountSubscriptionId, .assignment),
    (!near (abs candidate.qty) (target.intent.qty.map abs) quantityTolerance, .quantity),
    (!near candidate.avgEntryPrice fill.weightedAveragePrice priceTolerance, .price),
    (!fill.completionTime.any fun time => (candidate.openedAt - time).natAbs ≤ historicalPositionTimeToleranceMs,
      PositionRejection.time)].filterMap
    fun (rejected, reason) => if rejected then some reason else none

inductive LinkState where
  | allMissing | incomplete | consistent | conflicting
deriving DecidableEq

def LinkState.text : LinkState → String
  | .allMissing => "ALL_MISSING"
  | .incomplete => "PARTIAL"
  | .consistent => "CONSISTENT"
  | .conflicting => "CONFLICTING"

/-- The links in the order in which the code lists them. -/
structure Links where
  state : LinkState
  (required linked : Nat)
  unique : List Nat

/-- The first occurrences of values, as a set keeps them. -/
def firsts {α : Type} [DecidableEq α] (values : List α) : List α := values.reverse.dedup.reverse

def classifyHistoricalLifecycleLinks (links : List (Option Nat)) : Links :=
  let populated := links.filterMap id
  let unique := firsts populated
  let state := if populated.isEmpty then .allMissing else if 1 < unique.length then .conflicting
    else if populated.length ≠ links.length then .incomplete else .consistent
  ⟨state, links.length, populated.length, unique⟩

def Links.json (links : Links) : Json :=
  .object [("state", .string links.state.text),
    ("trackedPositionId", natural? (if links.unique.length = 1 then links.unique.head? else none)),
    ("requiredLinkCount", .ofNat links.required), ("linkedCount", .ofNat links.linked),
    ("uniqueTrackedPositionIds", .array (links.unique.map .ofNat))]

def linksOf (target : Target N) (activities : List (ActivityRow N)) : List (Option Nat) :=
  target.intent.trackedPositionId :: target.order.trackedPositionId :: activities.map fun activity => activity.trackedPositionId

/-- Whether the only existing link leads to a position that fits. -/
def existingLinkValid (target : Target N) (existing : List Nat) (positions : List (PositionRow N)) : Bool :=
  let differs (first second : Option Nat) : Bool := first.isSome && second.isSome && first != second
  match existing with
  | [only] => (positions.find? (·.id = only)).any fun position =>
      position.tradingAccountId == target.order.tradingAccountId &&
      language.toLowerCase position.broker == language.toLowerCase target.order.broker &&
      language.toUpperCase position.symbol == language.toUpperCase target.order.symbol &&
      !differs target.intent.subscriptionId position.subscriptionId &&
      !differs target.intent.tradingAccountSubscriptionId position.tradingAccountSubscriptionId
  | _ => false

/-- What the diagnosis finds out about the order from its own listing. -/
structure DiagnosisRow (N : Type) where
  fill : FillSummary N
  links : Links
  existingValid : Bool
  evaluations : List (Nat × List String)
  matches_ : List Nat

def isBuy (side : String) : Bool := language.toLowerCase side == "buy"

def diagnoseOrder (world : RepairWorld N) (diagnosed : List (ActivityRow N)) : DiagnosisRow N :=
  let target := world.toTarget
  let fill := summarizeLocalFillEvidence language.toTexts (fillOrder target world.attention.tradingAccountId)
    (diagnosed.map (·.toFillActivity))
  let existing := firsts ((linksOf target diagnosed).filterMap id)
  let entry := fill.classification == .full && isBuy language target.order.side
  let candidates := world.positions.filter fun position =>
    (entry && (position.tradingAccountId == some world.attention.tradingAccountId &&
        position.broker == target.order.broker && position.symbol == target.order.symbol ||
      fill.completionTime.any fun time => (position.openedAt - time).natAbs ≤ historicalPositionTimeToleranceMs)) ||
    existing.contains position.id
  let evaluated := candidates.map fun position =>
    (position.id, evaluateHistoricalPositionCandidate language target fill position)
  let comparable := isBuy language target.order.side && target.intent.qty.isSome && fill.weightedAveragePrice.isSome &&
    fill.completionTime.isSome && target.intent.subscriptionId.isSome && target.intent.tradingAccountSubscriptionId.isSome
  let matched := if comparable then (evaluated.filter (·.2.isEmpty)).map Prod.fst else []
  { fill
    links := classifyHistoricalLifecycleLinks (linksOf target (diagnosed.filter fun activity =>
      language.toUpperCase activity.activityType == "FILL"))
    existingValid := existingLinkValid language target existing candidates
    evaluations := evaluated.map fun (id, reasons) =>
      (id, if reasons.isEmpty && decide (1 < matched.length) then ["ambiguity"] else reasons.map PositionRejection.text)
    matches_ := matched }

/-- Whether the diagnosis lists the order. -/
def diagnosable (target : Target N) (now : Int) : Bool :=
  (!terminalStatuses.contains target.order.status ||
    isBuy language target.order.side && target.activities.any fun activity => activity.activityType == "FILL") &&
    decide (target.order.createdAt < now - historicalOrderMinimumAgeMs)

end Diagnosis

section Preview

variable [JsNumber N] (language : Language N)

/-- An assessment, with its time as the writer leaves it. -/
def assessmentJson (time? : Option Int → Json) (assessment : FillAssessment N) : Json :=
  .object [
    ("summary", .object [("classification", .string assessment.summary.classification.text),
      ("cumulativeQty", number? language assessment.summary.cumulativeQty),
      ("leavesQty", number? language assessment.summary.leavesQty),
      ("weightedAveragePrice", number? language assessment.summary.weightedAveragePrice),
      ("completionTime", time? assessment.summary.completionTime), ("activityCount", .ofNat assessment.summary.activityCount)]),
    ("contradictions", .array (assessment.contradictions.map fun reason => .string reason.text)),
    ("deterministic", .bool assessment.deterministic),
    ("ownedActivityIds", .array (assessment.ownedActivityIds.map .ofNat))]

def positionById (world : RepairWorld N) (id : Nat) : Option (PositionRow N) :=
  world.positions.find? fun position =>
    position.id == id && position.tradingAccountId == some world.attention.tradingAccountId

def candidateJson (world : RepairWorld N) (row : DiagnosisRow N) : Nat × List String → Json
  | (id, reasons) =>
    let position := positionById world id
    let difference := do return abs ((← position).avgEntryPrice - (← row.fill.weightedAveragePrice))
    let elapsed := do return Int.natAbs ((← position).openedAt - (← row.fill.completionTime))
    .object [("trackedPositionId", .ofNat id), ("rejectionReasons", .array (reasons.map .string)),
      ("comparison", .object [("fillDerivedExpectedPrice", number? language row.fill.weightedAveragePrice),
        ("candidateAverageEntryPrice", number? language (position.map (·.avgEntryPrice))),
        ("absolutePriceDifference", number? language difference), ("priceTolerance", language.number priceTolerance),
        ("fillCompletionAt", instant? language row.fill.completionTime),
        ("positionOpenedAt", instant? language (position.map (·.openedAt))),
        ("absoluteTimeDifferenceMs", natural? elapsed), ("timeToleranceMs", .ofNat historicalPositionTimeToleranceMs)]),
      ("position", Json.ofOption (fun position : PositionRow N => .object [("id", .ofNat position.id),
        ("status", .string position.status), ("qty", language.number position.qty),
        ("avgEntryPrice", language.number position.avgEntryPrice), ("openedAt", .string (language.toISOString position.openedAt)),
        ("closedAt", instant? language position.closedAt)]) position)]

structure Built (N : Type) where
  assessment : FillAssessment N
  components : List String
  compelling : Option (PositionRow N)
  applicable : Bool
  evidence : Json

/-- The numbers of rows that compete with a candidate. Without a completion time they count as one. -/
def competition (world : RepairWorld N) (row : DiagnosisRow N) (owned : List Nat) (compelling : Option (PositionRow N)) :
    List Nat :=
  match row.fill.completionTime with
  | some time => [world.surroundings.openingOrders time, world.surroundings.openingIntents time,
      world.surroundings.openingFills owned time,
      (compelling.map fun position => world.surroundings.positionIntervals position.id time).getD 1]
  | none => [1, 1, 1, 1]

def competitionNames : List String :=
  ["competingOpeningOrderCount", "competingOpeningIntentCount", "competingFillCount", "competingPositionIntervalCount"]

def corroboration : String :=
  "Broker average arithmetic is displayed only as corroboration and never changes either stored price."

def unresolvedComponents (target : Target N) (row : DiagnosisRow N) : List String :=
  (if !isTerminalStatus language target.order.status || !isTerminalStatus language target.intent.status then
    ["STALE_ORDER_STATUS"] else []) ++
  (if row.links.state = .allMissing then ["MISSING_POSITION_LINK"] else []) ++
  (if row.links.state = .incomplete then ["PARTIAL_POSITION_LINK"] else []) ++
  (if row.links.state = .conflicting ∨ row.links.state = .consistent ∧ row.existingValid = false then
    ["CONFLICTING_POSITION_LINK"] else [])

def buildEvidence (world : RepairWorld N) (rows diagnosed : List (ActivityRow N)) : Built N :=
  let target : Target N := { world.toTarget with activities := rows }
  let assessment := assessHistoricalFullFillEvidence language.toTexts (fillOrder target world.attention.tradingAccountId)
    (rows.map (·.toFillActivity))
  let row := diagnoseOrder language world diagnosed
  let priceOnly := row.evaluations.filter fun evaluation => evaluation.2 == [PositionRejection.price.text]
  let compelling := match priceOnly with
    | [only] => positionById world only.1
    | _ => none
  let preceding := compelling.bind fun position =>
    world.surroundings.precedingClosed position.id (row.fill.completionTime.getD position.openedAt)
  let exitEvidence := compelling.any fun position => position.brokerActivities.any fun (side, activityType) =>
    side.map language.toLowerCase == some "sell" && language.toUpperCase activityType == "FILL"
  let competing := competition world row assessment.ownedActivityIds compelling
  let applicable := compelling.any (fun position => position.status == "closed" && position.closedAt.isSome) &&
    preceding.isSome && exitEvidence && competing.all (· == 0) && (linksOf target rows).all (·.isNone) &&
    row.links.state == .allMissing
  let components := unresolvedComponents language target row
  { assessment, components, compelling, applicable
    evidence := .object [("unresolvedComponents", .array (components.map .string)), ("lifecycle", lifecycleState language target),
      ("fillAssessment", assessmentJson language date? assessment),
      ("positionCandidates", .array (row.evaluations.map (candidateJson language world row))),
      ("compellingCandidate", Json.ofOption (fun position : PositionRow N => .object ([("id", .ofNat position.id),
        ("closed", .bool (position.status == "closed")), ("precedingClosedPositionId", natural? preceding),
        ("subsequentExitEvidence", .bool exitEvidence), ("fillPrice", number? language row.fill.weightedAveragePrice),
        ("brokerAverageEntryPrice", language.number position.avgEntryPrice),
        ("priceDifference", number? language (row.fill.weightedAveragePrice.map (position.avgEntryPrice - ·))),
        ("arithmeticCorroboration", .object [("authoritative", .bool false), ("explanation", .string corroboration)])] ++
        competitionNames.zip (competing.map .ofNat))) compelling),
      ("candidateApplicable", .bool applicable), ("lifecycleLinkState", row.links.json)] }

def attentionCode : String := "HISTORICAL_ENTRY_LIFECYCLE_INCOMPLETE"

/-- The evidence from what the two queries for the activities return. -/
def buildPreviewEvidence (world : RepairWorld N) (now : Int) (rows diagnosed : List (ActivityRow N)) :
    Except HttpError (Built N) := do
  require (world.attention.code == attentionCode && world.attention.brokerOrderId == some world.order.id) 404
    "Historical lifecycle Operational Attention was not found."
  require (world.order.tradingAccountId == some world.attention.tradingAccountId && isBuy language world.order.side) 409
    "Historical entry lifecycle is no longer eligible."
  let built := buildEvidence language world rows diagnosed
  require (diagnosable language world.toTarget now && built.assessment.summary.classification == .full) 409
    "Conclusive local full-fill evidence is no longer present."
  return built

inductive ActionType where
  | terminalizeOrderLifecycle | linkEntryLifecycleToPosition
deriving DecidableEq

def ActionType.text : ActionType → String
  | .terminalizeOrderLifecycle => "TERMINALIZE_ORDER_LIFECYCLE"
  | .linkEntryLifecycleToPosition => "LINK_ENTRY_LIFECYCLE_TO_POSITION"

/-- The mutations of a proposal. -/
inductive Mutations where
  | terminalize (orderId : Nat) (orderStatus : String) (intentId : Nat) (intentStatus : String)
  | link (trackedPositionId orderIntentId brokerOrderRecordId : Nat) (brokerActivityIds : List Nat)
deriving DecidableEq

def Mutations.actionType : Mutations → ActionType
  | .terminalize .. => .terminalizeOrderLifecycle
  | .link .. => .linkEntryLifecycleToPosition

def Mutations.json : Mutations → Json
  | .terminalize orderId orderStatus intentId intentStatus => .object [
      ("brokerOrder", .object [("id", .ofNat orderId),
        ("status", .object [("before", .string orderStatus), ("after", .string "filled")])]),
      ("orderIntent", .object [("id", .ofNat intentId),
        ("status", .object [("before", .string intentStatus), ("after", .string "filled")])])]
  | .link trackedPositionId orderIntentId brokerOrderRecordId brokerActivityIds => .object [
      ("trackedPositionId", .ofNat trackedPositionId), ("orderIntentId", .ofNat orderIntentId),
      ("brokerOrderRecordId", .ofNat brokerOrderRecordId), ("brokerActivityIds", .array (brokerActivityIds.map .ofNat))]

/-- The mutations that the evidence allows, one of each type at most. -/
def buildActionProposals (target : Target N) (built : Built N) : List Mutations :=
  (if built.components.contains "STALE_ORDER_STATUS" && built.assessment.deterministic then
    [.terminalize target.order.id target.order.status target.order.orderIntentId target.intent.status] else []) ++
  match built.compelling with
  | some position => if built.components.contains "MISSING_POSITION_LINK" && built.applicable then
      [.link position.id target.order.orderIntentId target.order.id built.assessment.ownedActivityIds] else []
  | none => []

/-- An action with what its case keeps; only a terminalization's assessment is read again. -/
structure RepairAction where
  (attentionFingerprint diagnosticFingerprint actionFingerprint : String)
  mutations : Mutations
  (proposedMutationsJson evidenceJson : Json)

def actionFingerprint (diagnosticFingerprint : String) (mutations : Mutations) : String :=
  hash language (.object [("diagnosticFingerprint", .string diagnosticFingerprint),
    ("actionType", .string mutations.actionType.text), ("proposal", mutations.json)])

def repairAction (attention : RepairAttention) (built : Built N) (mutations : Mutations) : RepairAction :=
  let diagnosticFingerprint := hash language built.evidence
  { diagnosticFingerprint, mutations
    attentionFingerprint := attention.fingerprint
    actionFingerprint := actionFingerprint language diagnosticFingerprint mutations
    proposedMutationsJson := persisted language mutations.json
    evidenceJson := persisted language (assessmentJson language (instant? language) built.assessment) }

/-- The actions of a new case. -/
def previewHistoricalEntryLifecycleRepair (world : RepairWorld N) (now : Int) (rows diagnosed : List (ActivityRow N)) :
    Except HttpError (List RepairAction) := do
  let built ← buildPreviewEvidence language world now rows diagnosed
  return (buildActionProposals world.toTarget built).map (repairAction language world.attention built)

end Preview

end AiTrader.Repair
