import Mathlib.Data.List.Dedup
import Mathlib.Data.String.Basic
import AiTrader.Library.JsNumber
import AiTrader.Library.JsString
import AiTrader.Library.KeyOrder

/-! # What the records of a position say of its origin

Each record leaves notes: a reason, a reference, or what is incomplete, unsupported or impossible. The verdict is read off
the notes. -/

namespace AiTrader.Lineage

open Library JsNumber

structure PositionIdentity where
  trackedPositionId : Nat
  tradingAccountId : Option Nat
  accountBroker : Option String
  positionBroker : String
  environment : Option String
  securityId : Nat
  (securitySymbol positionSymbol side : String)

/-- A time stands for the instant it is parsed to; `none` when it is not a date. -/
structure PositionState where
  status : String
  openedAt : Option Int
  (subscriptionId tradingAccountSubscriptionId : Option Nat)

structure OrderEvidence where
  id : Nat
  (tradingAccountId trackedPositionId : Option Nat)
  broker : String
  securityId : Nat
  (symbol status : String)
  clientOrderIdMatchesIntent : Bool
  side : String

structure FillEvidence (N : Type) where
  (id activityIdDuplicateCount : Nat)
  (tradingAccountId trackedPositionId : Option Nat)
  trackedPositionLinkSource : Option String
  (broker mode : String)
  symbol : Option String
  orderIdMatchesBrokerOrder : Bool
  side : Option String
  (qty cumQty leavesQty : Option N)
  transactionTime : Option String

structure AdapterMarker where
  eventId : Nat
  (identityComplete matchesIntent matchesDurableDispatch matchesBrokerOrder : Bool)

structure DispatchEvidence where
  (consumptionIds unenforcedDispatchIds : List Nat)
  adapterMarkers : List AdapterMarker
  durableClientIdentityConsistent : Bool

structure IntentEvidence (N : Type) where
  id : Nat
  source : String
  createdAt : Option Int
  (tradingAccountId trackedPositionId : Option Nat)
  (side status symbol : String)
  qty : Option N
  (subscriptionId tradingAccountSubscriptionId : Option Nat)
  brokerOrders : List OrderEvidence
  fills : List (FillEvidence N)
  dispatch : DispatchEvidence

structure UnmatchedFill where
  id : Nat
  side : Option String

structure Attribution where
  (subscriptionId securityId : Nat)
  (assignmentId assignmentAccountId assignmentSubscriptionId : Option Nat)

structure ClaimEvidence where
  (id tradingAccountId securityId : Nat)
  (orderIntentId trackedPositionId : Option Nat)
  status : String
  releasedAt : Option String

structure ProvenanceEvidence where
  chainValid : Bool
  decisionIds : List Nat
  (origin ownership : Option String)
  legacyExitContinuityAuthorized : Bool
  trust : String

structure AttentionEvidence where
  id : Nat
  (code status source : String)

/-- Of the creation authority and the exit state only their presence is read. -/
structure EvidenceSource (N : Type) where
  identity : PositionIdentity
  currentState : PositionState
  creationAuthority : Bool
  intents : List (IntentEvidence N)
  unmatchedFills : List UnmatchedFill
  attribution : List Attribution
  exitState : Bool
  claims : List ClaimEvidence
  provenance : ProvenanceEvidence
  operationalAttention : List AttentionEvidence

inductive ReasonCode where
  | localEntryChainComplete | positionAccountMissing | accountIdentityMismatch | brokerMismatch | securitySymbolMismatch
  | creationAuthorityHistoricalNull | orderIntentLinkMissing | multipleEntryIntentsUnreconciled
  | relatedIntentClassificationIncomplete | contradictoryRelatedIntent | exitIntentRecorded | entrySideMismatch
  | entryStatusNotFilled | brokerOrderLinkMissing | brokerOrderIdentityConflict | brokerOrderStatusNotFilled
  | confirmedEntryFillMissing | entryFillPartialOnly | entryFillFinalStateInvalid | executedQuantityAmbiguous
  | duplicateBrokerActivityIdentity | fillOrderIdMismatch | clientOrderIdMismatch | dispatchEvidenceMissing
  | dispatchEvidenceConflict | adapterInvocationEvidenceMissing | adapterMarkerIdentityMissing
  | adapterMarkerIdentityConflict | frozenSubscriptionMissing | frozenAssignmentMissing | attributionIdentityConflict
  | heuristicOrRepairLinkNotProof | repairDerivedPositionLinkInsufficient | entryClaimMissing | entryClaimUnresolved
  | entryClaimLifecycleIncomplete | entryClaimIdentityConflict | multipleEntryClaimsUnreconciled
  | positionFillWithoutIntent | entryLifecycleAttentionActive | noRecordedProvenanceDecision
  | recordedExternalProvenanceUnverified | recordedProvenanceDisagrees | provenanceChainInvalid
  | independentExternalOriginVerified | openPositionHasExitState | legacyExitContinuityReviewRequired
  | legacyExitContinuityRecordedUnverified | legacyExitContinuityReviewed
deriving DecidableEq

def ReasonCode.text : ReasonCode → String
  | .localEntryChainComplete => "LOCAL_ENTRY_CHAIN_COMPLETE"
  | .positionAccountMissing => "POSITION_ACCOUNT_MISSING"
  | .accountIdentityMismatch => "ACCOUNT_IDENTITY_MISMATCH"
  | .brokerMismatch => "BROKER_MISMATCH"
  | .securitySymbolMismatch => "SECURITY_SYMBOL_MISMATCH"
  | .creationAuthorityHistoricalNull => "CREATION_AUTHORITY_HISTORICAL_NULL"
  | .orderIntentLinkMissing => "ORDER_INTENT_LINK_MISSING"
  | .multipleEntryIntentsUnreconciled => "MULTIPLE_ENTRY_INTENTS_UNRECONCILED"
  | .relatedIntentClassificationIncomplete => "RELATED_INTENT_CLASSIFICATION_INCOMPLETE"
  | .contradictoryRelatedIntent => "CONTRADICTORY_RELATED_INTENT"
  | .exitIntentRecorded => "EXIT_INTENT_RECORDED"
  | .entrySideMismatch => "ENTRY_SIDE_MISMATCH"
  | .entryStatusNotFilled => "ENTRY_STATUS_NOT_FILLED"
  | .brokerOrderLinkMissing => "BROKER_ORDER_LINK_MISSING"
  | .brokerOrderIdentityConflict => "BROKER_ORDER_IDENTITY_CONFLICT"
  | .brokerOrderStatusNotFilled => "BROKER_ORDER_STATUS_NOT_FILLED"
  | .confirmedEntryFillMissing => "CONFIRMED_ENTRY_FILL_MISSING"
  | .entryFillPartialOnly => "ENTRY_FILL_PARTIAL_ONLY"
  | .entryFillFinalStateInvalid => "ENTRY_FILL_FINAL_STATE_INVALID"
  | .executedQuantityAmbiguous => "EXECUTED_QUANTITY_AMBIGUOUS"
  | .duplicateBrokerActivityIdentity => "DUPLICATE_BROKER_ACTIVITY_IDENTITY"
  | .fillOrderIdMismatch => "FILL_ORDER_ID_MISMATCH"
  | .clientOrderIdMismatch => "CLIENT_ORDER_ID_MISMATCH"
  | .dispatchEvidenceMissing => "DISPATCH_EVIDENCE_MISSING"
  | .dispatchEvidenceConflict => "DISPATCH_EVIDENCE_CONFLICT"
  | .adapterInvocationEvidenceMissing => "ADAPTER_INVOCATION_EVIDENCE_MISSING"
  | .adapterMarkerIdentityMissing => "ADAPTER_MARKER_IDENTITY_MISSING"
  | .adapterMarkerIdentityConflict => "ADAPTER_MARKER_IDENTITY_CONFLICT"
  | .frozenSubscriptionMissing => "FROZEN_SUBSCRIPTION_MISSING"
  | .frozenAssignmentMissing => "FROZEN_ASSIGNMENT_MISSING"
  | .attributionIdentityConflict => "ATTRIBUTION_IDENTITY_CONFLICT"
  | .heuristicOrRepairLinkNotProof => "HEURISTIC_OR_REPAIR_LINK_NOT_PROOF"
  | .repairDerivedPositionLinkInsufficient => "REPAIR_DERIVED_POSITION_LINK_INSUFFICIENT"
  | .entryClaimMissing => "ENTRY_CLAIM_MISSING"
  | .entryClaimUnresolved => "ENTRY_CLAIM_UNRESOLVED"
  | .entryClaimLifecycleIncomplete => "ENTRY_CLAIM_LIFECYCLE_INCOMPLETE"
  | .entryClaimIdentityConflict => "ENTRY_CLAIM_IDENTITY_CONFLICT"
  | .multipleEntryClaimsUnreconciled => "MULTIPLE_ENTRY_CLAIMS_UNRECONCILED"
  | .positionFillWithoutIntent => "POSITION_FILL_WITHOUT_INTENT"
  | .entryLifecycleAttentionActive => "ENTRY_LIFECYCLE_ATTENTION_ACTIVE"
  | .noRecordedProvenanceDecision => "NO_RECORDED_PROVENANCE_DECISION"
  | .recordedExternalProvenanceUnverified => "RECORDED_EXTERNAL_PROVENANCE_UNVERIFIED"
  | .recordedProvenanceDisagrees => "RECORDED_PROVENANCE_DISAGREES"
  | .provenanceChainInvalid => "PROVENANCE_CHAIN_INVALID"
  | .independentExternalOriginVerified => "INDEPENDENT_EXTERNAL_ORIGIN_VERIFIED"
  | .openPositionHasExitState => "OPEN_POSITION_HAS_EXIT_STATE"
  | .legacyExitContinuityReviewRequired => "LEGACY_EXIT_CONTINUITY_REVIEW_REQUIRED"
  | .legacyExitContinuityRecordedUnverified => "LEGACY_EXIT_CONTINUITY_RECORDED_UNVERIFIED"
  | .legacyExitContinuityReviewed => "LEGACY_EXIT_CONTINUITY_REVIEWED"

/-- The reasons that make the evidence contradictory. -/
def contradictions : List ReasonCode :=
  [.accountIdentityMismatch, .brokerMismatch, .securitySymbolMismatch, .entrySideMismatch, .contradictoryRelatedIntent,
    .brokerOrderIdentityConflict, .fillOrderIdMismatch, .clientOrderIdMismatch, .dispatchEvidenceConflict,
    .adapterMarkerIdentityConflict, .attributionIdentityConflict, .entryClaimIdentityConflict, .provenanceChainInvalid]

inductive EvidenceRole where
  | supporting | corroborating | contradicting
deriving DecidableEq

structure EvidenceReference where
  (kind id : String)
  role : EvidenceRole
deriving DecidableEq

/-- What a check leaves behind. -/
inductive Note where
  | reason (code : ReasonCode)
  | evidence (reference : EvidenceReference)
  /-- `structural = false` -/
  | unstructured
  /-- `execution = false` -/
  | unexecuted
  /-- `fillContradiction = true` -/
  | impossibleFill
deriving DecidableEq

inductive IntentRole where
  | entry | exit | unclassified | contradictory
deriving DecidableEq

inductive Classification where
  | completeLocalOrderChain | positiveExternalOrigin | unknownIncompleteLineage | contradictoryEvidence
deriving DecidableEq

inductive Confidence where
  | deterministic | verified | insufficient | contradictory

structure Readiness where
  (structurallyCompleteLocalLineage independentlySupportedLocalExecution : Bool)
  legacyExitContinuityReviewRequired : Bool

structure ClassifierResult where
  shadowClassification : Classification
  confidence : Confidence
  reasonCodes : List String
  evidence : List EvidenceReference
  readiness : Readiness

/-- How the language maps and compares letters: what it does to which of them is of no account here. -/
structure Letters where
  toUpperCase : String → String
  localeCompare : String → String → Ordering

section Source

variable {N : Type} [JsNumber N] (letters : Letters)

def canonical (value : String) : String := letters.toUpperCase (String.ofList (strip value.toList))

def filled (status : String) : Bool := ["FILLED", "EXECUTED", "COMPLETED"].contains (canonical letters status)

def active (status : String) : Bool := status == "open" || status == "closing"

def closeSources : List String := ["close-position", "exit-evaluator", "remaining-exposure-close"]

/-- `QUANTITY_TOLERANCE` -/
def quantityTolerance : N := number (1 / 2000000000)

def qtyEqual (a b : N) : Bool := le (abs (a - b)) quantityTolerance

def lifecycleWords : List String := ["ENTRY", "LIFECYCLE", "OWNERSHIP", "EXECUTION", "RECOVERY"]

def isRelevantActiveLifecycleAttention (attention : AttentionEvidence) : Bool :=
  canonical letters attention.status != "RESOLVED" &&
    ((lifecycleWords.any fun word => (canonical letters attention.code).toList.tails.any word.toList.isPrefixOf) ||
      canonical letters attention.source == "RECONCILIATION")

/-- `new Date(left) >= new Date(right)` -/
def notBefore (left right : Option Int) : Bool :=
  match left, right with
  | some left, some right => decide (right ≤ left)
  | _, _ => false

def role (source : EvidenceSource N) (intent : IntentEvidence N) : IntentRole :=
  let position := some source.identity.trackedPositionId
  let side := canonical letters intent.side
  let long := canonical letters source.identity.side == "LONG"
  let linked := intent.trackedPositionId == position || (intent.brokerOrders.any fun order => order.trackedPositionId == position) ||
    intent.fills.any fun fill => fill.trackedPositionId == position
  if long && side == "BUY" then .entry
  else if long && side == "SELL" && closeSources.contains intent.source && linked &&
      notBefore intent.createdAt source.currentState.openedAt then .exit
  else if side == "BUY" || side == "SELL" then .contradictory
  else .unclassified

def entriesOf (source : EvidenceSource N) : List (IntentEvidence N) :=
  source.intents.filter fun intent => role letters source intent == .entry

def noteIf (condition : Bool) (notes : List Note) : List Note := if condition then notes else []

def reference (kind : String) (id : Nat) (role : EvidenceRole) : Note := .evidence ⟨kind, toString id, role⟩

def contradict (code : ReasonCode) (kind : String) (id : Nat) : List Note :=
  [.reason code, reference kind id .contradicting]

def identityNotes (source : EvidenceSource N) : List Note :=
  [reference "TrackedPosition" source.identity.trackedPositionId .supporting] ++
  noteIf (source.identity.tradingAccountId == none) [.reason .positionAccountMissing] ++
  noteIf (!source.creationAuthority) [.reason .creationAuthorityHistoricalNull]

def unmatchedNotes (fill : UnmatchedFill) : List Note :=
  noteIf (canonical letters (fill.side.getD "") != "SELL") [.reason .positionFillWithoutIntent, .unexecuted] ++
  [reference "BrokerActivity" fill.id .corroborating]

def mismatchNotes (identity : PositionIdentity) : List Note :=
  noteIf (identity.accountBroker.any fun broker =>
    broker != "" && canonical letters broker != canonical letters identity.positionBroker) [.reason .brokerMismatch] ++
  noteIf (canonical letters identity.securitySymbol != canonical letters identity.positionSymbol) [.reason .securitySymbolMismatch]

/-- The notes on the intents that are no entries, in the order of their roles. -/
def roleNotes (source : EvidenceSource N) : List Note :=
  ((source.intents.filter fun intent => role letters source intent == .exit).flatMap fun intent =>
    [.reason .exitIntentRecorded, reference "ExitOrderIntent" intent.id .corroborating]) ++
  ((source.intents.filter fun intent => role letters source intent == .unclassified).flatMap fun intent =>
    [.reason .relatedIntentClassificationIncomplete, reference "OrderIntent" intent.id .corroborating]) ++
  ((source.intents.filter fun intent => role letters source intent == .contradictory).flatMap fun intent =>
    contradict .contradictoryRelatedIntent "OrderIntent" intent.id)

def countNotes (entries : Nat) : List Note :=
  noteIf (entries == 0) [.reason .orderIntentLinkMissing] ++
  noteIf (decide (1 < entries)) [.reason .multipleEntryIntentsUnreconciled]

def attributionOf (source : EvidenceSource N) (intent : IntentEvidence N) : Option Attribution :=
  source.attribution.find? fun row => some row.subscriptionId == intent.subscriptionId &&
    row.assignmentId == intent.tradingAccountSubscriptionId

/-- A recorded value that is not the given one. -/
def differs (value : Option Nat) (other : Nat) : Bool := value.any fun value => value != other

/-- Two recorded values that are not the same. -/
def disagree (value other : Option Nat) : Bool := value.any fun value => other.any fun other => other != value

def intentNotes (source : EvidenceSource N) (intent : IntentEvidence N) : List Note :=
  let identity := source.identity
  [reference "OrderIntent" intent.id .supporting] ++
  noteIf (canonical letters intent.side != "BUY") (contradict .entrySideMismatch "OrderIntent" intent.id ++ [.unstructured]) ++
  noteIf (canonical letters intent.symbol != canonical letters identity.securitySymbol)
    (contradict .securitySymbolMismatch "OrderIntent" intent.id) ++
  noteIf (!filled letters intent.status) [.reason .entryStatusNotFilled, .unexecuted] ++
  noteIf (intent.tradingAccountId != identity.tradingAccountId || differs intent.trackedPositionId identity.trackedPositionId)
    (contradict .accountIdentityMismatch "OrderIntent" intent.id) ++
  noteIf (intent.trackedPositionId == none) [.reason .heuristicOrRepairLinkNotProof, .unstructured] ++
  noteIf (intent.subscriptionId == none) [.reason .frozenSubscriptionMissing, .unstructured] ++
  noteIf (intent.tradingAccountSubscriptionId == none) [.reason .frozenAssignmentMissing, .unstructured] ++
  noteIf (intent.subscriptionId != none && intent.tradingAccountSubscriptionId != none &&
      match attributionOf source intent with
      | none => true
      | some row => row.securityId != identity.securityId || row.assignmentAccountId != identity.tradingAccountId ||
        row.assignmentSubscriptionId != intent.subscriptionId)
    [.reason .attributionIdentityConflict, .unstructured] ++
  noteIf (disagree intent.subscriptionId source.currentState.subscriptionId) [.reason .attributionIdentityConflict] ++
  noteIf (disagree intent.tradingAccountSubscriptionId source.currentState.tradingAccountSubscriptionId)
    [.reason .attributionIdentityConflict] ++
  noteIf intent.brokerOrders.isEmpty [.reason .brokerOrderLinkMissing, .unstructured] ++
  noteIf (decide (1 < intent.brokerOrders.length)) [.reason .multipleEntryIntentsUnreconciled, .unstructured, .unexecuted]

def orderNotes (identity : PositionIdentity) (order : OrderEvidence) : List Note :=
  [reference "BrokerOrder" order.id .supporting] ++
  noteIf (order.tradingAccountId != identity.tradingAccountId || differs order.trackedPositionId identity.trackedPositionId ||
      canonical letters order.broker != canonical letters identity.positionBroker || order.securityId != identity.securityId ||
      canonical letters order.symbol != canonical letters identity.securitySymbol)
    (contradict .brokerOrderIdentityConflict "BrokerOrder" order.id) ++
  noteIf (canonical letters order.side != "BUY") (contradict .entrySideMismatch "BrokerOrder" order.id) ++
  noteIf (!filled letters order.status) [.reason .brokerOrderStatusNotFilled, .unexecuted] ++
  noteIf (order.trackedPositionId == none) [.reason .heuristicOrRepairLinkNotProof, .unstructured] ++
  noteIf (!order.clientOrderIdMatchesIntent) (contradict .clientOrderIdMismatch "BrokerOrder" order.id)

/-- The intended quantity. -/
def intendedOf (intent : IntentEvidence N) : Option N := intent.qty.map abs

def intendedComplete (intended : Option N) : Bool :=
  intended.any fun intended => isFinite intended && less (number 0) intended

/-- The three quantities of a fill, when they are finite. -/
def quantitiesOf (fill : FillEvidence N) : Option (N × N × N) :=
  match fill.qty.filter isFinite, fill.cumQty.filter isFinite, fill.leavesQty.filter isFinite with
  | some qty, some cumQty, some leavesQty => some (qty, cumQty, leavesQty)
  | _, _, _ => none

def independentlyImpossible (intended : Option N) (fill : FillEvidence N) : Bool :=
  let cumQty := fill.cumQty.filter isFinite
  let leavesQty := fill.leavesQty.filter isFinite
  ((fill.qty.filter isFinite).any fun qty => le qty (number 0)) || (cumQty.any fun cumQty => le cumQty (number 0)) ||
    (leavesQty.any fun leavesQty => less leavesQty (number 0)) ||
    (intended.any fun intended => cumQty.any fun cumQty => less quantityTolerance (cumQty - intended)) ||
    intended.any fun intended => cumQty.any fun cumQty => leavesQty.any fun leavesQty => !qtyEqual (cumQty + leavesQty) intended

/-- `fill.transactionTime === null || times.has(fill.transactionTime)` -/
def timeRepeats (times : List String) (fill : FillEvidence N) : Bool :=
  match fill.transactionTime with
  | none => true
  | some time => times.contains time

def fillNotes (identity : PositionIdentity) (intended : Option N) (times : List String) (fill : FillEvidence N) : List Note :=
  [reference "BrokerActivity" fill.id .supporting] ++
  noteIf (decide (1 < fill.activityIdDuplicateCount)) [.reason .duplicateBrokerActivityIdentity, .unstructured, .unexecuted] ++
  noteIf (fill.trackedPositionLinkSource == some "historical_order_lifecycle_repair")
    [.reason .repairDerivedPositionLinkInsufficient, .unstructured] ++
  noteIf (fill.tradingAccountId != identity.tradingAccountId || differs fill.trackedPositionId identity.trackedPositionId ||
      canonical letters fill.broker != canonical letters identity.positionBroker ||
      canonical letters fill.mode != canonical letters (identity.environment.getD "") ||
      canonical letters (fill.symbol.getD "") != canonical letters identity.securitySymbol)
    (contradict .accountIdentityMismatch "BrokerActivity" fill.id) ++
  noteIf (canonical letters (fill.side.getD "") != "BUY") (contradict .entrySideMismatch "BrokerActivity" fill.id) ++
  noteIf (fill.trackedPositionId == none) [.reason .heuristicOrRepairLinkNotProof, .unstructured] ++
  noteIf (!fill.orderIdMatchesBrokerOrder) (contradict .fillOrderIdMismatch "BrokerActivity" fill.id) ++
  noteIf (timeRepeats times fill) [.reason .executedQuantityAmbiguous, .unexecuted] ++
  noteIf (independentlyImpossible intended fill)
    (.impossibleFill :: contradict .entryFillFinalStateInvalid "BrokerActivity" fill.id ++ [.unexecuted]) ++
  noteIf (intended.isNone || (quantitiesOf fill).isNone) [.reason .executedQuantityAmbiguous, .unexecuted]

/-- The notes on the fills, with the times of the fills before them. -/
def fillsNotes (identity : PositionIdentity) (intended : Option N) : List String → List (FillEvidence N) → List Note
  | _, [] => []
  | times, fill :: later => fillNotes letters identity intended times fill ++
    fillsNotes identity intended (fill.transactionTime.toList ++ times) later

/-- `chronologyVerifiable` after the fills. -/
def chronologyVerifiable : List String → List (FillEvidence N) → Bool
  | _, [] => true
  | times, fill :: later => !timeRepeats times fill && chronologyVerifiable (fill.transactionTime.toList ++ times) later

def quantitiesComplete (intended : Option N) (fills : List (FillEvidence N)) : Bool :=
  intendedComplete intended && fills.all fun fill => (quantitiesOf fill).isSome

def isFinal (intended : N) : N × N × N → Bool
  | (_, cumQty, leavesQty) => qtyEqual cumQty intended && qtyEqual leavesQty (number 0)

/-- The notes on the steps from one cumulative quantity to the next, and the last one of them. -/
def chainNotes (intended : N) : N → List (Nat × N × N × N) → List Note × N
  | previousCum, [] => ([], previousCum)
  | previousCum, (id, quantities) :: later =>
    let impossible := !qtyEqual (quantities.2.1 - previousCum) quantities.1 || (isFinal intended quantities && !later.isEmpty)
    let (notes, lastCum) := chainNotes intended quantities.2.1 later
    (noteIf impossible (.impossibleFill :: contradict .entryFillFinalStateInvalid "BrokerActivity" id ++ [.unexecuted]) ++ notes,
      lastCum)

/-- The fills with their quantities. -/
def measured (fills : List (FillEvidence N)) : List (Nat × N × N × N) :=
  fills.filterMap fun fill => (quantitiesOf fill).map fun quantities => (fill.id, quantities)

def cumulativeNotes (intended : N) (fills : List (FillEvidence N)) : List Note :=
  let (notes, lastCum) := chainNotes intended (number 0) (measured fills)
  let finals := ((measured fills).filter fun (_, quantities) => isFinal intended quantities).length
  notes ++ noteIf (finals != 1) [.reason .entryFillFinalStateInvalid, .unexecuted] ++
    noteIf (!fills.isEmpty && !qtyEqual lastCum intended) [.reason .entryFillPartialOnly, .unexecuted]

def executionNotes (source : EvidenceSource N) (intent : IntentEvidence N) : List Note :=
  let intended := intendedOf intent
  noteIf intent.fills.isEmpty [.reason .confirmedEntryFillMissing, .unstructured, .unexecuted] ++
  noteIf (!intendedComplete intended) [.reason .executedQuantityAmbiguous, .unexecuted] ++
  fillsNotes letters source.identity intended [] intent.fills ++
  match intended with
  | some intended =>
    if chronologyVerifiable [] intent.fills && quantitiesComplete (some intended) intent.fills then
      cumulativeNotes intended intent.fills
    else []
  | none => []

def markerNotes (dispatched : Bool) (marker : AdapterMarker) : List Note :=
  [reference "EntryExposureClaimEvent" marker.eventId .supporting] ++
  if !marker.identityComplete then [.reason .adapterMarkerIdentityMissing, .unexecuted]
  else noteIf (!marker.matchesIntent || !marker.matchesBrokerOrder || (dispatched && !marker.matchesDurableDispatch))
    (contradict .adapterMarkerIdentityConflict "EntryExposureClaimEvent" marker.eventId ++ [.unexecuted])

def dispatchRecords (dispatch : DispatchEvidence) : List Nat := dispatch.consumptionIds ++ dispatch.unenforcedDispatchIds

def dispatchNotes (dispatch : DispatchEvidence) : List Note :=
  let records := dispatchRecords dispatch
  noteIf (records.length != 1)
    [.reason (if records.isEmpty then .dispatchEvidenceMissing else .dispatchEvidenceConflict), .unexecuted] ++
  noteIf (!records.isEmpty && !dispatch.durableClientIdentityConsistent) [.reason .dispatchEvidenceConflict, .unexecuted] ++
  noteIf (dispatch.adapterMarkers.length != 1) [.reason .adapterInvocationEvidenceMissing, .unexecuted] ++
  dispatch.adapterMarkers.flatMap (markerNotes (!records.isEmpty)) ++
  records.map fun id => reference "BrokerDispatch" id .supporting

def entryNotes (source : EvidenceSource N) (intent : IntentEvidence N) : List Note :=
  intentNotes letters source intent ++ intent.brokerOrders.flatMap (orderNotes letters source.identity) ++
    executionNotes letters source intent ++ dispatchNotes intent.dispatch

def claimConsistent (status : String) (claim : ClaimEvidence) : Bool :=
  if status == "closed" then claim.status == "RELEASED" && claim.releasedAt != none
  else (claim.status == "POSITION_OPEN" || claim.status == "POSITION_CLOSING") && claim.releasedAt == none

def claimNotes (source : EvidenceSource N) (intent : Option (IntentEvidence N)) (claim : ClaimEvidence) : List Note :=
  let identity := source.identity
  [reference "EntryExposureClaim" claim.id .corroborating] ++
  (if claim.status == "UNRESOLVED" then [.reason .entryClaimUnresolved, .unexecuted]
    else noteIf (!claimConsistent source.currentState.status claim) [.reason .entryClaimLifecycleIncomplete, .unexecuted]) ++
  noteIf (some claim.tradingAccountId != identity.tradingAccountId || claim.securityId != identity.securityId ||
      differs claim.trackedPositionId identity.trackedPositionId ||
      intent.any fun intent => claim.orderIntentId != some intent.id)
    (contradict .entryClaimIdentityConflict "EntryExposureClaim" claim.id)

def claimsNotes (source : EvidenceSource N) (intent : Option (IntentEvidence N)) : List Note :=
  noteIf source.claims.isEmpty [.reason .entryClaimMissing, .unexecuted] ++
  noteIf (decide (1 < source.claims.length)) [.reason .multipleEntryClaimsUnreconciled, .unstructured] ++
  source.claims.flatMap (claimNotes source intent)

def attentionNotes (attention : List AttentionEvidence) : List Note :=
  let relevant := attention.filter (isRelevantActiveLifecycleAttention letters)
  noteIf (!relevant.isEmpty) [.reason .entryLifecycleAttentionActive, .unexecuted] ++
  relevant.map fun item => reference "OperationalAttention" item.id .corroborating

def verifiedExternal (provenance : ProvenanceEvidence) : Bool :=
  provenance.origin == some "BROKER_EXTERNAL" && provenance.ownership == some "NOT_LOCALLY_OWNED" &&
    provenance.trust == "VERIFIED"

def provenanceNotes (provenance : ProvenanceEvidence) : List Note :=
  noteIf (!provenance.chainValid) [.reason .provenanceChainInvalid] ++
  noteIf provenance.decisionIds.isEmpty [.reason .noRecordedProvenanceDecision] ++
  (provenance.decisionIds.map fun id => reference "PositionLifecycleProvenanceDecision" id .corroborating) ++
  noteIf (provenance.origin == some "BROKER_EXTERNAL" && !verifiedExternal provenance) [.reason .recordedExternalProvenanceUnverified]

/-- What all checks leave behind. -/
def notesOf (source : EvidenceSource N) : List Note :=
  let entries := entriesOf letters source
  identityNotes source ++ source.unmatchedFills.flatMap (unmatchedNotes letters) ++ mismatchNotes letters source.identity ++
    roleNotes letters source ++ countNotes entries.length ++
    (match entries.head? with
      | some intent => entryNotes letters source intent
      | none => []) ++
    claimsNotes source entries.head? ++ attentionNotes letters source.operationalAttention ++ provenanceNotes source.provenance

/-- What the verdict reads of the notes. -/
structure Verdict where
  (structural execution contradictory complete : Bool)

def verdictOf (entries : Nat) (notes : List Note) : Verdict :=
  let structural := entries == 1 && !notes.contains .unstructured
  let execution := entries == 1 && !notes.contains .unexecuted
  let contradictory := notes.contains .impossibleFill || contradictions.any fun code => notes.contains (.reason code)
  { structural
    execution
    contradictory
    complete := structural && execution && entries == 1 && !contradictory &&
      !notes.contains (.reason .positionFillWithoutIntent) }

def reasonOf : Note → Option ReasonCode
  | .reason code => some code
  | _ => none

def evidenceOf : Note → Option EvidenceReference
  | .evidence reference => some reference
  | _ => none

def continuityTrusted (provenance : ProvenanceEvidence) : Bool :=
  provenance.legacyExitContinuityAuthorized && provenance.trust == "VERIFIED" && provenance.chainValid

/-- The recorded provenance disagrees with what the evidence says. -/
def provenanceDisagrees (provenance : ProvenanceEvidence) (entries : Nat) (complete : Bool) : Bool :=
  (complete && provenance.origin.any fun origin => origin != "" && origin != "LOCAL_ORDER_CHAIN") ||
    (verifiedExternal provenance && (complete || entries != 0))

def legacyReview (source : EvidenceSource N) (complete : Bool) : Bool :=
  source.exitState && active source.currentState.status && !complete && !continuityTrusted source.provenance

/-- The reasons that the verdict itself adds. -/
def verdictNotes (source : EvidenceSource N) (entries : Nat) (complete : Bool) : List Note :=
  noteIf (provenanceDisagrees source.provenance entries complete) [.reason .recordedProvenanceDisagrees] ++
  noteIf complete [.reason .localEntryChainComplete] ++
  noteIf (verifiedExternal source.provenance) [.reason .independentExternalOriginVerified] ++
  noteIf (source.exitState && active source.currentState.status) [.reason .openPositionHasExitState] ++
  noteIf (source.provenance.legacyExitContinuityAuthorized && !continuityTrusted source.provenance)
    [.reason .legacyExitContinuityRecordedUnverified] ++
  noteIf (legacyReview source complete) [.reason .legacyExitContinuityReviewRequired] ++
  noteIf (continuityTrusted source.provenance) [.reason .legacyExitContinuityReviewed]

/-- `[...reasons].sort()` -/
def reasonCodes (notes : List Note) : List String :=
  byKey id ((notes.filterMap reasonOf).map ReasonCode.text).dedup

/-- `evidence.sort(…)` -/
def sortedEvidence (notes : List Note) : List EvidenceReference :=
  (notes.filterMap evidenceOf).mergeSort fun left right =>
    ((letters.localeCompare left.kind right.kind).then (letters.localeCompare left.id right.id)).isLE

def classifyPositionLifecycleEvidence (source : EvidenceSource N) : ClassifierResult :=
  let entries := (entriesOf letters source).length
  let notes := notesOf letters source
  let verdict := verdictOf entries notes
  let contradictory := verdict.contradictory || provenanceDisagrees source.provenance entries verdict.complete
  let external := verifiedExternal source.provenance
  { shadowClassification :=
      if contradictory then .contradictoryEvidence else if verdict.complete then .completeLocalOrderChain
      else if external then .positiveExternalOrigin else .unknownIncompleteLineage
    confidence :=
      if contradictory then .contradictory else if verdict.complete then .deterministic
      else if external then .verified else .insufficient
    reasonCodes := reasonCodes (notes ++ verdictNotes source entries verdict.complete)
    evidence := sortedEvidence letters notes
    readiness :=
      { structurallyCompleteLocalLineage := verdict.structural
        independentlySupportedLocalExecution := verdict.execution
        legacyExitContinuityReviewRequired := legacyReview source verdict.complete } }

end Source

end AiTrader.Lineage
