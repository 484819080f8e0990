import AiTrader.Library.Latest
import AiTrader.Library.Service
import AiTrader.Library.Table
import Mathlib.Data.Char
import Mathlib.Data.List.Lex
import Mathlib.Data.List.Sort

/-! # Market policy revisions

A strategy's market policy is a sequence of revisions. The latest one may be prepared, edited under the fingerprint of the
rules it was loaded with, and activated in place of the active one. The transactions are serializable. -/

namespace AiTrader.MarketPolicy

open Library

structure DimensionDefinition where
  (dimension algorithmVersion : String)
  allowedStates : List String

/-- `STRATEGY_MARKET_POLICY_AUTHORITY` -/
def strategyMarketPolicyAuthority : String := "SHADOW_ONLY"

/-- `STRATEGY_MARKET_POLICY_DIMENSIONS` -/
def strategyMarketPolicyDimensions : List DimensionDefinition :=
  [⟨"TREND", "TREND_V1", ["DOWN", "NEUTRAL", "UP"]⟩,
    ⟨"VOLATILITY", "VOLATILITY_V1", ["LOW", "NORMAL", "HIGH", "EXTREME"]⟩,
    ⟨"BREADTH", "BREADTH_V1", ["NEGATIVE", "MIXED", "POSITIVE"]⟩,
    ⟨"PARTICIPATION", "PARTICIPATION_V1", ["QUIET", "NORMAL", "ACTIVE", "INTENSE"]⟩,
    ⟨"INTRADAY_STRESS", "INTRADAY_STRESS_V1", ["NORMAL", "ELEVATED", "HIGH", "SEVERE"]⟩]

def marketPolicyDimensionDefinition (dimension : String) : Option DimensionDefinition :=
  strategyMarketPolicyDimensions.find? (·.dimension = dimension)

/-- A rule of a revision, or a candidate for one. -/
structure PolicyRule where
  (dimension algorithmVersion requirement : String)
  allowedStates : List String
deriving DecidableEq

inductive CanonicalRule where
  | rule (dimension algorithmVersion requirement : String) (allowedStates : List String)
  | missing (dimension : String)
deriving DecidableEq

/-- The order of the states; they are ASCII, where code points are ordered as code units are. -/
def stateOrder (first second : String) : Prop := first.toList ≤ second.toList

instance : DecidableRel stateOrder := fun first second => inferInstanceAs (Decidable (first.toList ≤ second.toList))

def sortStates (states : List String) : List String := states.insertionSort stateOrder

def canonicalRules (rules : List PolicyRule) : List CanonicalRule :=
  strategyMarketPolicyDimensions.map fun expected =>
    match rules.find? (·.dimension = expected.dimension) with
    | some rule => .rule rule.dimension rule.algorithmVersion rule.requirement (sortStates rule.allowedStates)
    | none => .missing expected.dimension

structure ValidationError where
  dimension : Option String
  (code message : String)

structure MarketPolicyValidation where
  valid : Bool
  errors : List ValidationError

/-- The errors of the one rule of a dimension. -/
def ruleErrors (expected : DimensionDefinition) (rule : PolicyRule) : List ValidationError :=
  let states := rule.allowedStates.eraseDups
  let invalid := states.filter fun state => !expected.allowedStates.contains state
  (if rule.algorithmVersion ≠ expected.algorithmVersion then
    [⟨some expected.dimension, "ALGORITHM_VERSION_INVALID", s!"{expected.dimension} must use {expected.algorithmVersion}."⟩]
  else []) ++
  (if invalid ≠ [] then
    [⟨some expected.dimension, "STATE_INVALID",
      ", ".intercalate invalid ++ s!" is not valid for {expected.algorithmVersion}."⟩]
  else []) ++
  (if rule.requirement = "REQUIRED" ∧ states = [] then
    [⟨some expected.dimension, "ALLOWED_STATES_REQUIRED",
      s!"Required {expected.dimension} must allow at least one effective state."⟩]
  else if rule.requirement = "IGNORED" ∧ states ≠ [] then
    [⟨some expected.dimension, "IGNORED_STATES_FORBIDDEN",
      s!"Ignored {expected.dimension} cannot contain allowed states."⟩]
  else if rule.requirement ∉ ["REQUIRED", "IGNORED"] then
    [⟨some expected.dimension, "REQUIREMENT_INVALID", s!"{expected.dimension} must be REQUIRED or IGNORED."⟩]
  else [])

def dimensionErrors (rules : List PolicyRule) (expected : DimensionDefinition) : List ValidationError :=
  match rules.filter (·.dimension = expected.dimension) with
  | [rule] => ruleErrors expected rule
  | _ => [⟨some expected.dimension, "DIMENSION_RULE_REQUIRED", s!"{expected.dimension} must have exactly one rule."⟩]

def validateMarketPolicyRules (rules : List PolicyRule) : MarketPolicyValidation :=
  let errors := strategyMarketPolicyDimensions.flatMap (dimensionErrors rules) ++
    (if rules.any fun rule => (marketPolicyDimensionDefinition rule.dimension).isNone then
      [⟨none, "UNSUPPORTED_DIMENSION", "Only the five authoritative V1 dimensions are supported."⟩]
    else []) ++
    (if rules.any (·.requirement = "REQUIRED") then []
    else [⟨none, "REQUIRED_DIMENSION_REQUIRED", "At least one market regime dimension must be REQUIRED."⟩])
  ⟨errors.isEmpty, errors⟩

section Store

inductive PolicyRevisionStatus where
  | prepared | active | retired
deriving DecidableEq

/-- A row of `StrategyMarketPolicyDimensionRule` with its states in the order in which they are read. -/
structure DimensionRuleRow where
  id : Nat
  rule : PolicyRule
deriving DecidableEq

/-- A row of `StrategyMarketPolicyRevision` with its rules in the order of their identifiers. -/
structure PolicyRevision where
  (id policyId revision : Nat)
  status : PolicyRevisionStatus
  changeNote : Option String
  (activatedAt retiredAt : Option Int)
  dimensionRules : List DimensionRuleRow
deriving DecidableEq

structure StrategyMarketPolicy where
  (id strategyId : Nat)
  authority : String
  updatedAt : Int
deriving DecidableEq

inductive PolicyAuditDetails where
  | created (strategyId : Nat) (authority : String) (initialRevision : Nat)
  | prepared (policyId strategyId revision : Nat) (basedOnRevision : Option Nat)
  | saved (strategyId revision : Nat) (beforeFingerprint afterFingerprint : String) (rules : List CanonicalRule)
  | retired (policyId strategyId revision replacedByRevision : Nat)
  | activated (policyId strategyId revision : Nat) (authority : String) (retiredRevision : Option Nat)
deriving DecidableEq

structure PolicyAudit where
  (type entityType : String)
  (entityId actorUserId : Nat)
  details : PolicyAuditDetails
deriving DecidableEq

structure PolicyStore where
  policies : List StrategyMarketPolicy
  revisions : List PolicyRevision
  audits : List PolicyAudit
deriving DecidableEq

namespace PolicyRevision

def rules (revision : PolicyRevision) : List PolicyRule := revision.dimensionRules.map (·.rule)

end PolicyRevision

namespace PolicyStore

section

variable (store : PolicyStore)

/-- The unique index on the strategy. -/
def policyOf (strategyId : Nat) : Option StrategyMarketPolicy :=
  store.policies.find? (·.strategyId = strategyId)

def revisionsOf (policyId : Nat) : List PolicyRevision :=
  store.revisions.filter (·.policyId = policyId)

def findStatus (policyId : Nat) (status : PolicyRevisionStatus) : Option PolicyRevision :=
  (store.revisionsOf policyId).find? (·.status = status)

def findRevision (policyId revisionId : Nat) : Option PolicyRevision :=
  (store.revisionsOf policyId).find? (·.id = revisionId)

/-- The revision with the highest number. -/
def latestRevision (policyId : Nat) : Option PolicyRevision :=
  latest (·.revision) (store.revisionsOf policyId)

def ruleIds : List Nat := store.revisions.flatMap fun revision => revision.dimensionRules.map (·.id)

/-- Rules for a new revision, with the next identifiers. -/
def createRules (rules : List PolicyRule) : List DimensionRuleRow :=
  rules.zipIdx.map fun (rule, index) => ⟨Table.nextId store.ruleIds + index, rule⟩

def updateRevision (id : Nat) (change : PolicyRevision → PolicyRevision) : PolicyStore :=
  { store with revisions := Table.updateWhere (·.id = id) change store.revisions }

def audit (type entityType : String) (entityId actorUserId : Nat) (details : PolicyAuditDetails) :
    PolicyStore :=
  { store with audits := store.audits ++ [⟨type, entityType, entityId, actorUserId, details⟩] }

end

end PolicyStore

end Store

section Source

variable (digest : List CanonicalRule → String)

/-- The digest is the SHA-256 of the JSON text of the canonical rules. -/
def strategyMarketPolicyConfigurationFingerprint (rules : List PolicyRule) : String := digest (canonicalRules rules)

structure PresentedRevision where
  revision : PolicyRevision
  configurationFingerprint : String
deriving DecidableEq

def presentRevision (revision : PolicyRevision) : PresentedRevision :=
  ⟨revision, strategyMarketPolicyConfigurationFingerprint digest revision.rules⟩

/-- What a call answers: `presentPolicy` of a new policy, or `presentRevision`. -/
inductive PolicyAnswer where
  | policy (policy : StrategyMarketPolicy) (revisions : List PresentedRevision)
  | revision (presented : PresentedRevision)
deriving DecidableEq

structure SaveRevision where
  (strategyId revisionId : Nat)
  expectedConfigurationFingerprint : String
  rules : List PolicyRule
  actorUserId : Nat
deriving DecidableEq

structure ActivateRevision where
  (strategyId revisionId : Nat)
  expectedConfigurationFingerprint : String
  actorUserId : Nat
deriving DecidableEq

def initialRules : List PolicyRule :=
  strategyMarketPolicyDimensions.map fun item => ⟨item.dimension, item.algorithmVersion, "IGNORED", []⟩

/-- A new prepared revision. -/
def PolicyStore.newRevision (store : PolicyStore) (policyId revision : Nat) (changeNote : Option String)
    (rules : List PolicyRule) : PolicyRevision :=
  { id := Table.nextId (store.revisions.map (·.id)), policyId, revision, status := .prepared, changeNote
    activatedAt := none, retiredAt := none, dimensionRules := store.createRules rules }

def PolicyStore.newPolicy (store : PolicyStore) (strategyId : Nat) (now : Int) : StrategyMarketPolicy :=
  ⟨Table.nextId (store.policies.map (·.id)), strategyId, strategyMarketPolicyAuthority, now⟩

def createStrategyMarketPolicy (strategies : List Nat) (now : Int) (strategyId actorUserId : Nat)
    (changeNote : Option String) (store : PolicyStore) : Except HttpError (PolicyAnswer × PolicyStore) := do
  require (strategies.contains strategyId) 404 "Strategy not found."
  require (store.policyOf strategyId).isNone 409 "Strategy already has a market policy."
  let policy := store.newPolicy strategyId now
  let revision := store.newRevision policy.id 1 changeNote initialRules
  let created := { store with policies := store.policies ++ [policy], revisions := store.revisions ++ [revision] }
  let audited := (created.audit "strategy_market_policy_created" "strategy_market_policy" policy.id actorUserId
      (.created strategyId policy.authority 1)).audit "strategy_market_policy_revision_prepared"
    "strategy_market_policy_revision" revision.id actorUserId (.prepared policy.id strategyId 1 none)
  .ok (.policy policy [presentRevision digest revision], audited)

def loadPolicy (store : PolicyStore) (strategyId : Nat) : Except HttpError StrategyMarketPolicy :=
  requireSome (store.policyOf strategyId) 404 "Strategy market policy not found."

def prepareStrategyMarketPolicyRevision (strategyId actorUserId : Nat) (changeNote : Option String) (store : PolicyStore) :
    Except HttpError (PolicyAnswer × PolicyStore) := do
  let policy ← loadPolicy store strategyId
  require (store.findStatus policy.id .prepared).isNone 409 "A PREPARED revision already exists."
  let latest ← requireSome ((store.latestRevision policy.id).filter (·.revision < 2147483647)) 409
    "Revision sequence unavailable."
  let row := store.newRevision policy.id (latest.revision + 1) changeNote latest.rules
  let audited := { store with revisions := store.revisions ++ [row] }.audit "strategy_market_policy_revision_prepared"
    "strategy_market_policy_revision" row.id actorUserId (.prepared policy.id strategyId row.revision (some latest.revision))
  .ok (.revision (presentRevision digest row), audited)

/-- The rows after the rule of one dimension has been rewritten. -/
def saveDimension (candidate : List PolicyRule) (revision : PolicyRevision) (rows : List DimensionRuleRow)
    (expected : DimensionDefinition) : Except HttpError (List DimensionRuleRow) := do
  let rule ← requireSome (revision.dimensionRules.find? (·.rule.dimension = expected.dimension)) 409
    "Prepared revision is incomplete."
  let next ← requireSome (candidate.find? (·.dimension = expected.dimension)) 500
    "Cannot read properties of undefined (reading 'requirement')"
  .ok (Table.updateWhere (·.id = rule.id) (fun row => { row with
    rule.requirement := next.requirement
    rule.allowedStates := sortStates next.allowedStates }) rows)

def saveStrategyMarketPolicyRevision (args : SaveRevision) (store : PolicyStore) :
    Except HttpError (PolicyAnswer × PolicyStore) := do
  let candidate := args.rules.map fun rule => { rule with allowedStates := rule.allowedStates.eraseDups }
  require (validateMarketPolicyRules candidate).valid 400 "Policy revision is incomplete or invalid."
  let policy ← loadPolicy store args.strategyId
  let revision ← requireSome (store.findRevision policy.id args.revisionId) 404 "Policy revision not found."
  require (revision.status = .prepared) 409 "Only PREPARED revisions are editable."
  let beforeFingerprint := strategyMarketPolicyConfigurationFingerprint digest revision.rules
  require (beforeFingerprint = args.expectedConfigurationFingerprint) 409
    "Policy revision changed after it was loaded. Reload before saving."
  let rows ← strategyMarketPolicyDimensions.foldlM (saveDimension candidate revision) revision.dimensionRules
  let updated := { revision with dimensionRules := rows }
  let afterFingerprint := strategyMarketPolicyConfigurationFingerprint digest updated.rules
  let saved := store.updateRevision revision.id fun row => { row with dimensionRules := rows }
  let audited := saved.audit "strategy_market_policy_revision_saved" "strategy_market_policy_revision" revision.id args.actorUserId
    (.saved args.strategyId revision.revision beforeFingerprint afterFingerprint (canonicalRules updated.rules))
  .ok (.revision (presentRevision digest updated), audited)

/-- The active revision gives way. -/
def PolicyStore.retire (store : PolicyStore) (now : Int) (policy : StrategyMarketPolicy) (selected : PolicyRevision)
    (actorUserId : Nat) : PolicyStore :=
  match store.findStatus policy.id .active with
  | none => store
  | some active =>
    (store.updateRevision active.id fun row => { row with status := .retired, retiredAt := some now }).audit
      "strategy_market_policy_revision_retired" "strategy_market_policy_revision" active.id actorUserId
      (.retired policy.id policy.strategyId active.revision selected.revision)

def activateStrategyMarketPolicyRevision (now : Int) (args : ActivateRevision) (store : PolicyStore) :
    Except HttpError (PolicyAnswer × PolicyStore) := do
  let policy ← loadPolicy store args.strategyId
  let selected ← requireSome (store.findRevision policy.id args.revisionId) 404 "Policy revision not found."
  require (selected.status = .prepared) 409 "Only a PREPARED revision can be activated."
  let configurationFingerprint := strategyMarketPolicyConfigurationFingerprint digest selected.rules
  require (configurationFingerprint = args.expectedConfigurationFingerprint) 409
    "Policy revision changed after validation. Validate the current persisted revision before activation."
  require (validateMarketPolicyRules selected.rules).valid 400 "Policy revision is incomplete or invalid."
  let active := store.findStatus policy.id .active
  let activated := { selected with status := .active, activatedAt := some now }
  let updated := (store.retire now policy selected args.actorUserId).updateRevision selected.id fun row =>
    { row with status := .active, activatedAt := some now }
  let touched := { updated with
    policies := Table.updateWhere (·.id = policy.id) (fun row => { row with updatedAt := now }) updated.policies }
  let audited := touched.audit "strategy_market_policy_revision_activated" "strategy_market_policy_revision" selected.id
    args.actorUserId (.activated policy.id args.strategyId selected.revision strategyMarketPolicyAuthority
      (active.map (·.revision)))
  .ok (.revision (presentRevision digest activated), audited)

inductive PolicyRequest where
  | create (strategyId actorUserId : Nat) (changeNote : Option String)
  | prepare (strategyId actorUserId : Nat) (changeNote : Option String)
  | save (args : SaveRevision)
  | activate (args : ActivateRevision)
deriving DecidableEq

def PolicyRequest.serve (strategies : List Nat) (now : Int) (store : PolicyStore) :
    PolicyRequest → Except HttpError (PolicyAnswer × PolicyStore)
  | .create strategyId actorUserId changeNote =>
    createStrategyMarketPolicy digest strategies now strategyId actorUserId changeNote store
  | .prepare strategyId actorUserId changeNote =>
    prepareStrategyMarketPolicyRevision digest strategyId actorUserId changeNote store
  | .save args => saveStrategyMarketPolicyRevision digest args store
  | .activate args => activateStrategyMarketPolicyRevision digest now args store

end Source

end AiTrader.MarketPolicy
