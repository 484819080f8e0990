import AiTrader.Entry.ExposureClaim
import AiTrader.MarketPolicy.Revision

/-! # Market policy enrollment

An assignment is enrolled under the active revision of its strategy's market policy, one generation after the other. An
owner prepares a generation, activates it under its fingerprint, and disables it; every change of its status is logged. The
transactions are serializable. -/

namespace AiTrader.MarketPolicy

open Library

inductive PlatformRole where
  | systemOwner | operator | accountUser
deriving DecidableEq

structure UserRow where
  id : Nat
  platformRole : PlatformRole
  enabled : Bool
deriving DecidableEq

structure TradingAccountRow where
  id : Nat
  environment : Entry.Environment
  accountHolderUserId : Nat
deriving DecidableEq

/-- A row of `TradingAccountSubscription`, with the strategy of its subscription. -/
structure AssignmentRow where
  (id tradingAccountId routingStrategyId subscriptionStrategyId : Nat)

/-- What other services write and enrollment reads. -/
structure EnrollmentContext where
  users : List UserRow
  accounts : List TradingAccountRow
  assignments : List AssignmentRow
  policy : PolicyStore

inductive EnrollmentStatus where
  | prepared | active | disabled
deriving DecidableEq

inductive TransitionAction where
  | prepare | activate | disable
deriving DecidableEq

/-- A row of `AssignmentMarketPolicyEnrollment`. -/
structure Enrollment where
  (id accountSubscriptionId : Nat)
deriving DecidableEq

/-- A row of `AssignmentMarketPolicyEnrollmentGeneration`. -/
structure EnrollmentGeneration where
  (id enrollmentId generation : Nat)
  status : EnrollmentStatus
  (tradingAccountId accountSubscriptionId strategyId policyRevisionId accountHolderUserId : Nat)
  configurationFingerprint : String
  preparedByUserId : Nat
  activatedByUserId : Option Nat
  activatedAt : Option Int
  disabledByUserId : Option Nat
  disabledAt : Option Int
  disableReason : Option String
deriving DecidableEq

/-- A row of `AssignmentMarketPolicyEnrollmentTransition`. -/
structure EnrollmentTransition where
  (generationId sequence : Nat)
  action : TransitionAction
  fromStatus : Option EnrollmentStatus
  toStatus : EnrollmentStatus
  (actorUserId accountHolderUserId : Nat)
  configurationFingerprint : String
  reason : Option String
deriving DecidableEq

structure EnrollmentStore where
  enrollments : List Enrollment
  generations : List EnrollmentGeneration
  transitions : List EnrollmentTransition
deriving DecidableEq

/-- An assignment as `assignmentSelect` reads it, with its account and the active revision of its strategy. -/
structure SelectedAssignment where
  assignment : AssignmentRow
  account : TradingAccountRow
  activeRevision : Option PolicyRevision

/-- The active revision of a strategy's market policy. -/
def PolicyStore.activeRevision (store : PolicyStore) (strategyId : Nat) : Option PolicyRevision :=
  (store.policyOf strategyId).bind fun policy => store.findStatus policy.id .active

/-- The actor is an enabled owner. -/
def isEnabledOwner (users : List UserRow) (actorUserId : Nat) : Bool :=
  (users.find? (·.id = actorUserId)).any fun actor => actor.enabled && actor.platformRole = .systemOwner

namespace EnrollmentContext

def findAssignment (context : EnrollmentContext) (accountId assignmentId : Nat) : Option SelectedAssignment := do
  let assignment ← context.assignments.find? fun row => row.id = assignmentId ∧ row.tradingAccountId = accountId
  let account ← context.accounts.find? (·.id = assignment.tradingAccountId)
  some ⟨assignment, account, context.policy.activeRevision assignment.subscriptionStrategyId⟩

/-- `assertOwner` -/
def isOwner (context : EnrollmentContext) (actorUserId : Nat) : Bool := isEnabledOwner context.users actorUserId

end EnrollmentContext

namespace EnrollmentStore

section

variable (store : EnrollmentStore)

def findEnrollment (accountSubscriptionId : Nat) : Option Enrollment :=
  store.enrollments.find? (·.accountSubscriptionId = accountSubscriptionId)

def generationsOf (enrollmentId : Nat) : List EnrollmentGeneration :=
  store.generations.filter (·.enrollmentId = enrollmentId)

def findGeneration (generationId accountSubscriptionId : Nat) : Option EnrollmentGeneration :=
  store.generations.find? fun row => row.id = generationId ∧ row.accountSubscriptionId = accountSubscriptionId

def transitionsOf (generationId : Nat) : List EnrollmentTransition :=
  store.transitions.filter (·.generationId = generationId)

/-- `upsert` with an empty update. -/
def upsertEnrollment (accountSubscriptionId : Nat) : Enrollment × EnrollmentStore :=
  match store.findEnrollment accountSubscriptionId with
  | some enrollment => (enrollment, store)
  | none =>
    let enrollment : Enrollment := ⟨Table.nextId (store.enrollments.map (·.id)), accountSubscriptionId⟩
    (enrollment, { store with enrollments := store.enrollments ++ [enrollment] })

/-- A generation changes with a row in the log. -/
def updateGeneration (id : Nat) (change : EnrollmentGeneration → EnrollmentGeneration)
    (transition : EnrollmentTransition) : EnrollmentStore :=
  { store with
    generations := Table.updateWhere (·.id = id) change store.generations
    transitions := store.transitions ++ [transition] }

end

end EnrollmentStore

section Source

/-- `AssignmentEnrollmentConfigurationIdentity` -/
structure ConfigurationIdentity where
  (accountId assignmentId strategyId policyRevisionId : Nat)
  policyConfigurationFingerprint : String
  accountHolderUserId : Nat
  environment : Entry.Environment
  generation : Nat

/-- SHA-256 of the JSON texts of a revision's rules and a generation's identity. -/
structure Digests where
  rules : List CanonicalRule → String
  assignmentEnrollmentConfigurationFingerprint : ConfigurationIdentity → String

variable (digests : Digests)

/-- The identity that a new generation is bound to. -/
def SelectedAssignment.identity (selected : SelectedAssignment) (revision : PolicyRevision) (generation : Nat) :
    ConfigurationIdentity :=
  { accountId := selected.assignment.tradingAccountId
    assignmentId := selected.assignment.id
    strategyId := selected.assignment.routingStrategyId
    policyRevisionId := revision.id
    policyConfigurationFingerprint := strategyMarketPolicyConfigurationFingerprint digests.rules revision.rules
    accountHolderUserId := selected.account.accountHolderUserId
    environment := selected.account.environment
    generation }

/-- A new prepared generation. -/
def EnrollmentStore.newGeneration (store : EnrollmentStore) (selected : SelectedAssignment) (enrollment : Enrollment)
    (revision : PolicyRevision) (generation actorUserId : Nat) : EnrollmentGeneration :=
  { id := Table.nextId (store.generations.map (·.id)), enrollmentId := enrollment.id, generation, status := .prepared
    tradingAccountId := selected.assignment.tradingAccountId, accountSubscriptionId := selected.assignment.id
    strategyId := selected.assignment.routingStrategyId, policyRevisionId := revision.id
    accountHolderUserId := selected.account.accountHolderUserId
    configurationFingerprint :=
      digests.assignmentEnrollmentConfigurationFingerprint (selected.identity digests revision generation)
    preparedByUserId := actorUserId, activatedByUserId := none, activatedAt := none, disabledByUserId := none
    disabledAt := none, disableReason := none }

/-- The row of the log for a change of a generation. -/
def EnrollmentGeneration.transition (row : EnrollmentGeneration) (sequence : Nat) (action : TransitionAction)
    (fromStatus : Option EnrollmentStatus) (toStatus : EnrollmentStatus) (actorUserId : Nat) (reason : Option String) :
    EnrollmentTransition :=
  { generationId := row.id, sequence, action, fromStatus, toStatus, actorUserId
    accountHolderUserId := row.accountHolderUserId, configurationFingerprint := row.configurationFingerprint, reason }

structure PrepareEnrollment where
  (accountId assignmentId actorUserId : Nat)

structure ActivateEnrollment where
  (accountId assignmentId generationId actorUserId : Nat)
  expectedConfigurationFingerprint : String

structure DisableEnrollment where
  (accountId assignmentId generationId actorUserId : Nat)
  reason : String

section

variable (context : EnrollmentContext)

def prepareAssignmentMarketPolicyEnrollment (args : PrepareEnrollment)
    (store : EnrollmentStore) : Except HttpError (EnrollmentGeneration × EnrollmentStore) := do
  require (context.isOwner args.actorUserId) 403 "SYSTEM_OWNER authorization is required."
  let selected ← requireSome (context.findAssignment args.accountId args.assignmentId) 404
    "Trading account subscription not found."
  require (selected.account.environment = .paper) 409 "Market-policy enrollment is PAPER-only."
  let revision ← requireSome selected.activeRevision 409 "The assignment strategy requires an ACTIVE market-policy revision."
  require (validateMarketPolicyRules revision.rules).valid 409 "The active market-policy revision is invalid."
  let (enrollment, enrolled) := store.upsertEnrollment args.assignmentId
  require (!(enrolled.generationsOf enrollment.id).any fun row => row.status = .prepared ∨ row.status = .active) 409
    "Disable the current enrollment generation before re-enrolling."
  let generation := ((latest (·.generation) (enrolled.generationsOf enrollment.id)).map (·.generation)).getD 0 + 1
  let row := enrolled.newGeneration digests selected enrollment revision generation args.actorUserId
  .ok (row, { enrolled with
    generations := enrolled.generations ++ [row]
    transitions := enrolled.transitions ++ [row.transition 1 .prepare none .prepared args.actorUserId none] })

def activateAssignmentMarketPolicyEnrollment (now : Int) (args : ActivateEnrollment)
    (store : EnrollmentStore) : Except HttpError (EnrollmentGeneration × EnrollmentStore) := do
  require (context.isOwner args.actorUserId) 403 "SYSTEM_OWNER authorization is required."
  let selected ← requireSome (context.findAssignment args.accountId args.assignmentId) 404
    "Trading account subscription not found."
  let row ← requireSome (store.findGeneration args.generationId args.assignmentId) 404 "Enrollment generation not found."
  require (row.status = .prepared) 409 "Only a PREPARED enrollment generation can be activated."
  require (row.configurationFingerprint = args.expectedConfigurationFingerprint) 409
    "Enrollment configuration changed after it was loaded."
  require (selected.account.environment = .paper) 409 "Market-policy enrollment is PAPER-only."
  require (selected.account.accountHolderUserId = row.accountHolderUserId) 409
    "Account ownership changed; disable and prepare a new authorization generation."
  require (selected.activeRevision.map (·.id) = some row.policyRevisionId) 409
    "The bound policy revision is no longer ACTIVE."
  let change := fun row : EnrollmentGeneration =>
    { row with status := .active, activatedByUserId := some args.actorUserId, activatedAt := some now }
  .ok (change row, store.updateGeneration row.id change
    (row.transition 2 .activate (some .prepared) .active args.actorUserId none))

def disableAssignmentMarketPolicyEnrollment (now : Int) (args : DisableEnrollment)
    (store : EnrollmentStore) : Except HttpError (EnrollmentGeneration × EnrollmentStore) := do
  require (context.isOwner args.actorUserId) 403 "SYSTEM_OWNER authorization is required."
  let _ ← requireSome (context.findAssignment args.accountId args.assignmentId) 404 "Trading account subscription not found."
  let row ← requireSome (store.findGeneration args.generationId args.assignmentId) 404 "Enrollment generation not found."
  require (row.status ≠ .disabled) 409 "Enrollment generation is already DISABLED."
  let sequence := if row.status = .prepared then 2 else 3
  let change := fun row : EnrollmentGeneration =>
    { row with
      status := .disabled, disabledByUserId := some args.actorUserId, disabledAt := some now
      disableReason := some args.reason }
  .ok (change row, store.updateGeneration row.id change
    (row.transition sequence .disable (some row.status) .disabled args.actorUserId (some args.reason)))

end

inductive EnrollmentRequest where
  | prepare (args : PrepareEnrollment)
  | activate (args : ActivateEnrollment)
  | disable (args : DisableEnrollment)

def EnrollmentRequest.serve (context : EnrollmentContext) (now : Int) (store : EnrollmentStore) :
    EnrollmentRequest → Except HttpError (EnrollmentGeneration × EnrollmentStore)
  | .prepare args => prepareAssignmentMarketPolicyEnrollment digests context args store
  | .activate args => activateAssignmentMarketPolicyEnrollment context now args store
  | .disable args => disableAssignmentMarketPolicyEnrollment context now args store

end Source

end AiTrader.MarketPolicy
