import AiTrader.MarketPolicy.Enrollment
import AiTrader.Policy.Enforcement

/-! # Market policy enforcement authorizations

An owner authorizes the enforcement of one active enrollment generation, revokes it, or resolves its lapse after an
automatic invalidation; admission resolves what the latest one means. -/

namespace AiTrader.MarketPolicy

open Library

/-- A row of `TradingAccountSubscription`. -/
structure SubscribedAssignment where
  (id tradingAccountId routingStrategyId routingSecurityId subscriptionId : Nat)
deriving DecidableEq

structure SubscriptionRow where
  (id strategyId securityId : Nat)
  symbol : String
deriving DecidableEq

structure SecurityRow where
  id : Nat
  symbol : String
deriving DecidableEq

/-- The configuration that authorizations are bound to. -/
structure EnforcementContext where
  users : List UserRow
  accounts : List TradingAccountRow
  assignments : List SubscribedAssignment
  subscriptions : List SubscriptionRow
  securities : List SecurityRow
  policy : PolicyStore
  generations : List EnrollmentGeneration
deriving DecidableEq

/-- A row of `AssignmentMarketPolicyEnforcementLapseResolution`. -/
structure LapseResolution where
  resolution : String
  resolvedByUserId : Nat
  reason : String
deriving DecidableEq

/-- A row of `AssignmentMarketPolicyEnforcementAuthorization` with its lapse resolution. -/
structure EnforcementAuthorization where
  (id enrollmentId enrollmentGenerationId authorizationSequence : Nat)
  authorityVersion : String
  status : Policy.AuthorizationStatus
  environment : Entry.Environment
  (tradingAccountId accountSubscriptionId strategyId : Nat)
  (subscriptionId securityId : Option Nat)
  securitySymbol : Option String
  (policyRevisionId accountHolderUserId : Nat)
  (configurationFingerprint authorizationFingerprint : String)
  authorizedByUserId : Nat
  grantReason : String
  revokedByUserId : Option Nat
  (revocationReason invalidationReasonCode : Option String)
  lapseResolution : Option LapseResolution
deriving DecidableEq

/-- `MARKET_POLICY_ENFORCEMENT_AUTHORITY_VERSION` -/
def marketPolicyEnforcementAuthorityVersion : String := "PAPER_MARKET_POLICY_ENFORCEMENT_V2"

/-- `MARKET_POLICY_LAPSE_RESOLUTION` -/
def marketPolicyLapseResolution : String := "RESTORE_NON_ENFORCED"

/-- `EnforcementAuthorizationBlockingCode` -/
inductive BlockingCode where
  | accountNotPaper | enrollmentGenerationRequired | enrollmentNotActive | assignmentIdentityMismatch
  | securityIdentityInconsistent | accountOwnershipChanged | activePolicyRequired | policyRevisionSuperseded
  | policyConfigurationInvalid | configurationFingerprintMismatch | authorizationAlreadyEffective

def BlockingCode.text : BlockingCode → String
  | .accountNotPaper => "ACCOUNT_NOT_PAPER"
  | .enrollmentGenerationRequired => "ENROLLMENT_GENERATION_REQUIRED"
  | .enrollmentNotActive => "ENROLLMENT_NOT_ACTIVE"
  | .assignmentIdentityMismatch => "ASSIGNMENT_IDENTITY_MISMATCH"
  | .securityIdentityInconsistent => "SECURITY_IDENTITY_INCONSISTENT"
  | .accountOwnershipChanged => "ACCOUNT_OWNERSHIP_CHANGED"
  | .activePolicyRequired => "ACTIVE_POLICY_REQUIRED"
  | .policyRevisionSuperseded => "POLICY_REVISION_SUPERSEDED"
  | .policyConfigurationInvalid => "POLICY_CONFIGURATION_INVALID"
  | .configurationFingerprintMismatch => "CONFIGURATION_FINGERPRINT_MISMATCH"
  | .authorizationAlreadyEffective => "AUTHORIZATION_ALREADY_EFFECTIVE"

/-- `BLOCKING_MESSAGES` -/
def BlockingCode.message : BlockingCode → String
  | .accountNotPaper => "Market-policy enforcement authorization is PAPER-only."
  | .enrollmentGenerationRequired => "The assignment has no enrollment generation to authorize."
  | .enrollmentNotActive => "Only an ACTIVE enrollment generation can be authorized."
  | .assignmentIdentityMismatch =>
    "The enrollment generation no longer matches the exact account, assignment, and Strategy."
  | .securityIdentityInconsistent =>
    "The assignment Subscription symbol, routing Security, and canonical Security do not agree."
  | .accountOwnershipChanged => "The account holder changed after the enrollment generation was prepared."
  | .activePolicyRequired => "The assignment Strategy has no ACTIVE market-policy revision."
  | .policyRevisionSuperseded => "The bound policy revision is no longer the Strategy's ACTIVE revision."
  | .policyConfigurationInvalid => "The bound policy revision does not validly describe all five market dimensions."
  | .configurationFingerprintMismatch => "The enrollment configuration fingerprint no longer matches the bound identity."
  | .authorizationAlreadyEffective => "An effective enforcement authorization already exists for this assignment."

/-- `EnforcementSecurityIdentity` -/
structure SecurityIdentity where
  subscriptionId : Nat
  subscriptionSymbol : String
  (subscriptionSecurityId subscriptionStrategyId routingSecurityId securityId : Nat)
  securitySymbol : String

def securityIdentityConsistent (security : SecurityIdentity) (routingStrategyId : Nat) : Bool :=
  security.routingSecurityId = security.subscriptionSecurityId ∧ security.securityId = security.routingSecurityId ∧
    security.subscriptionStrategyId = routingStrategyId ∧
    Entry.normalizeSymbol security.subscriptionSymbol = security.securitySymbol

/-- The revision that a generation is bound to, with the strategy of its policy. -/
structure BoundRevision where
  id : Nat
  status : PolicyRevisionStatus
  strategyId : Nat
  dimensionRules : List PolicyRule

/-- `EnforcementAuthorizationContext`, as the services load it, with the security. -/
structure AuthorizationContext where
  account : TradingAccountRow
  assignment : SubscribedAssignment
  security : SecurityIdentity
  activePolicyRevisionId : Option Nat
  generation : Option EnrollmentGeneration
  boundRevision : Option BoundRevision
  effectiveAuthorizationId : Option Nat

/-- The identity that the fingerprint of an authorization covers. -/
structure AuthorizationIdentity where
  (accountId assignmentId subscriptionId securityId : Nat)
  securitySymbol : String
  (strategyId policyRevisionId enrollmentId enrollmentGenerationId generation : Nat)
  configurationFingerprint : String
  (accountHolderUserId authorizationSequence : Nat)

structure EnforcementDigests extends Digests where
  enforcementAuthorizationFingerprint : AuthorizationIdentity → String

variable (digests : EnforcementDigests)

/-- The identity that a generation stands for under the current account and the bound revision. -/
def expectedIdentity (account : TradingAccountRow) (generation : EnrollmentGeneration) (revision : BoundRevision) :
    ConfigurationIdentity :=
  { accountId := generation.tradingAccountId
    assignmentId := generation.accountSubscriptionId
    strategyId := generation.strategyId
    policyRevisionId := revision.id
    policyConfigurationFingerprint := strategyMarketPolicyConfigurationFingerprint digests.rules revision.dimensionRules
    accountHolderUserId := account.accountHolderUserId
    environment := account.environment
    generation := generation.generation }

section

variable (context : AuthorizationContext)

/-- The generation belongs to the account, assignment and strategy, also that of its revision. -/
def identityMatches (generation : EnrollmentGeneration) : Bool :=
  generation.tradingAccountId = context.account.id ∧ generation.accountSubscriptionId = context.assignment.id ∧
    generation.tradingAccountId = context.assignment.tradingAccountId ∧
    generation.strategyId = context.assignment.routingStrategyId ∧
    context.boundRevision.all (·.strategyId = generation.strategyId)

/-- The codes that the generation gives rise to. -/
def generationCodes (generation : EnrollmentGeneration) : List BlockingCode :=
  let ownershipValid := decide (generation.accountHolderUserId = context.account.accountHolderUserId)
  let revisionCurrent := decide (context.activePolicyRevisionId = some generation.policyRevisionId ∧
    context.boundRevision.any (·.status = .active) = true)
  (if generation.status ≠ .active then [.enrollmentNotActive] else []) ++
    (if identityMatches context generation then [] else [.assignmentIdentityMismatch]) ++
    (if ownershipValid then [] else [.accountOwnershipChanged]) ++
    (if context.activePolicyRevisionId.isSome ∧ revisionCurrent = false then [.policyRevisionSuperseded] else []) ++
    (if context.boundRevision.any fun revision => !(validateMarketPolicyRules revision.dimensionRules).valid then
      [.policyConfigurationInvalid] else []) ++
    (if identityMatches context generation = true ∧ ownershipValid = true ∧ context.account.environment = .paper ∧
        context.boundRevision.any (fun revision => digests.assignmentEnrollmentConfigurationFingerprint
          (expectedIdentity digests context.account generation revision) ≠ generation.configurationFingerprint) = true then
      [.configurationFingerprintMismatch] else [])

/-- The blocking reasons of `evaluateEnforcementAuthorizationEligibility`. -/
def blockingReasons : List BlockingCode :=
  (if context.account.environment ≠ .paper then [.accountNotPaper] else []) ++
    (if context.activePolicyRevisionId.isNone then [.activePolicyRequired] else []) ++
    (if securityIdentityConsistent context.security context.assignment.routingStrategyId then []
    else [.securityIdentityInconsistent]) ++
    (match context.generation with
    | none => [.enrollmentGenerationRequired]
    | some generation => generationCodes digests context generation) ++
    (if context.effectiveAuthorizationId.isSome then [.authorizationAlreadyEffective] else [])

end

structure EligibilityEvaluation where
  eligible : Bool
  blockingReasons : List BlockingCode
  configurationValidity : MarketPolicyValidation
  expectedConfigurationFingerprint : Option String

def evaluateEnforcementAuthorizationEligibility (context : AuthorizationContext) : EligibilityEvaluation :=
  { eligible := (blockingReasons digests context).isEmpty
    blockingReasons := blockingReasons digests context
    configurationValidity := (context.boundRevision.map fun revision => validateMarketPolicyRules revision.dimensionRules).getD
      ⟨false, [⟨none, "BOUND_POLICY_REVISION_REQUIRED", "No enrollment generation binds a policy revision."⟩]⟩
    expectedConfigurationFingerprint := do
      let generation ← context.generation
      let revision ← context.boundRevision
      some (digests.assignmentEnrollmentConfigurationFingerprint
        (expectedIdentity digests context.account generation revision)) }

section Resolution

/-- The tables of a transaction: the configuration and the authorizations. -/
structure EnforcementSystem where
  context : EnforcementContext
  authorizations : List EnforcementAuthorization
deriving DecidableEq

structure LoadedContext where
  generation : Option EnrollmentGeneration
  boundRevision : Option BoundRevision
  (effective latest : Option EnforcementAuthorization)
  context : AuthorizationContext

namespace EnforcementContext

def findBoundRevision (context : EnforcementContext) (revisionId : Nat) : Option BoundRevision := do
  let revision ← context.policy.revisions.find? (·.id = revisionId)
  let policy ← context.policy.policies.find? (·.id = revision.policyId)
  some ⟨revision.id, revision.status, policy.strategyId, revision.rules⟩

/-- The named generation of the assignment, or its latest one that is not disabled, or its latest one. -/
def findGeneration (context : EnforcementContext) (assignmentId : Nat) : Option Nat → Option EnrollmentGeneration
  | some generationId => context.generations.find? fun row => row.id = generationId ∧ row.accountSubscriptionId = assignmentId
  | none =>
    let rows := context.generations.filter (·.accountSubscriptionId = assignmentId)
    (latest (·.generation) (rows.filter (·.status ≠ .disabled))).or (latest (·.generation) rows)

end EnforcementContext

namespace EnforcementSystem

section

variable (system : EnforcementSystem)

def authorizationsOf (assignmentId : Nat) : List EnforcementAuthorization :=
  system.authorizations.filter (·.accountSubscriptionId = assignmentId)

def latestAuthorization (assignmentId : Nat) : Option EnforcementAuthorization :=
  latest (·.id) (system.authorizationsOf assignmentId)

def effectiveAuthorization (assignmentId : Nat) : Option EnforcementAuthorization :=
  (system.authorizationsOf assignmentId).find? (·.status = .authorized)

def loadContext (accountId assignmentId : Nat) (generationId : Option Nat) :
    Option LoadedContext := do
  let context := system.context
  let assignment ← context.assignments.find? fun row => row.id = assignmentId ∧ row.tradingAccountId = accountId
  let account ← context.accounts.find? (·.id = assignment.tradingAccountId)
  let subscription ← context.subscriptions.find? (·.id = assignment.subscriptionId)
  let security ← context.securities.find? (·.id = subscription.securityId)
  let generation := context.findGeneration assignmentId generationId
  let boundRevision := generation.bind fun generation => context.findBoundRevision generation.policyRevisionId
  let effective := system.effectiveAuthorization assignmentId
  some {
    generation
    boundRevision
    effective
    latest := system.latestAuthorization assignmentId
    context := {
      account
      assignment
      security := ⟨assignment.subscriptionId, subscription.symbol, subscription.securityId, subscription.strategyId,
        assignment.routingSecurityId, security.id, security.symbol⟩
      activePolicyRevisionId := (context.policy.activeRevision subscription.strategyId).map (·.id)
      generation
      boundRevision
      effectiveAuthorizationId := effective.map (·.id) } }

end

end EnforcementSystem

section

variable (authorization : EnforcementAuthorization)

/-- The identity of an authorization, where it names a subscription and a security. -/
def EnforcementAuthorization.identity (generation : EnrollmentGeneration) :
    Option AuthorizationIdentity := do
  let subscriptionId ← authorization.subscriptionId
  let securityId ← authorization.securityId
  let securitySymbol ← authorization.securitySymbol
  some {
    accountId := authorization.tradingAccountId
    assignmentId := authorization.accountSubscriptionId
    subscriptionId
    securityId
    securitySymbol
    strategyId := authorization.strategyId
    policyRevisionId := authorization.policyRevisionId
    enrollmentId := authorization.enrollmentId
    enrollmentGenerationId := authorization.enrollmentGenerationId
    generation := generation.generation
    configurationFingerprint := authorization.configurationFingerprint
    accountHolderUserId := authorization.accountHolderUserId
    authorizationSequence := authorization.authorizationSequence }

/-- The authorization names the subscription, security, account and strategy of the assignment. -/
def securityMatches (context : AuthorizationContext) : Bool :=
  authorization.subscriptionId = some context.security.subscriptionId ∧
    authorization.securityId = some context.security.securityId ∧
    authorization.securitySymbol = some context.security.securitySymbol ∧
    authorization.tradingAccountId = context.assignment.tradingAccountId ∧
    authorization.strategyId = context.assignment.routingStrategyId

/-- The reasons that the row of the authorization gives. -/
def rowReasons (context : AuthorizationContext) : List String :=
  (if authorization.authorityVersion ≠ marketPolicyEnforcementAuthorityVersion then
    ["AUTHORITY_BINDING_REAPPROVAL_REQUIRED"] else []) ++
    (match context.generation.filter (·.id = authorization.enrollmentGenerationId) with
    | none => ["AUTHORIZED_GENERATION_NOT_CURRENT"]
    | some generation =>
      if generation.configurationFingerprint = authorization.configurationFingerprint ∧
          generation.policyRevisionId = authorization.policyRevisionId ∧
          generation.accountHolderUserId = authorization.accountHolderUserId ∧
          generation.strategyId = authorization.strategyId then []
      else ["AUTHORIZATION_IDENTITY_MISMATCH"]) ++
    (if authorization.environment ≠ .paper then ["ACCOUNT_NOT_PAPER"] else []) ++
    (if securityMatches authorization context then [] else ["AUTHORIZATION_SECURITY_MISMATCH"]) ++
    (match context.generation.bind authorization.identity with
    | some identity =>
      if authorization.authorityVersion = marketPolicyEnforcementAuthorityVersion ∧
          digests.enforcementAuthorizationFingerprint identity ≠ authorization.authorizationFingerprint then
        ["AUTHORIZATION_FINGERPRINT_MISMATCH"] else []
    | none => [])

def authorizationIneffectiveReasons (context : AuthorizationContext) :
    List String :=
  (blockingReasons digests { context with effectiveAuthorizationId := none }).foldl
    (fun reasons code => if code.text ∈ reasons then reasons else reasons ++ [code.text]) (rowReasons digests authorization context)

/-- The row as entry admission records it. -/
def EnforcementAuthorization.row : Policy.AuthorizationRow :=
  { id := authorization.id
    accountSubscriptionId := authorization.accountSubscriptionId
    status := authorization.status
    authorityVersion := authorization.authorityVersion
    authorizationFingerprint := authorization.authorizationFingerprint
    enrollmentGenerationId := authorization.enrollmentGenerationId
    policyRevisionId := authorization.policyRevisionId
    invalidationReasonCode := authorization.invalidationReasonCode
    lapseResolved := authorization.lapseResolution.isSome }

end

inductive MarketPolicyEntryBehavior where
  | existingEntryBehavior | marketPolicyEnforced | failClosed | explicitlyNonEnforced

/-- `DISPOSITION_BEHAVIOR` -/
def dispositionBehavior : Policy.Disposition → MarketPolicyEntryBehavior
  | .neverAuthorized | .notApplicableLive => .existingEntryBehavior
  | .enforced => .marketPolicyEnforced
  | .authorizationIneffective | .lapsed => .failClosed
  | .ownerRevoked | .ownerOptedOut => .explicitlyNonEnforced

def marketPolicyEntryBehavior (disposition : Policy.Disposition) (runtimeActive : Bool) : MarketPolicyEntryBehavior :=
  if runtimeActive then dispositionBehavior disposition else .existingEntryBehavior

/-- `LockedMarketPolicyEnforcementResolution` -/
structure LockedResolution where
  disposition : Policy.Disposition
  reasons : List String
  authorization : Option EnforcementAuthorization
  identity : Policy.ResolvedIdentity
  generation : Option EnrollmentGeneration
  boundRevision : Option BoundRevision

/-- The reasons against an authorization in force, when the admission has locked this security. -/
def lockedReasons (authorization : EnforcementAuthorization) (securityId : Nat) : Option LoadedContext → List String
  | none => ["ASSIGNMENT_IDENTITY_MISMATCH"]
  | some loaded =>
    authorizationIneffectiveReasons digests authorization loaded.context ++
      if loaded.context.security.securityId ≠ securityId then ["ASSIGNMENT_SECURITY_CHANGED_DURING_ADMISSION"] else []

/-- The context is loaded after the row's locks, which keep the assignment's authorizations as they are. -/
def resolveLockedAssignmentMarketPolicyEnforcement (system : EnforcementSystem) (current : EnforcementContext)
    (accountSubscriptionId : Nat) : Except Policy.ResolutionError LockedResolution := do
  let some assignment := system.context.assignments.find? (·.id = accountSubscriptionId) | throw .notFound
  let some account := system.context.accounts.find? (·.id = assignment.tradingAccountId) | throw .assignmentAccountChanged
  let some subscription := system.context.subscriptions.find? (·.id = assignment.subscriptionId)
    | throw .assignmentSecurityIdentityMissing
  let some security := system.context.securities.find? (·.id = subscription.securityId)
    | throw .assignmentSecurityIdentityMissing
  let identity : Policy.ResolvedIdentity :=
    { tradingAccountId := account.id
      accountSubscriptionId
      environment := account.environment
      strategyId := assignment.routingStrategyId
      subscriptionId := assignment.subscriptionId
      securityId := security.id
      securitySymbol := security.symbol }
  if account.environment ≠ .paper then
    return ⟨.notApplicableLive, [], none, identity, none, none⟩
  let some authorization := system.latestAuthorization accountSubscriptionId
    | return ⟨.neverAuthorized, [], none, identity, none, none⟩
  if authorization.status ≠ .authorized then
    let disposition := Policy.deriveMarketPolicyEnforcementDisposition account.environment (some authorization.row) []
    let reasons := if disposition = .lapsed then [authorization.invalidationReasonCode.getD "INVALIDATED"] else []
    return ⟨disposition, reasons, some authorization, identity, none, none⟩
  let loaded := EnforcementSystem.loadContext { system with context := current } account.id accountSubscriptionId
    (some authorization.enrollmentGenerationId)
  let reasons := lockedReasons digests authorization identity.securityId loaded
  return {
    disposition := Policy.deriveMarketPolicyEnforcementDisposition account.environment (some authorization.row) reasons
    reasons
    authorization := some authorization
    identity
    generation := loaded.bind (·.generation)
    boundRevision := loaded.bind (·.boundRevision) }

end Resolution

structure GrantAuthorization where
  (accountId assignmentId generationId : Nat)
  expectedConfigurationFingerprint : String
  expectedPolicyRevisionId : Nat
  reason : String
  actorUserId : Nat

/-- A revocation, or the resolution of a lapse. -/
structure EndAuthorization where
  (accountId assignmentId authorizationId : Nat)
  reason : String
  actorUserId : Nat

section

variable (system : EnforcementSystem)

/-- A new authorization of a generation. -/
def EnforcementSystem.newAuthorization (args : GrantAuthorization)
    (generation : EnrollmentGeneration) (security : SecurityIdentity) : EnforcementAuthorization :=
  let authorizationSequence := ((latest (·.authorizationSequence)
    (system.authorizations.filter (·.enrollmentGenerationId = generation.id))).map (·.authorizationSequence)).getD 0 + 1
  { id := Table.nextId (system.authorizations.map (·.id)), enrollmentId := generation.enrollmentId
    enrollmentGenerationId := generation.id, authorizationSequence
    authorityVersion := marketPolicyEnforcementAuthorityVersion, status := .authorized, environment := .paper
    tradingAccountId := args.accountId, accountSubscriptionId := args.assignmentId, strategyId := generation.strategyId
    subscriptionId := some security.subscriptionId, securityId := some security.securityId
    securitySymbol := some security.securitySymbol, policyRevisionId := generation.policyRevisionId
    accountHolderUserId := generation.accountHolderUserId
    configurationFingerprint := generation.configurationFingerprint
    authorizationFingerprint := digests.enforcementAuthorizationFingerprint
      { accountId := args.accountId, assignmentId := args.assignmentId, subscriptionId := security.subscriptionId
        securityId := security.securityId, securitySymbol := security.securitySymbol, strategyId := generation.strategyId
        policyRevisionId := generation.policyRevisionId, enrollmentId := generation.enrollmentId
        enrollmentGenerationId := generation.id, generation := generation.generation
        configurationFingerprint := generation.configurationFingerprint
        accountHolderUserId := generation.accountHolderUserId, authorizationSequence }
    authorizedByUserId := args.actorUserId, grantReason := args.reason, revokedByUserId := none, revocationReason := none
    invalidationReasonCode := none, lapseResolution := none }

/-- `assertEnabledOwner` -/
def EnforcementSystem.isOwner (actorUserId : Nat) : Bool :=
  isEnabledOwner system.context.users actorUserId

def EnforcementSystem.findAuthorization (args : EndAuthorization) :
    Option EnforcementAuthorization :=
  system.authorizations.find? fun row => row.id = args.authorizationId ∧ row.accountSubscriptionId = args.assignmentId ∧
    row.tradingAccountId = args.accountId

def EnforcementSystem.updateAuthorization (id : Nat)
    (change : EnforcementAuthorization → EnforcementAuthorization) : EnforcementSystem :=
  { system with authorizations := Table.updateWhere (·.id = id) change system.authorizations }

end

def grantAssignmentMarketPolicyEnforcementAuthorization (args : GrantAuthorization) (system : EnforcementSystem) :
    Except HttpError (EnforcementAuthorization × EnforcementSystem) := do
  require (system.isOwner args.actorUserId) 403 "SYSTEM_OWNER authorization is required."
  let loaded ← requireSome (system.loadContext args.accountId args.assignmentId (some args.generationId)) 404
    "Trading account subscription not found."
  let generation ← requireSome loaded.generation 404 "Enrollment generation not found."
  require (generation.configurationFingerprint = args.expectedConfigurationFingerprint) 409
    "Enrollment configuration changed after it was loaded."
  require (generation.policyRevisionId = args.expectedPolicyRevisionId) 409
    "The enrollment generation binds a different policy revision than expected."
  require loaded.effective.isNone 409 (BlockingCode.message .authorizationAlreadyEffective)
  let evaluation := evaluateEnforcementAuthorizationEligibility digests loaded.context
  require evaluation.eligible 409 ((evaluation.blockingReasons.head?.map (·.message)).getD "")
  let row := system.newAuthorization digests args generation loaded.context.security
  .ok (row, { system with authorizations := system.authorizations ++ [row] })

def revokeAssignmentMarketPolicyEnforcementAuthorization (args : EndAuthorization) (system : EnforcementSystem) :
    Except HttpError (EnforcementAuthorization × EnforcementSystem) := do
  require (system.isOwner args.actorUserId) 403 "SYSTEM_OWNER authorization is required."
  let row ← requireSome (system.findAuthorization args) 404 "Enforcement authorization not found."
  require (row.status ≠ .revoked) 409 "Enforcement authorization is already REVOKED."
  require (row.status ≠ .invalidated) 409 "Enforcement authorization was already INVALIDATED."
  let change := fun row : EnforcementAuthorization =>
    { row with
      status := .revoked, revokedByUserId := some args.actorUserId, revocationReason := some args.reason }
  .ok (change row, system.updateAuthorization row.id change)

def resolveAssignmentMarketPolicyEnforcementLapse (args : EndAuthorization) (system : EnforcementSystem) :
    Except HttpError (EnforcementAuthorization × EnforcementSystem) := do
  require (system.isOwner args.actorUserId) 403 "SYSTEM_OWNER authorization is required."
  let row ← requireSome (system.findAuthorization args) 404 "Enforcement authorization not found."
  require (row.status = .invalidated) 409 "Only an automatically INVALIDATED authorization has a lapse to resolve."
  require row.lapseResolution.isNone 409 "This invalidated authorization was already resolved."
  require (!(system.authorizationsOf args.assignmentId).any fun later => row.id < later.id) 409
    "A later authorization supersedes this invalidated authorization."
  let change := fun row : EnforcementAuthorization =>
    { row with lapseResolution := some ⟨marketPolicyLapseResolution, args.actorUserId, args.reason⟩ }
  .ok (change row, system.updateAuthorization row.id change)

end AiTrader.MarketPolicy
