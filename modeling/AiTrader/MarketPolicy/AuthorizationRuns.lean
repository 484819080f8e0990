import AiTrader.MarketPolicy.Authorization
import AiTrader.MarketPolicy.EnrollmentRuns

/-! # The lapse contract of enforcement authorizations

Once an assignment has been authorized, its entries leave the enforcement by an owner's decision only. -/

namespace AiTrader.MarketPolicy

open Library

variable {digests : EnforcementDigests}

inductive EnforcementEvent where
  | grant (args : GrantAuthorization)
  | revoke (args : EndAuthorization)
  | resolveLapse (args : EndAuthorization)
  /-- A trigger of the database ends an authorization whose configuration changes. -/
  | invalidate (authorizationId : Nat) (reasonCode : String)
  /-- Enrollment, the policy, a subscription, a security, an owner or an account changes. -/
  | configure (context : EnforcementContext)
  /-- An admission locks the authorizations of the assignment, while the configuration may change. -/
  | admitEntry (assignmentId : Nat) (current : EnforcementContext)

/-- The automatic invalidation of a row. -/
def invalidated (reasonCode : String) (row : EnforcementAuthorization) : EnforcementAuthorization :=
  { row with status := .invalidated, invalidationReasonCode := some reasonCode }

def EnforcementEvent.Accepted (digests : EnforcementDigests) (event : EnforcementEvent) (system after : EnforcementSystem) :
    Prop :=
  match event with
  | .grant args => ∃ row, grantAssignmentMarketPolicyEnforcementAuthorization digests args system = .ok (row, after)
  | .revoke args => ∃ row, revokeAssignmentMarketPolicyEnforcementAuthorization args system = .ok (row, after)
  | .resolveLapse args => ∃ row, resolveAssignmentMarketPolicyEnforcementLapse args system = .ok (row, after)
  | .invalidate authorizationId reasonCode => ∃ row ∈ system.authorizations, row.id = authorizationId ∧
      row.status = .authorized ∧ after = system.updateAuthorization authorizationId (invalidated reasonCode)
  | .configure context => after = { system with context }
  | .admitEntry _ current => after = { system with context := current }

/-- How an admission treats an entry; a failed resolution ends it. -/
inductive EntryTreatment where
  | nonEnforced | enforced | failsClosed
deriving DecidableEq

/-- The treatment of a disposition while the rollout is active. -/
def dispositionTreatment (disposition : Policy.Disposition) : EntryTreatment :=
  match marketPolicyEntryBehavior disposition true with
  | .existingEntryBehavior | .explicitlyNonEnforced => .nonEnforced
  | .marketPolicyEnforced => .enforced
  | .failClosed => .failsClosed

def entryTreatment : Except Policy.ResolutionError LockedResolution → EntryTreatment
  | .error _ => .failsClosed
  | .ok resolution => dispositionTreatment resolution.disposition

variable {reasons : List String} {system : EnforcementSystem} {authorization : EnforcementAuthorization}

section Effective

variable {context : AuthorizationContext}

/-- The authorization is bound to the current configuration. -/
structure Effective (digests : EnforcementDigests) (context : EnforcementContext) (authorization : EnforcementAuthorization)
    (assignment : SubscribedAssignment) (account : TradingAccountRow) (subscription : SubscriptionRow)
    (security : SecurityRow) (generation : EnrollmentGeneration) (revision : BoundRevision) : Prop where
  version : authorization.authorityVersion = marketPolicyEnforcementAuthorityVersion
  assignmentFound : assignment ∈ context.assignments ∧ assignment.id = authorization.accountSubscriptionId
  accountFound : account ∈ context.accounts ∧ account.id = authorization.tradingAccountId ∧
    account.id = assignment.tradingAccountId ∧ account.environment = .paper
  subscriptionFound : subscription ∈ context.subscriptions ∧ authorization.subscriptionId = some subscription.id ∧
    subscription.id = assignment.subscriptionId
  securityFound : security ∈ context.securities ∧ authorization.securityId = some security.id ∧
    authorization.securitySymbol = some security.symbol ∧ security.id = subscription.securityId ∧
    security.id = assignment.routingSecurityId ∧ Entry.normalizeSymbol subscription.symbol = security.symbol
  strategy : authorization.strategyId = assignment.routingStrategyId ∧ authorization.strategyId = subscription.strategyId ∧
    authorization.strategyId = generation.strategyId ∧ authorization.strategyId = revision.strategyId
  generationFound : generation ∈ context.generations ∧ generation.id = authorization.enrollmentGenerationId ∧
    generation.accountSubscriptionId = authorization.accountSubscriptionId ∧ generation.status = .active
  revisionFound : context.findBoundRevision authorization.policyRevisionId = some revision ∧
    generation.policyRevisionId = authorization.policyRevisionId ∧ revision.status = .active ∧
    (context.policy.activeRevision authorization.strategyId).map (·.id) = some authorization.policyRevisionId
  valid : (validateMarketPolicyRules revision.dimensionRules).valid = true
  holder : authorization.accountHolderUserId = account.accountHolderUserId ∧
    generation.accountHolderUserId = account.accountHolderUserId
  configurationFingerprint : generation.configurationFingerprint = authorization.configurationFingerprint ∧
    digests.assignmentEnrollmentConfigurationFingerprint (expectedIdentity digests account generation revision) =
      authorization.configurationFingerprint
  authorizationFingerprint : ∃ identity, authorization.identity generation = some identity ∧
    digests.enforcementAuthorizationFingerprint identity = authorization.authorizationFingerprint

/-- Reasons that are added without repetition are none only if there were none. -/
theorem foldl_reasons_nil {codes : List BlockingCode}
    (none : codes.foldl (fun reasons code => if code.text ∈ reasons then reasons else reasons ++ [code.text]) reasons = []) :
    reasons = [] ∧ codes = [] := by
  induction codes generalizing reasons with
  | nil => exact ⟨none, rfl⟩
  | cons code rest ih =>
    obtain ⟨empty, _⟩ := ih none
    dsimp only at empty
    split at empty
    case isTrue member =>
      rw [empty] at member
      cases member
    case isFalse => exact absurd empty (List.append_ne_nil_of_right_ne_nil _ (List.cons_ne_nil _ _))

/-- What a row without reasons says of a context with a current generation. -/
theorem rowReasons_nil (none : rowReasons digests authorization context = []) :
    ∃ generation, context.generation = some generation ∧ generation.id = authorization.enrollmentGenerationId ∧
      authorization.authorityVersion = marketPolicyEnforcementAuthorityVersion ∧
      (generation.configurationFingerprint = authorization.configurationFingerprint ∧
        generation.policyRevisionId = authorization.policyRevisionId ∧
        generation.accountHolderUserId = authorization.accountHolderUserId ∧
        generation.strategyId = authorization.strategyId) ∧
      securityMatches authorization context = true ∧
      ∃ identity, authorization.identity generation = some identity ∧
        digests.enforcementAuthorizationFingerprint identity = authorization.authorizationFingerprint := by
  simp only [rowReasons, List.append_eq_nil_iff, ite_eq_right_iff, List.cons_ne_nil, imp_false, ite_eq_left_iff,
    Decidable.not_not] at none
  obtain ⟨⟨⟨⟨version, current⟩, _⟩, secured⟩, fingerprint⟩ := none
  cases found : context.generation.filter (·.id = authorization.enrollmentGenerationId) with
  | none =>
    rw [found] at current
    cases current
  | some generation =>
    rw [found] at current
    obtain ⟨given, own⟩ := Option.filter_eq_some_iff.mp found
    have matched : securityMatches authorization context = true := by simpa using secured
    have named := of_decide_eq_true matched
    have identified : ∃ identity, authorization.identity generation = some identity := by
      unfold EnforcementAuthorization.identity
      rw [named.1, named.2.1, named.2.2.1]
      exact ⟨_, rfl⟩
    obtain ⟨identity, identified⟩ := identified
    have bound : context.generation.bind authorization.identity = some identity := by
      rw [given]
      exact identified
    rw [bound] at fingerprint
    refine ⟨generation, given, of_decide_eq_true own, version, ?_, matched, identity, identified, ?_⟩
    · simpa using current
    · by_contra other
      simp [version, other] at fingerprint

/-- What the absence of blocking reasons says of a generation. -/
theorem blockingReasons_nil {generation : EnrollmentGeneration} (given : context.generation = some generation)
    (none : blockingReasons digests context = []) :
    context.account.environment = .paper ∧
      securityIdentityConsistent context.security context.assignment.routingStrategyId = true ∧
      generation.status = .active ∧ identityMatches context generation = true ∧
      generation.accountHolderUserId = context.account.accountHolderUserId ∧
      ∃ revision, context.boundRevision = some revision ∧ revision.status = .active ∧
        context.activePolicyRevisionId = some generation.policyRevisionId ∧
        (validateMarketPolicyRules revision.dimensionRules).valid = true ∧
        digests.assignmentEnrollmentConfigurationFingerprint (expectedIdentity digests context.account generation revision) =
          generation.configurationFingerprint := by
  unfold blockingReasons generationCodes at none
  rw [given] at none
  simp only [List.append_eq_nil_iff, ite_eq_right_iff, List.cons_ne_nil, imp_false, ite_eq_left_iff, Decidable.not_not] at none
  obtain ⟨⟨⟨⟨paper, activePolicy⟩, secured⟩, ⟨⟨⟨⟨status, matched⟩, holder⟩, superseded⟩, valid⟩, fingerprint⟩, _⟩ := none
  have same : identityMatches context generation = true := by simpa using matched
  have owned : generation.accountHolderUserId = context.account.accountHolderUserId := by simpa using holder
  have current : context.activePolicyRevisionId = some generation.policyRevisionId ∧
      context.boundRevision.any (·.status = .active) = true := by
    by_contra other
    exact superseded ⟨Option.isSome_iff_ne_none.mpr (by simpa using activePolicy), decide_eq_false other⟩
  obtain ⟨revision, bound, active⟩ := (Option.any_eq_true _ _).mp current.2
  rw [bound] at valid fingerprint
  refine ⟨paper, by simpa using secured, status, same, owned, revision, bound, of_decide_eq_true active, current.1, ?_, ?_⟩
  · simpa using valid
  · by_contra other
    exact fingerprint ⟨same, decide_eq_true owned, paper, by simpa using other⟩

variable {loaded : LoadedContext}

/-- The rows that a context has been loaded from. -/
theorem loadContext_eq_some {accountId assignmentId generationId : Nat}
    (found : system.loadContext accountId assignmentId (some generationId) = some loaded) :
    ∃ subscription security, loaded.context.assignment ∈ system.context.assignments ∧
      loaded.context.assignment.id = assignmentId ∧ loaded.context.assignment.tradingAccountId = accountId ∧
      loaded.context.account ∈ system.context.accounts ∧
      loaded.context.account.id = loaded.context.assignment.tradingAccountId ∧
      subscription ∈ system.context.subscriptions ∧ subscription.id = loaded.context.assignment.subscriptionId ∧
      security ∈ system.context.securities ∧ security.id = subscription.securityId ∧
      loaded.context.security = ⟨subscription.id, subscription.symbol, subscription.securityId, subscription.strategyId,
        loaded.context.assignment.routingSecurityId, security.id, security.symbol⟩ ∧
      loaded.context.activePolicyRevisionId = (system.context.policy.activeRevision subscription.strategyId).map (·.id) ∧
      loaded.context.generation = system.context.findGeneration assignmentId (some generationId) ∧
      loaded.context.boundRevision = loaded.context.generation.bind fun generation =>
        system.context.findBoundRevision generation.policyRevisionId := by
  obtain ⟨assignment, assigned, found⟩ := Option.bind_eq_some_iff.mp found
  obtain ⟨account, owned, found⟩ := Option.bind_eq_some_iff.mp found
  obtain ⟨subscription, subscribed, found⟩ := Option.bind_eq_some_iff.mp found
  obtain ⟨security, secured, found⟩ := Option.bind_eq_some_iff.mp found
  cases found
  have assignedHeld := List.find?_some assigned
  have ownedHeld := List.find?_some owned
  have subscribedHeld := List.find?_some subscribed
  have securedHeld := List.find?_some secured
  have same := of_decide_eq_true subscribedHeld
  exact ⟨subscription, security, List.mem_of_find?_eq_some assigned, (of_decide_eq_true assignedHeld).1,
    (of_decide_eq_true assignedHeld).2, List.mem_of_find?_eq_some owned, of_decide_eq_true ownedHeld,
    List.mem_of_find?_eq_some subscribed, same, List.mem_of_find?_eq_some secured, of_decide_eq_true securedHeld,
    by rw [same], rfl, rfl, rfl⟩

/-- An authorization without ineffective reasons is bound to the current configuration. -/
theorem effective_of_reasons_nil {accountId : Nat}
    (found : system.loadContext accountId authorization.accountSubscriptionId (some authorization.enrollmentGenerationId) =
      some loaded) (none : authorizationIneffectiveReasons digests authorization loaded.context = []) :
    ∃ assignment account subscription security generation revision,
      Effective digests system.context authorization assignment account subscription security generation revision := by
  obtain ⟨row, codes⟩ := foldl_reasons_nil none
  obtain ⟨generation, given, own, version, bound, secured, identity, identified, fingerprint⟩ := rowReasons_nil row
  obtain ⟨paper, consistent, status, matched, holder, revision, revised, active, current, valid, configured⟩ :=
    blockingReasons_nil (by exact given) codes
  obtain ⟨subscription, security, assignmentMem, assignmentId, accountId', accountMem, accountOwn, subscriptionMem,
    subscriptionId, securityMem, securityId, securityEq, activeEq, generationEq, boundEq⟩ := loadContext_eq_some found
  obtain ⟨named, secure, symbol, account, strategy⟩ := of_decide_eq_true secured
  obtain ⟨sameConfiguration, sameRevision, sameHolder, sameStrategy⟩ := bound
  obtain ⟨generationAccount, generationAssignment, _, generationStrategy, revisionStrategy⟩ := of_decide_eq_true matched
  dsimp only at consistent revised current configured holder paper revisionStrategy
  rw [securityEq] at named secure symbol consistent
  obtain ⟨routing, routed, subscriptionStrategy, normalized⟩ := of_decide_eq_true consistent
  dsimp only at named secure symbol routing routed subscriptionStrategy normalized
  rw [given] at generationEq boundEq
  have located : system.context.generations.find? (fun row => row.id = authorization.enrollmentGenerationId ∧
      row.accountSubscriptionId = authorization.accountSubscriptionId) = some generation := generationEq.symm
  have found' := List.find?_some located
  have held := of_decide_eq_true found'
  rw [revised, Option.all_some] at revisionStrategy
  have revisionOwner := of_decide_eq_true revisionStrategy
  refine ⟨loaded.context.assignment, loaded.context.account, subscription, security, generation, revision, version,
    ⟨assignmentMem, assignmentId⟩, ⟨accountMem, accountOwn.trans account.symm, accountOwn, paper⟩,
    ⟨subscriptionMem, named, subscriptionId⟩, ⟨securityMem, secure, symbol, securityId, routed, normalized⟩,
    ⟨strategy, strategy.trans subscriptionStrategy.symm, sameStrategy.symm, sameStrategy.symm.trans revisionOwner.symm⟩,
    ⟨List.mem_of_find?_eq_some located, held.1, held.2, status⟩, ⟨?_, sameRevision, active, ?_⟩, valid,
    ⟨sameHolder.symm.trans holder, holder⟩, ⟨sameConfiguration, configured.trans sameConfiguration⟩,
    ⟨identity, identified, fingerprint⟩⟩
  · rw [← sameRevision, ← revised, boundEq]
    rfl
  · rw [strategy.trans subscriptionStrategy.symm, ← sameRevision, ← current, activeEq]

end Effective

variable {event : EnforcementEvent} {after : EnforcementSystem}

section Invariant

/-- The assignment of an authorization that is in force. -/
def authorizedKey (row : EnforcementAuthorization) : Option Nat :=
  if row.status = .authorized then some row.accountSubscriptionId else none

/-- What holds of the authorizations between any two events. -/
structure EnforcementSound (system : EnforcementSystem) : Prop where
  ids : (system.authorizations.map (·.id)).Nodup
  authorized : Table.Unique authorizedKey system.authorizations
  resolved : ∀ row ∈ system.authorizations, row.lapseResolution.isSome → row.status = .invalidated

theorem EnforcementSound.empty (context : EnforcementContext) : EnforcementSound ⟨context, []⟩ :=
  ⟨List.nodup_nil, Table.unique_nil, fun _ member => nomatch member⟩

variable {row : EnforcementAuthorization} {args : EndAuthorization}

theorem mem_of_findAuthorization
    (found : system.findAuthorization args = some row) : row ∈ system.authorizations ∧ row.id = args.authorizationId := by
  have held := List.find?_some found
  exact ⟨List.mem_of_find?_eq_some found, (of_decide_eq_true held).1⟩

/-- Every row stays with its identity, and leaves the enforcement by an owner's revocation or resolution only. -/
structure Stepped (event : EnforcementEvent) (system after : EnforcementSystem) : Prop where
  sound : EnforcementSound after
  kept : ∀ row ∈ system.authorizations, ∃ later ∈ after.authorizations, later.id = row.id ∧
    later.accountSubscriptionId = row.accountSubscriptionId
  revoked : ∀ later ∈ after.authorizations, later.status = .revoked → later ∈ system.authorizations ∨
    ∃ args, event = .revoke args ∧ args.authorizationId = later.id
  resolved : ∀ later ∈ after.authorizations, later.lapseResolution.isSome → later ∈ system.authorizations ∨
    ∃ args, event = .resolveLapse args ∧ args.authorizationId = later.id

section

variable (sound : EnforcementSound system)
include sound

/-- A row that ends, or whose lapse is resolved, keeps the tables sound; an owner's call did it where it says so. -/
theorem stepped_of_update {change : EnforcementAuthorization → EnforcementAuthorization} (stored : row ∈ system.authorizations)
    (same : ∀ row, (change row).id = row.id ∧ (change row).accountSubscriptionId = row.accountSubscriptionId)
    (ended : ∀ row, (change row).status ≠ .authorized ∨ (change row).status = row.status)
    (lapsed : (change row).lapseResolution.isSome → (change row).status = .invalidated)
    (revoked : (change row).status = .revoked → ∃ args, event = .revoke args ∧ args.authorizationId = row.id)
    (resolved : (change row).lapseResolution.isSome → ∃ args, event = .resolveLapse args ∧ args.authorizationId = row.id) :
    Stepped event system (system.updateAuthorization row.id change) := by
  refine ⟨⟨?_, sound.authorized.updateWhere fun old _ => ?_, fun later member some_ => ?_⟩, fun old member => ?_,
    fun later member ends => ?_, fun later member some_ => ?_⟩
  · show ((Table.updateWhere (·.id = row.id) change system.authorizations).map (·.id)).Nodup
    rw [Table.map_updateWhere fun old _ => (same old).1]
    exact sound.ids
  · rcases ended old with gone | status
    · exact .inr (if_neg gone)
    · refine .inl ?_
      unfold authorizedKey
      rw [status, (same old).2]
  · rcases Table.eq_or_mem_of_updateWhere sound.ids stored member with rfl | ⟨present, _⟩
    · exact lapsed some_
    · exact sound.resolved later present some_
  · refine ⟨_, List.mem_map_of_mem member, ?_⟩
    split
    · exact same old
    · exact ⟨rfl, rfl⟩
  · rcases Table.eq_or_mem_of_updateWhere sound.ids stored member with rfl | ⟨present, _⟩
    · exact .inr ((same row).1 ▸ revoked ends)
    · exact .inl present
  · rcases Table.eq_or_mem_of_updateWhere sound.ids stored member with rfl | ⟨present, _⟩
    · exact .inr ((same row).1 ▸ resolved some_)
    · exact .inl present

theorem grant_stepped {args : GrantAuthorization}
    (granted : grantAssignmentMarketPolicyEnforcementAuthorization digests args system = .ok (row, after)) :
    Stepped (.grant args) system after ∧
      ∃ granted ∈ after.authorizations, granted.accountSubscriptionId = args.assignmentId := by
  obtain ⟨_, granted⟩ := require_bind_eq_ok.mp granted
  obtain ⟨loaded, found, granted⟩ := requireSome_bind_eq_ok.mp granted
  obtain ⟨generation, _, granted⟩ := requireSome_bind_eq_ok.mp granted
  obtain ⟨_, granted⟩ := require_bind_eq_ok.mp granted
  obtain ⟨_, granted⟩ := require_bind_eq_ok.mp granted
  obtain ⟨free, granted⟩ := require_bind_eq_ok.mp granted
  obtain ⟨_, granted⟩ := require_bind_eq_ok.mp granted
  cases granted
  have effective : loaded.effective = system.effectiveAuthorization args.assignmentId := by
    obtain ⟨_, _, found⟩ := Option.bind_eq_some_iff.mp found
    obtain ⟨_, _, found⟩ := Option.bind_eq_some_iff.mp found
    obtain ⟨_, _, found⟩ := Option.bind_eq_some_iff.mp found
    obtain ⟨_, _, found⟩ := Option.bind_eq_some_iff.mp found
    rw [← Option.some.inj found]
  have none : system.effectiveAuthorization args.assignmentId = Option.none := by
    rw [← effective]
    exact Option.isNone_iff_eq_none.mp free
  have unindexed : Table.indexed authorizedKey args.assignmentId system.authorizations = false := by
    refine List.any_eq_false.mpr fun old member keyed => ?_
    have key : authorizedKey old = some args.assignmentId := by simpa using keyed
    unfold authorizedKey at key
    split at key
    case isFalse => cases key
    case isTrue active =>
      have listed : old ∈ system.authorizationsOf args.assignmentId :=
        List.mem_filter.mpr ⟨member, decide_eq_true (Option.some.inj key)⟩
      exact List.find?_eq_none.mp none old listed (decide_eq_true active)
  refine ⟨⟨⟨Table.nodup_append_new sound.ids (Table.nextId_not_mem _), sound.authorized.append fun value keyed => ?_,
    fun later member lapsed => ?_⟩, fun old member => ⟨old, List.mem_append_left _ member, rfl, rfl⟩,
    fun later member revoked => ?_, fun later member lapsed => ?_⟩,
    ⟨_, List.mem_concat_self, rfl⟩⟩
  · cases keyed
    exact unindexed
  · rcases List.mem_append.mp member with member | member
    · exact sound.resolved later member lapsed
    · rw [List.mem_singleton.mp member] at lapsed
      cases lapsed
  · refine .inl ((List.mem_append.mp member).resolve_right fun new => ?_)
    rw [List.mem_singleton.mp new] at revoked
    cases revoked
  · refine .inl ((List.mem_append.mp member).resolve_right fun new => ?_)
    rw [List.mem_singleton.mp new] at lapsed
    cases lapsed

theorem revoke_stepped (revoked : revokeAssignmentMarketPolicyEnforcementAuthorization args system = .ok (row, after)) :
    Stepped (.revoke args) system after ∧ system.isOwner args.actorUserId = true := by
  obtain ⟨owner, revoked⟩ := require_bind_eq_ok.mp revoked
  obtain ⟨found, located, revoked⟩ := requireSome_bind_eq_ok.mp revoked
  obtain ⟨_, revoked⟩ := require_bind_eq_ok.mp revoked
  obtain ⟨current, revoked⟩ := require_bind_eq_ok.mp revoked
  cases revoked
  obtain ⟨stored, id⟩ := mem_of_findAuthorization located
  have unresolved : ¬ found.lapseResolution.isSome := fun lapsed =>
    of_decide_eq_true current (sound.resolved found stored lapsed)
  refine ⟨stepped_of_update sound stored (fun _ => ⟨rfl, rfl⟩) (fun _ => .inl (by simp)) (fun lapsed => ?_)
    (fun _ => ⟨args, rfl, id.symm⟩) fun lapsed => ?_, owner⟩
  · exact absurd lapsed unresolved
  · exact absurd lapsed unresolved

theorem resolveLapse_stepped (resolved : resolveAssignmentMarketPolicyEnforcementLapse args system = .ok (row, after)) :
    Stepped (.resolveLapse args) system after ∧ system.isOwner args.actorUserId = true := by
  obtain ⟨owner, resolved⟩ := require_bind_eq_ok.mp resolved
  obtain ⟨found, located, resolved⟩ := requireSome_bind_eq_ok.mp resolved
  obtain ⟨lapsed, resolved⟩ := require_bind_eq_ok.mp resolved
  obtain ⟨_, resolved⟩ := require_bind_eq_ok.mp resolved
  obtain ⟨_, resolved⟩ := require_bind_eq_ok.mp resolved
  cases resolved
  obtain ⟨stored, id⟩ := mem_of_findAuthorization located
  have status := of_decide_eq_true lapsed
  refine ⟨stepped_of_update sound stored (fun _ => ⟨rfl, rfl⟩) (fun _ => .inr rfl) (fun _ => status) (fun revoked => ?_)
    fun _ => ⟨args, rfl, id.symm⟩, owner⟩
  exact absurd (status.symm.trans revoked) (by decide)

theorem invalidate_stepped {reasonCode : String} (stored : row ∈ system.authorizations) (active : row.status = .authorized) :
    Stepped (.invalidate row.id reasonCode) system (system.updateAuthorization row.id (invalidated reasonCode)) := by
  have unresolved : row.lapseResolution.isSome = true → False := fun lapsed => by
    have status := sound.resolved row stored lapsed
    rw [active] at status
    cases status
  exact stepped_of_update sound stored (fun _ => ⟨rfl, rfl⟩) (fun _ => .inl (by simp [invalidated])) (fun _ => rfl) nofun
    fun lapsed => (unresolved lapsed).elim

theorem stepped_of_same (context : EnforcementContext) : Stepped event system { system with context } :=
  ⟨⟨sound.ids, sound.authorized, sound.resolved⟩, fun row member => ⟨row, member, rfl, rfl⟩,
    fun _ member _ => .inl member, fun _ member _ => .inl member⟩

theorem stepped_of_accepted (accepted : event.Accepted digests system after) : Stepped event system after := by
  cases event with
  | grant args =>
    obtain ⟨row, granted⟩ := accepted
    exact (grant_stepped sound granted).1
  | revoke args =>
    obtain ⟨row, revoked⟩ := accepted
    exact (revoke_stepped sound revoked).1
  | resolveLapse args =>
    obtain ⟨row, resolved⟩ := accepted
    exact (resolveLapse_stepped sound resolved).1
  | invalidate authorizationId reasonCode =>
    obtain ⟨row, stored, rfl, active, rfl⟩ := accepted
    exact invalidate_stepped sound stored active
  | configure context =>
    obtain rfl := accepted
    exact stepped_of_same sound context
  | admitEntry assignmentId current =>
    obtain rfl := accepted
    exact stepped_of_same sound current

end

end Invariant

section Treatment

variable {assignmentId : Nat}

/-- The account of the assignment is a PAPER account. -/
def EnforcementContext.PaperAssignment (context : EnforcementContext) (assignmentId : Nat) : Prop :=
  ∀ assignment account, context.assignments.find? (·.id = assignmentId) = some assignment →
    context.accounts.find? (·.id = assignment.tradingAccountId) = some account → account.environment = .paper

theorem authorized_treatment (status : authorization.status = .authorized) :
    dispositionTreatment (Policy.deriveMarketPolicyEnforcementDisposition .paper (some authorization.row) reasons) =
      if reasons = [] then .enforced else .failsClosed := by
  simp only [Policy.deriveMarketPolicyEnforcementDisposition, EnforcementAuthorization.row, status]
  cases reasons <;> rfl

section

variable (paper : system.context.PaperAssignment assignmentId)
include paper

section

variable (found : system.latestAuthorization assignmentId = some authorization)
include found

/-- A resolution ends in an error, by the status of an ended authorization, or by the reasons against one in force. -/
theorem treatment_cases (current : EnforcementContext) :
    entryTreatment (resolveLockedAssignmentMarketPolicyEnforcement digests system current assignmentId) = .failsClosed ∨
      (authorization.status ≠ .authorized ∧
        entryTreatment (resolveLockedAssignmentMarketPolicyEnforcement digests system current assignmentId) =
          dispositionTreatment (Policy.deriveMarketPolicyEnforcementDisposition .paper (some authorization.row) [])) ∨
      (authorization.status = .authorized ∧
        entryTreatment (resolveLockedAssignmentMarketPolicyEnforcement digests system current assignmentId) = .enforced ∧
        ∃ accountId loaded,
        EnforcementSystem.loadContext { system with context := current } accountId assignmentId
          (some authorization.enrollmentGenerationId) = some loaded ∧
        authorizationIneffectiveReasons digests authorization loaded.context = []) := by
  unfold resolveLockedAssignmentMarketPolicyEnforcement
  cases assigned : system.context.assignments.find? (·.id = assignmentId) with
  | none => exact .inl rfl
  | some assignment =>
    simp only
    cases owned : system.context.accounts.find? (·.id = assignment.tradingAccountId) with
    | none => exact .inl rfl
    | some account =>
      simp only
      cases subscribed : system.context.subscriptions.find? (·.id = assignment.subscriptionId) with
      | none => exact .inl rfl
      | some subscription =>
        simp only
        cases secured : system.context.securities.find? (·.id = subscription.securityId) with
        | none => exact .inl rfl
        | some security =>
          simp only [found, paper assignment account assigned owned]
          by_cases status : authorization.status = .authorized
          · rw [if_neg (not_not.mpr rfl), if_neg (not_not.mpr status)]
            cases loading : EnforcementSystem.loadContext { system with context := current } account.id assignmentId
              (some authorization.enrollmentGenerationId) with
            | none => exact .inl ((authorized_treatment status).trans (if_neg (List.cons_ne_nil _ _)))
            | some loaded =>
              by_cases effective : lockedReasons digests authorization security.id (some loaded) = []
              · refine .inr (.inr ⟨status, (authorized_treatment status).trans (if_pos effective), account.id, loaded, loading, ?_⟩)
                exact (List.append_eq_nil_iff.mp effective).1
              · exact .inl ((authorized_treatment status).trans (if_neg effective))
          · rw [if_neg (not_not.mpr rfl), if_pos status]
            exact .inr (.inl ⟨status, rfl⟩)

variable {current : EnforcementContext}

/-- Entries leave the enforcement under a revoked authorization or a resolved lapse only. -/
theorem nonEnforced_of_treatment
    (treated : entryTreatment (resolveLockedAssignmentMarketPolicyEnforcement digests system current assignmentId) =
      .nonEnforced) :
    authorization.status = .revoked ∨ authorization.status = .invalidated ∧ authorization.lapseResolution.isSome = true := by
  rcases treatment_cases paper found current with closed | ⟨gone, ends⟩ | ⟨_, enforced, _⟩
  · rw [closed] at treated
    cases treated
  · rw [ends] at treated
    cases status : authorization.status with
    | authorized => exact absurd status gone
    | revoked => exact .inl rfl
    | invalidated =>
      refine .inr ⟨rfl, ?_⟩
      by_contra unresolved
      have lapsed : Policy.deriveMarketPolicyEnforcementDisposition .paper (some authorization.row) [] = .lapsed := by
        simp [Policy.deriveMarketPolicyEnforcementDisposition, EnforcementAuthorization.row, status, unresolved]
      rw [lapsed] at treated
      cases treated
  · rw [enforced] at treated
    cases treated

/-- Entries are enforced under an authorization in force that is bound to the current configuration only. -/
theorem effective_of_treatment
    (treated : entryTreatment (resolveLockedAssignmentMarketPolicyEnforcement digests system current assignmentId) =
      .enforced) :
    authorization.status = .authorized ∧ ∃ assignment account subscription security generation revision,
      Effective digests current authorization assignment account subscription security generation revision := by
  have assigned : authorization.accountSubscriptionId = assignmentId :=
    of_decide_eq_true (List.mem_filter.mp (mem_of_latest found)).2
  subst assigned
  rcases treatment_cases paper found current with closed | ⟨gone, ends⟩ | ⟨status, _, accountId, loaded, loading, none⟩
  · rw [closed] at treated
    cases treated
  · rw [ends] at treated
    cases status : authorization.status with
    | authorized => exact absurd status gone
    | revoked =>
      simp [Policy.deriveMarketPolicyEnforcementDisposition, EnforcementAuthorization.row, status, dispositionTreatment,
        marketPolicyEntryBehavior, dispositionBehavior] at treated
    | invalidated =>
      by_cases resolved : authorization.lapseResolution.isSome = true <;>
        simp [Policy.deriveMarketPolicyEnforcementDisposition, EnforcementAuthorization.row, status, dispositionTreatment,
          marketPolicyEntryBehavior, dispositionBehavior, resolved] at treated
  · exact ⟨status, effective_of_reasons_nil loading none⟩

end

end

end Treatment

section Contract

variable {start : EnforcementSystem} {events : List EnforcementEvent}

/-- An enabled owner has ended the authorization, or resolved its lapse, in this history. -/
def OwnerActed (digests : EnforcementDigests) (start : EnforcementSystem) (events : List EnforcementEvent)
    (act : EndAuthorization → EnforcementEvent) (authorizationId : Nat) : Prop :=
  ∃ earlier args rest before, events = earlier ++ act args :: rest ∧ args.authorizationId = authorizationId ∧
    Served (EnforcementEvent.Accepted digests) start earlier before ∧ before.isOwner args.actorUserId = true

theorem OwnerActed.later {act : EndAuthorization → EnforcementEvent} {authorizationId : Nat}
    (acted : OwnerActed digests start events act authorizationId) :
    OwnerActed digests start (events ++ [event]) act authorizationId := by
  obtain ⟨earlier, args, rest, before, rfl, same, served, owner⟩ := acted
  exact ⟨earlier, args, rest ++ [event], before, by simp, same, served, owner⟩

/-- What the authorizations record of a history. -/
structure Recorded (digests : EnforcementDigests) (start : EnforcementSystem) (events : List EnforcementEvent)
    (system : EnforcementSystem) : Prop where
  sound : EnforcementSound system
  granted : ∀ args, .grant args ∈ events → ∃ row ∈ system.authorizations, row.accountSubscriptionId = args.assignmentId
  revoked : ∀ row ∈ system.authorizations, row.status = .revoked → OwnerActed digests start events .revoke row.id
  resolved : ∀ row ∈ system.authorizations, row.lapseResolution.isSome →
    OwnerActed digests start events .resolveLapse row.id

theorem recorded_of_served {context : EnforcementContext}
    (served : Served (EnforcementEvent.Accepted digests) ⟨context, []⟩ events system) :
    Recorded digests ⟨context, []⟩ events system := by
  induction served with
  | start =>
    exact ⟨.empty context, (fun _ member => nomatch member), (fun _ member => nomatch member), fun _ member => nomatch member⟩
  | @next events before after event earlier accepted ih =>
    have step := stepped_of_accepted ih.sound accepted
    refine ⟨step.sound, fun args member => ?_, fun row member status => ?_, fun row member lapsed => ?_⟩
    · rcases List.mem_append.mp member with member | member
      · obtain ⟨row, listed, assigned⟩ := ih.granted args member
        obtain ⟨later, stored, _, same⟩ := step.kept row listed
        exact ⟨later, stored, same.trans assigned⟩
      · obtain rfl := List.mem_singleton.mp member
        obtain ⟨row, granted⟩ := accepted
        exact (grant_stepped ih.sound granted).2
    · rcases step.revoked row member status with stored | ⟨args, rfl, same⟩
      · exact (ih.revoked row stored status).later
      · obtain ⟨_, revoked⟩ := accepted
        exact ⟨events, args, [], before, rfl, same, earlier, (revoke_stepped ih.sound revoked).2⟩
    · rcases step.resolved row member lapsed with stored | ⟨args, rfl, same⟩
      · exact (ih.resolved row stored lapsed).later
      · obtain ⟨_, resolved⟩ := accepted
        exact ⟨events, args, [], before, rfl, same, earlier, (resolveLapse_stepped ih.sound resolved).2⟩

/-- An owner has revoked the authorization, or has resolved its lapse after its invalidation. -/
def ReleasedByOwner (digests : EnforcementDigests) (start : EnforcementSystem) (events : List EnforcementEvent)
    (authorization : EnforcementAuthorization) : Prop :=
  (authorization.status = .revoked ∧ OwnerActed digests start events .revoke authorization.id) ∨
    (authorization.status = .invalidated ∧ authorization.lapseResolution.isSome = true ∧
      OwnerActed digests start events .resolveLapse authorization.id)

/-- The authorization is in force and bound to the current configuration. -/
def InForce (digests : EnforcementDigests) (current : EnforcementContext) (authorization : EnforcementAuthorization) : Prop :=
  authorization.status = .authorized ∧ ∃ assignment account subscription security generation revision,
    Effective digests current authorization assignment account subscription security generation revision

/-- In every order an assignment has at most one authorization in force; once authorized, a PAPER entry is not enforced only
after an owner revoked the latest one or resolved its lapse, enforced only while the latest is in force and bound to the
current configuration, and fails closed otherwise. -/
theorem enforcement_lapse_contract {context : EnforcementContext}
    (served : Served (EnforcementEvent.Accepted digests) ⟨context, []⟩ events system) :
    Table.Unique authorizedKey system.authorizations ∧
      ∀ args, .grant args ∈ events → system.context.PaperAssignment args.assignmentId →
        ∃ latest, system.latestAuthorization args.assignmentId = some latest ∧ ∀ current,
          let treated := entryTreatment
            (resolveLockedAssignmentMarketPolicyEnforcement digests system current args.assignmentId)
          (treated = .nonEnforced → ReleasedByOwner digests ⟨context, []⟩ events latest) ∧
            (treated = .enforced → InForce digests current latest) ∧
            (¬ ReleasedByOwner digests ⟨context, []⟩ events latest → ¬ InForce digests current latest →
              treated = .failsClosed) := by
  have recorded := recorded_of_served served
  refine ⟨recorded.sound.authorized, fun args granted paper => ?_⟩
  obtain ⟨row, member, assigned⟩ := recorded.granted args granted
  have listed : row ∈ system.authorizationsOf args.assignmentId := List.mem_filter.mpr ⟨member, decide_eq_true assigned⟩
  cases found : system.latestAuthorization args.assignmentId with
  | none =>
    have none : system.authorizationsOf args.assignmentId = [] := List.argmax_eq_none.mp found
    rw [none] at listed
    cases listed
  | some latest =>
    have stored : latest ∈ system.authorizations := (List.mem_filter.mp (mem_of_latest found)).1
    refine ⟨latest, rfl, fun current => ?_⟩
    have released : entryTreatment (resolveLockedAssignmentMarketPolicyEnforcement digests system current args.assignmentId) =
        .nonEnforced → ReleasedByOwner digests ⟨context, []⟩ events latest := by
      intro treated
      rcases nonEnforced_of_treatment paper found treated with revoked | ⟨invalidated, resolved⟩
      · exact .inl ⟨revoked, recorded.revoked latest stored revoked⟩
      · exact .inr ⟨invalidated, resolved, recorded.resolved latest stored resolved⟩
    have inForce : entryTreatment (resolveLockedAssignmentMarketPolicyEnforcement digests system current args.assignmentId) =
        .enforced → InForce digests current latest := effective_of_treatment paper found
    refine ⟨released, inForce, fun unreleased ineffective => ?_⟩
    cases treated : entryTreatment
        (resolveLockedAssignmentMarketPolicyEnforcement digests system current args.assignmentId) with
    | nonEnforced => exact absurd (released treated) unreleased
    | enforced => exact absurd (inForce treated) ineffective
    | failsClosed => rfl

end Contract

/-- The enrolled assignment with its subscription to SPY. -/
def grantedContext : EnforcementContext :=
  { users := sampleContext.users, accounts := sampleContext.accounts, policy := sampleContext.policy
    assignments := [⟨3, 1, 1, 5, 4⟩], subscriptions := [⟨4, 1, 5, "spy"⟩], securities := [⟨5, "SPY"⟩]
    generations := [sampleGeneration .active] }

def supersededContext : EnforcementContext :=
  { grantedContext with policy := ⟨grantedContext.policy.policies, [], []⟩ }

def grantedDigests : EnforcementDigests :=
  ⟨sampleDigests, fun identity => toString identity.authorizationSequence⟩

def grantedRow : EnforcementAuthorization :=
  { id := 1, enrollmentId := 1, enrollmentGenerationId := 1, authorizationSequence := 1
    authorityVersion := marketPolicyEnforcementAuthorityVersion, status := .authorized, environment := .paper
    tradingAccountId := 1, accountSubscriptionId := 3, strategyId := 1, subscriptionId := some 4, securityId := some 5
    securitySymbol := some "SPY", policyRevisionId := 1, accountHolderUserId := 7, configurationFingerprint := "1"
    authorizationFingerprint := "1", authorizedByUserId := 7, grantReason := "Reviewed.", revokedByUserId := none
    revocationReason := none, invalidationReasonCode := none, lapseResolution := none }

/-- The granted entry is enforced, and fails closed once the revision is superseded. -/
theorem enforcement_lapse_contract_granted :
    entryTreatment (resolveLockedAssignmentMarketPolicyEnforcement grantedDigests ⟨grantedContext, [grantedRow]⟩
      grantedContext 3) = .enforced ∧
    InForce grantedDigests grantedContext grantedRow ∧
    entryTreatment (resolveLockedAssignmentMarketPolicyEnforcement grantedDigests ⟨grantedContext, [grantedRow]⟩
      supersededContext 3) = .failsClosed := by
  have granted : grantAssignmentMarketPolicyEnforcementAuthorization grantedDigests ⟨1, 3, 1, "1", 1, "Reviewed.", 7⟩
      ⟨grantedContext, []⟩ = .ok (grantedRow, ⟨grantedContext, [grantedRow]⟩) := by decide +kernel
  have enforced : entryTreatment (resolveLockedAssignmentMarketPolicyEnforcement grantedDigests
      ⟨grantedContext, [grantedRow]⟩ grantedContext 3) = .enforced := by decide +kernel
  have paper : grantedContext.PaperAssignment 3 := by
    intro assignment account assigned owned
    obtain rfl : (⟨3, 1, 1, 5, 4⟩ : SubscribedAssignment) = assignment := Option.some.inj assigned
    obtain rfl : (⟨1, .paper, 7⟩ : TradingAccountRow) = account := Option.some.inj owned
    rfl
  have run : Served (EnforcementEvent.Accepted grantedDigests) ⟨grantedContext, []⟩
      ([] ++ [.grant ⟨1, 3, 1, "1", 1, "Reviewed.", 7⟩]) ⟨grantedContext, [grantedRow]⟩ := .next .start ⟨grantedRow, granted⟩
  obtain ⟨latest, found, resolves⟩ := (enforcement_lapse_contract run).2 _ (List.mem_singleton.mpr rfl) paper
  obtain rfl : grantedRow = latest := Option.some.inj found
  exact ⟨enforced, (resolves grantedContext).2.1 enforced, by decide +kernel⟩

end AiTrader.MarketPolicy
