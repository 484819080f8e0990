import AiTrader.Library.History
import AiTrader.Library.Returns
import AiTrader.Lifecycle.Authority
import Mathlib.Algebra.Order.Field.Rat
import Mathlib.Tactic.Linarith

/-! # Runs of the lifecycle authority

Assessments, grants, validations and invalidations run next to each other while the evidence, the environment and the
clocks change. -/

namespace AiTrader.Lifecycle

open Library Library.Program Entry Function

variable {sha256 : String → String}

theorem OwnershipRole.text_injective : Injective OwnershipRole.text := by
  intro first second same
  cases first <;> cases second <;> first | rfl | exact absurd same (by decide)

theorem BrokerCredentialStatus.text_injective : Injective BrokerCredentialStatus.text := by
  intro first second same
  cases first <;> cases second <;> first | rfl | exact absurd same (by decide)

theorem string_injective : Injective Json.string := fun _ _ same => Json.string.inj same

theorem ofOption_string_injective : Injective (Json.ofOption Json.string) :=
  Json.ofOption_injective string_injective nofun

theorem CredentialEvidence.json_injective : Injective CredentialEvidence.json := by
  intro first second same
  simp only [json, Json.object.injEq, List.cons.injEq, Prod.mk.injEq, true_and, and_true] at same
  obtain ⟨id, status, verifiedAt, revokedAt, keyFingerprint, updatedAt⟩ := same
  have sameId := Json.ofNat_injective id
  have sameStatus := BrokerCredentialStatus.text_injective (string_injective status)
  have sameVerified := ofOption_string_injective verifiedAt
  have sameRevoked := ofOption_string_injective revokedAt
  have sameFingerprint := ofOption_string_injective keyFingerprint
  have sameUpdated := string_injective updatedAt
  cases first
  cases second
  simp only at sameId sameStatus sameVerified sameRevoked sameFingerprint sameUpdated
  subst_vars
  rfl

theorem Declaration.json_injective : Injective Declaration.json := by
  intro first second same
  obtain ⟨tradingAccountId, role, expected⟩ := first
  obtain ⟨otherId, otherRole, otherExpected⟩ := second
  cases expected <;> cases otherExpected <;>
    simp only [json, Json.object.injEq, Option.map_some, Option.map_none, Option.toList_some, Option.toList_none,
      List.append_nil, List.cons_append, List.nil_append, List.cons.injEq, Prod.mk.injEq, true_and, and_true,
      and_false, List.nil_eq, List.cons_ne_nil] at same
  case none.none =>
    obtain ⟨id, role⟩ := same
    rw [Json.ofNat_injective id, OwnershipRole.text_injective (string_injective role)]
  case some.some =>
    obtain ⟨id, role, expected⟩ := same
    rw [Json.ofNat_injective id, OwnershipRole.text_injective (string_injective role), string_injective expected]

/-- The revision determines the declaration, the stored identity and the credential. -/
theorem evidence_of_configurationRevision (injective : Injective sha256) {env other : AuthorityEnvironment}
    {account read : AccountRow} {declaration declared : Declaration}
    (same : configurationRevision sha256 env account declaration = configurationRevision sha256 other read declared) :
    declaration = declared ∧ account.brokerAccountId = read.brokerAccountId ∧ account.credential = read.credential := by
  have hashed := injective (String.append_right_inj _ |>.mp same)
  have json := Json.text_injective (String.ofList_injective hashed)
  simp only [configurationJson, Json.object.injEq, List.cons.injEq, Prod.mk.injEq, true_and, and_true] at json
  obtain ⟨_, _, declaration, identity, credential, _⟩ := json
  exact ⟨Declaration.json_injective declaration, ofOption_string_injective identity,
    Json.ofOption_injective CredentialEvidence.json_injective (fun _ => Json.noConfusion) credential⟩

variable {internal : InternalVerdict} {store : AuthorityStore} {state : GrantState}

section Invariant

variable {log longer : List AuthorityEvent} {id : Nat}

def AuthorityEvent.revokes (tradingAccountId : Nat) : AuthorityEvent → Bool
  | .assessedNegative id => id == tradingAccountId
  | .invalidated id => id == tradingAccountId
  | _ => false

def AuthorityEvent.revokesAll : AuthorityEvent → Bool
  | .invalidatedAll => true
  | _ => false

/-- The generations that a log leads to. -/
def generationsOf (log : List AuthorityEvent) (tradingAccountId : Nat) : Generations :=
  ⟨log.countP (·.revokes tradingAccountId), log.countP (·.revokesAll)⟩

theorem generationsOf_plain {event : AuthorityEvent} (own : event.revokes id = false) (all : event.revokesAll = false) :
    generationsOf (log ++ [event]) id = generationsOf log id := by
  simp [generationsOf, List.countP_append, own, all]

/-- A verification of an account that passed every check. -/
structure Verification where
  timing : VerificationTiming
  env : AuthorityEnvironment
  checked : CheckedAccount
  observed : String

variable {verification : Verification}

def Verification.revision (sha256 : String → String) (verification : Verification) : String :=
  configurationRevision sha256 verification.env verification.checked.account verification.checked.declaration

def Verification.event (verification : Verification) : AuthorityEvent :=
  .verified verification.timing.attemptSequence verification.env verification.checked verification.observed

/-- The log has the start of a verification, at the generations it started with. -/
def Started (log : List AuthorityEvent) (id : Nat) (started : StartedVerification) : Prop :=
  ∃ early late, log = early ++ .verificationStarted id started.timing :: late ∧
    generationsOf early id = started.generations

/-- The log has the start of a verification and its success. -/
def Verification.Recorded (verification : Verification) (log : List AuthorityEvent) (id : Nat) (generations : Generations) :
    Prop :=
  ∃ early late, log = early ++ .verificationStarted id verification.timing :: late ∧
    generationsOf early id = generations ∧ verification.event ∈ late

/-- A verdict that allows something is that of a recorded verification. -/
def Positive (sha256 : String → String) (log : List AuthorityEvent) (id : Nat) (internal : InternalVerdict) : Prop :=
  ∃ verification : Verification, verification.Recorded log id internal.generations ∧
    internal = verifiedVerdict (verification.revision sha256) verification.checked verification.observed
      verification.timing internal.generations

/-- A grant derives from a recorded verification, within five minutes of its start on both clocks. -/
structure Derives (sha256 : String → String) (log : List AuthorityEvent) (grant : Nat) (state : GrantState)
    (verification : Verification) : Prop where
  recorded : verification.Recorded log state.tradingAccountId state.generations
  issued : .issued grant state.tradingAccountId state.operation verification.timing.attemptSequence ∈ log
  identity : state.brokerAccountId = verification.observed
  revision : state.configurationRevision = verification.revision sha256
  afterStart : verification.timing.startedAtMs ≤ state.issuedAtMs
  expires : state.expiresAtMs ≤ verification.timing.startedAtMs + maxGrantTtlMs
  afterStartElapsed : verification.timing.startedElapsedMs ≤ state.issuedElapsedMs
  expiresElapsed : state.issuedElapsedMs + state.expiresAfterMs ≤ verification.timing.startedElapsedMs + maxGrantTtlMs

/-- What a validation that succeeds rests on. -/
structure Authorized (log : List AuthorityEvent) (conclusion : Conclusion) (verification : Verification) : Prop where
  issued : .issued conclusion.grant conclusion.tradingAccountId conclusion.operation verification.timing.attemptSequence ∈ log
  /-- The grant was issued for no other account or operation. -/
  only : ∀ tradingAccountId operation attemptSequence,
    .issued conclusion.grant tradingAccountId operation attemptSequence ∈ log →
      tradingAccountId = conclusion.tradingAccountId ∧ operation = conclusion.operation
  permitted : policyAllows conclusion.declaration.role conclusion.operation = true
  identity : conclusion.account.brokerAccountId = some verification.observed
  storedIdentity : conclusion.account.brokerAccountId = verification.checked.account.brokerAccountId
  credential : conclusion.account.credential = verification.checked.account.credential
  declaration : conclusion.declaration = verification.checked.declaration
  wall : verification.timing.startedAtMs ≤ conclusion.nowMs ∧
    conclusion.nowMs < verification.timing.startedAtMs + maxGrantTtlMs
  monotonic : verification.timing.startedElapsedMs ≤ conclusion.elapsedMs ∧
    conclusion.elapsedMs < verification.timing.startedElapsedMs + maxGrantTtlMs
  /-- Since the verification started nothing has been invalidated and no assessment of the account was negative. -/
  unrevoked : ∃ early late, log = early ++ .verificationStarted conclusion.tradingAccountId verification.timing :: late ∧
    verification.event ∈ late ∧
    ∀ event ∈ late, event.revokes conclusion.tradingAccountId = false ∧ event.revokesAll = false

/-- What the last check of a validation returns. -/
def Conclusion.valid (conclusion : Conclusion) : Bool :=
  conclusion.state.covers conclusion.nowMs conclusion.elapsedMs && conclusion.state.generations == conclusion.generations

/-- What is known of a validation from the events before it. -/
structure Concluded (log : List AuthorityEvent) (conclusion : Conclusion) : Prop where
  expired : conclusion.state.permanentlyExpired = true ↔ .timeFailed conclusion.grant ∈ log
  authorized : conclusion.valid = true → ∃ verification, Authorized log conclusion verification

def ConcludedEvent (log : List AuthorityEvent) : AuthorityEvent → Prop
  | .concluded conclusion => Concluded log conclusion
  | _ => True

/-- The memory of the process agrees with what has happened. -/
structure Sound (sha256 : String → String) (store : AuthorityStore) : Prop where
  generations : ∀ id, store.generationsFor id = generationsOf store.log id
  cached : ∀ id internal, store.assessmentCache id = some internal → Positive sha256 store.log id internal
  derived : ∀ grant state, store.grants grant = some state → ∃ verification, Derives sha256 store.log grant state verification
  fresh : ∀ grant, store.nextGrant ≤ grant → store.grants grant = none
  issued : ∀ grant tradingAccountId operation attemptSequence,
    .issued grant tradingAccountId operation attemptSequence ∈ store.log →
      ∃ state, store.grants grant = some state ∧ state.tradingAccountId = tradingAccountId ∧ state.operation = operation
  expired : ∀ grant, (∃ state, store.grants grant = some state ∧ state.permanentlyExpired = true) ↔
    .timeFailed grant ∈ store.log
  concluded : Throughout ConcludedEvent store.log

/-- What any stretch of the process keeps. -/
structure Grown (store after : AuthorityStore) : Prop where
  log : store.log <+: after.log
  clock : store.elapsedMs ≤ after.elapsedMs
  grants : ∀ grant state, store.grants grant = some state → ∃ later, after.grants grant = some later ∧
    later.tradingAccountId = state.tradingAccountId ∧ later.operation = state.operation

theorem Grown.refl (store : AuthorityStore) : Grown store store :=
  ⟨List.prefix_rfl, le_refl _, fun _ state held => ⟨state, held, rfl, rfl⟩⟩

theorem Grown.trans {first second third : AuthorityStore} (early : Grown first second) (late : Grown second third) :
    Grown first third where
  log := early.log.trans late.log
  clock := early.clock.trans late.clock
  grants := fun grant state held => by
    obtain ⟨middle, present, account, operation⟩ := early.grants grant state held
    obtain ⟨later, kept, sameAccount, sameOperation⟩ := late.grants grant middle present
    exact ⟨later, kept, sameAccount.trans account, sameOperation.trans operation⟩

theorem Started.later {started : StartedVerification} (begun : Started log id started) (grown : log <+: longer) :
    Started longer id started := by
  obtain ⟨early, late, rfl, generations⟩ := begun
  obtain ⟨added, rfl⟩ := grown
  exact ⟨early, late ++ added, by simp, generations⟩

theorem Verification.Recorded.later {generations : Generations}
    (recorded : verification.Recorded log id generations) (grown : log <+: longer) :
    verification.Recorded longer id generations := by
  obtain ⟨early, late, rfl, same, success⟩ := recorded
  obtain ⟨added, rfl⟩ := grown
  exact ⟨early, late ++ added, by simp, same, List.mem_append_left _ success⟩

theorem Positive.later (positive : Positive sha256 log id internal) (grown : log <+: longer) :
    Positive sha256 longer id internal := by
  obtain ⟨verification, recorded, same⟩ := positive
  exact ⟨verification, recorded.later grown, same⟩

theorem Derives.later {grant : Nat} (derives : Derives sha256 log grant state verification) (grown : log <+: longer) :
    Derives sha256 longer grant state verification :=
  { derives with recorded := derives.recorded.later grown, issued := grown.subset derives.issued }

/-- A process that has just started is sound. -/
theorem sound_startedProcess {accounts : List AccountRow} {env : AuthorityEnvironment} {elapsedMs : ℚ} :
    Sound sha256 (startedProcess accounts env elapsedMs) where
  generations := fun _ => rfl
  cached := fun _ _ none => by cases none
  derived := fun _ _ held => nomatch held
  fresh := fun _ _ => rfl
  issued := fun _ _ _ _ member => nomatch member
  expired := fun _ => ⟨fun ⟨_, absent, _⟩ => (by cases absent), nofun⟩
  concluded := throughout_nil

/-- What happens outside the memory of the process. -/
def Outside (store after : AuthorityStore) : Prop :=
  ∃ accounts env elapsedMs, store.elapsedMs ≤ elapsedMs ∧ after = { store with accounts, env, elapsedMs }

theorem Sound.outside {after : AuthorityStore} (sound : Sound sha256 store) (outside : Outside store after) :
    Sound sha256 after ∧ Grown store after := by
  obtain ⟨accounts, env, elapsedMs, forward, rfl⟩ := outside
  exact ⟨⟨sound.generations, sound.cached, sound.derived, sound.fresh, sound.issued, sound.expired, sound.concluded⟩,
    ⟨List.prefix_rfl, forward, fun _ state held => ⟨state, held, rfl, rfl⟩⟩⟩

end Invariant

variable {log : List AuthorityEvent} {env : AuthorityEnvironment} {evidence : AccountEvidence} {declaration : Declaration}
  {account : AccountRow}

section Stretches

variable {after : AuthorityStore} {id : Nat} {nowMs : Int} {nowElapsedMs : ℚ}

/-- An event that tells of no revocation, grant or expiry. -/
def AuthorityEvent.Plain : AuthorityEvent → Prop
  | .verificationStarted .. | .verified .. | .concluded _ => True
  | _ => False

variable {event : AuthorityEvent}

/-- An event that is neither a grant nor its expiry is recorded with the generations it leads to. -/
theorem Sound.extend (sound : Sound sha256 store)
    (apart : ∀ grant, event ≠ .timeFailed grant ∧ ∀ account operation attempt, event ≠ .issued grant account operation attempt)
    (concluded : ConcludedEvent store.log event) (log : after.log = store.log ++ [event]) (grants : after.grants = store.grants)
    (next : after.nextGrant = store.nextGrant)
    (cache : ∀ id internal, after.assessmentCache id = some internal → store.assessmentCache id = some internal)
    (generations : ∀ id, after.generationsFor id = generationsOf (store.log ++ [event]) id) : Sound sha256 after := by
  have grown : store.log <+: after.log := ⟨[event], log.symm⟩
  constructor
  · exact fun id => log ▸ generations id
  · exact fun id internal cached => (sound.cached id internal (cache id internal cached)).later grown
  · intro grant state held
    rw [grants] at held
    obtain ⟨verification, derives⟩ := sound.derived grant state held
    exact ⟨verification, derives.later grown⟩
  · intro grant above
    rw [grants]
    exact sound.fresh grant (next ▸ above)
  · intro grant account operation attempt member
    rw [log] at member
    rw [grants]
    rcases List.mem_append.mp member with earlier | last
    · exact sound.issued grant account operation attempt earlier
    · exact absurd (List.mem_singleton.mp last).symm ((apart grant).2 account operation attempt)
  · intro grant
    rw [grants, log]
    refine (sound.expired grant).trans ⟨fun earlier => List.mem_append_left _ earlier, fun member => ?_⟩
    rcases List.mem_append.mp member with earlier | last
    · exact earlier
    · exact absurd (List.mem_singleton.mp last).symm (apart grant).1
  · rw [log]
    exact throughout_concat.mpr ⟨sound.concluded, concluded⟩

theorem Sound.record_plain (sound : Sound sha256 store) (plain : event.Plain)
    (concluded : ConcludedEvent store.log event) : Sound sha256 (store.record event) := by
  have silent : (∀ id, event.revokes id = false) ∧ event.revokesAll = false ∧
      ∀ grant, event ≠ .timeFailed grant ∧ ∀ account operation attempt, event ≠ .issued grant account operation attempt := by
    cases event <;> first | exact plain.elim | exact ⟨fun _ => rfl, rfl, fun _ => ⟨nofun, fun _ _ => nofun⟩⟩
  exact sound.extend silent.2.2 concluded rfl rfl rfl (fun _ _ cached => cached) fun id =>
    (sound.generations id).trans (generationsOf_plain (silent.1 id) silent.2.1).symm

theorem grown_record (event : AuthorityEvent) : Grown store (store.record event) :=
  ⟨List.prefix_append _ _, le_refl _, fun _ state held => ⟨state, held, rfl, rfl⟩⟩

theorem beginAssessment_sound (sound : Sound sha256 store) {forceRefresh : Bool}
    {result : InternalVerdict ⊕ StartedVerification}
    (begun : beginAssessment id forceRefresh nowMs nowElapsedMs store = (result, after)) :
    Sound sha256 after ∧ Grown store after ∧ result.elim (Positive sha256 after.log id) (Started after.log id) := by
  unfold beginAssessment at begun
  cases found : (store.assessmentCache id).filter fun cached => !forceRefresh &&
      assessmentTimingIsFresh cached nowMs nowElapsedMs && cached.generations == store.generationsFor id with
  | some cached =>
    rw [found] at begun
    cases begun
    exact ⟨sound, .refl store, sound.cached id cached (Option.filter_eq_some_iff.mp found).1⟩
  | none =>
    rw [found] at begun
    cases begun
    have numbered : Sound sha256 { store with
        assessmentAttemptSequences := update store.assessmentAttemptSequences id
          (some ((store.assessmentAttemptSequences id).getD 0 + 1)) } :=
      ⟨sound.generations, sound.cached, sound.derived, sound.fresh, sound.issued, sound.expired, sound.concluded⟩
    refine ⟨numbered.record_plain trivial trivial, ⟨List.prefix_append _ _, le_refl _, fun _ state held => ⟨state, held, rfl, rfl⟩⟩, ?_⟩
    exact ⟨store.log, [], rfl, (sound.generations id).symm⟩

/-- A revocation that is recorded with the generation it raises. -/
theorem Sound.revoke (sound : Sound sha256 store)
    (revoking : (∃ id, event = .assessedNegative id ∨ event = .invalidated id) ∨ event = .invalidatedAll)
    (log : after.log = store.log ++ [event]) (grants : after.grants = store.grants) (next : after.nextGrant = store.nextGrant)
    (cache : ∀ id internal, after.assessmentCache id = some internal → store.assessmentCache id = some internal)
    (own : ∀ id, after.accountGenerations id = store.accountGenerations id + if event.revokes id then 1 else 0)
    (all : after.globalGeneration = store.globalGeneration + if event.revokesAll then 1 else 0) : Sound sha256 after := by
  have other : ConcludedEvent store.log event ∧
      ∀ grant, event ≠ .timeFailed grant ∧ ∀ account operation attempt, event ≠ .issued grant account operation attempt := by
    rcases revoking with ⟨_, rfl | rfl⟩ | rfl <;> exact ⟨trivial, fun _ => ⟨nofun, fun _ _ => nofun⟩⟩
  refine sound.extend other.2 other.1 log grants next cache fun id => ?_
  have before := sound.generations id
  simp only [AuthorityStore.generationsFor, generationsOf, Generations.mk.injEq] at before ⊢
  rw [own, all, before.1, before.2]
  simp only [List.countP_append, List.countP_singleton, and_self]

theorem mem_of_update_none {other : Nat} {cache : Nat → Option InternalVerdict}
    (cached : update cache id none other = some internal) : cache other = some internal := by
  by_cases same : other = id
  · rw [same, update_self] at cached
    cases cached
  · rwa [update_of_ne same] at cached

theorem raised_invalidateAccount (other : Nat) :
    (invalidateAccount id store).accountGenerations other = store.accountGenerations other + if id == other then 1 else 0 := by
  by_cases same : id = other
  · subst same
    simp [invalidateAccount]
  · simp [invalidateAccount, update_of_ne (Ne.symm same), same]

theorem Positive.role (positive : Positive sha256 log id internal) : internal.role ≠ none := by
  obtain ⟨_, _, same⟩ := positive
  rw [same]
  nofun

theorem negativeVerdict_sound (sound : Sound sha256 store) {base : AssessmentBase} {forceRefresh : Bool}
    {internal : InternalVerdict} (answered : negativeVerdict id base forceRefresh store = (internal, after)) :
    Sound sha256 after ∧ Grown store after ∧ internal.role = none := by
  have negative : (store.assessmentCache id).map (·.role) ≠ some none := by
    intro cached
    obtain ⟨internal, held, role⟩ := Option.map_eq_some_iff.mp cached
    exact (sound.cached id internal held).role role
  have revoked : negativeVerdict id base forceRefresh store =
      (⟨immutableAssessment base, none, none, (invalidateAccount id store).generationsFor id⟩,
        (invalidateAccount id store).record (.assessedNegative id)) := by
    simp [negativeVerdict, negative]
  rw [revoked] at answered
  cases answered
  refine ⟨@Sound.revoke sha256 store _ (.assessedNegative id) sound (.inl ⟨id, .inl rfl⟩) rfl rfl rfl
      (fun _ _ => mem_of_update_none) raised_invalidateAccount rfl,
    ⟨List.prefix_append _ _, le_refl _, fun _ state held => ⟨state, held, rfl, rfl⟩⟩, rfl⟩

/-- A refusal has no role, and an answer is what it should be. -/
def Judged {β : Type} (answers : β → Prop) : Except InternalVerdict β → Prop
  | .error internal => internal.role = none
  | .ok value => answers value

theorem orNegative_sound (sound : Sound sha256 store) {β : Type} {forceRefresh : Bool} {checked : Except AssessmentBase β}
    {result : Except InternalVerdict β} (answered : orNegative id forceRefresh checked store = (result, after)) :
    Sound sha256 after ∧ Grown store after ∧ Judged (checked = .ok ·) result := by
  cases checked with
  | ok value =>
    cases answered
    exact ⟨sound, .refl store, rfl⟩
  | error base =>
    obtain ⟨internal, reached, negative⟩ : ∃ internal reached, negativeVerdict id base forceRefresh store = (internal, reached) :=
      ⟨_, _, rfl⟩
    simp only [orNegative, negative] at answered
    cases answered
    exact negativeVerdict_sound sound negative

theorem Started.recorded {verification : Verification} {generations : Generations} (begun : Started log id ⟨verification.timing, generations⟩) :
    verification.Recorded (log ++ [verification.event]) id generations := by
  obtain ⟨early, late, rfl, same⟩ := begun
  exact ⟨early, late ++ [verification.event], by simp, same, List.mem_concat_self⟩

/-- A verdict allows nothing, or it is that of a recorded verification. -/
def VerdictOf (sha256 : String → String) (log : List AuthorityEvent) (id : Nat) (internal : InternalVerdict) : Prop :=
  internal.role = none ∨ Positive sha256 log id internal

theorem VerdictOf.later {longer : List AuthorityEvent}
    (verdict : VerdictOf sha256 log id internal) (grown : log <+: longer) : VerdictOf sha256 longer id internal :=
  verdict.imp_right fun positive => positive.later grown

theorem concludeVerification_sound (sound : Sound sha256 store) {forceRefresh : Bool} {started : StartedVerification}
    {checked : CheckedAccount} {observed : Option String} {internal : InternalVerdict} (begun : Started store.log id started)
    (own : checked.account.id = id)
    (concluded : concludeVerification sha256 id forceRefresh started checked observed nowMs nowElapsedMs store =
      (internal, after)) : Sound sha256 after ∧ Grown store after ∧ VerdictOf sha256 after.log id internal := by
  unfold concludeVerification at concluded
  cases passed : checkObserved checked observed with
  | error base =>
    rw [passed] at concluded
    obtain ⟨still, grown, negative⟩ := negativeVerdict_sound sound concluded
    exact ⟨still, grown, .inl negative⟩
  | ok identity =>
    rw [passed] at concluded
    dsimp only at concluded
    let verification : Verification := ⟨started.timing, store.env, checked, identity⟩
    have recorded : verification.Recorded (store.log ++ [verification.event]) id started.generations := begun.recorded
    have plain := @Sound.record_plain _ _ verification.event sound trivial trivial
    have positive : Positive sha256 (store.log ++ [verification.event]) id (verifiedVerdict
        (configurationRevision sha256 store.env checked.account checked.declaration) checked identity started.timing
        started.generations) := ⟨verification, recorded, rfl⟩
    rw [own] at concluded
    split at concluded
    case isTrue =>
      cases concluded
      refine ⟨⟨plain.generations, ?_, plain.derived, plain.fresh, plain.issued, plain.expired, plain.concluded⟩,
        ⟨List.prefix_append _ _, le_refl _, fun _ state held => ⟨state, held, rfl, rfl⟩⟩, .inr positive⟩
      intro other internal cached
      by_cases same : other = id
      · subst same
        change update store.assessmentCache other (some _) other = some internal at cached
        rw [update_self] at cached
        cases cached
        exact positive
      · change update store.assessmentCache id (some _) other = some internal at cached
        rw [update_of_ne same] at cached
        exact plain.cached other internal cached
    case isFalse =>
      cases concluded
      exact ⟨plain, grown_record _, .inr positive⟩

variable {operation : LifecycleAuthorityOperation}

/-- An issuable verdict is that of a recorded verification, and it is fresh. -/
theorem issuable_some {verdict : IssuableVerdict} (from_ : VerdictOf sha256 store.log id internal)
    (found : issuable id operation internal nowMs nowElapsedMs store = some verdict) :
    ∃ verification : Verification, verification.Recorded store.log id internal.generations ∧
      verdict.timing = verification.timing ∧ verdict.brokerAccountId = verification.observed ∧
      verdict.configurationRevision = verification.revision sha256 ∧
      verdict.expiresAtMs = verification.timing.startedAtMs + maxGrantTtlMs ∧
      verification.timing.startedAtMs ≤ nowMs ∧ verification.timing.startedElapsedMs ≤ nowElapsedMs := by
  rcases from_ with none | ⟨verification, recorded, same⟩
  · simp [issuable, none] at found
  · have timing : internal.timing = some verification.timing := by rw [same]; rfl
    have expires : internal.expiresAtMs = some (verification.timing.startedAtMs + maxGrantTtlMs) := by rw [same]; rfl
    have role : internal.role = some verification.checked.declaration.role := by rw [same]; rfl
    have identity : internal.assessment.observedBrokerAccountId = some verification.observed := by rw [same]; rfl
    have fingerprint : internal.assessment.credentialFingerprint = some verification.checked.keyFingerprint := by rw [same]; rfl
    have revision : internal.assessment.configurationRevision = some (verification.revision sha256) := by rw [same]; rfl
    simp only [issuable, timing, expires, role, identity, fingerprint, revision] at found
    split at found
    case isFalse => cases found
    case isTrue held =>
      cases found
      have fresh := held.2.2.2.2.1
      simp only [assessmentTimingIsFresh, timing, expires, Bool.and_eq_true, decide_eq_true_eq] at fresh
      exact ⟨verification, recorded, rfl, rfl, rfl, rfl, fresh.1.2, by linarith [fresh.1.1.1]⟩

theorem issue_sound (sound : Sound sha256 store) {operation : LifecycleAuthorityOperation} {ttlMs : ℚ}
    {internal : InternalVerdict} {grant : Option Nat} (from_ : VerdictOf sha256 store.log id internal)
    (issued : issue id operation ttlMs internal nowMs nowElapsedMs store = (grant, after)) :
    Sound sha256 after ∧ Grown store after := by
  unfold issue at issued
  cases found : issuable id operation internal nowMs nowElapsedMs store with
  | none =>
    rw [found] at issued
    cases issued
    exact ⟨sound, .refl store⟩
  | some verdict =>
    obtain ⟨verification, recorded, timing, identity, revision, expires, wall, monotonic⟩ := issuable_some from_ found
    rw [found] at issued
    dsimp only at issued
    split at issued
    case isTrue =>
      cases issued
      exact ⟨sound, .refl store⟩
    case isFalse =>
      cases issued
      have unused := sound.fresh store.nextGrant (le_refl _)
      have grown (event : AuthorityEvent) : store.log <+: store.log ++ [event] := List.prefix_append _ _
      refine ⟨⟨?_, ?_, ?_, ?_, ?_, ?_, ?_⟩, ⟨grown _, le_refl _, ?_⟩⟩
      · exact fun id => (sound.generations id).trans (generationsOf_plain rfl rfl).symm
      · exact fun id internal cached => (sound.cached id internal cached).later (grown _)
      · intro grant state held
        change update store.grants store.nextGrant (some _) grant = some state at held
        by_cases same : grant = store.nextGrant
        · subst same
          rw [update_self] at held
          cases held
          refine ⟨verification, recorded.later (grown _), ?_, identity, revision, wall, ?_, monotonic, ?_⟩
          · rw [timing]
            exact List.mem_concat_self
          · dsimp only
            rw [expires]
            push_cast
            exact min_le_right _ _
          · dsimp only
            rw [timing]
            linarith [min_le_right ttlMs (min (maxGrantTtlMs - (nowElapsedMs - verification.timing.startedElapsedMs))
                ((verdict.expiresAtMs : ℚ) - nowMs)),
              min_le_left (maxGrantTtlMs - (nowElapsedMs - verification.timing.startedElapsedMs))
                ((verdict.expiresAtMs : ℚ) - nowMs)]
        · rw [update_of_ne same] at held
          obtain ⟨other, derives⟩ := sound.derived grant state held
          exact ⟨other, derives.later (grown _)⟩
      · intro grant above
        have later : store.nextGrant + 1 ≤ grant := above
        change update store.grants store.nextGrant (some _) grant = none
        rw [update_of_ne (by omega)]
        exact sound.fresh grant (by omega)
      · intro grant account operation attempt member
        change ∃ state, update store.grants store.nextGrant (some _) grant = some state ∧ _
        rcases List.mem_append.mp member with earlier | last
        · obtain ⟨state, held, agrees⟩ := sound.issued grant account operation attempt earlier
          have different : grant ≠ store.nextGrant := by
            rintro rfl
            rw [unused] at held
            cases held
          exact ⟨state, by rw [update_of_ne different]; exact held, agrees⟩
        · cases List.mem_singleton.mp last
          exact ⟨_, update_self .., rfl, rfl⟩
      · intro grant
        change (∃ state, update store.grants store.nextGrant (some _) grant = some state ∧ _) ↔ _ ∈ store.log ++ [_]
        rw [List.mem_append, List.mem_singleton, or_iff_left nofun, ← sound.expired grant]
        by_cases same : grant = store.nextGrant
        · subst same
          rw [update_self, unused]
          exact ⟨fun ⟨_, held, expired⟩ => (by cases held; cases expired), fun ⟨_, absent, _⟩ => (by cases absent)⟩
        · rw [update_of_ne same]
      · exact throughout_concat.mpr ⟨sound.concluded, trivial⟩
      · intro grant state held
        have different : grant ≠ store.nextGrant := by
          rintro rfl
          rw [unused] at held
          cases held
        exact ⟨state, by rw [← held]; exact update_of_ne different .., rfl, rfl⟩

/-- The state of a grant after its time was checked. -/
def GrantState.checked (state : GrantState) (wallMs : Int) (failed : Bool) : GrantState :=
  { state with lastObservedWallMs := wallMs, permanentlyExpired := state.permanentlyExpired || failed }

/-- A check of the time, and the event of its failure. -/
def AuthorityStore.checkTime (store : AuthorityStore) (grant : Nat) (state : GrantState) (wallMs : Int) (failed : Bool) :
    AuthorityStore :=
  { store with
    grants := update store.grants grant (some (state.checked wallMs failed))
    log := store.log ++ if failed then [.timeFailed grant] else [] }

theorem Sound.checkTime (sound : Sound sha256 store) {grant : Nat} {state : GrantState}
    (held : store.grants grant = some state) (wallMs : Int) (failed : Bool) :
    Sound sha256 (store.checkTime grant state wallMs failed) ∧ Grown store (store.checkTime grant state wallMs failed) := by
  have grown : store.log <+: (store.checkTime grant state wallMs failed).log := List.prefix_append _ _
  have other {token : Nat} (different : token ≠ grant) :
      (store.checkTime grant state wallMs failed).grants token = store.grants token := update_of_ne different ..
  have own : (store.checkTime grant state wallMs failed).grants grant = some (state.checked wallMs failed) :=
    update_self ..
  refine ⟨⟨?_, ?_, ?_, ?_, ?_, ?_, ?_⟩, ⟨grown, le_refl _, ?_⟩⟩
  · intro id
    refine (sound.generations id).trans ?_
    cases failed
    · exact (congrArg (generationsOf · id) (List.append_nil store.log)).symm
    · exact (generationsOf_plain rfl rfl).symm
  · exact fun id internal cached => (sound.cached id internal cached).later grown
  · intro token found present
    by_cases same : token = grant
    · subst same
      rw [own] at present
      cases present
      obtain ⟨verification, derives⟩ := sound.derived token state held
      have later := derives.later grown
      exact ⟨verification, later.recorded, later.issued, later.identity, later.revision, later.afterStart, later.expires,
        later.afterStartElapsed, later.expiresElapsed⟩
    · rw [other same] at present
      obtain ⟨verification, derives⟩ := sound.derived token found present
      exact ⟨verification, derives.later grown⟩
  · intro token above
    have different : token ≠ grant := by
      rintro rfl
      rw [sound.fresh token above] at held
      cases held
    rw [other different]
    exact sound.fresh token above
  · intro token account operation attempt member
    have earlier : .issued token account operation attempt ∈ store.log := by
      rcases List.mem_append.mp member with earlier | last
      · exact earlier
      · cases failed <;> simp at last
    obtain ⟨found, present, agrees⟩ := sound.issued token account operation attempt earlier
    by_cases same : token = grant
    · subst same
      rw [held] at present
      cases present
      exact ⟨_, own, agrees⟩
    · exact ⟨found, (other same).trans present, agrees⟩
  · intro token
    have before := sound.expired token
    by_cases same : token = grant
    · subst same
      rw [own]
      rw [held] at before
      cases failed <;> simp [AuthorityStore.checkTime, GrantState.checked] at before ⊢
      exact before
    · rw [other same, before]
      cases failed <;> simp [AuthorityStore.checkTime, same]
  · cases failed
    · have unchanged : (store.checkTime grant state wallMs false).log = store.log := List.append_nil _
      rw [unchanged]
      exact sound.concluded
    · exact throughout_concat.mpr ⟨sound.concluded, trivial⟩
  · intro token found present
    by_cases same : token = grant
    · subst same
      rw [held] at present
      cases present
      exact ⟨_, own, rfl, rfl⟩
    · exact ⟨found, (other same).trans present, rfl, rfl⟩

theorem grantTimeIsValid_eq (grant : Nat) (state : GrantState) :
    grantTimeIsValid grant state nowMs nowElapsedMs store = (state.covers nowMs nowElapsedMs,
      store.checkTime grant state (if state.covers nowMs nowElapsedMs then nowMs else state.lastObservedWallMs)
        (!state.covers nowMs nowElapsedMs)) := by
  cases covers : state.covers nowMs nowElapsedMs <;>
    simp [grantTimeIsValid, covers, AuthorityStore.checkTime, GrantState.checked, AuthorityStore.record]

theorem beginValidation_sound (sound : Sound sha256 store) {args : ValidationRequest} {passed : Bool}
    (begun : beginValidation args nowMs nowElapsedMs store = (passed, after)) :
    Sound sha256 after ∧ Grown store after ∧ (passed = true → ∃ state, after.grants args.grant = some state ∧
      state.tradingAccountId = args.tradingAccountId ∧ state.operation = args.operation) := by
  unfold beginValidation at begun
  cases held : store.grants args.grant with
  | none =>
    rw [held] at begun
    cases begun
    exact ⟨sound, .refl store, nofun⟩
  | some state =>
    rw [held] at begun
    dsimp only at begun
    split at begun
    case isTrue =>
      cases begun
      exact ⟨sound, .refl store, nofun⟩
    case isFalse allowed =>
      rw [grantTimeIsValid_eq] at begun
      cases begun
      obtain ⟨still, grown⟩ := sound.checkTime held
        (if state.covers nowMs nowElapsedMs then nowMs else state.lastObservedWallMs) (!state.covers nowMs nowElapsedMs)
      obtain ⟨_, account, operation⟩ := not_or.mp allowed |>.imp id not_or.mp
      exact ⟨still, grown, fun _ => ⟨_, update_self .., not_not.mp account, not_not.mp operation⟩⟩

theorem agreeingEvidence_some
    (agreeing : agreeingEvidence sha256 env state operation evidence = some (account, declaration)) :
    account.brokerAccountId = some state.brokerAccountId ∧ policyAllows declaration.role operation = true ∧
      configurationRevision sha256 env account declaration = state.configurationRevision := by
  unfold agreeingEvidence at agreeing
  split at agreeing
  case h_1 => cases agreeing
  case h_2 found =>
    split at agreeing
    case isTrue => cases agreeing
    case isFalse stored =>
      split at agreeing
      case h_2 => cases agreeing
      case h_1 =>
        split at agreeing
        case isFalse => cases agreeing
        case isTrue held =>
          cases agreeing
          simp only [not_or, not_not] at stored
          exact ⟨stored.2.2.1, held.2.2.1, held.2.2.2.2.2.2.2.2.2⟩

theorem unrevoked_of_generations {early late : List AuthorityEvent}
    (same : generationsOf (early ++ late) id = generationsOf early id) :
    ∀ event ∈ late, event.revokes id = false ∧ event.revokesAll = false := by
  simp only [generationsOf, Generations.mk.injEq] at same
  exact fun event member => ⟨uncounted_of_countP_eq same.1 event member, uncounted_of_countP_eq same.2 event member⟩

/-- A grant whose window and generations hold, with evidence that agrees, is authorized. -/
theorem authorized_of_valid (sound : Sound sha256 store) (injective : Injective sha256) {conclusion : Conclusion}
    (held : store.grants conclusion.grant = some conclusion.state)
    (account : conclusion.state.tradingAccountId = conclusion.tradingAccountId)
    (operation : conclusion.state.operation = conclusion.operation)
    (generations : conclusion.generations = store.generationsFor conclusion.tradingAccountId) {evidence : AccountEvidence}
    (agreeing : agreeingEvidence sha256 store.env conclusion.state conclusion.operation evidence =
      some (conclusion.account, conclusion.declaration)) (valid : conclusion.valid = true) :
    ∃ verification, Authorized store.log conclusion verification := by
  obtain ⟨verification, derives⟩ := sound.derived conclusion.grant conclusion.state held
  obtain ⟨stored, permitted, revision⟩ := agreeingEvidence_some agreeing
  obtain ⟨covered, current⟩ := Bool.and_eq_true_iff.mp valid
  obtain ⟨declared, storedIdentity, credential⟩ :=
    evidence_of_configurationRevision injective (revision.trans derives.revision)
  simp only [GrantState.covers, Bool.and_eq_true, decide_eq_true_eq] at covered
  obtain ⟨⟨⟨⟨⟨begun, _⟩, wall⟩, _⟩, monotonic⟩, _⟩ := covered
  have expires := derives.expires
  have afterStart := derives.afterStart
  have afterStartElapsed := derives.afterStartElapsed
  have expiresElapsed := derives.expiresElapsed
  refine ⟨verification, ?_⟩
  constructor
  · rw [← account, ← operation]
    exact derives.issued
  · intro tradingAccountId issuedFor attempt member
    obtain ⟨state, present, sameAccount, sameOperation⟩ := sound.issued _ _ _ _ member
    rw [held] at present
    cases present
    exact ⟨sameAccount.symm.trans account, sameOperation.symm.trans operation⟩
  · exact permitted
  · rw [stored, derives.identity]
  · exact storedIdentity
  · exact credential
  · exact declared
  · have below : (conclusion.nowMs : ℚ) < ((verification.timing.startedAtMs + maxGrantTtlMs : Int) : ℚ) := by
      push_cast
      linarith
    exact ⟨by omega, Int.cast_lt.mp below⟩
  · exact ⟨by linarith, by linarith⟩
  · obtain ⟨early, late, same, first, success⟩ := derives.recorded
    rw [account] at same first
    have unchanged : generationsOf (early ++ .verificationStarted conclusion.tradingAccountId verification.timing :: late)
        conclusion.tradingAccountId = generationsOf early conclusion.tradingAccountId := by
      rw [← same, ← sound.generations, ← generations, first]
      exact (eq_of_beq current).symm
    exact ⟨early, late, same, success, fun event member =>
      unrevoked_of_generations unchanged event (List.mem_cons_of_mem _ member)⟩

/-- A validation whose evidence agrees checks the time of its grant. -/
theorem concludeValidation_of {call : Nat} {args : ValidationRequest} {evidence : AccountEvidence} {state : GrantState}
    {account : AccountRow} {declaration : Declaration} (held : store.grants args.grant = some state)
    (agreeing : agreeingEvidence sha256 store.env state args.operation evidence = some (account, declaration)) :
    concludeValidation sha256 call args evidence nowMs nowElapsedMs store =
      (state.covers nowMs nowElapsedMs && state.generations == store.generationsFor args.tradingAccountId,
        (store.record (.concluded ⟨call, args.grant, args.tradingAccountId, args.operation, account, declaration, state, nowMs,
          nowElapsedMs, store.generationsFor args.tradingAccountId⟩)).checkTime args.grant state
            (if state.covers nowMs nowElapsedMs then nowMs else state.lastObservedWallMs)
            (!state.covers nowMs nowElapsedMs)) := by
  simp only [concludeValidation, held, agreeing, grantTimeIsValid_eq]

theorem concludeValidation_sound (sound : Sound sha256 store) (injective : Injective sha256) {call : Nat}
    {args : ValidationRequest} {evidence : AccountEvidence} {valid : Bool}
    (begun : ∃ state, store.grants args.grant = some state ∧ state.tradingAccountId = args.tradingAccountId ∧
      state.operation = args.operation)
    (concluded : concludeValidation sha256 call args evidence nowMs nowElapsedMs store = (valid, after)) :
    Sound sha256 after ∧ Grown store after ∧ (valid = true → ∃ conclusion, .concluded conclusion ∈ after.log ∧
      conclusion.call = call ∧ conclusion.grant = args.grant ∧ conclusion.tradingAccountId = args.tradingAccountId ∧
      conclusion.operation = args.operation ∧ conclusion.valid = true) := by
  obtain ⟨state, held, account, operation⟩ := begun
  cases agreeing : agreeingEvidence sha256 store.env state args.operation evidence with
  | none =>
    simp only [concludeValidation, held, agreeing] at concluded
    cases concluded
    exact ⟨sound, .refl store, nofun⟩
  | some read =>
    obtain ⟨row, declaration⟩ := read
    rw [concludeValidation_of held agreeing] at concluded
    cases concluded
    let conclusion : Conclusion := ⟨call, args.grant, args.tradingAccountId, args.operation, row, declaration, state, nowMs,
      nowElapsedMs, store.generationsFor args.tradingAccountId⟩
    have known : Concluded store.log conclusion := by
      constructor
      · rw [← sound.expired args.grant]
        constructor
        · exact fun expired => ⟨state, held, expired⟩
        · rintro ⟨found, present, expired⟩
          rw [held] at present
          cases present
          exact expired
      · exact authorized_of_valid sound injective held account operation rfl agreeing
    have recorded := @Sound.record_plain _ _ (.concluded conclusion) sound trivial known
    obtain ⟨still, grown⟩ := recorded.checkTime held
      (if state.covers nowMs nowElapsedMs then nowMs else state.lastObservedWallMs) (!state.covers nowMs nowElapsedMs)
    refine ⟨still, (grown_record _).trans grown, fun valid => ⟨conclusion, ?_, rfl, rfl, rfl, rfl, valid⟩⟩
    exact grown.log.subset (List.mem_concat_self)

theorem invalidateCache_sound (sound : Sound sha256 store) {tradingAccountId : Option Nat} :
    Sound sha256 (invalidateCache tradingAccountId store) ∧ Grown store (invalidateCache tradingAccountId store) := by
  refine ⟨?_, ⟨?_, ?_, ?_⟩⟩
  · cases tradingAccountId with
    | none =>
      exact @Sound.revoke sha256 store _ .invalidatedAll sound (.inr rfl) rfl rfl rfl (fun _ _ absent => by cases absent)
        (fun _ => rfl) rfl
    | some id =>
      exact @Sound.revoke sha256 store _ (.invalidated id) sound (.inl ⟨id, .inr rfl⟩) rfl rfl rfl
        (fun _ _ => mem_of_update_none) raised_invalidateAccount rfl
  · cases tradingAccountId <;> exact List.prefix_append _ _
  · cases tradingAccountId <;> exact le_refl _
  · intro grant state held
    cases tradingAccountId <;> exact ⟨state, held, rfl, rfl⟩

end Stretches

variable {fingerprintSecret : String → String}

section Programs

variable {α β : Type}

/-- Every stretch keeps the invariant and what the others rely on. -/
def authorityContract (sha256 : String → String) : Contract AuthorityStore where
  invariant := Sound sha256
  rely := Grown
  guarantee := Grown
  rely_refl := Grown.refl
  rely_trans := Grown.trans
  guarantee_refl := Grown.refl

/-- Queries that fail are answers; a stretch cannot fail. -/
def NoFault (_ : EvidenceError) : Prop := False

/-- What a program that returns leaves behind, among the others. -/
def Leaves (sha256 : String → String) (program : AuthorityProgram α) (held : α → AuthorityStore → Prop)
    (store : AuthorityStore) : Prop :=
  program.Assured (authorityContract sha256) NoFault (fun result current => ∀ value, result = .ok value → held value current)
    store

variable {held : α → AuthorityStore → Prop}

theorem leaves_pure {value : α} (here : held value store) : Leaves sha256 (pure value) held store :=
  returns_pure here

theorem Leaves.bind {program : AuthorityProgram β} {next : β → AuthorityProgram α} {middle : β → AuthorityStore → Prop}
    (first : Leaves sha256 program middle store)
    (rest : ∀ value current, middle value current → Leaves sha256 (next value) held current) :
    Leaves sha256 (program >>= next) held store :=
  Returns.bind first rest

theorem leaves_answer (here : ∀ value, held value store) : Leaves sha256 answer held store :=
  returns_answer here

theorem leaves_stretch {body : Int → ℚ → AuthorityStore → α × AuthorityStore}
    (run : ∀ nowMs nowElapsedMs current value after, Grown store current → Sound sha256 current →
      body nowMs nowElapsedMs current = (value, after) → Sound sha256 after ∧ Grown current after ∧ held value after) :
    Leaves sha256 (stretch body) held store := by
  intro reading current relied sound
  let advanced := current.elapsedMs + (reading.advanceMs : ℚ)
  have forward : current.elapsedMs ≤ advanced := le_add_of_nonneg_right reading.advanceMs.2
  obtain ⟨ready, onward⟩ := sound.outside ⟨current.accounts, current.env, advanced, forward, rfl⟩
  refine ⟨fun value after success => ?_, (fun _ failure => by cases failure), fun _ faulty => faulty.elim⟩
  obtain ⟨still, grown, here⟩ := run reading.nowMs advanced _ value after (relied.trans onward) ready (Except.ok.inj success)
  exact ⟨onward.trans grown, still, fun _ same => Except.ok.inj same ▸ here, fun _ faulty => faulty.elim⟩

/-- A query returns what it finds in some later store, or it fails. -/
theorem leaves_query {view : AuthorityStore → α}
    (here : ∀ current, Grown store current → held (view current) current) : Leaves sha256 (query view) held store := by
  intro reached
  cases reached with
  | false => exact fun _ same => by cases same
  | true =>
    exact assured_read fun current relied _ =>
      ⟨fun _ same => Except.ok.inj same ▸ here current relied, fun _ faulty => faulty.elim⟩

theorem leaves_readAccountEvidence (id : Nat) : Leaves sha256 (readAccountEvidence id)
    (fun evidence current => (∀ account, evidence.account = some account → account.id = id) ∧ Grown store current) store := by
  have account : Leaves sha256 (query fun store => store.accounts.find? fun row => row.id == id)
      (fun account current => (∀ row, account = some row → row.id = id) ∧ Grown store current) store :=
    leaves_query fun current relied => ⟨fun row found => eq_of_beq (List.find?_some found :), relied⟩
  refine account.bind ?_
  · rintro (_ | row) current ⟨own, relied⟩
    · exact leaves_pure ⟨nofun, relied⟩
    · by_cases stored : present row.brokerAccountId = true
      · simp only [stored, if_true]
        have mappings : Leaves sha256 (query (mappingsOf row)) (fun _ later => Grown store later) current :=
          leaves_query fun later grown => relied.trans grown
        exact mappings.bind fun mappings later grown => leaves_pure ⟨fun account same => own account same, grown⟩
      · simp only [stored]
        exact leaves_pure ⟨fun account same => own account same, relied⟩

theorem checkCredentialRow_ok {checked : CheckedAccount}
    (passed : checkCredentialRow account declaration = .ok checked) : checked.account = account := by
  unfold checkCredentialRow at passed
  split at passed
  · cases passed
  · split_ifs at passed
    split at passed
    · cases passed
    · split_ifs at passed
      cases passed
      rfl

theorem checkEvidence_ok {id : Nat} {checked : CheckedAccount}
    (passed : checkEvidence env id evidence = .ok checked) : evidence.account = some checked.account := by
  unfold checkEvidence at passed
  split at passed
  case h_1 => cases passed
  case h_2 account found =>
    split_ifs at passed
    split at passed
    case h_1 => cases passed
    case h_3 => cases passed
    case h_2 declaration =>
      unfold checkDeclared at passed
      split_ifs at passed
      rw [found, checkCredentialRow_ok passed]

theorem leaves_assessInternal {id : Nat} {forceRefresh : Bool} :
    Leaves sha256 (assessInternal sha256 fingerprintSecret id forceRefresh)
      (fun internal current => VerdictOf sha256 current.log id internal) store := by
  have begun : Leaves sha256 (stretch (beginAssessment id forceRefresh))
      (fun result current => result.elim (Positive sha256 current.log id) (Started current.log id)) store :=
    leaves_stretch fun nowMs nowElapsedMs current value after _ sound same => beginAssessment_sound sound same
  refine begun.bind ?_
  rintro (cached | started) current known
  · exact leaves_pure (.inr known)
  refine (leaves_readAccountEvidence id).bind fun evidence later ⟨own, grown⟩ => ?_
  have seen : Started later.log id started := Started.later known grown.log
  have judged : Leaves sha256 (stretch fun _ _ store => orNegative id forceRefresh (checkEvidence store.env id evidence) store)
      (fun result current => Started current.log id started ∧ Judged (·.account.id = id) result) later :=
    leaves_stretch fun _ _ current value after relied sound same => by
      obtain ⟨still, onward, result⟩ := orNegative_sound sound same
      refine ⟨still, onward, (seen.later relied.log).later onward.log, ?_⟩
      cases value with
      | error internal => exact result
      | ok checked => exact own checked.account (checkEvidence_ok result)
  refine judged.bind ?_
  rintro (refused | checked) current ⟨known, result⟩
  · exact leaves_pure (.inl result)
  have configured : Leaves sha256 (answer : AuthorityProgram (Option AlpacaConfig))
      (fun _ current => Started current.log id started) current := leaves_answer fun _ => known
  refine configured.bind fun config current known => ?_
  have resolved : Leaves sha256 (stretch fun _ _ store =>
        orNegative id forceRefresh (checkConfig fingerprintSecret store.env checked config) store)
      (fun result current => Started current.log id started ∧ Judged (fun _ => True) result) current :=
    leaves_stretch fun _ _ current value after relied sound same => by
      obtain ⟨still, onward, result⟩ := orNegative_sound sound same
      refine ⟨still, onward, (Started.later known relied.log).later onward.log, ?_⟩
      cases value with
      | error internal => exact result
      | ok _ => trivial
  refine resolved.bind ?_
  rintro (refused | _) current ⟨known, refusal⟩
  · exact leaves_pure (.inl refusal)
  have reported : Leaves sha256 (answer : AuthorityProgram (Option String))
      (fun _ current => Started current.log id started) current := leaves_answer fun _ => known
  refine reported.bind fun observed current known => ?_
  exact leaves_stretch fun nowMs nowElapsedMs current value after relied sound same =>
    concludeVerification_sound sound (Started.later known relied.log) result same

theorem leaves_issueLifecycleAuthorityGrant (args : GrantRequest) :
    Leaves sha256 (issueLifecycleAuthorityGrant sha256 fingerprintSecret args) (fun _ _ => True) store := by
  unfold issueLifecycleAuthorityGrant
  split
  · exact leaves_pure trivial
  · refine (leaves_assessInternal).bind fun internal current verdict => ?_
    refine leaves_stretch fun _ _ current value after relied sound same => ?_
    obtain ⟨still, grown⟩ := issue_sound sound (verdict.later relied.log) same
    exact ⟨still, grown, trivial⟩

/-- The log has the conclusion of a validation that returned true. -/
def Validated (log : List AuthorityEvent) (call : Nat) (args : ValidationRequest) : Prop :=
  ∃ conclusion, .concluded conclusion ∈ log ∧ conclusion.call = call ∧ conclusion.grant = args.grant ∧
    conclusion.tradingAccountId = args.tradingAccountId ∧ conclusion.operation = args.operation ∧ conclusion.valid = true

theorem leaves_validateLifecycleAuthorityGrant (injective : Injective sha256) (call : Nat) (args : ValidationRequest) :
    Leaves sha256 (validateLifecycleAuthorityGrant sha256 call args)
      (fun valid current => valid = true → Validated current.log call args) store := by
  let Admitted := fun current : AuthorityStore => ∃ state, current.grants args.grant = some state ∧
    state.tradingAccountId = args.tradingAccountId ∧ state.operation = args.operation
  have lasting {early late : AuthorityStore} (grown : Grown early late) (admitted : Admitted early) : Admitted late := by
    obtain ⟨state, held, account, operation⟩ := admitted
    obtain ⟨later, present, sameAccount, sameOperation⟩ := grown.grants args.grant state held
    exact ⟨later, present, sameAccount.trans account, sameOperation.trans operation⟩
  have begun : Leaves sha256 (stretch (beginValidation args)) (fun passed current => passed = true → Admitted current) store :=
    leaves_stretch fun _ _ current value after _ sound same => beginValidation_sound sound same
  refine begun.bind ?_
  rintro (_ | _) current admitted
  · exact leaves_pure nofun
  have read : Leaves sha256 (readAccountEvidence args.tradingAccountId).attempt (fun _ later => Admitted later) current := by
    have evidence := @leaves_readAccountEvidence sha256 current args.tradingAccountId
    have framed := Returns.attempt evidence (fun _ _ => lasting) (fun _ _ => lasting) (admitted rfl)
    exact Returns.mono framed fun _ _ kept => kept.1
  refine read.bind ?_
  rintro (_ | evidence) later admitted
  · exact leaves_pure nofun
  exact leaves_stretch fun _ _ current value after relied sound same =>
    concludeValidation_sound sound injective (lasting relied admitted) same

theorem leaves_invalidateLifecycleAuthorityCache (tradingAccountId : Option Nat) :
    Leaves sha256 (invalidateLifecycleAuthorityCache tradingAccountId) (fun _ _ => True) store :=
  leaves_stretch fun _ _ current value after _ sound same => by
    obtain ⟨still, grown⟩ := invalidateCache_sound sound
    cases same
    exact ⟨still, grown, trivial⟩

end Programs

/-- What a call was asked for and what it returned. -/
inductive AuthorityResult where
  | assessed (tradingAccountId : Nat) (assessment : LifecycleAuthorityAssessment)
  | issued (args : GrantRequest) (grant : Option Nat)
  | validation (args : ValidationRequest) (valid : Bool)
  | invalidated (tradingAccountId : Option Nat)

/-- The calls of the service. -/
def Calling (sha256 fingerprintSecret : String → String) (call : Nat) (program : AuthorityProgram AuthorityResult) : Prop :=
  (∃ id forceRefresh, program =
    assessLifecycleAuthority sha256 fingerprintSecret id forceRefresh >>= fun assessment => pure (.assessed id assessment)) ∨
  (∃ args, program = issueLifecycleAuthorityGrant sha256 fingerprintSecret args >>= fun grant => pure (.issued args grant)) ∨
  (∃ args, program = validateLifecycleAuthorityGrant sha256 call args >>= fun valid => pure (.validation args valid)) ∨
  ∃ id, program = invalidateLifecycleAuthorityCache id >>= fun _ => pure (.invalidated id)

/-- A call that returned true has concluded so. -/
def ReturnedTrue (call : Nat) (result : AuthorityResult) (store : AuthorityStore) : Prop :=
  ∀ args, result = .validation args true → Validated store.log call args

theorem leaves_calling (injective : Injective sha256) {call : Nat} {program : AuthorityProgram AuthorityResult}
    {store : AuthorityStore} (calling : Calling sha256 fingerprintSecret call program) :
    Leaves sha256 program (ReturnedTrue call) store := by
  rcases calling with ⟨id, forceRefresh, rfl⟩ | ⟨args, rfl⟩ | ⟨args, rfl⟩ | ⟨id, rfl⟩
  · have assessed : Leaves sha256 (assessLifecycleAuthority sha256 fingerprintSecret id forceRefresh) (fun _ _ => True) store :=
      (leaves_assessInternal).bind fun _ _ _ => leaves_pure trivial
    exact assessed.bind fun _ _ _ => leaves_pure nofun
  · exact (leaves_issueLifecycleAuthorityGrant args).bind fun _ _ _ => leaves_pure nofun
  · refine (leaves_validateLifecycleAuthorityGrant injective call args).bind fun valid current validated => leaves_pure ?_
    intro other same
    cases same
    exact validated rfl
  · exact (leaves_invalidateLifecycleAuthorityCache id).bind fun _ _ _ => leaves_pure nofun

def authorityDiscipline (injective : Injective sha256) :
    Crew.Discipline NoFault (Calling sha256 fingerprintSecret) Outside :=
  Crew.common (authorityContract sha256) (fun call result store => ∀ value, result = .ok value → ReturnedTrue call value store)
    id (fun sound outside => Sound.outside sound outside)
    (fun grown returned value same args asked => by
      obtain ⟨conclusion, member, agrees⟩ := returned value same args asked
      exact ⟨conclusion, grown.log.subset member, agrees⟩)
    fun calling => leaves_calling injective calling

/-- The last check of a validation meets a grant marked permanently expired by another, while both clocks are inside its
window. -/
def Conclusion.Revived (conclusion : Conclusion) : Prop :=
  conclusion.state.permanentlyExpired = true ∧ conclusion.state.covers conclusion.nowMs conclusion.elapsedMs = true ∧
    conclusion.state.generations = conclusion.generations

/-- Once a validation of a grant has failed for time, no later one succeeds. -/
def ExpiryIsFinal (log : List AuthorityEvent) : Prop :=
  Throughout (fun before event => ∀ conclusion, event = .concluded conclusion → conclusion.valid = true →
    .timeFailed conclusion.grant ∉ before) log

theorem expiryIsFinal_iff (concluded : Throughout ConcludedEvent log) :
    ExpiryIsFinal log ↔ ∀ conclusion, .concluded conclusion ∈ log → ¬ conclusion.Revived := by
  constructor
  · intro final conclusion member ⟨expired, covers, generations⟩
    obtain ⟨before, after, same⟩ := List.append_of_mem member
    have known : Concluded before conclusion := concluded before _ after same
    have valid : conclusion.valid = true := Bool.and_eq_true_iff.mpr ⟨covers, beq_iff_eq.mpr generations⟩
    exact final before _ after same conclusion rfl valid (known.expired.mp expired)
  · intro unrevived before event after same conclusion is valid failed
    subst is
    have known : Concluded before conclusion := concluded before _ after same
    obtain ⟨covers, generations⟩ := Bool.and_eq_true_iff.mp valid
    refine unrevived conclusion (by rw [same]; simp) ⟨known.expired.mpr failed, covers, eq_of_beq generations⟩

/-- A validation that returns true is authorized by a verification of the last five minutes that nothing has revoked; expiry
is final exactly where no validation revives an expired grant. -/
theorem lifecycle_authority_grants (injective : Injective sha256) {accounts : List AccountRow}
    {env : AuthorityEnvironment} {elapsedMs : ℚ} {crew : Crew AuthorityStore EvidenceError AuthorityResult}
    (run : Crew.Run NoFault (Calling sha256 fingerprintSecret) Outside (Crew.idle (startedProcess accounts env elapsedMs)) crew) :
    (∀ call args, crew.running call = some (.done (.ok (.validation args true))) → Validated crew.store.log call args) ∧
    (∀ before conclusion after, crew.store.log = before ++ .concluded conclusion :: after → conclusion.valid = true →
      ∃ verification, Authorized before conclusion verification) ∧
    (ExpiryIsFinal crew.store.log ↔ ∀ conclusion, .concluded conclusion ∈ crew.store.log → ¬ conclusion.Revived) := by
  have idle : Crew.Sound (@authorityDiscipline sha256 fingerprintSecret injective)
      (Crew.idle (startedProcess accounts env elapsedMs)) :=
    Crew.sound_idle (sound_startedProcess) fun _ => trivial
  have sound := idle.run run
  have kept : Sound sha256 crew.store := sound.invariant
  refine ⟨fun call args returned => ?_, fun before conclusion after same valid => ?_, expiryIsFinal_iff kept.concluded⟩
  · exact sound.returned returned _ rfl args rfl
  · have known : Concluded before conclusion := kept.concluded before _ after same
    exact known.authorized valid

section Sample

/-- A call that nobody interrupts. -/
abbrev Alone {α : Type} : AuthorityProgram α × AuthorityStore → AuthorityProgram α × AuthorityStore → Prop :=
  Interleaving NoFault fun _ _ => False

/-- A stretch while the monotonic clock stands still. -/
theorem alone_stretch {α : Type} {body : Int → ℚ → AuthorityStore → α × AuthorityStore} {store : AuthorityStore} {value : α}
    (nowMs : Int) (returned : (body nowMs store.elapsedMs store).1 = value) :
    Alone (stretch body, store) (.done (.ok value), (body nowMs store.elapsedMs store).2) := by
  have still : store.elapsedMs + ((0 : ℚ≥0) : ℚ) = store.elapsedMs := by simp
  subst returned
  refine .head (.own (.ask ⟨nowMs, 0⟩)) (.single (.own (.commit ?_)))
  rw [still]

theorem alone_query {α : Type} {view : AuthorityStore → α} : Alone (query view, store) (.done (.ok (view store)), store) :=
  .head (.own (.ask true)) (.single (.own (.commit rfl)))

def sampleAccount : AccountRow where
  id := 7
  broker := .alpaca
  environment := .paper
  brokerAccountId := some "PA"
  credential := some ⟨1, .active, some "2026-10-01", none, some "fp", "2026-10-01"⟩

def sampleDeclaration : Declaration := ⟨7, .observer, some "PA"⟩

def sampleEnv : AuthorityEnvironment := ⟨.observationOnly, [sampleDeclaration], []⟩

def sampleStore : AuthorityStore := startedProcess [sampleAccount] sampleEnv 0

def sampleEvidence : AccountEvidence := ⟨some sampleAccount, [7]⟩

def sampleStarted : StartedVerification := ⟨⟨0, 0, 1⟩, ⟨0, 0⟩⟩

def sampleChecked : CheckedAccount := ⟨sampleAccount, sampleDeclaration, "fp"⟩

def sampleRevision : String := configurationRevision id sampleEnv sampleAccount sampleDeclaration

def sampleVerdict : InternalVerdict :=
  verifiedVerdict sampleRevision sampleChecked "PA" sampleStarted.timing sampleStarted.generations

def sampleRequest : GrantRequest := ⟨7, .observe, none⟩

def sampleValidation : ValidationRequest := ⟨0, 7, .observe⟩

def startedStore : AuthorityStore := (beginAssessment 7 false 0 sampleStore.elapsedMs sampleStore).2

def assessedStore : AuthorityStore := (concludeVerification id 7 false sampleStarted sampleChecked (some "PA") 0
  startedStore.elapsedMs startedStore).2

def grantedState : GrantState :=
  ⟨7, .observe, .observer, "PA", "fp", sampleRevision, 10, 300000, 0, 299990, 10, ⟨0, 0⟩, false⟩

def grantedStore : AuthorityStore :=
  { assessedStore with grants := update assessedStore.grants 0 (some grantedState), nextGrant := 1 }.record
    (.issued 0 7 .observe 1)

/-- The first validation reads the wall clock at 20 ms and waits for its evidence. -/
def waitingStore : AuthorityStore := (beginValidation sampleValidation 20 grantedStore.elapsedMs grantedStore).2

/-- The second one reads it at 15 ms. -/
def failedStore : AuthorityStore := (beginValidation sampleValidation 15 waitingStore.elapsedMs waitingStore).2

/-- The evidence of the first one arrives at 30 ms. -/
def revivedStore : AuthorityStore :=
  (concludeValidation id 1 sampleValidation sampleEvidence 30 failedStore.elapsedMs failedStore).2

/-- The grant after the second validation. -/
def failedState : GrantState := grantedState.checked 20 true

def revivedConclusion : Conclusion :=
  ⟨1, 0, 7, .observe, sampleAccount, sampleDeclaration, failedState, 30, 0, ⟨0, 0⟩⟩

theorem alone_readAccountEvidence (stored : store.accounts = [sampleAccount]) :
    Alone (readAccountEvidence 7, store) (.done (.ok sampleEvidence), store) := by
  refine .andThen alone_query ?_
  rw [stored]
  refine .andThen alone_query ?_
  rw [show mappingsOf sampleAccount store = [7] by rw [mappingsOf, stored]; rfl]
  exact .refl

theorem alone_assessInternal : Alone (assessInternal id id 7 false, sampleStore) (.done (.ok sampleVerdict), assessedStore) := by
  refine .andThen (@alone_stretch _ _ _ (.inr sampleStarted) 0 rfl) ?_
  refine .andThen (alone_readAccountEvidence rfl) ?_
  refine .andThen (@alone_stretch _ _ _ (.ok sampleChecked) 0 rfl) ?_
  refine .andThen (.single (.own (.ask (some ⟨some "fp", "fp"⟩)))) ?_
  refine .andThen (@alone_stretch _ _ _ (.ok ()) 0 rfl) ?_
  refine .andThen (.single (.own (.ask (some "PA")))) ?_
  refine alone_stretch 0 ?_
  show (if _ then (sampleVerdict, _) else (sampleVerdict, _)).1 = sampleVerdict
  split <;> rfl

theorem issue_sample :
    issue 7 .observe maxGrantTtlMs sampleVerdict 10 assessedStore.elapsedMs assessedStore = (some 0, grantedStore) := by
  have elapsed : assessedStore.elapsedMs = 0 := by with_unfolding_all rfl
  have fresh : assessmentTimingIsFresh sampleVerdict 10 assessedStore.elapsedMs = true := by with_unfolding_all rfl
  have sequence : assessedStore.assessmentAttemptSequences 7 = some 1 := by with_unfolding_all rfl
  have generations : sampleVerdict.generations = assessedStore.generationsFor 7 := by with_unfolding_all rfl
  have issuable : issuable 7 .observe sampleVerdict 10 assessedStore.elapsedMs assessedStore =
      some ⟨.observer, ⟨0, 0, 1⟩, "PA", "fp", sampleRevision, 300000⟩ :=
    if_pos ⟨rfl, rfl, generations, sequence, fresh, by decide, by decide, by simp [sampleRevision, configurationRevision]⟩
  have next : assessedStore.nextGrant = 0 := by with_unfolding_all rfl
  unfold issue
  rw [issuable, elapsed]
  dsimp only
  rw [if_neg (by with_unfolding_all decide), next]
  with_unfolding_all rfl

theorem alone_issueLifecycleAuthorityGrant :
    Alone (issueLifecycleAuthorityGrant id id sampleRequest, sampleStore) (.done (.ok (some 0)), grantedStore) := by
  refine .andThen alone_assessInternal ?_
  have issued := @alone_stretch _ (issue 7 .observe maxGrantTtlMs sampleVerdict) assessedStore (some 0) 10
    (by rw [issue_sample])
  rwa [issue_sample] at issued

theorem failedStore_grant : failedStore.grants 0 = some failedState := by
  with_unfolding_all rfl

theorem failedStore_log : failedStore.log = [.verificationStarted 7 ⟨0, 0, 1⟩, .verified 1 sampleEnv sampleChecked "PA",
    .issued 0 7 .observe 1, .timeFailed 0] := by
  with_unfolding_all rfl

theorem agreeingEvidence_sample :
    agreeingEvidence id sampleEnv failedState .observe sampleEvidence = some (sampleAccount, sampleDeclaration) := by
  have stored : ¬ (sampleAccount.broker ≠ .alpaca ∨ sampleAccount.environment ≠ .paper ∨
      sampleAccount.brokerAccountId ≠ some failedState.brokerAccountId ∨ sampleEvidence.mappings ≠ [sampleAccount.id]) := by
    decide
  unfold agreeingEvidence
  rw [show sampleEvidence.account = some sampleAccount from rfl]
  dsimp only
  rw [if_neg stored]
  exact if_pos ⟨rfl, rfl, rfl, rfl, rfl, rfl, rfl, rfl, rfl, rfl⟩

theorem concludeValidation_sample : concludeValidation id 1 sampleValidation sampleEvidence 30 0 failedStore =
    (true, (failedStore.record (.concluded revivedConclusion)).checkTime 0 failedState 30 false) := by
  have env : failedStore.env = sampleEnv := by with_unfolding_all rfl
  have generations : failedStore.generationsFor 7 = ⟨0, 0⟩ := by with_unfolding_all rfl
  have covers : failedState.covers 30 0 = true := by with_unfolding_all rfl
  have agreeing := agreeingEvidence_sample
  rw [← env] at agreeing
  have concluded := @concludeValidation_of _ _ 30 0 1 sampleValidation _ _ _ _ failedStore_grant agreeing
  rw [covers, show failedStore.generationsFor sampleValidation.tradingAccountId = ⟨0, 0⟩ from generations] at concluded
  exact concluded

/-- The members of the run: the grant, the validation that waits and the one that fails. -/
def sampleCrew : Crew AuthorityStore EvidenceError AuthorityResult where
  store := revivedStore
  started := 3
  running := update (update (update (update (update (update
      (update (fun _ => none)
        0 (some (issueLifecycleAuthorityGrant id id sampleRequest >>= fun grant => pure (.issued sampleRequest grant))))
        0 (some (.done (.ok (.issued sampleRequest (some 0))))))
        1 (some (validateLifecycleAuthorityGrant id 1 sampleValidation >>= fun valid => pure (.validation sampleValidation valid))))
        1 (some (validateAgainstEvidence id 1 sampleValidation >>= fun valid => pure (.validation sampleValidation valid))))
        2 (some (validateLifecycleAuthorityGrant id 2 sampleValidation >>= fun valid => pure (.validation sampleValidation valid))))
        2 (some (.done (.ok (.validation sampleValidation false)))))
        1 (some (.done (.ok (.validation sampleValidation true))))

theorem run_sampleCrew : Crew.Run NoFault (Calling id id) Outside (Crew.idle sampleStore) sampleCrew := by
  have waits : Alone (validateLifecycleAuthorityGrant id 1 sampleValidation, grantedStore)
      (validateAgainstEvidence id 1 sampleValidation, waitingStore) :=
    .andThen (@alone_stretch _ (beginValidation sampleValidation) grantedStore true 20 (by with_unfolding_all rfl)) .refl
  have fails : Alone (validateLifecycleAuthorityGrant id 2 sampleValidation, waitingStore) (.done (.ok false), failedStore) :=
    .andThen (@alone_stretch _ (beginValidation sampleValidation) waitingStore false 15 (by with_unfolding_all rfl)) .refl
  have elapsed : failedStore.elapsedMs = 0 := by with_unfolding_all rfl
  have accounts : failedStore.accounts = [sampleAccount] := by with_unfolding_all rfl
  have succeeds : Alone (validateAgainstEvidence id 1 sampleValidation, failedStore) (.done (.ok true), revivedStore) := by
    refine .andThen (alone_readAccountEvidence accounts).attempt ?_
    refine @alone_stretch _ (concludeValidation id 1 sampleValidation sampleEvidence) failedStore true 30 ?_
    rw [elapsed, concludeValidation_sample]
  refine .head (.start (.inr (.inl ⟨sampleRequest, rfl⟩))) ?_
  refine .trans (Crew.run_of_interleaving (update_self ..) (alone_issueLifecycleAuthorityGrant.bind _)) ?_
  refine .head (.start (.inr (.inr (.inl ⟨sampleValidation, rfl⟩)))) ?_
  refine .trans (Crew.run_of_interleaving (update_self ..) (waits.bind _)) ?_
  refine .head (.start (.inr (.inr (.inl ⟨sampleValidation, rfl⟩)))) ?_
  refine .trans (Crew.run_of_interleaving (update_self ..) (fails.bind _)) ?_
  exact @Crew.run_of_interleaving _ _ _ _ _ _ _ _ 1 _ _ rfl (succeeds.bind _)

theorem revivedStore_log : revivedStore.log = failedStore.log ++ [.concluded revivedConclusion] := by
  have elapsed : failedStore.elapsedMs = 0 := by with_unfolding_all rfl
  rw [revivedStore, elapsed, concludeValidation_sample]
  exact List.append_nil _

theorem lifecycle_authority_grants_sample : (∃ verification, Authorized failedStore.log revivedConclusion verification) ∧
    (ExpiryIsFinal sampleCrew.store.log ↔ ∀ conclusion, .concluded conclusion ∈ sampleCrew.store.log → ¬ conclusion.Revived) := by
  obtain ⟨_, authorized, final⟩ := lifecycle_authority_grants injective_id run_sampleCrew
  exact ⟨authorized failedStore.log revivedConclusion [] revivedStore_log (by with_unfolding_all rfl), final⟩

/-- A validation succeeds after another one of the same grant has failed for time. -/
theorem expiry_not_final : ¬ ∀ (sha256 fingerprintSecret : String → String) (accounts : List AccountRow)
    (env : AuthorityEnvironment) (elapsedMs : ℚ) (crew : Crew AuthorityStore EvidenceError AuthorityResult),
    Injective sha256 →
    Crew.Run NoFault (Calling sha256 fingerprintSecret) Outside (Crew.idle (startedProcess accounts env elapsedMs)) crew →
    ExpiryIsFinal crew.store.log := by
  intro final
  have unfailed := final id id [sampleAccount] sampleEnv 0 sampleCrew injective_id run_sampleCrew failedStore.log
    (.concluded revivedConclusion) [] revivedStore_log revivedConclusion rfl (by with_unfolding_all rfl)
  refine unfailed ?_
  rw [failedStore_log]
  exact List.mem_append_right [_, _, _] (List.mem_singleton_self _)

end Sample

end AiTrader.Lifecycle
