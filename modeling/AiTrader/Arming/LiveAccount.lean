import AiTrader.Library.Table
import AiTrader.Entry.Admission

/-! # One-shot LIVE entry arming

A LIVE account with the rows its arming, staging, disarm and consumption transactions read and write. The
transactions are serializable, so each is one function on the account that commits or throws. -/

namespace AiTrader.Arming

open Library Entry

inductive AccountStatus where
  | active | other (text : String)
deriving DecidableEq

inductive TerminationType where
  | disarmed | invalidated | expired | consumed
deriving DecidableEq

/-- A row of `LiveEntryArming`: what the one-shot authority is bound to. -/
structure LiveEntryArming where
  (id entryApprovalId entryApprovalRevision riskReducingApprovalId riskReducingApprovalRevision : Nat)
  (tradingAccountSubscriptionId subscriptionId securityId : Nat)
  (configurationFingerprint credentialFingerprint policyFingerprint : String)
  entryApprovalExpiresAt : Nat
  liveEntryAcceptanceRunId : Option Nat

/-- A row of `LiveEntryArmingTermination`, unique for its arming and type. -/
structure LiveEntryArmingTermination where
  liveEntryArmingId : Nat
  type : TerminationType
  reason : String
  orderIntentId : Option Nat
  clientOrderId : Option String

/-- A subscription of the account, with the flags of its hierarchy. -/
structure Assignment where
  (id subscriptionId securityId : Nat)
  (key symbol : String)
  (enabled entriesEnabled exitsEnabled : Bool)
  /-- The subscription, security, strategy and exit profile are all enabled. -/
  hierarchyEnabled : Bool
  /-- The key and the `enabled` flag of the allocation. -/
  allocation : Option (String × Bool)

structure LiveWriteApproval where
  (id revision : Nat)
  expiresAt : Option Nat

/-- The approval of one capability and whether it is in effect. -/
structure CapabilityState where
  effective : Bool
  approval : Option LiveWriteApproval

structure Fingerprints where
  (configuration credential policy : String)
deriving DecidableEq

/-- A row of `TradingAccountReadinessAssessment` for LIVE entry arming. -/
structure ReadinessAssessment where
  id : Nat
  (passed supportedVersion : Bool)
  expiresAt : Nat
  credentialVerifiedAt : Option Nat
  fingerprints : Fingerprints

structure AcceptanceRun where
  id : Nat
  terminal : Bool
  tradingAccountSubscriptionId : Nat
  (executionClaimed executionUncertain armed hasIntent : Bool)

structure LiveAccount where
  clock : Nat
  environment : Environment
  status : AccountStatus
  (tradingEnabled killSwitchEnabled : Bool)
  activeLiveEntryArmingId : Option Nat
  updatedAt : Nat
  /-- The credential is active and not revoked. -/
  credentialEffective : Bool
  /-- The deployment is the production executor with LIVE trading allowed. -/
  deploymentPolicy : Bool
  (entryApproval riskReducingApproval : CapabilityState)
  /-- The fingerprints of the ENTRY capability, and of the readiness gates. -/
  approvalFingerprints : Option Fingerprints
  readinessFingerprints : Option Fingerprints
  assessments : List ReadinessAssessment
  /-- The latest LIVE entry acceptance run. -/
  acceptanceRun : Option AcceptanceRun
  assignments : List Assignment
  armings : List LiveEntryArming
  terminations : List LiveEntryArmingTermination
  /-- The BUY intents of the account, each with its claim and evidence. -/
  entries : List EntryLifecycle
  positions : List PositionStatus
  brokerOrders : List OrderStatus

/-- What the transactions throw: an HTTP error, or an exception of the claim services. -/
inductive LiveEntryError where
  | http (status : Nat) (message : String)
  | entry (error : EntryError)

def require (held : Bool) (status : Nat) (message : String) : Except LiveEntryError Unit :=
  if held then .ok () else .error (.http status message)

def requireSome {α : Type} (value : Option α) (status : Nat) (message : String) : Except LiveEntryError α :=
  match value with
  | some value => .ok value
  | none => .error (.http status message)

/-- An upsert that leaves an existing termination of the same type as it is. -/
def terminateArming (termination : LiveEntryArmingTermination) (account : LiveAccount) : LiveAccount :=
  if account.terminations.any fun row =>
      row.liveEntryArmingId == termination.liveEntryArmingId && row.type == termination.type then account
  else { account with terminations := account.terminations ++ [termination] }

/-- A program that asks nothing, run inside a transaction. -/
def withinTransaction {α : Type} (program : EntryProgram α) (entry : EntryLifecycle) :
    Except EntryError (α × EntryLifecycle) :=
  match program.alone entry with
  | some (.ok value, after) => .ok (value, after)
  | some (.error error, _) => .error error
  | none => .error (.technical "The transaction cannot call a service.")

/-- Block one intent that is still executable, and release its claim as never submitted. -/
def blockEntry (reason : String) (entry : EntryLifecycle) : Except EntryError (Bool × EntryLifecycle) :=
  let (transitioned, blocked) := entry.updateIntentFrom executableIntentStatuses fun row =>
    { row with status := .blocked, blockReason := some reason }
  if transitioned then do
    let (_, released) ← withinTransaction
      (releaseUnsubmittedEntryExposureClaim "ENTRY_AUTHORITY_TERMINATED_BEFORE_SUBMISSION") blocked
    pure (true, released)
  else pure (false, entry)

/-- The loop over the blockable intents, with the number of those it blocked. -/
def blockEntries (reason : String) : List EntryLifecycle → Except EntryError (Nat × List EntryLifecycle)
  | [] => .ok (0, [])
  | entry :: rest => do
    let (blocked, entry) ← blockEntry reason entry
    let (count, rest) ← blockEntries reason rest
    pure (count + blocked.toNat, entry :: rest)

structure ClosedAuthority where
  armingId : Option Nat
  (assignmentsDisabled entryIntentsBlocked : Nat)

/-- The latches of the account, closed, and its assignments without entries. -/
def LiveAccount.latch (account : LiveAccount) : LiveAccount :=
  { account with
    tradingEnabled := false
    killSwitchEnabled := true
    activeLiveEntryArmingId := none
    assignments := account.assignments.map fun assignment => { assignment with entriesEnabled := false } }

def closeEntryAuthority (reason : String) (type : TerminationType) (account : LiveAccount) :
    Except LiveEntryError (ClosedAuthority × LiveAccount) :=
  match blockEntries reason account.entries with
  | .error error => .error (.entry error)
  | .ok (count, entries) =>
    let closed := { account.latch with entries }
    let result :=
      { armingId := account.activeLiveEntryArmingId
        assignmentsDisabled := (account.assignments.filter (·.entriesEnabled)).length
        entryIntentsBlocked := count }
    match account.activeLiveEntryArmingId with
    | some armingId => .ok (result, terminateArming ⟨armingId, type, reason, none, none⟩ closed)
    | none => .ok (result, closed)

/-- A granted ENTRY approval is invalidated. -/
def invalidateEntryApproval (account : LiveAccount) : LiveAccount :=
  { account with entryApproval := { account.entryApproval with effective := false } }

/-- The transaction of `disarmLiveEntries`. -/
def disarmLiveEntries (reason : String) (type : TerminationType) (account : LiveAccount) :
    Except LiveEntryError (ClosedAuthority × LiveAccount) := do
  require (account.environment == .live) 409 "Live entry disarm applies only to LIVE accounts."
  let (result, closed) ← closeEntryAuthority reason type account
  pure (result, invalidateEntryApproval closed)

def requireAcceptanceRunForCanary (latest : Option AcceptanceRun) (requested : Option Nat) (operation : String) :
    Except LiveEntryError (Option AcceptanceRun) := do
  require (!latest.any (·.terminal)) 409
    ("Start a new Live Entry Acceptance run before " ++ operation ++ " the first Live canary.")
  require (latest.all fun run => requested == some run.id) 409
    ("Active acceptance run must explicitly own canary " ++ operation ++ ".")
  require (latest.isSome || requested.isNone) 409 "The requested Live-entry acceptance run is not active."
  pure latest

/-- `stageLiveEntryCanary`; `riskConfigured` is the answer of `assertAccountRiskConfiguration`. -/
def stageLiveEntryCanary (assignmentId : Nat) (acceptanceRunId : Option Nat) (riskConfigured : Bool)
    (account : LiveAccount) : Except LiveEntryError LiveAccount := do
  require (account.environment == .live && account.status == .active && !account.tradingEnabled &&
      account.killSwitchEnabled) 409
    "Canary staging requires LIVE ACTIVE / trading disabled / kill switch enabled."
  let assignment ← requireSome (account.assignments.find? fun row =>
      row.id == assignmentId && row.key == "rsp_dip_core" && row.symbol == "RSP") 409
    "The first Live canary must be the account rsp_dip_core RSP assignment."
  let run ← requireAcceptanceRunForCanary account.acceptanceRun acceptanceRunId "staging"
  require (run.all (·.tradingAccountSubscriptionId == assignment.id)) 409
    "The acceptance run is not bound to the staged assignment."
  require (assignment.enabled && assignment.exitsEnabled && assignment.hierarchyEnabled &&
      assignment.allocation == some ("core_etf", true)) 409
    "The rsp_dip_core assignment hierarchy is not ready for canary staging."
  let (_, closed) ← closeEntryAuthority "Prior Live entry authority invalidated by canary staging." .invalidated account
  require riskConfigured 409 "The account risk configuration is not valid."
  let assignments := closed.assignments.map fun row =>
    if row.id = assignment.id then { row with entriesEnabled := true } else row
  pure (invalidateEntryApproval { closed with assignments })

structure ArmLiveEntriesInput where
  (reason typedConfirmation : String)
  (readinessAssessmentId tradingAccountSubscriptionId entryApprovalId entryApprovalRevision : Nat)
  liveEntryAcceptanceRunId : Option Nat
  expectedUpdatedAt : Nat

def nonterminalIntentStatuses : List OrderStatus := [.received, .pending, .submitting, .submitted]

def terminalOrderStatuses : List OrderStatus :=
  [.filled, .canceled, .cancelled, .expired, .rejected, .replaced, .doneForDay, .calculated]

def credentialVerificationMaxAgeMs : Nat := 15 * 60000

/-- The posture ARM starts from. -/
def LiveAccount.disarmed (account : LiveAccount) : Bool :=
  !account.tradingEnabled && account.killSwitchEnabled && account.activeLiveEntryArmingId.isNone

/-- The checks of ARM, with the row it would create. -/
def checkArming (input : ArmLiveEntriesInput) (account : LiveAccount) : Except LiveEntryError LiveEntryArming := do
  require (account.environment == .live && account.status == .active && account.disarmed) 409
    "ARM requires exact ACTIVE / entry-disarmed posture with no active binding."
  require (account.updatedAt == input.expectedUpdatedAt) 409 "Trading Account changed; refresh and retry ARM."
  let run ← requireAcceptanceRunForCanary account.acceptanceRun input.liveEntryAcceptanceRunId "arming"
  require (!run.any (·.executionUncertain)) 409
    "Live entry arming is blocked while the acceptance run requires execution resolution."
  require (!run.any fun run => run.executionClaimed || run.hasIntent || run.armed) 409
    "The active acceptance run cannot create another Live-entry arming."
  let assessment ← requireSome (account.assessments.find? fun row => row.id == input.readinessAssessmentId &&
      row.passed && row.supportedVersion && decide (account.clock < row.expiresAt)) 409
    "A current passing supported post-grant LIVE_ENTRY_ARMING assessment is required."
  require (assessment.credentialVerifiedAt.any fun verifiedAt =>
      decide (account.clock ≤ verifiedAt + credentialVerificationMaxAgeMs)) 409
    "Credential verification is no longer current. Verify credentials and run a new readiness assessment before ARM."
  require (account.readinessFingerprints == some assessment.fingerprints) 409
    "LIVE_ENTRY_ARMING readiness evidence is stale."
  let entry ← requireSome (account.entryApproval.approval.filter fun approval => account.entryApproval.effective &&
      approval.expiresAt.isSome && approval.id == input.entryApprovalId &&
      approval.revision == input.entryApprovalRevision) 409
    "The exact effective ENTRY approval revision is required."
  let risk ← requireSome (account.riskReducingApproval.approval.filter fun _ =>
      account.riskReducingApproval.effective) 409
    "The exact effective RISK_REDUCING approval is required."
  let assignment ← requireSome (account.assignments.find? fun row =>
      row.id == input.tradingAccountSubscriptionId && row.key == "rsp_dip_core" && row.symbol == "RSP" &&
      row.exitsEnabled &&
      (account.assignments.filter fun row => row.enabled && row.entriesEnabled).map (·.id) == [row.id]) 409
    "The exact sole staged rsp_dip_core assignment is required."
  require (run.all (·.tradingAccountSubscriptionId == assignment.id)) 409
    "The acceptance run is not bound to the staged assignment."
  require (!account.positions.any activePositionStatuses.contains &&
      !account.entries.any (fun entry => entry.intentStatus.any nonterminalIntentStatuses.contains) &&
      account.brokerOrders.all terminalOrderStatuses.contains) 409
    "ARM requires zero local exposure and nonterminal entry work."
  let fingerprints ← requireSome account.approvalFingerprints 409 "ENTRY fingerprints are unavailable."
  pure
    { id := Table.nextId (account.armings.map (·.id))
      entryApprovalId := entry.id
      entryApprovalRevision := entry.revision
      riskReducingApprovalId := risk.id
      riskReducingApprovalRevision := risk.revision
      tradingAccountSubscriptionId := assignment.id
      subscriptionId := assignment.subscriptionId
      securityId := assignment.securityId
      configurationFingerprint := fingerprints.configuration
      credentialFingerprint := fingerprints.credential
      policyFingerprint := assessment.fingerprints.policy
      entryApprovalExpiresAt := entry.expiresAt.getD 0
      liveEntryAcceptanceRunId := run.map (·.id) }

/-- `armLiveEntries`: the arming is created and the latches open. -/
def armLiveEntries (input : ArmLiveEntriesInput) (account : LiveAccount) :
    Except LiveEntryError (LiveEntryArming × LiveAccount) := do
  require (input.typedConfirmation == "ARM LIVE ENTRIES") 400
    "Typed confirmation must exactly match \"ARM LIVE ENTRIES\"."
  let arming ← checkArming input account
  pure (arming, { account with
    armings := account.armings ++ [arming]
    status := .active
    tradingEnabled := true
    killSwitchEnabled := false
    activeLiveEntryArmingId := some arming.id })

inductive ArmingInvalidity where
  | missingArming | armingTerminated | accountLatchMismatch | entryExpired | credentialIneffective
  | deploymentPolicyMismatch | entryApprovalMismatch | riskReducingApprovalMismatch | armingFingerprintStale
  | assignmentNotArmed
deriving DecidableEq

def ArmingInvalidity.text : ArmingInvalidity → String
  | .missingArming => "MISSING_ARMING"
  | .armingTerminated => "ARMING_TERMINATED"
  | .accountLatchMismatch => "ACCOUNT_LATCH_MISMATCH"
  | .entryExpired => "ENTRY_EXPIRED"
  | .credentialIneffective => "CREDENTIAL_INEFFECTIVE"
  | .deploymentPolicyMismatch => "DEPLOYMENT_POLICY_MISMATCH"
  | .entryApprovalMismatch => "ENTRY_APPROVAL_MISMATCH"
  | .riskReducingApprovalMismatch => "RISK_REDUCING_APPROVAL_MISMATCH"
  | .armingFingerprintStale => "ARMING_FINGERPRINT_STALE"
  | .assignmentNotArmed => "ASSIGNMENT_NOT_ARMED"

def evaluateLiveEntryArmingBinding (arming : LiveEntryArming) (entry riskReducing : Option LiveWriteApproval)
    (fingerprints : Fingerprints) (tradingAccountSubscriptionId : Nat) : Except ArmingInvalidity Unit :=
  if !entry.any fun approval => approval.id == arming.entryApprovalId &&
      approval.revision == arming.entryApprovalRevision then .error .entryApprovalMismatch
  else if !riskReducing.any fun approval => approval.id == arming.riskReducingApprovalId &&
      approval.revision == arming.riskReducingApprovalRevision then .error .riskReducingApprovalMismatch
  else if fingerprints ≠
      ⟨arming.configurationFingerprint, arming.credentialFingerprint, arming.policyFingerprint⟩ then
    .error .armingFingerprintStale
  else if tradingAccountSubscriptionId ≠ arming.tradingAccountSubscriptionId then .error .assignmentNotArmed
  else .ok ()

namespace LiveAccount

variable (account : LiveAccount)

def activeArming : Option LiveEntryArming :=
  account.activeLiveEntryArmingId.bind fun id => account.armings.find? (·.id == id)

/-- Some termination of the arming is recorded. -/
def terminated (armingId : Nat) : Bool := account.terminations.any (·.liveEntryArmingId == armingId)

end LiveAccount

def validateActiveLiveEntryArming (account : LiveAccount) : Except ArmingInvalidity LiveEntryArming :=
  match account.activeArming with
  | none => .error .missingArming
  | some arming =>
    if account.terminated arming.id then .error .armingTerminated
    else if account.status ≠ .active ∨ !account.tradingEnabled ∨ account.killSwitchEnabled then
      .error .accountLatchMismatch
    else if arming.entryApprovalExpiresAt ≤ account.clock then .error .entryExpired
    else if !account.credentialEffective then .error .credentialIneffective
    else if !account.deploymentPolicy then .error .deploymentPolicyMismatch
    else if !account.entryApproval.effective ∨ account.entryApproval.approval.isNone then .error .entryApprovalMismatch
    else if !account.riskReducingApproval.effective ∨ account.riskReducingApproval.approval.isNone then
      .error .riskReducingApprovalMismatch
    else
      match account.approvalFingerprints with
      | none => .error .armingFingerprintStale
      | some fingerprints =>
        match evaluateLiveEntryArmingBinding arming account.entryApproval.approval
            account.riskReducingApproval.approval fingerprints arming.tradingAccountSubscriptionId with
        | .ok _ => .ok arming
        | .error invalidity => .error invalidity

/-- What the broker boundary knows of the entry it is about to send. -/
structure NewPositionEntryContext where
  (orderIntentId tradingAccountSubscriptionId subscriptionId : Nat)
  (symbol clientOrderId : String)

def acceptanceRunBindingMatches (arming intent : Option Nat) : Bool := arming.isNone || intent == arming

/-- The consumption of an arming by one intent. -/
structure Authorization where
  (armingId orderIntentId : Nat)

def requireArming (validity : Except ArmingInvalidity LiveEntryArming) : Except LiveEntryError LiveEntryArming :=
  match validity with
  | .ok arming => .ok arming
  | .error invalidity => .error (.http 403 ("LIVE NEW_POSITION_ENTRY blocked: " ++ invalidity.text ++ "."))

/-- `authorizeAndConsumeNewPositionEntry`: the arming is spent before the POST. -/
def authorizeAndConsumeNewPositionEntry (context : NewPositionEntryContext) (account : LiveAccount) :
    Except LiveEntryError (Authorization × LiveAccount) := do
  let arming ← requireArming (validateActiveLiveEntryArming account)
  let intent ← requireSome ((account.entries.filterMap (·.intent)).find? fun intent =>
      intent.id == context.orderIntentId &&
      intent.tradingAccountSubscriptionId == some context.tradingAccountSubscriptionId &&
      intent.subscriptionId == some context.subscriptionId && intent.status == .submitting &&
      intent.side == "buy" && intent.clientOrderId == some context.clientOrderId) 403
    "LIVE NEW_POSITION_ENTRY blocked: intent identity or state mismatch."
  require (acceptanceRunBindingMatches arming.liveEntryAcceptanceRunId intent.liveEntryAcceptanceRunId) 403
    "LIVE NEW_POSITION_ENTRY blocked: acceptance run intent and arming binding mismatch."
  require (account.assignments.any fun row => row.id == context.tradingAccountSubscriptionId && row.enabled &&
      row.entriesEnabled && row.subscriptionId == context.subscriptionId && row.symbol == context.symbol &&
      row.id == arming.tradingAccountSubscriptionId && row.subscriptionId == arming.subscriptionId &&
      row.securityId == arming.securityId) 403
    "LIVE NEW_POSITION_ENTRY blocked: assignment is not the exact armed canary."
  let consumed : LiveEntryArmingTermination :=
    { liveEntryArmingId := arming.id
      type := .consumed
      reason := "One-shot authority consumed before outbound broker submission attempt."
      orderIntentId := some intent.id
      clientOrderId := some context.clientOrderId }
  pure (⟨arming.id, intent.id⟩, (terminateArming consumed account).latch)

/-- What the monitor disarms with after it found the arming invalid. -/
def monitorTermination (invalidity : ArmingInvalidity) : String × TerminationType :=
  ("Automatic Live entry disarm: " ++ invalidity.text ++ ".",
    if invalidity = .entryExpired then .expired else .invalidated)

end AiTrader.Arming
