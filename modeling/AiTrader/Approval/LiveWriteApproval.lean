import AiTrader.Library.Service
import AiTrader.Arming.LiveAccount

/-! # Live write approvals

The approvals of one account, how they authorize a LIVE broker write, and how one is revoked. -/

namespace AiTrader.Approval

open Library Entry

section Source

inductive LiveWriteCapability where
  | riskReducing | entry
deriving DecidableEq

def LiveWriteCapability.text : LiveWriteCapability → String
  | .riskReducing => "RISK_REDUCING"
  | .entry => "ENTRY"

inductive LiveWriteApprovalStatus where
  | granted | revoked | invalidated

inductive LiveWriteApprovalAction where
  | grant | revoke | invalidate

inductive AlpacaBrokerOperationClass where
  | entryWrite | riskReducingWrite | lifecycleRead
deriving DecidableEq

def AlpacaBrokerOperationClass.text : AlpacaBrokerOperationClass → String
  | .entryWrite => "ENTRY_WRITE"
  | .riskReducingWrite => "RISK_REDUCING_WRITE"
  | .lifecycleRead => "LIFECYCLE_READ"

structure ApprovalFingerprints where
  (configurationFingerprint credentialFingerprint : String)
deriving DecidableEq

/-- A row of `TradingAccountLiveWriteApproval`, unique for its account and capability. -/
structure TradingAccountLiveWriteApproval where
  id : Nat
  capability : LiveWriteCapability
  status : LiveWriteApprovalStatus
  revision : Nat
  (configurationFingerprint credentialFingerprint : String)
  (readinessAssessmentId revokedByUserId revokedAt : Option Nat)
  invalidationReason : Option String
  expiresAt : Option Nat

/-- A row of `TradingAccountLiveWriteApprovalDecision`. -/
structure ApprovalDecision where
  capability : LiveWriteCapability
  action : LiveWriteApprovalAction
  actorUserId : Option Nat
  (reason configurationFingerprint credentialFingerprint : String)
  readinessAssessmentId : Option Nat
  (priorRevision resultingRevision : Nat)
  expiresAt : Option Nat

inductive TradingAccountStatus where
  | needsCredentials | active | paused | disabled | error
deriving DecidableEq

structure TradingAccount where
  environment : Environment
  status : TradingAccountStatus
  (tradingEnabled killSwitchEnabled : Bool)

/-- The rows of one account that approvals, authorizations and revocations read or write. -/
structure ApprovalStore where
  account : Option TradingAccount
  approvals : List TradingAccountLiveWriteApproval
  /-- What `computeLiveWriteApprovalFingerprints` finds. -/
  fingerprints : LiveWriteCapability → Option ApprovalFingerprints
  decisions : List ApprovalDecision
  trackedPositions : List PositionStatus
  brokerOrders : List OrderStatus
  clock : Nat

structure Deployment where
  (production productionExecutor allowLiveRiskReducingWrites allowLiveTrading : Bool)

/-- Why an approval is not in effect. -/
inductive ApprovalReason where
  | missing | revoked | invalidated | expired | staleFingerprint | riskReducingDependencyMissing

def ApprovalReason.text : ApprovalReason → String
  | .missing => "MISSING"
  | .revoked => "REVOKED"
  | .invalidated => "INVALIDATED"
  | .expired => "EXPIRED"
  | .staleFingerprint => "STALE_FINGERPRINT"
  | .riskReducingDependencyMissing => "RISK_REDUCING_DEPENDENCY_MISSING"

/-- `none` when the approval is in effect. -/
def effectiveState (now : Nat) (approval : Option TradingAccountLiveWriteApproval)
    (fingerprints : Option ApprovalFingerprints) : Option ApprovalReason :=
  match approval with
  | none => some .missing
  | some approval =>
    match approval.status with
    | .revoked => some .revoked
    | .invalidated => some .invalidated
    | .granted =>
      if approval.expiresAt.any (decide <| · ≤ now) then some .expired
      else if fingerprints = some ⟨approval.configurationFingerprint, approval.credentialFingerprint⟩ then none
      else some .staleFingerprint

def loadApproval (capability : LiveWriteCapability) (store : ApprovalStore) : Option TradingAccountLiveWriteApproval :=
  store.approvals.find? (·.capability == capability)

/-- Why the approval of a capability is not in effect; ENTRY depends on RISK_REDUCING. -/
def getLiveWriteApprovalState (store : ApprovalStore) (capability : LiveWriteCapability) : Option ApprovalReason :=
  let risk := effectiveState store.clock (loadApproval .riskReducing store) (store.fingerprints .riskReducing)
  let entry := effectiveState store.clock (loadApproval .entry store) (store.fingerprints .entry)
  match capability with
  | .riskReducing => risk
  | .entry => if entry.isNone && risk.isSome then some .riskReducingDependencyMissing else entry

def writeCapability : AlpacaBrokerOperationClass → Option LiveWriteCapability
  | .riskReducingWrite => some .riskReducing
  | .entryWrite => some .entry
  | .lifecycleRead => none

def authorizeLiveBrokerWrite (deployment : Deployment) (tradingAccountId : Nat)
    (operationClass : AlpacaBrokerOperationClass) (store : ApprovalStore) : Except HttpError Unit :=
  match store.account with
  | none => .error ⟨404, "Trading account not found."⟩
  | some account =>
    if account.environment ≠ .live then .ok ()
    else if !deployment.production || !deployment.productionExecutor then
      .error ⟨403, s!"LIVE {operationClass.text} blocked: this deployment is observation-only."⟩
    else
      match writeCapability operationClass with
      | none => .error ⟨403, s!"Unknown Live write classification {operationClass.text}."⟩
      | some capability =>
        if capability = .entry ∧ (account.status ≠ .active ∨ !account.tradingEnabled ∨ account.killSwitchEnabled) then
          .error ⟨403, s!"LIVE ENTRY_WRITE blocked: TradingAccount {tradingAccountId} is not ACTIVE with trading enabled and the kill switch disabled."⟩
        else if !deployment.allowLiveRiskReducingWrites || (capability == .entry && !deployment.allowLiveTrading) then
          .error ⟨403, s!"LIVE {operationClass.text} blocked by deployment policy flags."⟩
        else
          match getLiveWriteApprovalState store capability with
          | some reason => .error ⟨403, s!"LIVE {operationClass.text} blocked: account approval is {reason.text}."⟩
          | none => .ok ()

structure RevokeLiveWriteApproval where
  capability : LiveWriteCapability
  actorUserId : Nat
  reason : String
  expectedRevision : Nat

/-- `changeApprovalState` as a revocation calls it: one serializable transaction. -/
def changeApprovalState (request : RevokeLiveWriteApproval) (store : ApprovalStore) :
    Except HttpError (TradingAccountLiveWriteApproval × ApprovalStore) := do
  let current ← requireSome (loadApproval request.capability store) 404 "Live write approval was not found."
  require (current.revision == request.expectedRevision) 409 "Approval revision changed; refresh and retry."
  let approval : TradingAccountLiveWriteApproval :=
    { current with
      status := .revoked
      revision := current.revision + 1
      revokedByUserId := some request.actorUserId
      revokedAt := some store.clock
      invalidationReason := none }
  let decision : ApprovalDecision :=
    { capability := request.capability
      action := .revoke
      actorUserId := some request.actorUserId
      reason := request.reason
      configurationFingerprint := current.configurationFingerprint
      credentialFingerprint := current.credentialFingerprint
      readinessAssessmentId := current.readinessAssessmentId
      priorRevision := current.revision
      resultingRevision := current.revision + 1
      expiresAt := current.expiresAt }
  pure (approval,
    { store with
      approvals := Table.updateWhere (·.id == current.id) (fun _ => approval) store.approvals
      decisions := store.decisions ++ [decision] })

/-- The open and closing positions of the account. -/
def localPositions (store : ApprovalStore) : Nat := store.trackedPositions.countP activePositionStatuses.contains

/-- The orders of the account without a terminal status. -/
def localOrders (store : ApprovalStore) : Nat :=
  store.brokerOrders.countP fun status => !Arming.terminalOrderStatuses.contains status

end Source

end AiTrader.Approval
