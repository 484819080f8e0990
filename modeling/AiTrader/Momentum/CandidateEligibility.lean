import AiTrader.Approval.LiveWriteApproval

/-! # Eligibility of momentum candidates

The states of a candidate, and the reasons why it is not confirmed or handed off. -/

namespace AiTrader.Momentum

open Approval

inductive MomentumCandidateState where
  | discovered | watching | entryReady | entryBlocked | expired | dismissed
deriving DecidableEq

def isActiveMomentumCandidateState : MomentumCandidateState → Bool
  | .discovered | .watching | .entryReady | .entryBlocked => true
  | .expired | .dismissed => false

/-- Instants are milliseconds. -/
def isMomentumCandidateExpired (expiresAt : Option Int) (now : Int) : Bool :=
  expiresAt.any fun expiresAt => decide (expiresAt ≤ now)

def canPrepareMomentumHandoffState (state : MomentumCandidateState) : Bool := state == .entryReady

section Subscriptions

/-- The reasons of both eligibilities, by the texts of the source. -/
inductive EligibilityReason where
  | candidateInactive | candidateExpired | candidateUnconfirmed | candidateBlocked | missingSecurity
  | outsideResearchUniverse | universeDisabled | priceScanningDisabled
  | noSubscription | noEnabledSubscription | noMomentumStrategy | strategyDisabled | noTradingAccount
  | accountAssignmentDisabled | accountDisabled | allocationDisabled | eligible
deriving DecidableEq

def EligibilityReason.text : EligibilityReason → String
  | .candidateInactive => "CANDIDATE_INACTIVE"
  | .candidateExpired => "CANDIDATE_EXPIRED"
  | .candidateUnconfirmed => "CANDIDATE_UNCONFIRMED"
  | .candidateBlocked => "CANDIDATE_BLOCKED"
  | .missingSecurity => "MISSING_SECURITY"
  | .outsideResearchUniverse => "OUTSIDE_RESEARCH_UNIVERSE"
  | .universeDisabled => "UNIVERSE_DISABLED"
  | .priceScanningDisabled => "PRICE_SCANNING_DISABLED"
  | .noSubscription => "NO_SUBSCRIPTION"
  | .noEnabledSubscription => "NO_ENABLED_SUBSCRIPTION"
  | .noMomentumStrategy => "NO_MOMENTUM_STRATEGY"
  | .strategyDisabled => "STRATEGY_DISABLED"
  | .noTradingAccount => "NO_TRADING_ACCOUNT"
  | .accountAssignmentDisabled => "ACCOUNT_ASSIGNMENT_DISABLED"
  | .accountDisabled => "ACCOUNT_DISABLED"
  | .allocationDisabled => "ALLOCATION_DISABLED"
  | .eligible => "ELIGIBLE"

/-- `if (held) reasons.push(reason)` -/
def pushIf (held : Bool) (reason : EligibilityReason) : List EligibilityReason := if held then [reason] else []

structure AllocationRow where
  id : Nat
  enabled : Bool

structure AccountSubscriptionRow where
  id : Nat
  (enabled entriesEnabled : Bool)
  tradingAccountId : Nat
  accountStatus : TradingAccountStatus
  allocation : Option AllocationRow

structure SubscriptionRow where
  id : Nat
  key : String
  enabled : Bool
  strategyId : Nat
  strategyKey : String
  strategyEnabled : Bool
  accountSubscriptions : List AccountSubscriptionRow

structure AccountAssignment where
  (accountSubscriptionId tradingAccountId : Nat)
  allocationId : Option Nat

structure QualifyingMomentumSubscription where
  subscriptionId : Nat
  subscriptionKey : String
  strategyId : Nat
  strategyKey : String
  accountAssignments : List AccountAssignment

structure MomentumSubscriptionEligibility where
  eligible : Bool
  (subscriptionCount enabledSubscriptionCount : Nat)
  qualifyingSubscriptions : List QualifyingMomentumSubscription
  reasons : List EligibilityReason

/-- The strategy keys of the family `MOMENTUM_CONTINUATION`. -/
def isMomentumContinuationStrategyKey (value : String) : Bool := value == "momentum_etf" || value == "momentum_stock"

/-- An assignment qualifies, or there is a reason why it does not. -/
def qualifyAssignment (assignment : AccountSubscriptionRow) : Except EligibilityReason AccountAssignment :=
  if assignment.accountStatus ≠ .active then .error .accountDisabled
  else if assignment.allocation.any fun allocation => !allocation.enabled then .error .allocationDisabled
  else .ok ⟨assignment.id, assignment.tradingAccountId, assignment.allocation.map (·.id)⟩

def refusals {α : Type} (results : List (Except EligibilityReason α)) : List EligibilityReason :=
  results.filterMap fun result => match result with
    | .error reason => some reason
    | .ok _ => none

def successes {α : Type} (results : List (Except EligibilityReason α)) : List α :=
  results.filterMap fun result => match result with
    | .error _ => none
    | .ok value => some value

/-- What a subscription with an enabled momentum strategy qualifies for, and the reasons it adds. -/
def qualifySubscription (subscription : SubscriptionRow) : List AccountAssignment × List EligibilityReason :=
  if subscription.accountSubscriptions = [] then ([], [.noTradingAccount])
  else
    let enabledAssignments := subscription.accountSubscriptions.filter fun item => item.enabled && item.entriesEnabled
    if enabledAssignments = [] then ([], [.accountAssignmentDisabled])
    else
      let results := enabledAssignments.map qualifyAssignment
      (successes results, refusals results)

def evaluateMomentumSubscriptionEligibility (subscriptions : List SubscriptionRow) : MomentumSubscriptionEligibility :=
  let enabledSubscriptions := subscriptions.filter (·.enabled)
  let momentumSubscriptions := enabledSubscriptions.filter fun item => isMomentumContinuationStrategyKey item.strategyKey
  let enabledStrategySubscriptions := momentumSubscriptions.filter (·.strategyEnabled)
  let qualified := enabledStrategySubscriptions.map fun item => (item, qualifySubscription item)
  let reasons :=
    pushIf (subscriptions = []) .noSubscription ++
    pushIf (subscriptions ≠ [] ∧ enabledSubscriptions = []) .noEnabledSubscription ++
    pushIf (enabledSubscriptions ≠ [] ∧ momentumSubscriptions = []) .noMomentumStrategy ++
    pushIf (momentumSubscriptions ≠ [] ∧ enabledStrategySubscriptions = []) .strategyDisabled ++
    qualified.flatMap fun item => item.2.2
  let qualifyingSubscriptions := (qualified.filter fun item => item.2.1 ≠ []).map fun item =>
    ⟨item.1.id, item.1.key, item.1.strategyId, item.1.strategyKey, item.2.1⟩
  let eligible := decide (qualifyingSubscriptions ≠ [])
  ⟨eligible, subscriptions.length, enabledSubscriptions.length, qualifyingSubscriptions,
    if eligible then [.eligible] else reasons.eraseDups⟩

end Subscriptions

structure UniverseMember where
  (enabled priceScanningEnabled : Bool)

structure CandidateSecurity where
  id : Nat
  momentumUniverseMember : Option UniverseMember
  subscriptions : List SubscriptionRow

structure MomentumCandidateEligibilityContext where
  state : MomentumCandidateState
  expiresAt : Option Int
  blockedReason : Option String
  /-- Whether the latest price check is confirmed, if there is one. -/
  latestConfirmed : Option Bool
  security : Option CandidateSecurity

structure MomentumCandidateEligibility where
  eligible : Bool
  reasons : List EligibilityReason
  momentumSubscriptionEligibility : MomentumSubscriptionEligibility

def securityReasons : Option CandidateSecurity → List EligibilityReason
  | none => [.missingSecurity]
  | some security => match security.momentumUniverseMember with
    | none => [.outsideResearchUniverse]
    | some member =>
      pushIf (!member.enabled) .universeDisabled ++ pushIf (!member.priceScanningEnabled) .priceScanningDisabled

def subscriptionEligibility (candidate : MomentumCandidateEligibilityContext) : MomentumSubscriptionEligibility :=
  evaluateMomentumSubscriptionEligibility ((candidate.security.map (·.subscriptions)).getD [])

def researchReasons (candidate : MomentumCandidateEligibilityContext) (now : Int) : List EligibilityReason :=
  (pushIf (!isActiveMomentumCandidateState candidate.state) .candidateInactive ++
    pushIf (isMomentumCandidateExpired candidate.expiresAt now) .candidateExpired ++
    securityReasons candidate.security).eraseDups

def eligibilityOf (reasons : List EligibilityReason) (subscriptions : MomentumSubscriptionEligibility) :
    MomentumCandidateEligibility :=
  if reasons = [] then ⟨true, [.eligible], subscriptions⟩ else ⟨false, reasons, subscriptions⟩

def evaluateMomentumHandoffEligibility (candidate : MomentumCandidateEligibilityContext) (now : Int) :
    MomentumCandidateEligibility :=
  let subscriptions := subscriptionEligibility candidate
  eligibilityOf (researchReasons candidate now ++
    (if subscriptions.eligible then [] else subscriptions.reasons) ++
    pushIf (!canPrepareMomentumHandoffState candidate.state) .candidateUnconfirmed ++
    pushIf (candidate.latestConfirmed != some true) .candidateUnconfirmed ++
    pushIf (candidate.state = .entryBlocked ∨ candidate.blockedReason.isSome) .candidateBlocked).eraseDups
    subscriptions

end AiTrader.Momentum
