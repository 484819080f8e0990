import Mathlib.Data.List.Basic

/-! # Entry lifecycle statuses

Intent, broker-order and claim statuses with the status lists the services share. One type serves
intents and broker orders because the source compares both against the same lists. -/

namespace AiTrader.Entry

/-- A status of an `OrderIntent` or a `BrokerOrder`, after trimming and lower-casing. -/
inductive OrderStatus where
  | received | pending | submitting | submitted | blocked | failed
  | new | accepted | pendingNew | acceptedForBidding | held | pendingCancel | pendingReplace
  | partiallyFilled | stopped | suspended
  | filled | canceled | cancelled | expired | rejected | replaced | doneForDay | calculated
  /-- A text outside every status list of the repository. -/
  | unlisted (text : String)
deriving DecidableEq

/-- Intents that may still reach the broker or are there. -/
def unresolvedOrderIntentStatuses : List OrderStatus :=
  [.received, .pending, .submitting, .submitted]

def brokerActiveEntryStatuses : List OrderStatus :=
  [.received, .pending, .submitting, .submitted, .new, .accepted, .pendingNew, .acceptedForBidding,
    .held, .pendingCancel, .pendingReplace, .partiallyFilled, .stopped, .suspended]

def terminalBrokerOrderStatuses : List OrderStatus :=
  [.filled, .canceled, .expired, .rejected, .replaced, .doneForDay, .calculated]

section

variable (status : OrderStatus)

def normalizeBrokerOrderStatus : OrderStatus :=
  if status = .cancelled then .canceled else status

def isTerminalBrokerOrderStatus : Bool :=
  terminalBrokerOrderStatuses.contains (normalizeBrokerOrderStatus status)

def isNonterminalBrokerOrderStatus : Bool :=
  !isTerminalBrokerOrderStatus status

end

/-- The shorter terminal list of the release queries. -/
def conclusivelyNonExecutableStatuses : List OrderStatus :=
  [.filled, .canceled, .cancelled, .expired, .rejected]

def terminalEntryIntentStatuses : List OrderStatus :=
  [.failed, .blocked, .rejected, .canceled, .cancelled, .expired]

/-- A status of an `EntryExposureClaim`. -/
inductive ClaimStatus where
  | entryPending | entrySubmitting | brokerOrderActive | partiallyFilled | filledAwaitingPosition
  | positionOpen | positionClosing | admissionBlocked | unresolved | released
deriving DecidableEq

/-- The permitted claim transitions. -/
def ClaimStatus.transitions : ClaimStatus → List ClaimStatus
  | .entryPending => [.entrySubmitting, .admissionBlocked, .unresolved, .released]
  | .entrySubmitting => [.brokerOrderActive, .unresolved, .released]
  | .brokerOrderActive =>
    [.partiallyFilled, .filledAwaitingPosition, .positionOpen, .unresolved, .released]
  | .partiallyFilled => [.filledAwaitingPosition, .positionOpen, .unresolved, .released]
  | .filledAwaitingPosition => [.positionOpen, .unresolved, .released]
  | .positionOpen => [.positionClosing, .unresolved, .released]
  | .positionClosing => [.positionOpen, .unresolved, .released]
  | .admissionBlocked => [.unresolved, .released]
  | .unresolved => []
  | .released => []

def canTransitionEntryExposureClaim (source target : ClaimStatus) : Bool :=
  source == target || source.transitions.contains target

/-- Claims that no worker has taken to the broker boundary. -/
def ClaimStatus.neverReachedBroker (status : ClaimStatus) : Bool :=
  [ClaimStatus.entryPending, .admissionBlocked].contains status

/-- Claims the never-submitted release accepts. -/
def preDispatchClaimStatuses : List ClaimStatus := [.entryPending, .entrySubmitting, .admissionBlocked]

def recoverableClaimStatuses : List ClaimStatus := preDispatchClaimStatuses ++ [.unresolved]

/-- A change of status that neither goes back before the broker boundary nor leaves `UNRESOLVED`. -/
structure ClaimStatus.Onward (source target : ClaimStatus) : Prop where
  early : target.neverReachedBroker = true → source.neverReachedBroker = true
  unresolved : source = .unresolved → target = .unresolved

theorem ClaimStatus.onward_of_transition {source target : ClaimStatus}
    (permitted : canTransitionEntryExposureClaim source target = true) : source.Onward target := by
  constructor
  · revert permitted
    cases source <;> cases target <;> decide
  · rintro rfl
    revert permitted
    cases target <;> decide

theorem ClaimStatus.onward_unresolved (source : ClaimStatus) : source.Onward .unresolved :=
  ⟨fun early => absurd early (by decide), fun _ => rfl⟩

end AiTrader.Entry
