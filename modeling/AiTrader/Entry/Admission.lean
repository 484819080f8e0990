import AiTrader.Entry.TerminalSweep
import AiTrader.Entry.OrderWorker

/-! # Admission, disarm and position attachment

Admission and LIVE disarm run without the lifecycle-mutation lock. -/

namespace AiTrader.Entry

open Library EntryLifecycle

/-- The rows one admission creates. -/
structure EntryAdmission where
  intent : OrderIntent
  (claimId securityId : Nat)
  ownerKey : String

/-- The intent and its claim commit together; a second admission of the same owner is a duplicate. -/
def admitEntryOrderIntent (admission : EntryAdmission) (tradingAccountId : Nat) :
    EntryProgram (Option OrderIntent) :=
  Program.commit fun store =>
    if store.intent.isSome then .ok (none, store)
    else
      let intent := { admission.intent with status := .received, updatedAt := store.clock }
      .ok (some intent,
        { store with
          intent := some intent
          claim := some
            { id := admission.claimId
              tradingAccountId
              securityId := admission.securityId
              ownerKey := admission.ownerKey
              status := .entryPending
              trackedPositionId := none
              releasedAt := none
              releaseReason := none
              lastDiagnosedAt := none
              events := [⟨1, .acquired, {}, store.clock⟩] } })

def transitionOrderIntentStatusFrom (source target : OrderStatus) (blockReason : Option String) :
    EntryProgram Bool :=
  Program.commit fun store =>
    .ok (store.updateIntentFrom [source] fun row => { row with status := target, blockReason })

def requireAdmissionStillReceived (transitioned : Bool) : EntryProgram Unit :=
  if transitioned then pure ()
  else throw (.conflict .entryAdmissionAbandoned
    "Entry admission no longer owns its intent; it was not made executable.")

/-- Statuses an intent can still be taken back from. -/
def executableIntentStatuses : List OrderStatus := [.received, .pending]

/-- Block the intent if it can still execute, and release its claim, in one transaction that reads its own block reason. -/
def blockAndRelease (status : OrderStatus) (blockReason releaseReason : String) (onlyBlocked : Bool) :
    EntryProgram Unit := do
  let blocks ← Program.read fun store =>
    store.intent.any fun intent => executableIntentStatuses.contains intent.status
  if onlyBlocked && !blocks then pure ()
  else
    let decision ← readNeverSubmittedRelease fun intent => if blocks then some blockReason else intent.blockReason
    Program.commit fun store =>
      let (matched, blocked) := store.updateIntentFrom executableIntentStatuses fun row =>
        { row with status, blockReason := some blockReason }
      -- a row this transaction updated stays locked until it commits
      if matched = blocks then .ok ((), applyReleaseDecision releaseReason decision blocked)
      else .error (.technical "could not serialize access due to concurrent update")

/-- The steps of an admission after its intent and claim committed. -/
def finishAdmission : EntryProgram Unit := do
  elsewhere
  match ← (Program.answer : EntryProgram (Except String RiskDecision)) with
  | .error message => throw (.technical message)
  | .ok decision =>
    recordOrderIntentRiskEvaluation decision
    match decision with
    | .refused reason =>
      requireAdmissionStillReceived (← transitionOrderIntentStatusFrom .received .blocked (some reason))
      let _ ← releaseUnsubmittedEntryExposureClaim "ADMISSION_RISK_BLOCKED"
      elsewhere
      throw (.technical reason)
    | .allowed =>
      requireAdmissionStillReceived (← transitionOrderIntentStatusFrom .received .pending none)

/-- `submitOrder` from the admission boundary on. -/
def submitOrder (admission : EntryAdmission) (tradingAccountId : Nat) : EntryProgram Unit := do
  match ← admitEntryOrderIntent admission tradingAccountId with
  | none => pure ()
  | some _ =>
    match ← finishAdmission.attempt with
    | .ok _ => pure ()
    | .error error =>
      let _ ← (blockAndRelease .failed (failureText error)
        "ADMISSION_FAILED_BEFORE_BROKER_SUBMISSION" false).attempt
      throw error

/-- What LIVE disarm does to one BUY intent of the account. -/
def disarmEntry (reason : String) : EntryProgram Unit :=
  blockAndRelease .blocked reason "ENTRY_AUTHORITY_TERMINATED_BEFORE_SUBMISSION" true

/-- `attachEntryExposureClaimToPosition` on the unreleased claim of this intent. -/
def attachEntryExposureClaimToPosition (trackedPositionId : Nat) (position : PositionStatus)
    (expectedOrderIntentId : Option Nat) : EntryProgram Unit :=
  Program.commit fun store =>
    let observed : EvidenceFields := { detail := toString trackedPositionId }
    match store.claim, store.intent with
    | some active, some intent =>
      if active.releasedAt.isSome then .ok ((), store)
      else if expectedOrderIntentId.any (· != intent.id) then
        .ok ((), appendEventOnce active .positionAttachmentOrderIntentConflict observed
          (store.updateClaim fun claim => { claim with status := .unresolved }))
      else if active.status = .unresolved then
        .ok ((), appendEventOnce active .positionAttachmentConflict observed store)
      else if active.trackedPositionId = some trackedPositionId ∧ active.status = .positionOpen then .ok ((), store)
      else if active.trackedPositionId.any (· != trackedPositionId) then
        .ok ((), (store.updateClaim fun claim => { claim with status := .unresolved }).appendEvent
          .positionAttachmentConflict observed)
      else
        .ok ((), { (store.updateClaim fun claim =>
            { claim with trackedPositionId := some trackedPositionId, status := .positionOpen }).appendEvent
              .positionAttached observed with
          attachedPosition := some position })
    | _, _ => .ok ((), store)

end AiTrader.Entry
