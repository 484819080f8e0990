import AiTrader.Entry.LifecycleRuns
import AiTrader.Arming.OneShot

/-! # Closing LIVE entry authority

Disarm blocks every executable entry and releases its claim in one transaction, which a refusing release rolls back as a
whole. -/

namespace AiTrader.Arming

open Library Library.Program Entry EntryLifecycle

section Release

variable {entry after : EntryLifecycle} {claim : EntryExposureClaim} {reason : String}

/-- The evidence counts of an entry as one transaction sees them. -/
def submissionEvidence (entry : EntryLifecycle) (claim : EntryExposureClaim) : SubmissionEvidence where
  brokerOrders := entry.brokerOrders.length
  brokerActivities := entry.brokerActivities.length
  brokerDispatchEvidence := (entry.opportunityEvents.filter dispatchEvidenceOpportunityEvents.contains).length
  dispatchConsumptions := entry.consumption.toList.length
  unenforcedDispatches := entry.unenforcedDispatch.toList.length
  liveArmingConsumptions := entry.liveArmingConsumption.toList.length
  attachedPosition := if claim.trackedPositionId.isSome then entry.attachedPosition else none

theorem alone_readNeverSubmittedRelease (blockReasonOf : OrderIntent → Option String) :
    (readNeverSubmittedRelease blockReasonOf).alone entry = some
      (match entry.claim with
      | none => .ok .nothing
      | some claim =>
        if claim.releasedAt.isSome then .ok .nothing
        else
          match decideNeverSubmittedRelease claim (entry.intent.bind blockReasonOf) (submissionEvidence entry claim)
            entry.deliveryEvents with
          | .ok _ => .ok (.release claim.status)
          | .error error => .error error, entry) := by
  simp only [readNeverSubmittedRelease, alone_bind, alone_read]
  cases entry.claim with
  | none => rfl
  | some claim =>
    dsimp only
    split
    · rfl
    · simp only [alone_bind, alone_read, submissionEvidence]
      generalize decideNeverSubmittedRelease claim _ _ _ = decision
      cases decision <;> rfl

/-- The evidence a never-submitted release requires of an unreleased claim. -/
structure NeverSubmitted (reason : String) (entry : EntryLifecycle) (claim : EntryExposureClaim) : Prop where
  preDispatch : claim.status ∈ preDispatchClaimStatuses
  certain : (summarizeDeliveryEvidence entry.deliveryEvents).ambiguous = []
  /-- The text of the reason does not itself claim an uncertain delivery. -/
  reason : blockReasonCarriesDeliveryUncertainty (some reason) = false
  unsent : (claim.status.neverReachedBroker = true ∧
      (summarizeDeliveryEvidence entry.deliveryEvents).adapterMarkers = 0) ∨
    (summarizeDeliveryEvidence entry.deliveryEvents).notSent ≠ []
  unexposed : (submissionEvidence entry claim).empty = true

theorem evaluate_ok_iff (claimStatus : ClaimStatus) (summary : DeliveryEvidenceSummary) (blockReason : Option String) :
    (∃ basis, evaluateNeverSubmittedRelease claimStatus summary blockReason = .ok basis) ↔
      summary.ambiguous = [] ∧ blockReasonCarriesDeliveryUncertainty blockReason = false ∧
        ((claimStatus.neverReachedBroker = true ∧ summary.adapterMarkers = 0) ∨ summary.notSent ≠ []) := by
  unfold evaluateNeverSubmittedRelease
  split_ifs with ambiguous uncertain early notSent
  · simp [ambiguous]
  · simp [uncertain]
  · simpa [not_not.mp ambiguous, uncertain] using .inl early
  · simpa [not_not.mp ambiguous, uncertain] using .inr notSent
  · simpa [not_not.mp notSent] using fun _ _ never none_marked => early ⟨never, none_marked⟩

theorem decide_ok_iff :
    (∃ basis, decideNeverSubmittedRelease claim (some reason) (submissionEvidence entry claim) entry.deliveryEvents =
      .ok basis) ↔ NeverSubmitted reason entry claim := by
  have evaluated := evaluate_ok_iff claim.status (summarizeDeliveryEvidence entry.deliveryEvents) (some reason)
  unfold decideNeverSubmittedRelease
  constructor
  · rintro ⟨basis, decided⟩
    split at decided
    · cases decided
    case isFalse early =>
      split at decided
      case h_2 => cases decided
      case h_1 proven =>
        split at decided
        case isFalse => cases decided
        case isTrue unexposed =>
          obtain ⟨certain, reason, unsent⟩ := evaluated.mp ⟨_, proven⟩
          exact ⟨by simpa using early, certain, reason, unsent, unexposed⟩
  · rintro ⟨preDispatch, certain, reason, unsent, unexposed⟩
    obtain ⟨basis, proven⟩ := evaluated.mpr ⟨certain, reason, unsent⟩
    refine ⟨basis, ?_⟩
    rw [if_neg (by simpa using preDispatch), proven]
    exact if_pos unexposed

end Release

section Blocking

variable {entry after : EntryLifecycle} {reason : String}

/-- The intent is `received` or `pending`. -/
def Executable (entry : EntryLifecycle) : Prop :=
  ∃ status ∈ executableIntentStatuses, entry.intentStatus = some status

/-- The claim of the entry, unless it is released, proves that nothing was submitted. -/
def Blockable (reason : String) (entry : EntryLifecycle) : Prop :=
  ∀ claim, entry.claim = some claim → claim.releasedAt = none → NeverSubmitted reason entry claim

theorem executable_iff :
    (entry.intent.any fun intent => executableIntentStatuses.contains intent.status) = true ↔ Executable entry := by
  cases present : entry.intent with
  | none => simp [Executable, intentStatus, present]
  | some intent => simp [Executable, intentStatus, present]

/-- The entry with its intent blocked. -/
def blocked (reason : String) (entry : EntryLifecycle) : EntryLifecycle :=
  entry.updateIntent fun row => { row with status := .blocked, blockReason := some reason }

theorem neverSubmitted_blocked {claim : EntryExposureClaim} :
    NeverSubmitted reason (blocked reason entry) claim ↔ NeverSubmitted reason entry claim :=
  ⟨fun held => ⟨held.preDispatch, held.certain, held.reason, held.unsent, held.unexposed⟩,
    fun held => ⟨held.preDispatch, held.certain, held.reason, held.unsent, held.unexposed⟩⟩

theorem withinTransaction_release (releaseReason : String) :
    withinTransaction (releaseUnsubmittedEntryExposureClaim releaseReason) entry =
      match entry.claim with
      | none => .ok (none, entry)
      | some claim =>
        if claim.releasedAt.isSome then .ok (some claim, entry)
        else
          match decideNeverSubmittedRelease claim (entry.intent.bind (·.blockReason)) (submissionEvidence entry claim)
            entry.deliveryEvents with
          | .ok _ =>
            let released := applyReleaseDecision releaseReason (.release claim.status) entry
            .ok (released.claim, released)
          | .error error => .error error := by
  simp only [withinTransaction, releaseUnsubmittedEntryExposureClaim, alone_bind,
    alone_readNeverSubmittedRelease, alone_write, alone_read]
  cases present : entry.claim with
  | none => simp only [applyReleaseDecision, present]
  | some claim =>
    by_cases released : claim.releasedAt.isSome = true
    · simp only [if_pos released, applyReleaseDecision, present]
    · simp only [if_neg released]
      cases decideNeverSubmittedRelease claim (entry.intent.bind (·.blockReason)) (submissionEvidence entry claim)
          entry.deliveryEvents with
      | ok basis => rfl
      | error error => rfl

theorem intent_releaseClaim {observed : ClaimStatus} {eventType : ClaimEventType} {evidence : EvidenceFields} :
    (releaseClaim observed reason eventType evidence entry).intent = entry.intent := by
  unfold releaseClaim
  split
  · split <;> rfl
  · rfl

/-- The release of a blocked entry commits exactly when its claim allows it. -/
theorem release_ok_iff (present : entry.intent.isSome) {releaseReason : String} :
    (∃ result, withinTransaction (releaseUnsubmittedEntryExposureClaim releaseReason) (blocked reason entry) =
      .ok result) ↔ Blockable reason entry := by
  rw [withinTransaction_release]
  have same : (blocked reason entry).claim = entry.claim := rfl
  have recorded : (blocked reason entry).intent.bind (·.blockReason) = some reason := by
    obtain ⟨intent, present⟩ := Option.isSome_iff_exists.mp present
    simp [blocked, updateIntent, present]
  rw [same, recorded]
  cases owned : entry.claim with
  | none => simp [Blockable, owned]
  | some claim =>
    simp only [Blockable, owned, Option.some.injEq, forall_eq']
    split
    case isTrue released =>
      refine ⟨fun _ unreleased => ?_, fun _ => ⟨_, rfl⟩⟩
      rw [unreleased] at released
      cases released
    case isFalse unreleased =>
      have open_claim : claim.releasedAt = none := by simpa using unreleased
      rw [forall_prop_of_true open_claim, ← neverSubmitted_blocked, ← decide_ok_iff]
      split
      case h_1 basis proven => exact ⟨fun _ => ⟨basis, proven⟩, fun _ => ⟨_, rfl⟩⟩
      case h_2 error refused => simp [refused]

theorem intentStatus_of_release {releaseReason : String} {result : Option EntryExposureClaim}
    (released : withinTransaction (releaseUnsubmittedEntryExposureClaim releaseReason) entry = .ok (result, after)) :
    after.intentStatus = entry.intentStatus := by
  rw [withinTransaction_release] at released
  split at released
  · cases released
    rfl
  · split at released
    · cases released
      rfl
    · split at released
      · cases released
        exact congrArg (Option.map OrderIntent.status) intent_releaseClaim
      · cases released

theorem blockEntry_ok_iff : (∃ result, blockEntry reason entry = .ok result) ↔ (Executable entry → Blockable reason entry) := by
  unfold blockEntry updateIntentFrom
  by_cases executable : Executable entry
  · rw [if_pos (executable_iff.mpr executable)]
    have present : entry.intent.isSome := by
      obtain ⟨_, _, held⟩ := executable
      rw [← isSome_intentStatus, held]
      rfl
    rw [forall_prop_of_true executable, ← release_ok_iff present]
    simp only [if_true]
    constructor
    · rintro ⟨result, succeeded⟩
      obtain ⟨released, succeeded, _⟩ := bind_eq_ok.mp succeeded
      exact ⟨released, succeeded⟩
    · rintro ⟨released, succeeded⟩
      exact ⟨(true, released.2), by rw [blocked] at succeeded; rw [succeeded]; rfl⟩
  · rw [if_neg (fun held => executable (executable_iff.mp held))]
    exact ⟨fun _ held => absurd held executable, fun _ => ⟨_, rfl⟩⟩

theorem not_executable_of_blockEntry {transitioned : Bool} (succeeded : blockEntry reason entry = .ok (transitioned, after)) :
    ¬ Executable after := by
  unfold blockEntry updateIntentFrom at succeeded
  by_cases executable : Executable entry
  · rw [if_pos (executable_iff.mpr executable)] at succeeded
    obtain ⟨⟨result, released⟩, committed, succeeded⟩ := bind_eq_ok.mp succeeded
    cases succeeded
    have kept := intentStatus_of_release committed
    rintro ⟨status, listed, held⟩
    rw [kept, intentStatus_updateIntent] at held
    obtain ⟨_, _, rfl⟩ := Option.map_eq_some_iff.mp held
    exact absurd listed (by decide : OrderStatus.blocked ∉ executableIntentStatuses)
  · rw [if_neg (fun held => executable (executable_iff.mp held))] at succeeded
    cases succeeded
    exact executable

variable {entries : List EntryLifecycle}

theorem blockEntries_ok_iff :
    (∃ result, blockEntries reason entries = .ok result) ↔
      ∀ entry ∈ entries, Executable entry → Blockable reason entry := by
  induction entries with
  | nil => simp [blockEntries]
  | cons first rest ih =>
    rw [List.forall_mem_cons, ← ih, ← blockEntry_ok_iff]
    constructor
    · rintro ⟨result, succeeded⟩
      obtain ⟨one, blocked, succeeded⟩ := bind_eq_ok.mp succeeded
      obtain ⟨others, blocked_rest, _⟩ := bind_eq_ok.mp succeeded
      exact ⟨⟨one, blocked⟩, others, blocked_rest⟩
    · rintro ⟨⟨⟨transitioned, one⟩, blocked⟩, ⟨count, others⟩, blocked_rest⟩
      exact ⟨(count + transitioned.toNat, one :: others), by rw [blockEntries, blocked, blocked_rest]; rfl⟩

theorem not_executable_of_blockEntries {count : Nat} {afters : List EntryLifecycle}
    (succeeded : blockEntries reason entries = .ok (count, afters)) : ∀ entry ∈ afters, ¬ Executable entry := by
  induction entries generalizing count afters with
  | nil =>
    cases succeeded
    exact fun _ member => absurd member List.not_mem_nil
  | cons first rest ih =>
    obtain ⟨⟨transitioned, one⟩, blocked, succeeded⟩ := bind_eq_ok.mp succeeded
    obtain ⟨⟨others, later⟩, blocked_rest, succeeded⟩ := bind_eq_ok.mp succeeded
    cases succeeded
    rw [List.forall_mem_cons]
    exact ⟨not_executable_of_blockEntry blocked, ih blocked_rest⟩

end Blocking

section Disarm

variable {account : LiveAccount}

/-- No entry can be sent on the account's authority. -/
structure EntriesClosed (account : LiveAccount) : Prop where
  tradingDisabled : account.tradingEnabled = false
  killSwitch : account.killSwitchEnabled = true
  unarmed : account.activeLiveEntryArmingId = none
  assignments : ∀ assignment ∈ account.assignments, assignment.entriesEnabled = false
  entries : ∀ entry ∈ account.entries, ¬ Executable entry

theorem entriesClosed_of_closeEntryAuthority {reason : String} {type : TerminationType} {result : ClosedAuthority}
    {after : LiveAccount} (succeeded : closeEntryAuthority reason type account = .ok (result, after)) :
    EntriesClosed after := by
  unfold closeEntryAuthority at succeeded
  split at succeeded
  · cases succeeded
  case h_2 count entries blocked =>
    have unexecutable := not_executable_of_blockEntries blocked
    have disabled : ∀ assignment ∈ account.latch.assignments, assignment.entriesEnabled = false := by
      simp only [LiveAccount.latch, List.mem_map]
      rintro _ ⟨_, _, rfl⟩
      rfl
    have closed : EntriesClosed { account.latch with entries } := ⟨rfl, rfl, rfl, disabled, unexecutable⟩
    split at succeeded
    case h_1 =>
      cases succeeded
      unfold terminateArming
      split
      · exact closed
      · exact ⟨rfl, rfl, rfl, disabled, unexecutable⟩
    case h_2 =>
      cases succeeded
      exact closed

theorem closeEntryAuthority_ok_iff {account : LiveAccount} {reason : String} {type : TerminationType} :
    (∃ result, closeEntryAuthority reason type account = .ok result) ↔
      ∃ result, blockEntries reason account.entries = .ok result := by
  unfold closeEntryAuthority
  cases blockEntries reason account.entries with
  | error error => simp
  | ok blocked => cases account.activeLiveEntryArmingId <;> simp

/-- Disarm commits with every authority closed exactly when each executable entry proves that nothing was submitted
for it. -/
theorem disarm_commits_iff (live : account.environment = .live) (reason : String) (type : TerminationType) :
    (∃ result after, disarmLiveEntries reason type account = .ok (result, after) ∧ EntriesClosed after) ↔
      ∀ entry ∈ account.entries, Executable entry → Blockable reason entry := by
  rw [← blockEntries_ok_iff, ← closeEntryAuthority_ok_iff]
  constructor
  · rintro ⟨result, after, succeeded, _⟩
    obtain ⟨_, succeeded⟩ := eq_ok_of_require succeeded
    obtain ⟨closed, committed, _⟩ := bind_eq_ok.mp succeeded
    exact ⟨closed, committed⟩
  · rintro ⟨⟨result, closed⟩, committed⟩
    refine ⟨result, invalidateEntryApproval closed, ?_, ?_⟩
    · simp only [disarmLiveEntries, require, live, beq_self_eq_true, if_true, committed]
      rfl
    · obtain ⟨disabled, killed, unarmed, assignments, entries⟩ := entriesClosed_of_closeEntryAuthority committed
      exact ⟨disabled, killed, unarmed, assignments, entries⟩

/-- The position sync attached a position to the admitted entry, whose intent is still `received`. -/
def afterAttachment : EntryLifecycle :=
  (((attachEntryExposureClaimToPosition 1 .opened none).alone afterAdmission).map (·.2)).getD afterAdmission

def attachedAccount : LiveAccount := { armedAccount with entries := [afterAttachment] }

theorem run_afterAttachment {fingerprint : EntryClaimAssessment → String} : ∃ holder others,
    LifecycleRun fingerprint ⟨beforeAdmission, none, []⟩ ⟨afterAttachment, holder, others⟩ := by
  have started : LifecycleRun fingerprint ⟨beforeAdmission, none, []⟩
      ⟨beforeAdmission, none, [] ++ submitOrder sampleAdmission 1 :: []⟩ :=
    .single (.start (.admission sampleAdmission 1))
  have commit : Step EntryFault (submitOrder sampleAdmission 1) beforeAdmission _ afterAdmission := .commit rfl
  have admitted := started.tail (.other commit)
  have locked := admitted.tail (.acquire (.attachment 1 .opened none))
  have attached : Step EntryFault (attachEntryExposureClaimToPosition 1 .opened none) afterAdmission _
      afterAttachment := .commit rfl
  exact ⟨_, _, locked.tail (.holder attached)⟩

/-- The account of an entry that was never submitted. -/
def admittedAccount : LiveAccount := { armedAccount with entries := [afterAdmission] }

/-- Disarm fails when the position sync attached a position to an admitted entry. -/
theorem disarm_rolls_back :
    (∃ holder others, LifecycleRun (fun _ => "") ⟨beforeAdmission, none, []⟩ ⟨afterAttachment, holder, others⟩) ∧
    ArmingRun stagedAccount [.armed, .quiet] attachedAccount ∧
    disarmLiveEntries "operator disarm" .disarmed attachedAccount = .error (.entry (.conflict .entryExposureUnresolved
      "A broker-exposed claim cannot be released by the admission path.")) := by
  have armed : armLiveEntries sampleInput stagedAccount = .ok (sampleArming, armedAccount) := rfl
  have kept : AuthorityKept armedAccount attachedAccount := ⟨rfl, rfl, rfl, rfl⟩
  exact ⟨run_afterAttachment, .step (.step .start (.arm armed)) (.other kept), rfl⟩

/-- Disarm commits on an admitted entry that was never submitted. -/
theorem disarm_commits_iff_admitted : ∃ result after,
    disarmLiveEntries "operator disarm" .disarmed admittedAccount = .ok (result, after) ∧ EntriesClosed after := by
  have live : admittedAccount.environment = .live := rfl
  have blockable : ∀ entry ∈ admittedAccount.entries, Executable entry → Blockable "operator disarm" entry := by
    intro entry member _ claim owned _
    rw [List.mem_singleton.mp member] at owned ⊢
    cases owned
    refine decide_ok_iff.mp ⟨.claimNeverReachedBrokerBoundary, ?_⟩
    decide +kernel
  exact (disarm_commits_iff live _ _).mpr blockable

end Disarm

end AiTrader.Arming
