import Mathlib.Data.List.Pairwise
import AiTrader.Entry.TerminalSweep

/-! # The sweep's classifier and the locked release gate

The sweep classifies a claim before it takes any lock, the never-submitted release decides again under its lock, and the
log may grow in between. -/

namespace AiTrader.Entry

section Outcomes

variable {events : List ClaimEvent} {recorded : List DeliveryOutcome} {outcome : DeliveryOutcome}

theorem outcomeOf_eventId (event : ClaimEvent) : (outcomeOf event).eventId = event.id := by
  unfold outcomeOf
  split_ifs <;> rfl

theorem outcomeOf_notSent {event : ClaimEvent} (notSent : event.eventType = .notSentEvidenceRecorded) :
    (outcomeOf event).observation = .observed ∧
      (outcomeOf event).classification = event.evidence.classification.getD .notSentPreDispatch := by
  simp [outcomeOf, notSent]

private instance : IsTrans ClaimEvent fun left right => left.id ≤ right.id :=
  ⟨fun _ _ _ first second => Nat.le_trans first second⟩

private instance : Std.Refl fun left right : ClaimEvent => left.id ≤ right.id := ⟨fun event => Nat.le_refl event.id⟩

private instance : Std.Total fun left right : ClaimEvent => left.id ≤ right.id :=
  ⟨fun left right => Nat.le_total left.id right.id⟩

/-- The recorded outcomes of a log, as the summary pairs them with its markers. -/
def recordedOutcomes (events : List ClaimEvent) : List DeliveryOutcome :=
  ((events.insertionSort fun left right => left.id ≤ right.id).filter isRecordedOutcome).map outcomeOf

/-- The adapter markers of a log in the order of their ids. -/
def adapterMarkersOf (events : List ClaimEvent) : List ClaimEvent :=
  (events.insertionSort fun left right => left.id ≤ right.id).filter fun event =>
    event.eventType == .adapterInvocationStarted

theorem mem_recordedOutcomes : outcome ∈ recordedOutcomes events ↔
    ∃ event ∈ events, isRecordedOutcome event = true ∧ outcomeOf event = outcome := by
  simp only [recordedOutcomes, List.mem_map, List.mem_filter, List.mem_insertionSort, and_assoc]

theorem mem_adapterMarkersOf {marker : ClaimEvent} : marker ∈ adapterMarkersOf events ↔
    marker ∈ events ∧ marker.eventType = .adapterInvocationStarted := by
  simp only [adapterMarkersOf, List.mem_filter, List.mem_insertionSort, beq_iff_eq]

theorem mem_outcomes : outcome ∈ (summarizeDeliveryEvidence events).outcomes ↔
    outcome ∈ recordedOutcomes events ∨
    ∃ marker ∈ unpairedMarkers (recordedOutcomes events) (adapterMarkersOf events), unpairedMarkerOutcome marker = outcome := by
  simp only [summarizeDeliveryEvidence, recordedOutcomes, adapterMarkersOf, List.mem_insertionSort, List.mem_append,
    List.mem_map]

/-- The last marker stays unpaired when no outcome was recorded after it. -/
theorem getLast_mem_unpairedMarkers {markers : List ClaimEvent} (nonempty : markers ≠ [])
    (unclosed : ∀ outcome ∈ recorded, outcome.eventId ≤ (markers.getLast nonempty).id) :
    markers.getLast nonempty ∈ unpairedMarkers recorded markers := by
  induction markers with
  | nil => exact absurd rfl nonempty
  | cons marker rest ih =>
    cases rest with
    | nil =>
      have none_after : (recorded.any fun outcome => decide (marker.id < outcome.eventId)) = false := by
        simp only [List.any_eq_false, decide_eq_true_eq]
        intro outcome member
        have bound := unclosed outcome member
        simp only [List.getLast_singleton] at bound
        omega
      simp [unpairedMarkers, none_after]
    | cons next later =>
      have later_unpaired := ih (List.cons_ne_nil next later) unclosed
      rw [List.getLast_cons (List.cons_ne_nil next later)]
      unfold unpairedMarkers
      dsimp only
      split_ifs
      · exact later_unpaired
      · exact List.mem_cons_of_mem _ later_unpaired

theorem id_le_getLast {markers : List ClaimEvent} (nonempty : adapterMarkersOf events = markers) (present : markers ≠ [])
    {marker : ClaimEvent} (member : marker ∈ markers) : marker.id ≤ (markers.getLast present).id := by
  subst nonempty
  have sorted := (List.pairwise_insertionSort (fun left right : ClaimEvent => left.id ≤ right.id) events).filter
    fun event => event.eventType == .adapterInvocationStarted
  exact List.Pairwise.rel_getLast sorted member

/-- The last adapter marker of a log has no observed outcome after it. -/
def LastMarkerOpen (events : List ClaimEvent) : Prop :=
  ∃ marker ∈ events, marker.eventType = .adapterInvocationStarted ∧
    (∀ other ∈ events, other.eventType = .adapterInvocationStarted → other.id ≤ marker.id) ∧
    ∀ event ∈ events, isRecordedOutcome event = true → marker.id < event.id → (outcomeOf event).observation ≠ .observed

/-- An open last marker leaves a dispatch outcome: its own, or the inferred one that closed it. -/
theorem dispatchOutcomes_of_lastMarkerOpen (unclosed : LastMarkerOpen events) :
    ∃ outcome ∈ (summarizeDeliveryEvidence events).outcomes, outcome.kind ≠ .notSent := by
  obtain ⟨marker, member, started, greatest, unobserved⟩ := unclosed
  by_cases closed : ∃ event ∈ events, isRecordedOutcome event = true ∧ marker.id < event.id
  · obtain ⟨event, present, outcome, after⟩ := closed
    refine ⟨outcomeOf event, mem_outcomes.mpr (.inl (mem_recordedOutcomes.mpr ⟨event, present, outcome, rfl⟩)), ?_⟩
    intro notSent
    have observed := (outcomeOf_notSent (outcomeOf_kind_eq_notSent_iff.mp notSent)).1
    exact unobserved event present outcome after observed
  · have listed : marker ∈ adapterMarkersOf events := mem_adapterMarkersOf.mpr ⟨member, started⟩
    have nonempty : adapterMarkersOf events ≠ [] := List.ne_nil_of_mem listed
    have latest := id_le_getLast rfl nonempty listed
    have unpaired : (adapterMarkersOf events).getLast nonempty ∈
        unpairedMarkers (recordedOutcomes events) (adapterMarkersOf events) := by
      apply getLast_mem_unpairedMarkers nonempty
      intro outcome recorded
      obtain ⟨event, present, isOutcome, rfl⟩ := mem_recordedOutcomes.mp recorded
      have before : ¬ marker.id < event.id := fun after => closed ⟨event, present, isOutcome, after⟩
      rw [outcomeOf_eventId]
      omega
    refine ⟨_, mem_outcomes.mpr (.inr ⟨_, unpaired, rfl⟩), ?_⟩
    simp [unpairedMarkerOutcome]

theorem mem_dispatchOutcomes : outcome ∈ (summarizeDeliveryEvidence events).dispatchOutcomes ↔
    outcome ∈ (summarizeDeliveryEvidence events).outcomes ∧ outcome.kind ≠ .notSent := by
  simp [summarizeDeliveryEvidence]

theorem mem_ambiguous : outcome ∈ (summarizeDeliveryEvidence events).ambiguous ↔
    outcome ∈ (summarizeDeliveryEvidence events).outcomes ∧ outcome.classification.isLocalNonSend = false := by
  simp [summarizeDeliveryEvidence]

end Outcomes

section Gate

/-- The delivery-evidence conditions of the locked never-submitted release, read from a log. -/
def neverSubmittedProven (claimStatus : ClaimStatus) (events : List ClaimEvent) (blockReason : Option String) : Bool :=
  (evaluateNeverSubmittedRelease claimStatus (summarizeDeliveryEvidence events) blockReason).toBool

variable {claimStatus : ClaimStatus} {events : List ClaimEvent} {blockReason : Option String}

theorem neverSubmittedProven_iff : neverSubmittedProven claimStatus events blockReason = true ↔
    (summarizeDeliveryEvidence events).ambiguous = [] ∧ blockReasonCarriesDeliveryUncertainty blockReason = false ∧
    ((claimStatus.neverReachedBroker = true ∧ (summarizeDeliveryEvidence events).adapterMarkers = 0) ∨
      (summarizeDeliveryEvidence events).notSent ≠ []) := by
  unfold neverSubmittedProven evaluateNeverSubmittedRelease
  split_ifs with ambiguous uncertain early recorded
  · simp [ambiguous, Except.toBool]
  · simp [uncertain, Except.toBool]
  · simp [Except.toBool, not_not.mp ambiguous, uncertain, early]
  · simp [Except.toBool, not_not.mp ambiguous, uncertain, recorded]
  · simpa [Except.toBool, not_not.mp recorded] using fun _ _ reached => not_and.mp early reached

/-- The not-sent event the sweep appends for a nominated classification. -/
def IsNotSentEvidence (classification : DeliveryClassification) (event : ClaimEvent) : Prop :=
  event.eventType = .notSentEvidenceRecorded ∧ event.evidence.classification = some classification

/-- One local non-send completes the proof for a log without markers, outcomes and ambiguity. -/
theorem neverSubmittedProven_append {classification : DeliveryClassification} {event : ClaimEvent}
    (evidence : IsNotSentEvidence classification event) (local_ : classification.isLocalNonSend = true)
    (unmarked : (summarizeDeliveryEvidence events).adapterMarkers = 0)
    (unambiguous : (summarizeDeliveryEvidence events).ambiguous = [])
    (certain : blockReasonCarriesDeliveryUncertainty blockReason = false) :
    neverSubmittedProven claimStatus (events ++ [event]) blockReason = true := by
  obtain ⟨notSent, classified⟩ := evidence
  have is_outcome : isRecordedOutcome event = true := by simp [isRecordedOutcome, notSent]
  have recorded : outcomeOf event ∈ (summarizeDeliveryEvidence (events ++ [event])).outcomes :=
    mem_outcomes.mpr (.inl (mem_recordedOutcomes.mpr ⟨event, by simp, is_outcome, rfl⟩))
  have no_marker : adapterMarkersOf (events ++ [event]) = [] := by
    rw [List.eq_nil_iff_forall_not_mem]
    intro marker member
    obtain ⟨present, started⟩ := mem_adapterMarkersOf.mp member
    rcases List.mem_append.mp present with old | new
    · exact adapterMarkers_eq_zero_iff.mp unmarked ⟨marker, old, started⟩
    · rw [List.mem_singleton.mp new, notSent] at started
      cases started
  refine neverSubmittedProven_iff.mpr ⟨?_, certain, .inr ?_⟩
  · rw [List.eq_nil_iff_forall_not_mem]
    intro outcome member
    obtain ⟨present, unproven⟩ := mem_ambiguous.mp member
    rcases mem_outcomes.mp present with listed | ⟨marker, unpaired, _⟩
    · obtain ⟨source, origin, isOutcome, rfl⟩ := mem_recordedOutcomes.mp listed
      rcases List.mem_append.mp origin with old | new
      · have before := mem_outcomes.mpr (.inl (mem_recordedOutcomes.mpr ⟨source, old, isOutcome, rfl⟩))
        have still := mem_ambiguous.mpr ⟨before, unproven⟩
        rw [unambiguous] at still
        cases still
      · rw [List.mem_singleton.mp new, (outcomeOf_notSent notSent).2, classified, Option.getD_some, local_] at unproven
        cases unproven
    · rw [no_marker] at unpaired
      cases unpaired
  · apply List.ne_nil_of_mem (a := outcomeOf event)
    simp only [summarizeDeliveryEvidence, List.mem_filter, beq_iff_eq]
    exact ⟨recorded, outcomeOf_kind_eq_notSent_iff.mpr notSent⟩

end Gate

section Agreement

variable {candidate : TerminalClaimCandidate} {now : Nat}

theorem legacyNotSentEvidence_local {intent : OrderIntent} {notSent : DeliveryClassification × String}
    (legacy : legacyNotSentEvidence intent = some notSent) : notSent.1.isLocalNonSend = true := by
  unfold legacyNotSentEvidence at legacy
  dsimp only at legacy
  split at legacy
  · cases legacy
    rfl
  · cases legacy
    rfl
  · split_ifs at legacy
    all_goals
      cases legacy
      rfl

theorem classify_release (released : (classifyTerminalEntryClaim candidate now).state = .automaticNeverSubmittedRelease) :
    neverSubmittedProven candidate.claim.status candidate.events candidate.intent.blockReason = true ∧
      (summarizeDeliveryEvidence candidate.events).dispatchOutcomes = [] := by
  unfold classifyTerminalEntryClaim at released
  dsimp only at released
  split_ifs at released with _ _ exposed proven
  · exact ⟨proven, not_not.mp (not_or.mp exposed).2⟩
  all_goals split at released
  all_goals cases released

/-- What the classifier has checked when it nominates not-sent evidence. -/
theorem classify_recording
    (recording : (classifyTerminalEntryClaim candidate now).state = .automaticNotSentEvidenceRecording) :
    ∃ notSent, (classifyTerminalEntryClaim candidate now).notSent = some notSent ∧ notSent.1.isLocalNonSend = true ∧
      (summarizeDeliveryEvidence candidate.events).adapterMarkers = 0 ∧
      (summarizeDeliveryEvidence candidate.events).dispatchOutcomes = [] := by
  unfold classifyTerminalEntryClaim at recording ⊢
  dsimp only at recording ⊢
  split_ifs at recording ⊢ with _ _ exposed _ protocol unmarked
  · exact ⟨_, rfl, rfl, protocol.2.2, not_not.mp (not_or.mp exposed).2⟩
  · cases legacy : legacyNotSentEvidence candidate.intent with
    | none =>
      rw [legacy] at recording
      cases recording
    | some notSent =>
      exact ⟨notSent, rfl, legacyNotSentEvidence_local legacy, unmarked, not_not.mp (not_or.mp exposed).2⟩
  all_goals split at recording
  all_goals cases recording

/-- An outcome that never left the process, or that the broker refused with a definitive status code. -/
def DeliveryOutcome.Settled (outcome : DeliveryOutcome) : Prop :=
  outcome.classification.isLocalNonSend = true ∨
    outcome.classification = .brokerRejected ∧ outcome.statusCode.any definitiveBrokerRejectionStatusCodes.contains = true

/-- Only settled outcomes have a release basis, or lack nothing for one but the settle time. -/
theorem settled_of_releaseBasis {outcomes : List DeliveryOutcome}
    (based : (∃ basis, evaluateDispatchReleaseBasis outcomes now = .ok basis) ∨
      evaluateDispatchReleaseBasis outcomes now = .error .brokerRejectionSettling) :
    ∀ outcome ∈ outcomes, outcome.Settled := by
  intro outcome member
  by_contra unsettled
  obtain ⟨dispatched, undefinitive⟩ := not_or.mp unsettled
  unfold evaluateDispatchReleaseBasis at based
  split_ifs at based with _ uncertain
  · simp at based
  · simp at based
  have rejected : outcome.classification = .brokerRejected := by
    by_contra other
    exact uncertain (List.any_eq_true.mpr ⟨outcome, member, by simp [dispatched, other]⟩)
  have listed : outcome ∈ outcomes.filter fun outcome => outcome.classification == .brokerRejected := by
    simp [member, rejected]
  have refused : (outcomes.filter fun outcome => outcome.classification == .brokerRejected).any
      (fun outcome => !outcome.statusCode.any definitiveBrokerRejectionStatusCodes.contains) = true := by
    apply List.any_eq_true.mpr ⟨outcome, listed, ?_⟩
    simpa [rejected] using undefinitive
  simp [List.ne_nil_of_mem listed, refused] at based

theorem classify_verifiedRelease (verified : (classifyTerminalEntryClaim candidate now).state = .automaticVerifiedRelease) :
    ∀ outcome ∈ (summarizeDeliveryEvidence candidate.events).outcomes, outcome.Settled := by
  unfold classifyTerminalEntryClaim at verified
  dsimp only at verified
  split_ifs at verified
  all_goals split at verified
  all_goals try cases verified
  · rename_i basis based
    exact settled_of_releaseBasis (.inl ⟨basis, based⟩)
  · rename_i settling
    exact settled_of_releaseBasis (.inr settling)

/-- The never-submitted release is named only when the locked gate's evidence conditions hold for the same log; not-sent
evidence only when it is what the gate still lacks. An open last marker rules out both, an ambiguous outcome the release. The
verified release rests on settled outcomes and leaves no marker unpaired. -/
theorem classifyTerminalEntryClaim_agrees (candidate : TerminalClaimCandidate) (now : Nat) :
    ((classifyTerminalEntryClaim candidate now).state = .automaticNeverSubmittedRelease →
      neverSubmittedProven candidate.claim.status candidate.events candidate.intent.blockReason = true) ∧
    ((classifyTerminalEntryClaim candidate now).state = .automaticNotSentEvidenceRecording →
      (∀ outcome ∈ (summarizeDeliveryEvidence candidate.events).outcomes, outcome.kind = .notSent) ∧
      ∃ notSent, (classifyTerminalEntryClaim candidate now).notSent = some notSent ∧
        ∀ event, IsNotSentEvidence notSent.1 event → (summarizeDeliveryEvidence candidate.events).ambiguous = [] →
          blockReasonCarriesDeliveryUncertainty candidate.intent.blockReason = false →
          neverSubmittedProven candidate.claim.status (candidate.events ++ [event]) candidate.intent.blockReason = true) ∧
    (LastMarkerOpen candidate.events →
      (classifyTerminalEntryClaim candidate now).state ≠ .automaticNeverSubmittedRelease ∧
      (classifyTerminalEntryClaim candidate now).state ≠ .automaticNotSentEvidenceRecording) ∧
    ((summarizeDeliveryEvidence candidate.events).ambiguous ≠ [] →
      (classifyTerminalEntryClaim candidate now).state ≠ .automaticNeverSubmittedRelease) ∧
    ((classifyTerminalEntryClaim candidate now).state = .automaticVerifiedRelease →
      (∀ outcome ∈ (summarizeDeliveryEvidence candidate.events).outcomes, outcome.Settled) ∧
      unpairedMarkers (recordedOutcomes candidate.events) (adapterMarkersOf candidate.events) = []) := by
  have all_notSent : (summarizeDeliveryEvidence candidate.events).dispatchOutcomes = [] →
      ∀ outcome ∈ (summarizeDeliveryEvidence candidate.events).outcomes, outcome.kind = .notSent := by
    intro empty outcome member
    by_contra dispatched
    have listed := mem_dispatchOutcomes.mpr ⟨member, dispatched⟩
    rw [empty] at listed
    cases listed
  refine ⟨fun released => (classify_release released).1, fun recording => ?_, fun unclosed => ?_,
    fun ambiguous released => ?_, fun verified => ⟨classify_verifiedRelease verified, ?_⟩⟩
  · obtain ⟨notSent, nominated, local_, unmarked, empty⟩ := classify_recording recording
    exact ⟨all_notSent empty, notSent, nominated, fun event evidence unambiguous certain =>
      neverSubmittedProven_append evidence local_ unmarked unambiguous certain⟩
  · obtain ⟨outcome, member, dispatched⟩ := dispatchOutcomes_of_lastMarkerOpen unclosed
    constructor
    · intro released
      exact dispatched (all_notSent (classify_release released).2 outcome member)
    · intro recording
      obtain ⟨_, _, _, _, empty⟩ := classify_recording recording
      exact dispatched (all_notSent empty outcome member)
  · exact ambiguous (neverSubmittedProven_iff.mp (classify_release released).1).1
  · rw [List.eq_nil_iff_forall_not_mem]
    intro marker unpaired
    have settled := classify_verifiedRelease verified _ (mem_outcomes.mpr (.inr ⟨marker, unpaired, rfl⟩))
    simp [DeliveryOutcome.Settled, unpairedMarkerOutcome, DeliveryClassification.isLocalNonSend,
      localNonSendClassifications] at settled

/-- The worker claimed the intent under the marker protocol and stopped before it invoked the adapter. -/
def stoppedBeforeAdapter : TerminalClaimCandidate where
  claim :=
    { id := 1
      tradingAccountId := 1
      securityId := 7
      ownerKey := "strategy"
      status := .entrySubmitting
      trackedPositionId := none
      releasedAt := none
      releaseReason := none
      lastDiagnosedAt := none
      events := [⟨1, .workerClaimedForSubmission, { adapterMarkerProtocol := true }, 1000⟩] }
  intent :=
    { id := 1
      tradingAccountId := some 1
      tradingAccountSubscriptionId := some 1
      subscriptionId := some 1
      symbol := "AAPL"
      side := "buy"
      status := .failed
      clientOrderId := some "entry-1"
      blockReason := none
      environment := some .paper
      liveEntryAcceptanceRunId := none
      riskEvaluation := none
      updatedAt := 1000 }
  records := ⟨none, none, 0, none⟩
  brokerOrders := 0
  events := [⟨1, .workerClaimedForSubmission, { adapterMarkerProtocol := true }, 1000⟩]

/-- The broker refused the POST, and the recovery closed the marker with the refusal it inferred. -/
def refusedByBroker : TerminalClaimCandidate :=
  { stoppedBeforeAdapter with
    claim := { stoppedBeforeAdapter.claim with status := .unresolved }
    events := stoppedBeforeAdapter.events ++
      [⟨2, .adapterInvocationStarted, {}, 1001⟩, ⟨3, .dispatchOutcomeRecorded,
          { classification := some .brokerRejected, statusCode := some 422, observation := some .inferred
            source := some .terminalClaimSweep }, 1002⟩] }

/-- Not-sent evidence is nominated for a log from which the gate cannot prove the release, and a definitive refusal is
released although it is ambiguous and only inferred. -/
theorem recording_before_gate :
    (¬ ∀ (candidate : TerminalClaimCandidate) (now : Nat),
      ((classifyTerminalEntryClaim candidate now).state = .automaticNeverSubmittedRelease ∨
        (classifyTerminalEntryClaim candidate now).state = .automaticNotSentEvidenceRecording) →
      neverSubmittedProven candidate.claim.status candidate.events candidate.intent.blockReason = true) ∧
    ¬ ∀ (candidate : TerminalClaimCandidate) (now : Nat),
      LastMarkerOpen candidate.events ∨ (summarizeDeliveryEvidence candidate.events).ambiguous ≠ [] →
      (classifyTerminalEntryClaim candidate now).state ≠ .automaticVerifiedRelease := by
  constructor
  · intro agrees
    have recording : (classifyTerminalEntryClaim stoppedBeforeAdapter 2000).state =
        .automaticNotSentEvidenceRecording := by
      decide +kernel
    have proven := agrees stoppedBeforeAdapter 2000 (.inr recording)
    exact absurd proven (by decide +kernel)
  · intro never
    have ambiguous : (summarizeDeliveryEvidence refusedByBroker.events).ambiguous.isEmpty = false := by decide +kernel
    apply never refusedByBroker 2000 (.inr ?_) (by decide +kernel)
    intro none_ambiguous
    rw [none_ambiguous] at ambiguous
    cases ambiguous

end Agreement

end AiTrader.Entry
