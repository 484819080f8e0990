import AiTrader.Library.KeyOrder
import AiTrader.Entry.SweepAgreement

/-! # What the summary of delivery evidence depends on

The summary reads the evidence events of a claim and nothing else, in any order. -/

namespace AiTrader.Entry

open AiTrader.Library

section Reading

variable {events others : List ClaimEvent}

/-- An event of one of the types that carry delivery evidence. -/
def ClaimEvent.isDeliveryEvidence (event : ClaimEvent) : Bool :=
  deliveryEvidenceEventTypes.contains event.eventType

theorem isDeliveryEvidence_of_recorded {event : ClaimEvent} (recorded : isRecordedOutcome event = true) :
    event.isDeliveryEvidence = true := by
  simp only [isRecordedOutcome, ClaimEvent.isDeliveryEvidence, deliveryEvidenceEventTypes, List.contains_eq_mem,
    List.mem_append, Bool.or_eq_true, beq_iff_eq, decide_eq_true_eq] at recorded ⊢
  obtain outcome | notSent := recorded
  · exact .inl outcome
  · exact .inr (by simp [notSent])

/-- A selection within the evidence, sorted by id, depends on the evidence alone. -/
theorem filter_sorted_congr {keep : ClaimEvent → Bool}
    (evidence : ∀ event, keep event = true → event.isDeliveryEvidence = true)
    (distinct : (events.map ClaimEvent.id).Nodup)
    (same : (events.filter ClaimEvent.isDeliveryEvidence).Perm (others.filter ClaimEvent.isDeliveryEvidence)) :
    (byKey ClaimEvent.id events).filter keep = (byKey ClaimEvent.id others).filter keep := by
  have within (log : List ClaimEvent) : (log.filter ClaimEvent.isDeliveryEvidence).filter keep = log.filter keep := by
    rw [List.filter_filter]
    apply List.filter_congr
    intro event _
    cases kept : keep event
    · rfl
    · simp [evidence event kept]
  apply filter_byKey_congr
  · exact distinct.sublist (List.filter_sublist.map ClaimEvent.id)
  · rw [← within events, ← within others]
    exact same.filter keep

theorem summarizeDeliveryEvidence_congr (distinct : (events.map ClaimEvent.id).Nodup)
    (same : (events.filter ClaimEvent.isDeliveryEvidence).Perm (others.filter ClaimEvent.isDeliveryEvidence)) :
    summarizeDeliveryEvidence events = summarizeDeliveryEvidence others := by
  have recorded : (byKey ClaimEvent.id events).filter isRecordedOutcome =
      (byKey ClaimEvent.id others).filter isRecordedOutcome :=
    filter_sorted_congr (fun _ recorded => isDeliveryEvidence_of_recorded recorded) distinct same
  have markers : ((byKey ClaimEvent.id events).filter fun event => event.eventType == .adapterInvocationStarted) =
      (byKey ClaimEvent.id others).filter fun event => event.eventType == .adapterInvocationStarted := by
    apply filter_sorted_congr _ distinct same
    intro event started
    simp [ClaimEvent.isDeliveryEvidence, deliveryEvidenceEventTypes, beq_iff_eq.mp started]
  have protocol : (byKey ClaimEvent.id events).any (fun event =>
        event.eventType == .workerClaimedForSubmission && event.evidence.adapterMarkerProtocol) =
      (byKey ClaimEvent.id others).any fun event =>
        event.eventType == .workerClaimedForSubmission && event.evidence.adapterMarkerProtocol := by
    have claimed : ((byKey ClaimEvent.id events).filter fun event => event.eventType == .workerClaimedForSubmission) =
        (byKey ClaimEvent.id others).filter fun event => event.eventType == .workerClaimedForSubmission := by
      apply filter_sorted_congr _ distinct same
      intro event started
      simp [ClaimEvent.isDeliveryEvidence, deliveryEvidenceEventTypes, beq_iff_eq.mp started]
    rw [← List.any_filter, ← List.any_filter, claimed]
  unfold byKey at recorded markers protocol
  simp only [summarizeDeliveryEvidence, recorded, markers, protocol]

end Reading

section Ambiguity

variable {events : List ClaimEvent} {recorded : List DeliveryOutcome}

/-- Whether an outcome precedes every marker of an ascending log shows at the first of them. -/
theorem head_all_iff {markers : List ClaimEvent} (ascending : markers.Pairwise fun left right => left.id < right.id)
    {bound : Nat} :
    (markers.head?.all fun next => decide (bound < next.id)) = true ↔ ∀ next ∈ markers, bound < next.id := by
  cases markers with
  | nil => simp
  | cons first rest =>
    have above := (List.pairwise_cons.mp ascending).1
    simp only [List.head?_cons, Option.all_some, decide_eq_true_eq, List.forall_mem_cons]
    constructor
    · intro below
      exact ⟨below, fun next member => below.trans (above next member)⟩
    · exact fun below => below.1

/-- An outcome closes a marker when it follows the marker and precedes every later one. -/
def Closes (markers : List ClaimEvent) (marker : ClaimEvent) (eventId : Nat) : Prop :=
  marker.id < eventId ∧ ∀ next ∈ markers, marker.id < next.id → eventId < next.id

/-- A marker of an ascending log is unpaired unless a recorded outcome closes it. -/
theorem mem_unpairedMarkers {markers : List ClaimEvent}
    (ascending : markers.Pairwise fun left right => left.id < right.id) {marker : ClaimEvent} :
    marker ∈ unpairedMarkers recorded markers ↔
      marker ∈ markers ∧ ¬ ∃ outcome ∈ recorded, Closes markers marker outcome.eventId := by
  induction markers with
  | nil => simp [unpairedMarkers]
  | cons first rest ih =>
    obtain ⟨above, ascends⟩ := List.pairwise_cons.mp ascending
    -- The first marker closes nothing in the rest, and every later marker is above it.
    have first_closed : (recorded.any fun outcome => decide (first.id < outcome.eventId) &&
          (rest.head?.all fun next => decide (outcome.eventId < next.id))) = true ↔
        ∃ outcome ∈ recorded, Closes (first :: rest) first outcome.eventId := by
      simp only [List.any_eq_true, Bool.and_eq_true, head_all_iff ascends, decide_eq_true_eq, Closes,
        List.forall_mem_cons, Nat.lt_irrefl, false_implies, true_and]
      constructor
      · rintro ⟨outcome, member, after, before⟩
        exact ⟨outcome, member, after, fun next listed _ => before next listed⟩
      · rintro ⟨outcome, member, after, before⟩
        exact ⟨outcome, member, after, fun next listed => before next listed (above next listed)⟩
    have rest_closed (later : ClaimEvent) (listed : later ∈ rest) (eventId : Nat) :
        Closes (first :: rest) later eventId ↔ Closes rest later eventId := by
      have := above later listed
      simp only [Closes, List.forall_mem_cons]
      constructor
      · exact fun closes => ⟨closes.1, closes.2.2⟩
      · exact fun closes => ⟨closes.1, fun impossible => by omega, closes.2⟩
    have apart (listed : marker ∈ rest) : marker ≠ first := by
      rintro rfl
      exact Nat.lt_irrefl _ (above marker listed)
    by_cases same : marker = first
    · subst same
      have unlisted : marker ∉ unpairedMarkers recorded rest := fun listed => apart (ih ascends |>.mp listed).1 rfl
      by_cases closed : ∃ outcome ∈ recorded, Closes (marker :: rest) marker outcome.eventId
      · simp only [unpairedMarkers, first_closed.mpr closed, if_true, List.mem_cons_self, closed, not_true, and_false,
          iff_false]
        exact unlisted
      · simp only [unpairedMarkers, mt first_closed.mp closed, Bool.false_eq_true, if_false, List.mem_cons_self,
          closed, not_false_eq_true, and_self]
    · have split : marker ∈ unpairedMarkers recorded (first :: rest) ↔ marker ∈ unpairedMarkers recorded rest := by
        simp only [unpairedMarkers]
        split_ifs
        · rfl
        · simp [same]
      rw [split, ih ascends]
      simp only [List.mem_cons, same, false_or]
      constructor
      · rintro ⟨listed, unclosed⟩
        refine ⟨listed, ?_⟩
        rintro ⟨outcome, member, closes⟩
        exact unclosed ⟨outcome, member, (rest_closed marker listed _).mp closes⟩
      · rintro ⟨listed, unclosed⟩
        refine ⟨listed, ?_⟩
        rintro ⟨outcome, member, closes⟩
        exact unclosed ⟨outcome, member, (rest_closed marker listed _).mpr closes⟩

/-- Every event that records an outcome records a local non-send. -/
def LocalNonSends (events : List ClaimEvent) : Prop :=
  ∀ event ∈ events, isRecordedOutcome event = true → (outcomeOf event).classification.isLocalNonSend = true

/-- Every adapter marker is followed by a recorded outcome before the next marker. -/
def MarkersClosed (events : List ClaimEvent) : Prop :=
  ∀ marker ∈ events, marker.eventType = .adapterInvocationStarted →
    ∃ outcome ∈ events, isRecordedOutcome outcome = true ∧ marker.id < outcome.id ∧
      ∀ next ∈ events, next.eventType = .adapterInvocationStarted → marker.id < next.id → outcome.id < next.id

section

variable (distinct : (events.map ClaimEvent.id).Nodup)
include distinct

theorem ascending_adapterMarkersOf : (adapterMarkersOf events).Pairwise fun left right => left.id < right.id :=
  (strict_byKey distinct).filter fun event : ClaimEvent => event.eventType == ClaimEventType.adapterInvocationStarted

theorem unpairedMarkers_eq_nil_iff :
    unpairedMarkers (recordedOutcomes events) (adapterMarkersOf events) = [] ↔ MarkersClosed events := by
  have closing (marker : ClaimEvent) :
      (∃ outcome ∈ recordedOutcomes events, Closes (adapterMarkersOf events) marker outcome.eventId) ↔
      ∃ outcome ∈ events, isRecordedOutcome outcome = true ∧ marker.id < outcome.id ∧
        ∀ next ∈ events, next.eventType = .adapterInvocationStarted → marker.id < next.id → outcome.id < next.id := by
    simp only [mem_recordedOutcomes, Closes, mem_adapterMarkersOf, and_imp]
    constructor
    · rintro ⟨_, ⟨event, listed, recorded, rfl⟩, after, before⟩
      rw [outcomeOf_eventId] at after before
      exact ⟨event, listed, recorded, after, before⟩
    · rintro ⟨event, listed, recorded, after, before⟩
      refine ⟨outcomeOf event, ⟨event, listed, recorded, rfl⟩, ?_⟩
      rw [outcomeOf_eventId]
      exact ⟨after, before⟩
  rw [List.eq_nil_iff_forall_not_mem]
  simp only [mem_unpairedMarkers (ascending_adapterMarkersOf distinct), closing, mem_adapterMarkersOf, not_and, not_not,
    and_imp]
  rfl

/-- Nothing is ambiguous exactly when all outcomes are local non-sends and all markers are closed. -/
theorem ambiguous_eq_nil_iff :
    (summarizeDeliveryEvidence events).ambiguous = [] ↔ LocalNonSends events ∧ MarkersClosed events := by
  rw [← unpairedMarkers_eq_nil_iff distinct, List.eq_nil_iff_forall_not_mem]
  simp only [mem_ambiguous, mem_outcomes, mem_recordedOutcomes]
  constructor
  · intro unambiguous
    constructor
    · intro event listed recorded
      by_contra ambiguous
      exact unambiguous _ ⟨.inl ⟨event, listed, recorded, rfl⟩, Bool.eq_false_iff.mpr ambiguous⟩
    · rw [List.eq_nil_iff_forall_not_mem]
      intro marker unpaired
      exact unambiguous _ ⟨.inr ⟨marker, unpaired, rfl⟩, rfl⟩
  · rintro ⟨nonSends, closed⟩ _ ⟨⟨event, listed, recorded, rfl⟩ | ⟨marker, unpaired, rfl⟩, ambiguous⟩
    · exact Bool.eq_false_iff.mp ambiguous (nonSends event listed recorded)
    · simp [closed] at unpaired

end

end Ambiguity

section Monotone

variable {events : List ClaimEvent} {added : ClaimEvent}

/-- An event that records no local non-send: an ambiguous or delivered outcome, a marker or an event of another kind. -/
def NotLocalNonSend (event : ClaimEvent) : Prop :=
  isRecordedOutcome event = true → (outcomeOf event).classification.isLocalNonSend = false

/-- A log without ambiguity was without it before an event that is no local non-send. -/
theorem unambiguous_of_added (distinct : ((added :: events).map ClaimEvent.id).Nodup) (kind : NotLocalNonSend added)
    (unambiguous : (summarizeDeliveryEvidence (added :: events)).ambiguous = []) :
    (summarizeDeliveryEvidence events).ambiguous = [] ∧ isRecordedOutcome added = false := by
  obtain ⟨nonSends, closed⟩ := (ambiguous_eq_nil_iff distinct).mp unambiguous
  have no_outcome : isRecordedOutcome added = false := by
    by_contra recorded
    rw [Bool.not_eq_false] at recorded
    exact Bool.eq_false_iff.mp (kind recorded) (nonSends added List.mem_cons_self recorded)
  refine ⟨(ambiguous_eq_nil_iff (List.nodup_cons.mp distinct).2).mpr ⟨?_, ?_⟩, no_outcome⟩
  · exact fun event listed => nonSends event (List.mem_cons_of_mem added listed)
  · intro marker listed started
    obtain ⟨outcome, member, recorded, after, before⟩ := closed marker (List.mem_cons_of_mem added listed) started
    obtain rfl | member := List.mem_cons.mp member
    · exact absurd recorded (Bool.eq_false_iff.mp no_outcome)
    · exact ⟨outcome, member, recorded, after, fun next listed => before next (List.mem_cons_of_mem added listed)⟩

theorem notSent_ne_nil_iff : (summarizeDeliveryEvidence events).notSent ≠ [] ↔
    Recorded .notSentEvidenceRecorded events := by
  constructor
  · exact recorded_notSent_of_summary
  · rintro ⟨event, listed, notSent⟩ empty
    have recorded : isRecordedOutcome event = true := by simp [isRecordedOutcome, notSent]
    have outcome : outcomeOf event ∈ (summarizeDeliveryEvidence events).outcomes :=
      mem_outcomes.mpr (.inl (mem_recordedOutcomes.mpr ⟨event, listed, recorded, rfl⟩))
    have member : outcomeOf event ∈ (summarizeDeliveryEvidence events).notSent :=
      List.mem_filter.mpr ⟨outcome, beq_iff_eq.mpr (outcomeOf_kind_eq_notSent_iff.mpr notSent)⟩
    rw [empty] at member
    exact List.not_mem_nil member

/-- Evidence of anything but a local non-send proves no release that was unproven without it. -/
theorem neverSubmittedProven_of_added {claimStatus : ClaimStatus} {blockReason : Option String}
    (distinct : ((added :: events).map ClaimEvent.id).Nodup) (kind : NotLocalNonSend added)
    (proven : neverSubmittedProven claimStatus (added :: events) blockReason = true) :
    neverSubmittedProven claimStatus events blockReason = true := by
  obtain ⟨unambiguous, certain, basis⟩ := neverSubmittedProven_iff.mp proven
  obtain ⟨unambiguous_before, no_outcome⟩ := unambiguous_of_added distinct kind unambiguous
  refine neverSubmittedProven_iff.mpr ⟨unambiguous_before, certain, ?_⟩
  rw [adapterMarkers_eq_zero_iff, notSent_ne_nil_iff] at basis ⊢
  obtain ⟨early, unmarked⟩ | ⟨event, listed, notSent⟩ := basis
  · exact .inl ⟨early, fun ⟨event, listed, started⟩ => unmarked ⟨event, List.mem_cons_of_mem added listed, started⟩⟩
  · obtain rfl | listed := List.mem_cons.mp listed
    · simp [isRecordedOutcome, notSent] at no_outcome
    · exact .inr ⟨event, listed, notSent⟩

end Monotone

/-- The summary of a log with distinct ids is a function of its evidence; only a local non-send adds a proof. -/
theorem summarizeDeliveryEvidence_laws (events : List ClaimEvent) (distinct : (events.map ClaimEvent.id).Nodup) :
    (∀ others, others.Perm events → summarizeDeliveryEvidence others = summarizeDeliveryEvidence events) ∧
    (∀ extended unrelated, (∀ event ∈ unrelated, event.eventType ∉ deliveryEvidenceEventTypes) →
      extended.Perm (events ++ unrelated) → summarizeDeliveryEvidence extended = summarizeDeliveryEvidence events) ∧
    ((summarizeDeliveryEvidence events).ambiguous = [] ↔ LocalNonSends events ∧ MarkersClosed events) ∧
    ∀ added claimStatus blockReason, NotLocalNonSend added → (∀ event ∈ events, added.id ≠ event.id) →
      ∀ extended, extended.Perm (added :: events) →
      ∀ blocker, evaluateNeverSubmittedRelease claimStatus (summarizeDeliveryEvidence events) blockReason = .error blocker →
      ∃ remaining,
        evaluateNeverSubmittedRelease claimStatus (summarizeDeliveryEvidence extended) blockReason = .error remaining := by
  refine ⟨?_, ?_, ambiguous_eq_nil_iff distinct, ?_⟩
  · intro others perm
    exact (summarizeDeliveryEvidence_congr distinct (perm.symm.filter _)).symm
  · intro extended unrelated others perm
    refine (summarizeDeliveryEvidence_congr distinct ?_).symm
    have nothing : unrelated.filter ClaimEvent.isDeliveryEvidence = [] := by
      rw [List.filter_eq_nil_iff]
      intro event listed
      simpa [ClaimEvent.isDeliveryEvidence] using others event listed
    have filtered := perm.filter ClaimEvent.isDeliveryEvidence
    rw [List.filter_append, nothing, List.append_nil] at filtered
    exact filtered.symm
  · intro added claimStatus blockReason kind fresh extended perm blocker unproven
    have distinct_added : ((added :: events).map ClaimEvent.id).Nodup := by
      rw [List.map_cons, List.nodup_cons, List.mem_map]
      exact ⟨fun ⟨event, listed, same⟩ => fresh event listed same.symm, distinct⟩
    rw [← summarizeDeliveryEvidence_congr distinct_added (perm.symm.filter _)]
    cases outcome : evaluateNeverSubmittedRelease claimStatus (summarizeDeliveryEvidence (added :: events)) blockReason with
    | error remaining => exact ⟨remaining, rfl⟩
    | ok basis =>
      have proven : neverSubmittedProven claimStatus events blockReason = true := by
        apply neverSubmittedProven_of_added distinct_added kind
        rw [neverSubmittedProven, outcome]
        rfl
      rw [neverSubmittedProven, unproven] at proven
      cases proven

/-- A crashed attempt before a closed one, in another order and with an uncertain delivery added. -/
theorem summarizeDeliveryEvidence_laws_sample :
    let marker : ClaimEvent := ⟨1, .adapterInvocationStarted, {}, 10⟩
    let retry : ClaimEvent := ⟨3, .adapterInvocationStarted, {}, 30⟩
    let notSent : ClaimEvent := ⟨5, .notSentEvidenceRecorded, { classification := some .notSentLocalBlocked }, 50⟩
    let uncertain : ClaimEvent := ⟨7, .brokerDeliveryUncertain, {}, 70⟩
    let log := [notSent, marker, retry]
    ((log.map ClaimEvent.id).Nodup ∧ (summarizeDeliveryEvidence log).ambiguous ≠ []) ∧
    summarizeDeliveryEvidence [marker, retry, notSent] = summarizeDeliveryEvidence log ∧
    ∃ remaining,
      evaluateNeverSubmittedRelease .entrySubmitting (summarizeDeliveryEvidence (uncertain :: log)) none = .error remaining := by
  intro marker retry notSent uncertain log
  have laws := summarizeDeliveryEvidence_laws log (by decide)
  refine ⟨⟨by decide, by decide⟩, laws.1 _ (by decide), ?_⟩
  exact laws.2.2.2 uncertain .entrySubmitting none (by unfold NotLocalNonSend; decide) (by decide) _
    (List.Perm.refl _) .deliveryEvidenceAmbiguous (by decide)

end AiTrader.Entry
