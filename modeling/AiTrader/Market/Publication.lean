import Mathlib.Logic.Relation
import AiTrader.Market.Composition

/-! # Publications of the market composition

A publication observes an instant, takes the lock later, and stores the evidence of the instant it observed. -/

namespace AiTrader.Market

open Library

inductive PublicationError where
  | alreadyRunning | completionPrecedesObservation

def PublicationError.message : PublicationError → String
  | .alreadyRunning => "Market Regime composition publication is already running."
  | .completionPrecedesObservation => "Composition completion cannot precede observation time."

inductive PublicationOutcome where
  | published | reused

/-- The database, the publications that have not tried the lock and the preview of the one that holds it. -/
structure CompositionStore (Fingerprint : Type) where
  now : Int
  assessments : List DimensionAssessment
  exceptions : List CalendarException
  compositions : List (MarketRegimeAssessment Fingerprint)
  observing : List Int
  publishing : Option (MarketRegimeCompositionSelection Fingerprint)

variable {Fingerprint : Type}

section Source

variable [DecidableEq Fingerprint]

/-- The composition that a preview becomes. -/
def composedRow (compositions : List (MarketRegimeAssessment Fingerprint))
    (preview : MarketRegimeCompositionSelection Fingerprint) (completedAt : Int) : MarketRegimeAssessment Fingerprint where
  id := Table.nextId (compositions.map (·.id))
  compositionVersion := marketRegimeCompositionVersion
  targetAt := preview.targetAt
  observedAt := preview.observedAt
  dataThroughAt := preview.dataThroughAt
  validUntil := preview.validUntil
  publicationStatus := .succeeded
  evidenceHealth := preview.evidenceHealth
  evidenceReasonCode := preview.evidenceReasonCode
  sourceSetFingerprint := preview.sourceSetFingerprint
  previousAssessmentId := (currentMarketRegimeComposition compositions).map (·.id)
  startedAt := preview.observedAt
  completedAt
  sources := preview.sources

/-- Reuse the composition with the fingerprint of a preview or insert one. -/
def publishMarketRegimeComposition (compositions : List (MarketRegimeAssessment Fingerprint))
    (preview : MarketRegimeCompositionSelection Fingerprint) (clock : Int) :
    Except PublicationError (PublicationOutcome × List (MarketRegimeAssessment Fingerprint)) :=
  match compositions.find? fun row => row.compositionVersion == marketRegimeCompositionVersion &&
      row.sourceSetFingerprint == preview.sourceSetFingerprint with
  | some _ => .ok (.reused, compositions)
  | none =>
    if clock < preview.observedAt then .error .completionPrecedesObservation
    else .ok (.published, compositions ++ [composedRow compositions preview clock])

/-- The publication that holds the lock returns. -/
def Publishes (before : CompositionStore Fingerprint) (preview : MarketRegimeCompositionSelection Fingerprint)
    (outcome : PublicationOutcome) (after : CompositionStore Fingerprint) : Prop :=
  ∃ compositions, before.publishing = some preview ∧
    publishMarketRegimeComposition before.compositions preview before.now = .ok (outcome, compositions) ∧
    after = { before with compositions, publishing := none }

end Source

section Runs

variable [DecidableEq Fingerprint] (daylight : Int → Bool) (boundaries : DailyBoundaries)
  (digest : SourceSetIdentity → Fingerprint)

/-- The publication renews the newest composition, observes a later instant or expects a later target, or has unused
evidence. -/
def InOrder (compositions : List (MarketRegimeAssessment Fingerprint))
    (preview : MarketRegimeCompositionSelection Fingerprint) : Prop :=
  (∃ row, compositions.getLast? = some row ∧ row.sourceSetFingerprint = preview.sourceSetFingerprint) ∨
    ∀ row ∈ compositions, row.sourceSetFingerprint ≠ preview.sourceSetFingerprint ∧
      row.observedAt ≤ preview.observedAt ∧ row.targetAt ≤ preview.targetAt

/-- One step of the database, its clock or a publisher; publications meet a condition. -/
inductive Step (Admissible : List (MarketRegimeAssessment Fingerprint) → MarketRegimeCompositionSelection Fingerprint → Prop) :
    CompositionStore Fingerprint → CompositionStore Fingerprint → Prop
  /-- Time passes. -/
  | wait {store later} (passes : store.now ≤ later) : Step Admissible store { store with now := later }
  /-- Assessments are written and the calendar is edited. -/
  | evolve {store} (assessments exceptions) : Step Admissible store { store with assessments, exceptions }
  /-- A publication starts and observes the present instant. -/
  | observe {store} : Step Admissible store { store with observing := store.now :: store.observing }
  /-- The lock is held elsewhere, or the evidence cannot be resolved. -/
  | refuse {store observedAt} : Step Admissible store { store with observing := store.observing.erase observedAt }
  /-- The lock is acquired and the evidence of the observed instant is selected. -/
  | acquire {store observedAt preview} (free : store.publishing = none) (waiting : observedAt ∈ store.observing)
      (resolved : previewMarketRegimeComposition digest daylight boundaries store.exceptions store.assessments observedAt =
        .ok preview) :
      Step Admissible store
        { store with observing := store.observing.erase observedAt, publishing := some preview }
  /-- The transaction is rolled back. -/
  | abandon {store} : Step Admissible store { store with publishing := none }
  /-- The publication returns. -/
  | publish {store preview outcome after} (returns : Publishes store preview outcome after)
      (admissible : Admissible store.compositions preview) : Step Admissible store after

/-- A database without compositions. -/
def CompositionStore.fresh (now : Int) (assessments : List DimensionAssessment) (exceptions : List CalendarException) :
    CompositionStore Fingerprint :=
  ⟨now, assessments, exceptions, [], [], none⟩

/-- What can be reached from a database without compositions. -/
def Reachable (Admissible : List (MarketRegimeAssessment Fingerprint) → MarketRegimeCompositionSelection Fingerprint → Prop)
    (store : CompositionStore Fingerprint) : Prop :=
  ∃ now assessments exceptions, Relation.ReflTransGen (Step daylight boundaries digest Admissible)
    (CompositionStore.fresh now assessments exceptions) store

/-- The three readers choose one composition and it has the fingerprint. -/
def OneCurrentComposition (store : CompositionStore Fingerprint) (fingerprint : Fingerprint) : Prop :=
  ∃ row, currentMarketRegimeComposition store.compositions = some row ∧
    (∀ evaluatedAt, store.now ≤ evaluatedAt → strategyEligibilityComposition store.compositions evaluatedAt = some row ∧
      marketPolicyComposition store.compositions evaluatedAt = some row) ∧
    row.sourceSetFingerprint = fingerprint

end Runs

variable {compositions : List (MarketRegimeAssessment Fingerprint)}

section Order

variable {row : MarketRegimeAssessment Fingerprint} {now evaluatedAt : Int}

/-- Every composition was published under the one version and observed by now. -/
def Authoritative (now : Int) (row : MarketRegimeAssessment Fingerprint) : Prop :=
  row.compositionVersion = marketRegimeCompositionVersion ∧ row.publicationStatus = .succeeded ∧ row.observedAt ≤ now

/-- A composition precedes those that are newer in every respect. -/
def Precedes (first second : MarketRegimeAssessment Fingerprint) : Prop :=
  first.id < second.id ∧ first.observedAt ≤ second.observedAt ∧ first.targetAt ≤ second.targetAt

section

variable (authoritative : ∀ row ∈ compositions, Authoritative now row)
include authoritative

theorem currentMarketRegimeComposition_eq : currentMarketRegimeComposition compositions = latest (·.id) compositions := by
  unfold currentMarketRegimeComposition
  rw [List.filter_eq_self.mpr fun row member => by simp [(authoritative row member).1]]

theorem strategyEligibilityComposition_eq
    (later : now ≤ evaluatedAt) : strategyEligibilityComposition compositions evaluatedAt =
      latest (fun row => toLex (row.observedAt, row.id)) compositions := by
  unfold strategyEligibilityComposition
  rw [List.filter_eq_self.mpr fun row member => by
    simpa using Int.le_trans (authoritative row member).2.2 later]

theorem marketPolicyComposition_eq (later : now ≤ evaluatedAt) : marketPolicyComposition compositions evaluatedAt =
      latest (fun row => toLex (row.targetAt, toLex (row.observedAt, row.id))) compositions := by
  unfold marketPolicyComposition
  rw [List.filter_eq_self.mpr fun row member => by
    obtain ⟨version, status, observed⟩ := authoritative row member
    simpa [version, status] using Int.le_trans observed later]

/-- On a table in order every reader chooses the last composition. -/
theorem readers_eq_getLast (ordered : compositions.Pairwise Precedes) (later : now ≤ evaluatedAt) :
    currentMarketRegimeComposition compositions = compositions.getLast? ∧
      strategyEligibilityComposition compositions evaluatedAt = compositions.getLast? ∧
      marketPolicyComposition compositions evaluatedAt = compositions.getLast? := by
  rw [currentMarketRegimeComposition_eq authoritative, strategyEligibilityComposition_eq authoritative later,
    marketPolicyComposition_eq authoritative later]
  refine ⟨latest_of_ascending (ordered.imp ?_), latest_of_ascending (ordered.imp ?_), latest_of_ascending (ordered.imp ?_)⟩
  · rintro first second ⟨older, _, _⟩
    exact older
  · rintro first second ⟨older, observed, _⟩
    rw [Prod.Lex.toLex_lt_toLex]
    rcases Int.lt_or_eq_of_le observed with before | same
    · exact .inl before
    · exact .inr ⟨same, older⟩
  · rintro first second ⟨older, observed, expected⟩
    rw [Prod.Lex.toLex_lt_toLex, Prod.Lex.toLex_lt_toLex]
    rcases Int.lt_or_eq_of_le expected with before | same
    · exact .inl before
    · rcases Int.lt_or_eq_of_le observed with earlier | together
      · exact .inr ⟨same, .inl earlier⟩
      · exact .inr ⟨same, .inr ⟨together, older⟩⟩

/-- A composition that every reader chooses is no older than any other. -/
theorem newest_of_readers (later : now ≤ evaluatedAt)
    (strategy : strategyEligibilityComposition compositions evaluatedAt = some row)
    (policy : marketPolicyComposition compositions evaluatedAt = some row) :
    ∀ other ∈ compositions, other.observedAt ≤ row.observedAt ∧ other.targetAt ≤ row.targetAt := by
  intro other member
  rw [strategyEligibilityComposition_eq authoritative later] at strategy
  rw [marketPolicyComposition_eq authoritative later] at policy
  have observed := le_of_latest strategy member
  have expected := le_of_latest policy member
  rw [Prod.Lex.toLex_le_toLex] at observed expected
  constructor
  · rcases observed with before | ⟨same, _⟩
    · exact Int.le_of_lt before
    · exact Int.le_of_eq same
  · rcases expected with before | ⟨same, _⟩
    · exact Int.le_of_lt before
    · exact Int.le_of_eq same

end

theorem lt_nextId {ids : List Nat} {id : Nat} (member : id ∈ ids) : id < Table.nextId ids := by
  have bounded := Table.le_foldl_max 0 (.inl member)
  unfold Table.nextId
  omega

end Order

section Invariant

variable [DecidableEq Fingerprint] {daylight : Int → Bool} {boundaries : DailyBoundaries}
  {digest : SourceSetIdentity → Fingerprint} {before after : CompositionStore Fingerprint}
  {preview : MarketRegimeCompositionSelection Fingerprint} {outcome : PublicationOutcome}

/-- The compositions are in order and nothing was observed in the future. -/
structure Orderly (store : CompositionStore Fingerprint) : Prop where
  authoritative : ∀ row ∈ store.compositions, Authoritative store.now row
  ordered : store.compositions.Pairwise Precedes
  observing : ∀ observedAt ∈ store.observing, observedAt ≤ store.now
  publishing : ∀ preview, store.publishing = some preview → preview.observedAt ≤ store.now

/-- What a publication leaves. -/
theorem publishMarketRegimeComposition_cases {clock : Int} {after : List (MarketRegimeAssessment Fingerprint)}
    (stored : publishMarketRegimeComposition compositions preview clock = .ok (outcome, after)) :
    (outcome = .reused ∧ after = compositions ∧
      ∃ row ∈ compositions, row.sourceSetFingerprint = preview.sourceSetFingerprint) ∨
    (outcome = .published ∧ after = compositions ++ [composedRow compositions preview clock] ∧
      ∀ row ∈ compositions, row.compositionVersion = marketRegimeCompositionVersion →
        row.sourceSetFingerprint ≠ preview.sourceSetFingerprint) := by
  unfold publishMarketRegimeComposition at stored
  split at stored
  case h_1 row found =>
    cases stored
    have recurs := List.find?_some found
    simp only [Bool.and_eq_true, beq_iff_eq] at recurs
    exact .inl ⟨rfl, rfl, row, List.mem_of_find?_eq_some found, recurs.2⟩
  case h_2 absent =>
    split at stored
    · cases stored
    · cases stored
      refine .inr ⟨rfl, rfl, fun row member version same => ?_⟩
      have differs := List.find?_eq_none.mp absent row member
      exact differs (by simp [version, same])

variable {assessments : List DimensionAssessment} {exceptions : List CalendarException}

omit [DecidableEq Fingerprint] in
theorem previewMarketRegimeComposition_observedAt {observedAt : Int}
    (resolved : previewMarketRegimeComposition digest daylight boundaries exceptions assessments observedAt = .ok preview) :
    preview.observedAt = observedAt := by
  unfold previewMarketRegimeComposition at resolved
  split at resolved
  · cases resolved
  · unfold selectMarketRegimeComposition at resolved
    split at resolved
    · cases resolved
    · cases resolved
      rfl

theorem Orderly.publish (orderly : Orderly before) (returns : Publishes before preview outcome after)
    (inOrder : InOrder before.compositions preview) :
    Orderly after ∧ ∃ row, after.compositions.getLast? = some row ∧
      row.sourceSetFingerprint = preview.sourceSetFingerprint := by
  obtain ⟨compositions, holds, stored, rfl⟩ := returns
  have observed := orderly.publishing preview holds
  rcases publishMarketRegimeComposition_cases stored with ⟨_, rfl, row, member, recurs⟩ | ⟨_, rfl, differs⟩
  · have newest : ∃ row, before.compositions.getLast? = some row ∧
        row.sourceSetFingerprint = preview.sourceSetFingerprint := by
      rcases inOrder with newest | unseen
      · exact newest
      · exact absurd recurs (unseen row member).1
    exact ⟨⟨orderly.authoritative, orderly.ordered, orderly.observing, nofun⟩, newest⟩
  · have unseen : ∀ row ∈ before.compositions, row.observedAt ≤ preview.observedAt ∧ row.targetAt ≤ preview.targetAt := by
      rcases inOrder with ⟨row, last, recurs⟩ | unseen
      · have member := List.mem_of_getLast? last
        exact absurd recurs (differs row member (orderly.authoritative row member).1)
      · exact fun row member => (unseen row member).2
    refine ⟨⟨?_, ?_, orderly.observing, nofun⟩, ?_⟩
    · intro row member
      rcases List.mem_append.mp member with old | new
      · exact orderly.authoritative row old
      · rw [List.mem_singleton.mp new]
        exact ⟨rfl, rfl, observed⟩
    · apply List.pairwise_append.mpr
      refine ⟨orderly.ordered, List.pairwise_singleton _ _, fun row member last same => ?_⟩
      rw [List.mem_singleton.mp same]
      exact ⟨lt_nextId (List.mem_map_of_mem member), (unseen row member).1, (unseen row member).2⟩
    · exact ⟨_, List.getLast?_concat, rfl⟩

omit [DecidableEq Fingerprint] in
theorem orderly_fresh {now : Int} :
    Orderly (CompositionStore.fresh now assessments exceptions : CompositionStore Fingerprint) := by
  constructor
  · intro row member
    cases member
  · exact List.Pairwise.nil
  · intro observedAt member
    cases member
  · intro preview absent
    cases absent

theorem Orderly.step (orderly : Orderly before) (step : Step daylight boundaries digest InOrder before after) :
    Orderly after := by
  cases step with
  | wait passes =>
    constructor
    · intro row member
      obtain ⟨version, status, observed⟩ := orderly.authoritative row member
      exact ⟨version, status, Int.le_trans observed passes⟩
    · exact orderly.ordered
    · intro observedAt member
      exact Int.le_trans (orderly.observing observedAt member) passes
    · intro preview holds
      exact Int.le_trans (orderly.publishing preview holds) passes
  | evolve assessments exceptions =>
    exact ⟨orderly.authoritative, orderly.ordered, orderly.observing, orderly.publishing⟩
  | observe =>
    refine ⟨orderly.authoritative, orderly.ordered, fun observedAt member => ?_, orderly.publishing⟩
    rcases List.mem_cons.mp member with rfl | waiting
    · exact Int.le_refl _
    · exact orderly.observing observedAt waiting
  | refuse =>
    exact ⟨orderly.authoritative, orderly.ordered, fun observedAt member =>
      orderly.observing observedAt (List.mem_of_mem_erase member), orderly.publishing⟩
  | acquire free waiting resolved =>
    refine ⟨orderly.authoritative, orderly.ordered, fun observedAt member =>
      orderly.observing observedAt (List.mem_of_mem_erase member), fun preview holds => ?_⟩
    cases holds
    rw [previewMarketRegimeComposition_observedAt resolved]
    exact orderly.observing _ waiting
  | abandon =>
    exact ⟨orderly.authoritative, orderly.ordered, orderly.observing, nofun⟩
  | publish returns inOrder => exact (orderly.publish returns inOrder).1

theorem Orderly.of_reachable (reachable : Reachable daylight boundaries digest InOrder after) : Orderly after := by
  obtain ⟨now, assessments, exceptions, run⟩ := reachable
  induction run with
  | refl => exact orderly_fresh
  | tail _ step ih => exact ih.step step

/-- The readers agree on the composition of a publication exactly when it is in order. -/
theorem Orderly.oneCurrentComposition_iff (orderly : Orderly before) (returns : Publishes before preview outcome after) :
    OneCurrentComposition after preview.sourceSetFingerprint ↔ InOrder before.compositions preview := by
  constructor
  · rintro ⟨row, current, chosen, same⟩
    obtain ⟨compositions, holds, stored, rfl⟩ := returns
    obtain ⟨strategy, policy⟩ := chosen before.now (Int.le_refl _)
    have observed := orderly.publishing preview holds
    rcases publishMarketRegimeComposition_cases stored with ⟨_, rfl, _⟩ | ⟨_, rfl, differs⟩
    · have last := (readers_eq_getLast orderly.authoritative orderly.ordered (Int.le_refl _)).1
      exact .inl ⟨row, last.symm.trans current, same⟩
    · have authoritative : ∀ row ∈ before.compositions ++ [composedRow before.compositions preview before.now],
          Authoritative before.now row := by
        intro row member
        rcases List.mem_append.mp member with old | new
        · exact orderly.authoritative row old
        · rw [List.mem_singleton.mp new]
          exact ⟨rfl, rfl, observed⟩
      have newest : row = composedRow before.compositions preview before.now := by
        rw [currentMarketRegimeComposition_eq authoritative] at current
        have appended : latest (fun row => row.id) (before.compositions ++ [composedRow before.compositions preview before.now]) =
            some (composedRow before.compositions preview before.now) :=
          latest_append fun other member => lt_nextId (List.mem_map_of_mem member)
        exact Option.some.inj (current.symm.trans appended)
      have above := newest_of_readers authoritative (Int.le_refl _) strategy policy
      subst newest
      refine .inr fun other member => ⟨differs other member (orderly.authoritative other member).1, ?_⟩
      exact above other (List.mem_append_left _ member)
  · intro inOrder
    obtain ⟨kept, row, last, same⟩ := orderly.publish returns inOrder
    refine ⟨row, ?_, fun evaluatedAt later => ?_, same⟩
    · rw [(readers_eq_getLast kept.authoritative kept.ordered (Int.le_refl _)).1, last]
    · have readers := readers_eq_getLast kept.authoritative kept.ordered later
      rw [readers.2.1, readers.2.2, last]
      exact ⟨rfl, rfl⟩

/-- A run under a condition is a run. -/
theorem Reachable.of_admissible {Admissible : List (MarketRegimeAssessment Fingerprint) →
    MarketRegimeCompositionSelection Fingerprint → Prop} (reachable : Reachable daylight boundaries digest Admissible after) :
    Reachable daylight boundaries digest (fun _ _ => True) after := by
  obtain ⟨now, assessments, exceptions, run⟩ := reachable
  refine ⟨now, assessments, exceptions, run.lift id ?_⟩
  intro first second step
  cases step with
  | wait passes => exact Step.wait passes
  | evolve assessments exceptions => exact Step.evolve assessments exceptions
  | observe => exact Step.observe
  | refuse => exact Step.refuse
  | acquire free waiting resolved => exact Step.acquire free waiting resolved
  | abandon => exact Step.abandon
  | publish returns _ => exact Step.publish returns trivial

end Invariant

/-- One second before and after the 14:00 target of 2026-05-15 becomes eligible. -/
def beforeTarget : Int := 1778868299000

def afterTarget : Int := 1778868301000

/-- The preview of an instant over empty assessments. -/
abbrev samplePreview (observedAt : Int) : Except TargetError (MarketRegimeCompositionSelection SourceSetIdentity) :=
  previewMarketRegimeComposition id daylight2026 ⟨none, none⟩ [] [] observedAt

/-- The expected targets in the evidence of an instant. -/
def sampleTargets (observedAt : Int) : Option (List Int) :=
  (samplePreview observedAt).toOption.map fun preview => preview.sourceSetFingerprint.sources.map (·.expectedTargetAt)

theorem samplePreview_ok {observedAt : Int} {targets : List Int} (expected : sampleTargets observedAt = some targets) :
    ∃ preview, samplePreview observedAt = .ok preview ∧
      preview.sourceSetFingerprint.sources.map (·.expectedTargetAt) = targets := by
  unfold sampleTargets at expected
  cases previewed : samplePreview observedAt with
  | error error =>
    rw [previewed] at expected
    cases expected
  | ok preview =>
    rw [previewed] at expected
    exact ⟨preview, rfl, Option.some.inj expected⟩

/-- A publication that observed an instant first stores its evidence last. -/
theorem overtaken_publication : ∃ (before after : CompositionStore SourceSetIdentity)
    (preview : MarketRegimeCompositionSelection SourceSetIdentity) (outcome : PublicationOutcome),
    Reachable daylight2026 ⟨none, none⟩ id InOrder before ∧ Publishes before preview outcome after ∧
      ¬ InOrder before.compositions preview := by
  have earlyTargets : sampleTargets beforeTarget =
      some [1778788800000, 1778788800000, 1778788800000, 1778788800000, 1778867100000] := by decide +kernel
  have lateTargets : sampleTargets afterTarget =
      some [1778788800000, 1778788800000, 1778788800000, 1778788800000, 1778868000000] := by decide +kernel
  obtain ⟨early, earlyResolved, earlyExpected⟩ := samplePreview_ok earlyTargets
  obtain ⟨late, lateResolved, lateExpected⟩ := samplePreview_ok lateTargets
  have lateObserved := previewMarketRegimeComposition_observedAt lateResolved
  have earlyObserved := previewMarketRegimeComposition_observedAt earlyResolved
  have differs : late.sourceSetFingerprint ≠ early.sourceSetFingerprint := by
    intro same
    rw [same, earlyExpected] at lateExpected
    exact absurd lateExpected (by decide)
  have lateStored : publishMarketRegimeComposition [] late afterTarget =
      .ok (.published, [composedRow [] late afterTarget]) := by
    unfold publishMarketRegimeComposition
    simp [lateObserved]
  have earlyStored : publishMarketRegimeComposition [composedRow [] late afterTarget] early afterTarget =
      .ok (.published, [composedRow [] late afterTarget] ++
        [composedRow [composedRow [] late afterTarget] early afterTarget]) := by
    have unseen : ((composedRow [] late afterTarget).sourceSetFingerprint == early.sourceSetFingerprint) = false :=
      beq_false_of_ne differs
    have ordered : ¬ afterTarget < early.observedAt := by
      rw [earlyObserved]
      decide
    unfold publishMarketRegimeComposition
    simp [unseen, ordered]
  refine ⟨⟨afterTarget, [], [], [composedRow [] late afterTarget], ([afterTarget, beforeTarget].erase afterTarget).erase beforeTarget,
    some early⟩, _, early, .published,
    ⟨beforeTarget, [], [], ?_⟩, ⟨_, rfl, earlyStored, rfl⟩, ?_⟩
  · have later : beforeTarget ≤ afterTarget := by decide
    have waiting : beforeTarget ∈ [afterTarget, beforeTarget].erase afterTarget := by decide
    refine .head Step.observe ?_
    refine .head (Step.wait later) ?_
    refine .head Step.observe ?_
    refine .head (Step.acquire rfl (List.mem_cons_self ..) lateResolved) ?_
    refine .head (Step.publish ⟨_, rfl, lateStored, rfl⟩ (.inr fun _ member => nomatch member)) ?_
    exact .single (Step.acquire rfl waiting earlyResolved)
  · rintro (⟨row, last, same⟩ | unseen)
    · cases last
      exact differs same
    · have observed := (unseen _ (List.mem_singleton.mpr rfl)).2.1
      rw [earlyObserved] at observed
      rw [show (composedRow [] late afterTarget).observedAt = late.observedAt from rfl, lateObserved] at observed
      exact absurd observed (by decide)

/-- After publications in order, the three readers agree on the next one exactly when it is in order too. -/
theorem publication_oneCurrentComposition_iff {Fingerprint : Type} [DecidableEq Fingerprint] {daylight : Int → Bool}
    {boundaries : DailyBoundaries} {digest : SourceSetIdentity → Fingerprint} {before after : CompositionStore Fingerprint}
    {preview : MarketRegimeCompositionSelection Fingerprint} {outcome : PublicationOutcome}
    (reachable : Reachable daylight boundaries digest InOrder before) (returns : Publishes before preview outcome after) :
    OneCurrentComposition after preview.sourceSetFingerprint ↔ InOrder before.compositions preview :=
  (Orderly.of_reachable reachable).oneCurrentComposition_iff returns

/-- The composition of an overtaken publication is not the one that the readers choose. -/
theorem publication_oneCurrentComposition_iff_overtaken : ∃ (after : CompositionStore SourceSetIdentity)
    (preview : MarketRegimeCompositionSelection SourceSetIdentity),
    ¬ OneCurrentComposition after preview.sourceSetFingerprint := by
  obtain ⟨before, after, preview, outcome, reachable, returns, late⟩ := overtaken_publication
  exact ⟨after, preview, fun agreed => late ((publication_oneCurrentComposition_iff reachable returns).mp agreed)⟩

/-- The readers do not agree after every publication. -/
theorem readers_disagree : ¬ ∀ (before after : CompositionStore SourceSetIdentity)
    (preview : MarketRegimeCompositionSelection SourceSetIdentity) (outcome : PublicationOutcome),
    Reachable daylight2026 ⟨none, none⟩ id (fun _ _ => True) before → Publishes before preview outcome after →
      OneCurrentComposition after preview.sourceSetFingerprint := by
  intro agree
  obtain ⟨before, after, preview, outcome, reachable, returns, late⟩ := overtaken_publication
  have agreed := agree before after preview outcome reachable.of_admissible returns
  exact late (((Orderly.of_reachable reachable).oneCurrentComposition_iff returns).mp agreed)

end AiTrader.Market
