import AiTrader.Market.Composition

/-! # What a selected composition depends on

The vector of an instant depends on the newest attempts of that instant only; its expiry is told in two ways. -/

namespace AiTrader.Market

open Library

/-- The fields of a stored source that its freshness is read from. -/
structure PublishedSource where
  health : SourceHealth
  reasonCode : Option String
  sourceValidUntil : Option Int

structure PublishedComposition where
  publicationStatus : PublicationStatus
  evidenceHealth : EvidenceHealth
  sources : List PublishedSource

structure CurrentSource extends PublishedSource where
  currentHealth : SourceHealth
  currentReasonCode : Option String

inductive Freshness where
  | publicationFailed | expired | fresh

structure CompositionFreshness where
  freshness : Freshness
  sources : List CurrentSource
  wholeVectorUsable : Bool

variable {Fingerprint : Type}

def isMarketRegimeCompositionUsable (composition : MarketRegimeCompositionSelection Fingerprint) (instant : Int) : Bool :=
  composition.publicationStatus == .succeeded && composition.evidenceHealth == .complete &&
    composition.validUntil.any (decide <| instant < ·)

def currentSource (instant : Int) (source : PublishedSource) : CurrentSource :=
  if source.health == .available && source.sourceValidUntil.all (decide <| · ≤ instant) then
    { source with currentHealth := .expired, currentReasonCode := some "SOURCE_EXPIRED_AT_READ" }
  else { source with currentHealth := source.health, currentReasonCode := source.reasonCode }

def evaluateMarketRegimeCompositionFreshness (row : PublishedComposition) (instant : Int) : CompositionFreshness :=
  let sources := row.sources.map (currentSource instant)
  { freshness :=
      if row.publicationStatus = .failed then .publicationFailed
      else if sources.any (·.currentHealth == .expired) then .expired
      else .fresh
    sources
    wholeVectorUsable := row.publicationStatus == .succeeded && row.evidenceHealth == .complete &&
      sources.all (·.currentHealth == .available) }

def publishedSource (slot : ComposedMarketRegimeSource) : PublishedSource where
  health := slot.health
  reasonCode := slot.reasonCode
  sourceValidUntil := slot.source.bind (·.validUntil)

/-- The row that `publishMarketRegimeComposition` stores of a selection. -/
def publishedComposition (selection : MarketRegimeCompositionSelection Fingerprint) : PublishedComposition where
  publicationStatus := selection.publicationStatus
  evidenceHealth := selection.evidenceHealth
  sources := selection.sources.map publishedSource

variable {targets : ExpectedMarketRegimeTargets} {assessments : List DimensionAssessment} {observedAt : Int}

section Slots

variable {others : List DimensionAssessment}
  {definitions : List (Nat × String × MarketRegimeDimension × String × (ExpectedMarketRegimeTargets → Int))}
  {sources : List ComposedMarketRegimeSource} {slot : ComposedMarketRegimeSource} {source : DimensionAssessment}

/-- The identifier is part of the key. -/
theorem candidateKey_distinct (distinct : (assessments.map (·.id)).Nodup) :
    ∀ first ∈ assessments, ∀ second ∈ assessments, candidateKey first = candidateKey second → first = second := by
  intro first firstMember second secondMember same
  simp only [candidateKey, EmbeddingLike.apply_eq_iff_eq, Prod.mk.injEq] at same
  exact List.inj_on_of_nodup_map distinct firstMember secondMember same.2.2.2

theorem candidateKey_distinct_filter (distinct : (assessments.map (·.id)).Nodup) (keep : DimensionAssessment → Bool) :
    ∀ first ∈ assessments.filter keep, ∀ second ∈ assessments.filter keep,
      candidateKey first = candidateKey second → first = second := by
  intro first firstMember second secondMember
  exact candidateKey_distinct distinct first (List.mem_filter.mp firstMember).1 second (List.mem_filter.mp secondMember).1

/-- The slots are made of the newest applicable rows and nothing else. -/
theorem composeSources_congr
    (same : ∀ definition ∈ definitions, latest candidateKey (others.filter
          (applicable definition.2.2.1 definition.2.2.2.1 (definition.2.2.2.2 targets) observedAt)) =
        latest candidateKey (assessments.filter
          (applicable definition.2.2.1 definition.2.2.2.1 (definition.2.2.2.2 targets) observedAt))) :
    composeSources targets others observedAt definitions = composeSources targets assessments observedAt definitions := by
  induction definitions with
  | nil => rfl
  | cons definition rest hypothesis =>
    obtain ⟨ordinal, key, dimension, algorithmVersion, expected⟩ := definition
    have first := same _ List.mem_cons_self
    have later := hypothesis fun definition member => same definition (List.mem_cons_of_mem _ member)
    simp only at first
    unfold composeSources
    rw [later, first]

section

variable (composed : composeSources targets assessments observedAt definitions = .ok sources)
include composed

/-- A slot is one definition with its newest applicable row, classified. -/
theorem mem_composeSources (member : slot ∈ sources) :
    slot.source = latest candidateKey (assessments.filter
        (applicable slot.dimension slot.requiredAlgorithmVersion slot.expectedTargetAt observedAt)) ∧
      classifySource slot.source slot.expectedTargetAt observedAt = (slot.health, slot.reasonCode) := by
  induction definitions generalizing sources with
  | nil =>
    cases composed
    exact absurd member List.not_mem_nil
  | cons definition rest hypothesis =>
    obtain ⟨ordinal, key, dimension, algorithmVersion, expected⟩ := definition
    unfold composeSources at composed
    split at composed
    · cases composed
    · split at composed
      · cases composed
      case h_2 others later =>
        cases composed
        rcases List.mem_cons.mp member with rfl | member
        · exact ⟨rfl, rfl⟩
        · exact hypothesis later member

theorem composeSources_ne_nil (some : definitions ≠ []) : sources ≠ [] := by
  rintro rfl
  obtain ⟨definition, rest, rfl⟩ := List.exists_cons_of_ne_nil some
  unfold composeSources at composed
  split at composed
  · cases composed
  · split at composed <;> cases composed

end

/-- What an available source has passed. -/
theorem classifySource_available {expectedTargetAt : Int} {reasonCode : Option String} {found : Option DimensionAssessment}
    (available : classifySource found expectedTargetAt observedAt = (.available, reasonCode)) :
    ∃ source validUntil, found = some source ∧ source.status = .valid ∧ source.targetAt = expectedTargetAt ∧
      source.validUntil = some validUntil ∧ observedAt < validUntil := by
  unfold classifySource at available
  cases found with
  | none => cases available
  | some source =>
    simp only at available
    split at available
    · cases available
    case isFalse notFailed =>
      split at available
      · cases available
      case isFalse notUnavailable =>
        split at available
        case h_2 => cases available
        case h_1 dataThroughAt validUntil through until_ =>
          split at available
          · cases available
          · split at available
            · cases available
            case isFalse onTarget =>
              split at available
              · cases available
              case isFalse unexpired =>
                refine ⟨source, validUntil, rfl, ?_, not_not.mp onTarget, until_, Int.not_le.mp unexpired⟩
                cases status : source.status with
                | valid => rfl
                | unavailable => exact absurd status notUnavailable
                | failed => exact absurd status notFailed

end Slots

/-- A row that came after the instant, or whose target lies after the expected one of its dimension. -/
def TooLate (targets : ExpectedMarketRegimeTargets) (observedAt : Int) (row : DimensionAssessment) : Prop :=
  observedAt < row.completedAt ∨ ∀ definition ∈ authoritativeMarketRegimeSources,
    definition.2.2.1 = row.dimension → definition.2.2.2.2 targets < row.targetAt

theorem not_applicable_of_tooLate {row : DimensionAssessment}
    {definition : Nat × String × MarketRegimeDimension × String × (ExpectedMarketRegimeTargets → Int)}
    (late : TooLate targets observedAt row) (member : definition ∈ authoritativeMarketRegimeSources) :
    applicable definition.2.2.1 definition.2.2.2.1 (definition.2.2.2.2 targets) observedAt row = false := by
  rw [Bool.eq_false_iff]
  intro applies
  simp only [applicable, Bool.and_eq_true, beq_iff_eq, decide_eq_true_eq] at applies
  rcases late with completed | target
  · exact absurd applies.2 (Int.not_le.mpr completed)
  · exact absurd applies.1.2 (Int.not_le.mpr (target definition member applies.1.1.1.symm))

/-- The candidates of a definition among the first rows are the first row of that definition. -/
theorem latest_selectCandidates (distinct : (assessments.map (·.id)).Nodup)
    {definition : Nat × String × MarketRegimeDimension × String × (ExpectedMarketRegimeTargets → Int)}
    (member : definition ∈ authoritativeMarketRegimeSources) :
    latest candidateKey (((selectCandidates assessments observedAt targets).filterMap id).filter
        (applicable definition.2.2.1 definition.2.2.2.1 (definition.2.2.2.2 targets) observedAt)) =
      latest candidateKey (assessments.filter
        (applicable definition.2.2.1 definition.2.2.2.1 (definition.2.2.2.2 targets) observedAt)) := by
  apply latest_of_subset (candidateKey_distinct_filter distinct _)
  · intro row listed
    rw [List.mem_filter] at listed ⊢
    obtain ⟨candidate, applies⟩ := listed
    obtain ⟨found, listed, same⟩ := List.mem_filterMap.mp candidate
    obtain ⟨other, -, rfl⟩ := List.mem_map.mp listed
    exact ⟨(List.mem_filter.mp (mem_of_latest same)).1, applies⟩
  · intro row found
    rw [List.mem_filter]
    refine ⟨List.mem_filterMap.mpr ⟨some row, ?_, rfl⟩, (List.mem_filter.mp (mem_of_latest found)).2⟩
    exact List.mem_map.mpr ⟨definition, member, found⟩

variable {slot : ComposedMarketRegimeSource}

section Usable

variable {digest : SourceSetIdentity → Fingerprint} {selection : MarketRegimeCompositionSelection Fingerprint}

/-- The fields of a selection, by its slots. -/
theorem selectMarketRegimeComposition_ok
    (selected : selectMarketRegimeComposition digest observedAt targets assessments = .ok selection) :
    composeSources targets assessments observedAt authoritativeMarketRegimeSources = .ok selection.sources ∧
      selection.publicationStatus = .succeeded ∧
      selection.evidenceHealth = (if selection.sources.all (·.health == .available) then .complete else .degraded) ∧
      selection.validUntil =
        if selection.sources.all (·.health == .available) then
          ((selection.sources.filterMap fun slot => if slot.health = .available then slot.source else none).filterMap
            (·.validUntil)).min?
        else none := by
  unfold selectMarketRegimeComposition at selected
  split at selected
  · cases selected
  case h_2 sources composed =>
    cases selected
    exact ⟨composed, rfl, rfl, rfl⟩

theorem currentSource_available {source : DimensionAssessment} {validUntil instant : Int}
    (available : slot.health = .available) (found : slot.source = some source) (until_ : source.validUntil = some validUntil) :
    (currentSource instant (publishedSource slot)).currentHealth = .available ↔ instant < validUntil := by
  unfold currentSource publishedSource
  simp only [available, found, Option.bind_some, until_, Option.all_some, beq_self_eq_true, Bool.true_and]
  split
  case isTrue expired => simpa using of_decide_eq_true expired
  case isFalse unexpired => simpa using unexpired

/-- The earliest expiry of a complete vector has passed exactly when a source is no longer healthy. -/
theorem isMarketRegimeCompositionUsable_eq
    (selected : selectMarketRegimeComposition digest observedAt targets assessments = .ok selection) (instant : Int) :
    isMarketRegimeCompositionUsable selection instant =
      (evaluateMarketRegimeCompositionFreshness (publishedComposition selection) instant).wholeVectorUsable := by
  obtain ⟨composed, succeeded, evidenceHealth, validUntil⟩ := selectMarketRegimeComposition_ok selected
  unfold isMarketRegimeCompositionUsable evaluateMarketRegimeCompositionFreshness publishedComposition
  simp only [succeeded, evidenceHealth, validUntil]
  cases complete : selection.sources.all (·.health == .available) with
  | false => rfl
  | true =>
    simp only [if_true, beq_self_eq_true, Bool.true_and, List.map_map]
    have valid : ∀ slot ∈ selection.sources, ∃ source validUntil, slot.health = .available ∧ slot.source = some source ∧
        source.validUntil = some validUntil := by
      intro slot member
      have available : slot.health = .available := eq_of_beq (List.all_eq_true.mp complete slot member)
      have classified := (mem_composeSources composed member).2
      rw [available] at classified
      obtain ⟨source, validUntil, found, -, -, until_, -⟩ := classifySource_available classified
      exact ⟨source, validUntil, available, found, until_⟩
    have nonempty := composeSources_ne_nil composed (List.cons_ne_nil _ _)
    have expiries : ∀ value, value ∈ (selection.sources.filterMap fun slot =>
        if slot.health = .available then slot.source else none).filterMap (·.validUntil) ↔
          ∃ slot ∈ selection.sources, ∃ source, slot.source = some source ∧ source.validUntil = some value := by
      intro value
      simp only [List.mem_filterMap]
      constructor
      · rintro ⟨source, ⟨slot, member, found⟩, until_⟩
        obtain ⟨-, -, available, -, -⟩ := valid slot member
        rw [if_pos available] at found
        exact ⟨slot, member, source, found, until_⟩
      · rintro ⟨slot, member, source, found, until_⟩
        obtain ⟨-, -, available, -, -⟩ := valid slot member
        exact ⟨source, ⟨slot, member, by rw [if_pos available, found]⟩, until_⟩
    have some_ : (selection.sources.filterMap fun slot =>
        if slot.health = .available then slot.source else none).filterMap (·.validUntil) ≠ [] := by
      obtain ⟨slot, member⟩ := List.exists_mem_of_ne_nil _ nonempty
      obtain ⟨source, validUntil, -, found, until_⟩ := valid slot member
      exact List.ne_nil_of_mem ((expiries validUntil).mpr ⟨slot, member, source, found, until_⟩)
    rw [Bool.eq_iff_iff, before_min?_iff some_, List.all_eq_true]
    constructor
    · intro before current listed
      obtain ⟨slot, member, rfl⟩ := List.mem_map.mp listed
      obtain ⟨source, validUntil, available, found, until_⟩ := valid slot member
      exact beq_iff_eq.mpr ((currentSource_available available found until_).mpr
        (before validUntil ((expiries validUntil).mpr ⟨slot, member, source, found, until_⟩)))
    · intro healthy value listed
      obtain ⟨slot, member, source, found, until_⟩ := (expiries value).mp listed
      obtain ⟨-, -, available, -, -⟩ := valid slot member
      have current := healthy _ (List.mem_map_of_mem member)
      exact (currentSource_available available found until_).mp (eq_of_beq current)

end Usable

section AsOf

variable {digest : SourceSetIdentity → Fingerprint}

theorem selectMarketRegimeComposition_congr {others : List DimensionAssessment}
    (same : ∀ definition ∈ authoritativeMarketRegimeSources, latest candidateKey (others.filter
          (applicable definition.2.2.1 definition.2.2.2.1 (definition.2.2.2.2 targets) observedAt)) =
        latest candidateKey (assessments.filter
          (applicable definition.2.2.1 definition.2.2.2.1 (definition.2.2.2.2 targets) observedAt))) :
    selectMarketRegimeComposition digest observedAt targets others =
      selectMarketRegimeComposition digest observedAt targets assessments := by
  unfold selectMarketRegimeComposition
  rw [composeSources_congr same]

/-- A valid, unexpired row of the expected target without a completed later attempt. -/
structure HighestAttempt (assessments : List DimensionAssessment) (observedAt : Int) (slot : ComposedMarketRegimeSource)
    (source : DimensionAssessment) : Prop where
  listed : source ∈ assessments
  dimension : source.dimension = slot.dimension
  version : source.algorithmVersion = slot.requiredAlgorithmVersion
  target : source.targetAt = slot.expectedTargetAt
  completed : source.completedAt ≤ observedAt
  highest : ∀ other ∈ assessments, other.dimension = slot.dimension →
    other.algorithmVersion = slot.requiredAlgorithmVersion → other.targetAt = slot.expectedTargetAt →
      other.completedAt ≤ observedAt → other.attempt ≤ source.attempt
  valid : source.status = .valid
  unexpired : ∃ validUntil, source.validUntil = some validUntil ∧ observedAt < validUntil

theorem highestAttempt_of_available {selection : MarketRegimeCompositionSelection Fingerprint}
    (selected : selectMarketRegimeComposition digest observedAt targets assessments = .ok selection)
    (member : slot ∈ selection.sources) (available : slot.health = .available) :
    ∃ source, slot.source = some source ∧ HighestAttempt assessments observedAt slot source := by
  obtain ⟨newest, classified⟩ := mem_composeSources (selectMarketRegimeComposition_ok selected).1 member
  rw [available] at classified
  obtain ⟨source, validUntil, found, valid, target, until_, unexpired⟩ := classifySource_available classified
  rw [found] at newest
  obtain ⟨listed, applies⟩ := List.mem_filter.mp (mem_of_latest newest.symm)
  simp only [applicable, Bool.and_eq_true, beq_iff_eq, decide_eq_true_eq] at applies
  refine ⟨source, found,
    { listed, dimension := applies.1.1.1, version := applies.1.1.2, target, completed := applies.2, valid
      highest := ?_, unexpired := ⟨validUntil, until_, unexpired⟩ }⟩
  intro other otherListed dimension version otherTarget completed
  have below := le_of_latest newest.symm (List.mem_filter.mpr ⟨otherListed, by
    simp only [applicable, dimension, version, otherTarget, completed, beq_self_eq_true, Int.le_refl, decide_true,
      Bool.and_self]⟩)
  simp only [candidateKey, Prod.Lex.toLex_le_toLex] at below
  rcases below with earlier | ⟨-, fewer | ⟨same, -⟩⟩
  · omega
  · exact Int.le_of_lt fewer
  · exact Int.le_of_eq same

/-- The vector of an instant depends on its evidence only, in any order; its available sources are the newest attempts, and
both readings of its expiry agree. -/
theorem selectMarketRegimeComposition_asOf (digest : SourceSetIdentity → Fingerprint) (observedAt : Int)
    (targets : ExpectedMarketRegimeTargets) (assessments : List DimensionAssessment)
    (distinct : (assessments.map (·.id)).Nodup) :
    (∀ others : List DimensionAssessment, others.Perm assessments →
        selectMarketRegimeComposition digest observedAt targets others =
          selectMarketRegimeComposition digest observedAt targets assessments) ∧
      (∀ added larger : List DimensionAssessment, (∀ row ∈ added, TooLate targets observedAt row) →
        larger.Perm (assessments ++ added) →
          selectMarketRegimeComposition digest observedAt targets larger =
            selectMarketRegimeComposition digest observedAt targets assessments) ∧
      selectMarketRegimeComposition digest observedAt targets
          ((selectCandidates assessments observedAt targets).filterMap id) =
        selectMarketRegimeComposition digest observedAt targets assessments ∧
      ∀ selection, selectMarketRegimeComposition digest observedAt targets assessments = .ok selection →
        (∀ slot ∈ selection.sources, slot.health = .available →
          ∃ source, slot.source = some source ∧ HighestAttempt assessments observedAt slot source) ∧
        ∀ instant, observedAt ≤ instant → isMarketRegimeCompositionUsable selection instant =
          (evaluateMarketRegimeCompositionFreshness (publishedComposition selection) instant).wholeVectorUsable := by
  refine ⟨?_, ?_, ?_, ?_⟩
  · intro others perm
    apply selectMarketRegimeComposition_congr
    intro definition member
    exact latest_perm (candidateKey_distinct_filter distinct _) (perm.filter _)
  · intro added larger late perm
    apply selectMarketRegimeComposition_congr
    intro definition member
    have none : added.filter (applicable definition.2.2.1 definition.2.2.2.1 (definition.2.2.2.2 targets) observedAt) = [] :=
      List.filter_eq_nil_iff.mpr fun row listed => Bool.not_eq_true _ ▸ not_applicable_of_tooLate (late row listed) member
    have kept := perm.filter (applicable definition.2.2.1 definition.2.2.2.1 (definition.2.2.2.2 targets) observedAt)
    rw [List.filter_append, none, List.append_nil] at kept
    exact latest_perm (candidateKey_distinct_filter distinct _) kept
  · exact selectMarketRegimeComposition_congr fun definition member => latest_selectCandidates distinct member
  · intro selection selected
    exact ⟨fun slot member available => highestAttempt_of_available selected member available,
      fun instant _ => isMarketRegimeCompositionUsable_eq selected instant⟩

/-- An assessment of the trend, its retry, and a backfill that completes after the observation. -/
def trendAttempt (id : Nat) (attempt completedAt : Int) : DimensionAssessment where
  id := id
  dimension := .trend
  algorithmVersion := "TREND_V1"
  evidenceSchemaVersion := 1
  targetAt := 90
  attempt := attempt
  status := .valid
  reasonCode := none
  rawState := some "UPTREND"
  effectiveState := some "UPTREND"
  dataThroughAt := some 90
  validUntil := some 200
  completedAt := completedAt

theorem selectMarketRegimeComposition_asOf_retry :
    let select := selectMarketRegimeComposition id 100 { trend := 90, volatility := 90, breadth := 90, participation := 90, intradayStress := 90 }
    select [trendAttempt 2 2 95, trendAttempt 3 3 101, trendAttempt 1 1 91] = select [trendAttempt 1 1 91, trendAttempt 2 2 95] :=
  (selectMarketRegimeComposition_asOf id 100 _ [trendAttempt 1 1 91, trendAttempt 2 2 95] (by decide)).2.1
    [trendAttempt 3 3 101] _ (fun row listed => .inl (by rw [List.mem_singleton.mp listed]; decide))
    (by decide)

end AsOf

end AiTrader.Market
