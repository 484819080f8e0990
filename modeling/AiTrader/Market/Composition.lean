import AiTrader.Library.Latest
import AiTrader.Library.Table
import AiTrader.Market.ExpectedTargets

/-! # The market composition

Publishers observe an instant, try the publication lock, select the evidence of the instant and store the vector; three
readers look for the current one. -/

namespace AiTrader.Market

open Library

inductive MarketRegimeDimension where
  | trend | volatility | breadth | participation | intradayStress
deriving DecidableEq

inductive DimensionAssessmentStatus where
  | valid | unavailable | failed
deriving DecidableEq

/-- A row of `MarketRegimeDimensionAssessment`. -/
structure DimensionAssessment where
  id : Nat
  dimension : MarketRegimeDimension
  algorithmVersion : String
  (evidenceSchemaVersion targetAt attempt : Int)
  status : DimensionAssessmentStatus
  (reasonCode rawState effectiveState : Option String)
  (dataThroughAt validUntil : Option Int)
  completedAt : Int
deriving DecidableEq

inductive SourceHealth where
  | available | missing | unavailable | failed | stale | expired | invalid
deriving DecidableEq

/-- One slot of the vector. -/
structure ComposedMarketRegimeSource where
  ordinal : Nat
  dimension : MarketRegimeDimension
  requiredAlgorithmVersion : String
  expectedTargetAt : Int
  source : Option DimensionAssessment
  health : SourceHealth
  reasonCode : Option String
deriving DecidableEq

inductive EvidenceHealth where
  | complete | degraded
deriving DecidableEq

inductive PublicationStatus where
  | succeeded | failed
deriving DecidableEq

def marketRegimeCompositionVersion : String := "MARKET_REGIME_COMPOSITION_V1"

def marketRegimeCompositionEvidenceSchemaVersion : Nat := 1

/-- `AUTHORITATIVE_MARKET_REGIME_SOURCES`: ordinal, key, dimension, algorithm version and expected target. -/
def authoritativeMarketRegimeSources :
    List (Nat × String × MarketRegimeDimension × String × (ExpectedMarketRegimeTargets → Int)) :=
  [(1, "trend", .trend, "TREND_V1", (·.trend)),
    (2, "volatility", .volatility, "VOLATILITY_V1", (·.volatility)),
    (3, "breadth", .breadth, "BREADTH_V1", (·.breadth)),
    (4, "participation", .participation, "PARTICIPATION_V1", (·.participation)),
    (5, "intradayStress", .intradayStress, "INTRADAY_STRESS_V1", (·.intradayStress))]

/-- What the fingerprint of a source is taken of. -/
structure SourceIdentity where
  ordinal : Nat
  dimension : MarketRegimeDimension
  requiredAlgorithmVersion : String
  expectedTargetAt : Int
  sourceAssessmentId : Option Nat
  (sourceTargetAt sourceAttempt sourceCompletedAt : Option Int)
  health : SourceHealth
  reasonCode : Option String
deriving DecidableEq

structure SourceSetIdentity where
  compositionVersion : String
  evidenceSchemaVersion : Nat
  sources : List SourceIdentity
deriving DecidableEq

/-- The vector selected at an instant. -/
structure MarketRegimeCompositionSelection (Fingerprint : Type) where
  compositionVersion : String
  publicationStatus : PublicationStatus
  (observedAt targetAt : Int)
  (dataThroughAt validUntil : Option Int)
  evidenceHealth : EvidenceHealth
  evidenceReasonCode : Option String
  sourceSetFingerprint : Fingerprint
  sources : List ComposedMarketRegimeSource

/-- A row of `MarketRegimeAssessment` with its sources. -/
structure MarketRegimeAssessment (Fingerprint : Type) where
  id : Nat
  compositionVersion : String
  (targetAt observedAt : Int)
  (dataThroughAt validUntil : Option Int)
  publicationStatus : PublicationStatus
  evidenceHealth : EvidenceHealth
  evidenceReasonCode : Option String
  sourceSetFingerprint : Fingerprint
  previousAssessmentId : Option Nat
  (startedAt completedAt : Int)
  sources : List ComposedMarketRegimeSource
deriving DecidableEq

section Selection

/-- Descending target, attempt, completion and identifier. -/
def candidateKey (row : DimensionAssessment) : Int ×ₗ Int ×ₗ Int ×ₗ Nat :=
  toLex (row.targetAt, toLex (row.attempt, toLex (row.completedAt, row.id)))

def applicable (dimension : MarketRegimeDimension) (algorithmVersion : String) (expectedTargetAt observedAt : Int)
    (row : DimensionAssessment) : Bool :=
  row.dimension == dimension && row.algorithmVersion == algorithmVersion &&
    decide (row.targetAt ≤ expectedTargetAt) && decide (row.completedAt ≤ observedAt)

/-- The newest applicable assessment of every slot. -/
def selectCandidates (assessments : List DimensionAssessment) (observedAt : Int) (targets : ExpectedMarketRegimeTargets) :
    List (Option DimensionAssessment) :=
  authoritativeMarketRegimeSources.map fun (_, _, dimension, algorithmVersion, expected) =>
    latest candidateKey (assessments.filter (applicable dimension algorithmVersion (expected targets) observedAt))

/-- A text that is neither absent nor empty. -/
def present (text : Option String) : Bool := text.any (· ≠ "")

def classifySource (source : Option DimensionAssessment) (expectedTargetAt observedAt : Int) :
    SourceHealth × Option String :=
  match source with
  | none => (.missing, some "SOURCE_MISSING")
  | some source =>
    if source.status = .failed then (.failed, some (source.reasonCode.getD "SOURCE_FAILED"))
    else if source.status = .unavailable then (.unavailable, some (source.reasonCode.getD "SOURCE_UNAVAILABLE"))
    else
      match source.dataThroughAt, source.validUntil with
      | some dataThroughAt, some validUntil =>
        if !present source.rawState || !present source.effectiveState || decide (source.evidenceSchemaVersion < 1) ||
            decide (source.attempt < 1) || decide (validUntil ≤ source.targetAt) ||
            decide (source.completedAt < dataThroughAt) then
          (.invalid, some "SOURCE_EVIDENCE_INVALID")
        else if source.targetAt ≠ expectedTargetAt then (.stale, some "EXPECTED_TARGET_NOT_PUBLISHED")
        else if validUntil ≤ observedAt then (.expired, some "SOURCE_EXPIRED")
        else (.available, none)
      | _, _ => (.invalid, some "SOURCE_EVIDENCE_INVALID")

def sourceIdentity (item : ComposedMarketRegimeSource) : SourceIdentity where
  ordinal := item.ordinal
  dimension := item.dimension
  requiredAlgorithmVersion := item.requiredAlgorithmVersion
  expectedTargetAt := item.expectedTargetAt
  sourceAssessmentId := item.source.map (·.id)
  sourceTargetAt := item.source.map (·.targetAt)
  sourceAttempt := item.source.map (·.attempt)
  sourceCompletedAt := item.source.map (·.completedAt)
  health := item.health
  reasonCode := item.reasonCode

/-- The identity that `fingerprint` digests. -/
def sourceSetIdentity (sources : List ComposedMarketRegimeSource) : SourceSetIdentity where
  compositionVersion := marketRegimeCompositionVersion
  evidenceSchemaVersion := marketRegimeCompositionEvidenceSchemaVersion
  sources := sources.map sourceIdentity

/-- The slots in order; an expected target after the observation throws. -/
def composeSources (targets : ExpectedMarketRegimeTargets) (assessments : List DimensionAssessment) (observedAt : Int) :
    List (Nat × String × MarketRegimeDimension × String × (ExpectedMarketRegimeTargets → Int)) →
      Except TargetError (List ComposedMarketRegimeSource)
  | [] => .ok []
  | (ordinal, key, dimension, algorithmVersion, expected) :: rest =>
    if observedAt < expected targets then .error (.targetAfterObservation key)
    else
      let source := latest candidateKey
        (assessments.filter (applicable dimension algorithmVersion (expected targets) observedAt))
      let (health, reasonCode) := classifySource source (expected targets) observedAt
      match composeSources targets assessments observedAt rest with
      | .error error => .error error
      | .ok others => .ok (⟨ordinal, dimension, algorithmVersion, expected targets, source, health, reasonCode⟩ :: others)

variable {Fingerprint : Type} (digest : SourceSetIdentity → Fingerprint)

/-- The immutable as-of vector of an instant. -/
def selectMarketRegimeComposition (observedAt : Int) (targets : ExpectedMarketRegimeTargets)
    (assessments : List DimensionAssessment) : Except TargetError (MarketRegimeCompositionSelection Fingerprint) :=
  match composeSources targets assessments observedAt authoritativeMarketRegimeSources with
  | .error error => .error error
  | .ok sources =>
    let complete := sources.all (·.health == .available)
    let available := sources.filterMap fun slot => if slot.health = .available then slot.source else none
    .ok
      { compositionVersion := marketRegimeCompositionVersion
        publicationStatus := .succeeded
        observedAt
        targetAt := (sources.map (·.expectedTargetAt)).max?.getD 0
        dataThroughAt := if complete then (available.filterMap (·.dataThroughAt)).min? else none
        validUntil := if complete then (available.filterMap (·.validUntil)).min? else none
        evidenceHealth := if complete then .complete else .degraded
        evidenceReasonCode := if complete then none else some "SOURCE_VECTOR_DEGRADED"
        sourceSetFingerprint := digest (sourceSetIdentity sources)
        sources }

/-- The vector of an instant from the stored calendar and assessments. -/
def previewMarketRegimeComposition (daylight : Int → Bool) (boundaries : DailyBoundaries)
    (exceptions : List CalendarException) (assessments : List DimensionAssessment) (observedAt : Int) :
    Except TargetError (MarketRegimeCompositionSelection Fingerprint) :=
  match resolveMarketRegimeExpectedTargets daylight boundaries exceptions observedAt with
  | .error error => .error error
  | .ok resolution =>
    selectMarketRegimeComposition digest observedAt resolution.targets
      ((selectCandidates assessments observedAt resolution.targets).filterMap id)

end Selection

section Readers

variable {Fingerprint : Type}

section

variable (compositions : List (MarketRegimeAssessment Fingerprint))

/-- The row that `currentMarketRegimeComposition` reads. -/
def currentMarketRegimeComposition :
    Option (MarketRegimeAssessment Fingerprint) :=
  latest (·.id) (compositions.filter (·.compositionVersion == marketRegimeCompositionVersion))

/-- The row that `evaluateStrategyEligibility` chooses. -/
def strategyEligibilityComposition (evaluatedAt : Int) :
    Option (MarketRegimeAssessment Fingerprint) :=
  latest (fun row => toLex (row.observedAt, row.id)) (compositions.filter (decide <| ·.observedAt ≤ evaluatedAt))

/-- The row that `evaluateMarketPolicyRevisionOnCurrentComposition` chooses. -/
def marketPolicyComposition (evaluatedAt : Int) :
    Option (MarketRegimeAssessment Fingerprint) :=
  latest (fun row => toLex (row.targetAt, toLex (row.observedAt, row.id)))
    (compositions.filter fun row => row.compositionVersion == marketRegimeCompositionVersion &&
      row.publicationStatus == .succeeded && decide (row.observedAt ≤ evaluatedAt))

end

end Readers

end AiTrader.Market
