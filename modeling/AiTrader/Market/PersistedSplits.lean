import AiTrader.Library.Cover
import AiTrader.Library.JsNumber
import AiTrader.Market.DailySync

/-! # Persisted split evidence

A reader needs proof that no event is missing: coverage rows where Massive has the authority, the split factor of every
session's bar where Tiingo has it. -/

namespace AiTrader.Market

open Library JsNumber

/-- A row of `MarketSplitCoverage` with the check of the table; years have four digits, so dates compare as days. -/
structure MarketSplitCoverage where
  securityId : Nat
  (fromDate throughDate : Int)
  provider : DailyProvider
  ordered : fromDate ≤ throughDate

def MarketSplitCoverage.Contains (row : MarketSplitCoverage) (date : Int) : Prop :=
  row.fromDate ≤ date ∧ date ≤ row.throughDate

instance (row : MarketSplitCoverage) (date : Int) : Decidable (row.Contains date) := inferInstanceAs (Decidable (_ ∧ _))

/-- The tables of the reader, each as its one query finds it. -/
structure SplitTables where
  securities : String → Option Nat
  coverage : List MarketSplitCoverage
  daily : DailyStore
  /-- The column `id` of the split events. -/
  splitId : MarketSplitEvent → Int
  calendar : List CalendarException

inductive SplitEvidenceError where
  | invalidRange | missingSecurity | mixedCoverage | incompleteCoverage | incompleteTiingo | coverageConflict
  | factorConflict | missingTiingoSplit | invalidSplit
  | sync (error : SyncError)
deriving DecidableEq

/-- The texts, where `isoDate` writes a date as `YYYY-MM-DD`. -/
def SplitEvidenceError.message (isoDate : Int → String) : SplitEvidenceError → String
  | .invalidRange => "Invalid persisted split range."
  | .missingSecurity => "Missing split Security."
  | .mixedCoverage => "Incomplete or mixed-provider split coverage."
  | .incompleteCoverage => "Incomplete persisted split coverage."
  | .incompleteTiingo => "Incomplete Tiingo DAY_1 split-factor coverage."
  | .coverageConflict => "Split event conflicts with coverage."
  | .factorConflict => "Tiingo split event conflicts with canonical DAY_1 factor."
  | .missingTiingoSplit => "Missing persisted Tiingo split event."
  | .invalidSplit => "Invalid persisted split evidence."
  | .sync error => error.message isoDate

structure SplitEvent (N : Type) where
  (id symbol : String)
  executionDate : Int
  (splitFrom splitTo priceFactor : N)
deriving DecidableEq

section Normalization

variable {N : Type} [JsNumber N]

/-- The canonical factor is new shares for each old share, and the price factor is its inverse. -/
def splitEventOf (id : Int) (symbol : String) (executionDate : Int) (factor : ℚ) : SplitEvent N :=
  { id := s!"market-split-event:{id}"
    symbol
    executionDate
    splitFrom := number 1
    splitTo := number factor
    priceFactor := number 1 / number factor }

def normalizedPersistedSplit (id : Int) (symbol : String) (executionDate : Int) (factor : ℚ) :
    Except SplitEvidenceError (SplitEvent N) :=
  let event : SplitEvent N := splitEventOf id symbol executionDate factor
  if 9007199254740991 < id ∨ id < 1 ∨ isFinite event.splitTo = false ∨ le event.splitTo (number 0) ∨
      (le event.splitTo (number 1) && le (number 1) event.splitTo) ∨ isFinite event.priceFactor = false ∨
      le event.priceFactor (number 0) then
    .error .invalidSplit
  else .ok event

end Normalization

namespace SplitTables

variable (tables : SplitTables)

section

variable (securityId : Nat)

/-- By the first day, then by the last. -/
def coverageBetween (start through : Int) : List MarketSplitCoverage :=
  (tables.coverage.filter fun row =>
    row.securityId = securityId ∧ row.fromDate ≤ through ∧ start ≤ row.throughDate).insertionSort fun row other =>
      row.fromDate < other.fromDate ∨ row.fromDate = other.fromDate ∧ row.throughDate ≤ other.throughDate

/-- Only a range with days of Massive asks for coverage. -/
def coverageOf (start through : Int) (massive : List AuthoritySegment) : List MarketSplitCoverage :=
  if massive.isEmpty then [] else tables.coverageBetween securityId start through

/-- By the day, then by the id. -/
def splitsBetween (start through : Int) : List MarketSplitEvent :=
  (tables.daily.splits.filter fun row =>
    row.securityId = securityId ∧ start ≤ row.executionDate ∧ row.executionDate ≤ through).insertionSort fun row other =>
      row.executionDate < other.executionDate ∨
        row.executionDate = other.executionDate ∧ tables.splitId row ≤ tables.splitId other

end

def calendarBetween (start through : Int) : List CalendarException :=
  tables.calendar.filter fun exception => start ≤ exception.sessionDate ∧ exception.sessionDate ≤ through

end SplitTables

/-- An outcome of one of the functions that the reader calls. -/
def ofSync {Value : Type} : Except SyncError Value → Except SplitEvidenceError Value
  | .ok value => .ok value
  | .error error => .error (.sync error)

def ofDaily {Value : Type} : Except DailyError Value → Except SplitEvidenceError Value
  | .ok value => .ok value
  | .error error => .error (.sync (.daily error))

/-- The body of the loop over the segments of Massive. -/
def coverSegment (coverage : List MarketSplitCoverage) (segment : AuthoritySegment) : Except SplitEvidenceError Unit :=
  match sweep MarketSplitCoverage.fromDate MarketSplitCoverage.throughDate (fun row => decide (row.provider = .massive))
      segment.start segment.through segment.start coverage with
  | none => .error .mixedCoverage
  | some next => if next ≤ segment.through then .error .incompleteCoverage else .ok ()

def coverSegments (coverage : List MarketSplitCoverage) : List AuthoritySegment → Except SplitEvidenceError Unit
  | [] => .ok ()
  | segment :: rest => do
    coverSegment coverage segment
    coverSegments coverage rest

section Reading

variable (daylight : Int → Bool) (isoDate : Int → String) (boundaries : DailyBoundaries) (tables : SplitTables)

/-- `filter(date => marketSession(date, exceptions))` -/
def sessionsOf (exceptions : List CalendarException) : List Int → Except SplitEvidenceError (List Int)
  | [] => .ok []
  | date :: rest => do
    let session ← ofSync (SyncEnvironment.ofCalendarError (marketSession daylight exceptions date))
    let later ← sessionsOf exceptions rest
    .ok (if session.isSome then date :: later else later)

/-- The bars of the segment of Tiingo, where there is one. -/
def tiingoEvidence (securityId : Nat) : Option AuthoritySegment → Except SplitEvidenceError (List CanonicalDailyRow)
  | none => .ok []
  | some segment => do
    let bars ← ofDaily ((readCanonicalDailyBars daylight boundaries [securityId] segment.start segment.through).alone
      .constraint tables.daily).1
    let dates ← ofSync (datesBetween segment.start segment.through)
    let expected ← sessionsOf daylight (tables.calendarBetween segment.start segment.through) dates
    if bars.length ≠ expected.length ∨ expected.any (fun date =>
        !bars.any fun bar => bar.sessionDate == date && bar.row.values.splitFactor.any fun factor => decide (0 < factor)) then
      .error .incompleteTiingo
    else .ok bars

variable {N : Type} [JsNumber N]

section

variable (symbol : String)

/-- The event of a row. A provenance of Massive names what follows its first eight letters. -/
def persistedSplit (coverage : List MarketSplitCoverage) (bars : List CanonicalDailyRow)
    (row : MarketSplitEvent) : Except SplitEvidenceError (SplitEvent N) := do
  let date := row.executionDate
  let provider ← ofDaily (authorityOf boundaries date)
  match provider with
  | .massive =>
    if row.provider ≠ .massive ∨ !"MASSIVE:".toList.isPrefixOf row.provenance.toList ∨ row.provenance.length ≤ 8 ∨
        !coverage.any (fun covering => decide (covering.Contains date)) then
      .error .coverageConflict
    else normalizedPersistedSplit (tables.splitId row) symbol date row.splitFactor
  | .tiingo =>
    if row.provider ≠ .tiingo ∨ row.provenance ≠ s!"TIINGO:EOD:{symbol}:{isoDate date}" ∨
        ((bars.find? (·.sessionDate == date)).bind (·.row.values.splitFactor)) ≠ some row.splitFactor then
      .error .factorConflict
    else normalizedPersistedSplit (tables.splitId row) symbol date row.splitFactor

/-- What is read once the segments of the range are known to be covered. -/
def readCoveredSplits (securityId : Nat) (start through : Int) (segments : List AuthoritySegment)
    (coverage : List MarketSplitCoverage) : Except SplitEvidenceError (List (SplitEvent N)) := do
  let bars ← tiingoEvidence daylight boundaries tables securityId (segments.find? (·.provider == .tiingo))
  let rows := tables.splitsBetween securityId start through
  let events ← rows.mapM (persistedSplit isoDate boundaries tables symbol coverage bars)
  if bars.any fun bar => bar.row.values.splitFactor.any (fun factor => decide (factor ≠ 1)) &&
      !rows.any fun row => row.executionDate == bar.sessionDate then
    .error .missingTiingoSplit
  else .ok events

def readPersistedSplits (start through : Int) : Except SplitEvidenceError (List (SplitEvent N)) :=
  if through < start then .error .invalidRange
  else
    match tables.securities symbol with
    | none => .error .missingSecurity
    | some securityId => do
      let segments ← ofDaily (dailyAuthoritySegments boundaries start through)
      let massive := segments.filter (·.provider == .massive)
      let coverage := tables.coverageOf securityId start through massive
      coverSegments coverage massive
      readCoveredSplits daylight isoDate boundaries tables symbol securityId start through segments coverage

end

end Reading

end AiTrader.Market
