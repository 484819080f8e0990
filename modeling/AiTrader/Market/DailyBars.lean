import AiTrader.Library.Locking
import AiTrader.Market.ExpectedTargets
import Mathlib.Algebra.Order.Floor.Ring
import Mathlib.Data.Rat.Floor
import Mathlib.Data.List.Sort

/-! # The canonical daily store

Two providers write the `DAY_1` rows of one table, with different timestamps for one session, under the lock of the
security and the session. Money and volume are exact rationals; a JavaScript number is `none` when it is not finite. -/

namespace AiTrader.Market

open Library

def DailyProvider.text : DailyProvider → String
  | .massive => "MASSIVE"
  | .tiingo => "TIINGO"

inductive AdjustmentMode where
  | unadjusted
deriving DecidableEq

structure BarValues where
  (opening high low close volume : ℚ)
  splitFactor : Option ℚ
deriving DecidableEq

/-- A `DAY_1` row of `MarketBar`. -/
structure MarketBar where
  securityId : Nat
  barStartAt : Int
  values : BarValues
  provider : DailyProvider
  adjustmentMode : AdjustmentMode
  receivedAt : Int
deriving DecidableEq

structure MarketSplitEvent where
  securityId : Nat
  executionDate : Int
  splitFactor : ℚ
  provider : DailyProvider
  provenance : String
  receivedAt : Int
deriving DecidableEq

inductive ObservationStatus where
  | retrying | noEodCoverage | resolved
deriving DecidableEq

structure TiingoDailyObservationState where
  securityId : Nat
  sessionDate : Int
  status : ObservationStatus
  (nextAttemptAt resolvedAt : Option Int)
  reasonCode : String

/-- The tables both writers use, and the setting `tiingoDailyIngestionPaused`. -/
structure DailyStore where
  bars : List MarketBar
  splits : List MarketSplitEvent
  observations : List TiingoDailyObservationState
  paused : Option String

inductive DailyError where
  | splitFactorRequired | invalidNumber | exceedsPrecision | notYetEligible | positiveSecurity
  | authority (error : TargetError)
  | invalidSegmentRange | invalidRange | consumptionPaused | tiingoTimestamp | massiveTimestamp
  | duplicateKey (securityId : Nat) (date : Int)
  | conflictKey (securityId : Nat) (date : Int) (provider : DailyProvider)
  | duplicateSession (symbol : String) (date : Int)
  | providerConflict (symbol : String) (date : Int)
  | evidenceConflict (symbol : String) (date : Int)
  | splitConflict
  /-- A constraint of the database. -/
  | constraint
deriving DecidableEq

/-- The texts of the errors the code throws, where `isoDate` writes a date as `YYYY-MM-DD`. -/
def DailyError.message (isoDate : Int → String) : DailyError → String
  | .splitFactorRequired => "Tiingo splitFactor is required and positive."
  | .invalidNumber => "Invalid Tiingo numeric observation."
  | .exceedsPrecision => "Tiingo numeric observation exceeds canonical precision."
  | .notYetEligible => "Tiingo day is not yet eligible."
  | .positiveSecurity => "A positive Security id is required for a daily-session lock."
  | .authority error => error.message
  | .invalidSegmentRange => "Invalid daily authority segment range."
  | .invalidRange => "Invalid canonical DAY_1 range."
  | .consumptionPaused => "Tiingo DAY_1 consumption is paused after retention purge."
  | .tiingoTimestamp => "Invalid Tiingo DAY_1 UTC-midnight timestamp."
  | .massiveTimestamp => "Invalid Massive DAY_1 New York-midnight timestamp."
  | .duplicateKey securityId date => s!"Duplicate canonical DAY_1 logical session {securityId}:{isoDate date}."
  | .conflictKey securityId date provider =>
    s!"Canonical DAY_1 provider conflict {securityId}:{isoDate date}: {provider.text}."
  | .duplicateSession symbol date => s!"Duplicate canonical DAY_1 logical session {symbol} {isoDate date}."
  | .providerConflict symbol date => s!"Canonical DAY_1 provider conflict {symbol} {isoDate date}."
  | .evidenceConflict symbol date => s!"Immutable canonical DAY_1 evidence conflict {symbol} {isoDate date}."
  | .splitConflict => "Canonical split evidence conflict."
  | .constraint => "constraint violation"

/-- `ROUND_DOWN` to a number of decimal places, of a number that is not negative. -/
def roundDown (scale : Nat) (value : ℚ) : ℚ := ⌊value * 10 ^ scale⌋ / 10 ^ scale

/-- What a `numeric` column keeps of a number: rounded half away from zero to its scale. -/
def numericValue (scale : Nat) (value : ℚ) : ℚ :=
  if 0 ≤ value then ⌊value * 10 ^ scale + 1 / 2⌋ / 10 ^ scale else -(⌊-value * 10 ^ scale + 1 / 2⌋ / 10 ^ scale)

/-- The number as the column stores it; `none` when it has too many digits. -/
def numeric (precision scale : Nat) (value : ℚ) : Option ℚ :=
  if |numericValue scale value| < 10 ^ (precision - scale) then some (numericValue scale value) else none

/-- A nullable column. -/
def numericOption (precision scale : Nat) : Option ℚ → Option (Option ℚ)
  | none => some none
  | some value => (numeric precision scale value).map some

/-- `decimal` -/
def decimal (value : Option ℚ) (scale precision : Nat) : Except DailyError ℚ :=
  match value with
  | none => .error .invalidNumber
  | some value =>
    if value < 0 then .error .invalidNumber
    -- `toFixed(0)` rounds half up before its digits are counted.
    else if 10 ^ (precision - scale) ≤ ⌊roundDown scale value + 1 / 2⌋ then .error .exceedsPrecision
    else .ok (roundDown scale value)

/-- A bar of the Tiingo client; a missing split factor is `none` like one that is not finite. -/
structure TiingoBar where
  barStartAt : Int
  (opening high low close volume splitFactor : Option ℚ)

/-- A bar of the Massive client, whose texts are decimal numerals. -/
structure DailyEvidenceBar where
  barStartAt : Int
  (opening high low close volume : ℚ)
  receivedAt : Int

def canonicalTiingoBar (bar : TiingoBar) : Except DailyError BarValues :=
  if bar.splitFactor.all (· ≤ 0) then .error .splitFactorRequired
  else do
    let opening ← decimal bar.opening 10 24
    let high ← decimal bar.high 10 24
    let low ← decimal bar.low 10 24
    let close ← decimal bar.close 10 24
    let volume ← decimal bar.volume 6 30
    let splitFactor ← decimal bar.splitFactor 10 24
    .ok { opening, high, low, close, volume, splitFactor := some splitFactor }

/-- The row as its columns store it, when its checks hold. -/
def MarketBar.stored (bar : MarketBar) : Option MarketBar := do
  let opening ← numeric 24 10 bar.values.opening
  let high ← numeric 24 10 bar.values.high
  let low ← numeric 24 10 bar.values.low
  let close ← numeric 24 10 bar.values.close
  let volume ← numeric 30 6 bar.values.volume
  let splitFactor ← numericOption 24 10 bar.values.splitFactor
  guard (0 < opening ∧ 0 < high ∧ 0 < low ∧ 0 < close ∧ 0 ≤ volume ∧ low ≤ opening ∧ low ≤ close ∧ low ≤ high ∧
    opening ≤ high ∧ close ≤ high ∧ splitFactor.all (0 < ·))
  some { bar with values := { opening, high, low, close, volume, splitFactor } }

/-- `trim`, of blanks at both ends. -/
def sqlTrim (text : String) : List Char := ((text.toList.dropWhile (· = ' ')).reverse.dropWhile (· = ' ')).reverse

/-- The event as its columns store it, when its checks hold. -/
def MarketSplitEvent.stored (event : MarketSplitEvent) : Option MarketSplitEvent := do
  let splitFactor ← numeric 24 10 event.splitFactor
  guard (0 < splitFactor ∧ splitFactor ≠ 1 ∧ 1 ≤ (sqlTrim event.provenance).length ∧
    (sqlTrim event.provenance).length ≤ 240)
  some { event with splitFactor }

def DailyStore.insertBar (row : MarketBar) (store : DailyStore) : DailyStore := { store with bars := store.bars ++ [row] }

def DailyStore.insertSplit (event : MarketSplitEvent) (store : DailyStore) : DailyStore :=
  { store with splits := store.splits ++ [event] }

/-- The unique index on security and start; every row is a `DAY_1` row. -/
def DailyStore.findBar (securityId : Nat) (barStartAt : Int) (store : DailyStore) : Option MarketBar :=
  store.bars.find? fun row => row.securityId = securityId ∧ row.barStartAt = barStartAt

def DailyStore.findSplit (securityId : Nat) (executionDate : Int) (store : DailyStore) : Option MarketSplitEvent :=
  store.splits.find? fun event => event.securityId = securityId ∧ event.executionDate = executionDate

/-- The rows of some securities from the UTC midnight of one date up to the midnight after another. -/
def DailyStore.barsBetween (securityIds : List Nat) (start finish : Int) (store : DailyStore) : List MarketBar :=
  store.bars.filter fun row =>
    row.securityId ∈ securityIds ∧ start * dayMs ≤ row.barStartAt ∧ row.barStartAt < (finish + 1) * dayMs

/-- Resolve an open observation state of a security and a session. -/
def TiingoDailyObservationState.resolve (receivedAt : Int) (state : TiingoDailyObservationState) :
    TiingoDailyObservationState :=
  { state with status := .resolved, nextAttemptAt := none, resolvedAt := some receivedAt, reasonCode := "BAR_RECEIVED" }

/-- The observation states that a bar resolves. -/
def TiingoDailyObservationState.awaits (securityId : Nat) (date : Int) (state : TiingoDailyObservationState) : Bool :=
  state.securityId = securityId ∧ state.sessionDate = date ∧ state.status ≠ .resolved

def DailyStore.resolveObservations (securityId : Nat) (date receivedAt : Int) (store : DailyStore) : DailyStore :=
  { store with observations := store.observations.map fun state =>
      if state.awaits securityId date then state.resolve receivedAt else state }

/-- A transaction on the daily tables. -/
abbrev DailyTransaction (α : Type) : Type 1 := Transaction DailyStore DailyError α

open Transaction

/-- `upsert` with an empty update: the stored row, or the row just created. -/
def upsertMarketBar (bar : MarketBar) : DailyTransaction MarketBar := statement fun store =>
  match store.findBar bar.securityId bar.barStartAt with
  | some row => .ok (row, id)
  | none =>
    match bar.stored with
    | some row => .ok (row, DailyStore.insertBar row)
    | none => .error .constraint

def createMarketBar (bar : MarketBar) : DailyTransaction Unit := statement fun store =>
  match store.findBar bar.securityId bar.barStartAt, bar.stored with
  | none, some row => .ok ((), DailyStore.insertBar row)
  | _, _ => .error .constraint

def createMarketSplitEvent (event : MarketSplitEvent) : DailyTransaction Unit := statement fun store =>
  match store.findSplit event.securityId event.executionDate, event.stored with
  | none, some row => .ok ((), DailyStore.insertSplit row)
  | _, _ => .error .constraint

/-- `updateMany`, with the number of rows. -/
def resolveObservationStates (securityId : Nat) (date receivedAt : Int) : DailyTransaction Nat := statement fun store =>
  .ok (store.observations.countP (·.awaits securityId date), DailyStore.resolveObservations securityId date receivedAt)

structure AuthoritySegment where
  provider : DailyProvider
  (start through : Int)

structure CanonicalDailyRow where
  row : MarketBar
  sessionDate : Int
deriving DecidableEq

section Authority

variable (boundaries : DailyBoundaries)

/-- The provider of a session, or the error of the configuration. -/
def authorityOf (sessionDate : Int) : Except DailyError DailyProvider :=
  match marketDailyAuthority boundaries sessionDate with
  | .ok provider => .ok provider
  | .error error => .error (.authority error)

/-- The segments that start at the given dates, each up to the day before the next. -/
def segmentsFrom (through : Int) : List Int → Except DailyError (List AuthoritySegment)
  | [] => .ok []
  | start :: later => do
    let provider ← authorityOf boundaries start
    let rest ← segmentsFrom through later
    let finish := match later with
      | next :: _ => next - 1
      | [] => through
    .ok ({ provider, start, through := finish } :: rest)

def dailyAuthoritySegments (start through : Int) : Except DailyError (List AuthoritySegment) :=
  if through < start then .error .invalidSegmentRange
  else do
    let _ ← authorityOf boundaries through
    let starts := [some start, boundaries.cutoverSession, boundaries.massiveResumeSession].filterMap id
    let within := (starts.filter fun date => start ≤ date ∧ date ≤ through).insertionSort (· ≤ ·)
    segmentsFrom boundaries through within.eraseDups

end Authority

variable (daylight : Int → Bool)

section Reading

variable (boundaries : DailyBoundaries)

/-- The New York session a stored timestamp stands for. -/
def canonicalDailySessionDate (barStartAt : Int) (provider : DailyProvider) : Except DailyError Int :=
  match provider with
  | .tiingo => if barStartAt % dayMs ≠ 0 then .error .tiingoTimestamp else .ok (barStartAt / dayMs)
  | .massive =>
    let date := etDate daylight barStartAt
    if barStartAt ≠ etInstant daylight date 0 then .error .massiveTimestamp else .ok date

/-- The rows of a range, each with its session, where `seen` and `result` are those of the loop so far. -/
def validateRows (start through : Int) (seen : List (Nat × Int)) (result : List CanonicalDailyRow) :
    List MarketBar → Except DailyError (List CanonicalDailyRow)
  | [] => .ok result
  | row :: rest => do
    let sessionDate ← canonicalDailySessionDate daylight row.barStartAt row.provider
    if sessionDate < start ∨ through < sessionDate then validateRows start through seen result rest
    else if (row.securityId, sessionDate) ∈ seen then .error (.duplicateKey row.securityId sessionDate)
    else
      let authority ← authorityOf boundaries sessionDate
      if row.provider ≠ authority then .error (.conflictKey row.securityId sessionDate row.provider)
      else validateRows start through ((row.securityId, sessionDate) :: seen) (result ++ [⟨row, sessionDate⟩]) rest

/-- By session, then by security. -/
def CanonicalDailyRow.le (first second : CanonicalDailyRow) : Bool :=
  first.sessionDate < second.sessionDate ∨
    first.sessionDate = second.sessionDate ∧ first.row.securityId ≤ second.row.securityId

/-- The checks of time frame and adjustment hold of every row that the types admit. -/
def validateCanonicalDailyRows (rows : List MarketBar) (start through : Int) :
    Except DailyError (List CanonicalDailyRow) :=
  if through < start then .error .invalidRange
  else do
    let result ← validateRows daylight boundaries start through [] [] rows
    .ok (result.insertionSort fun first second => first.le second)

/-- Refuse sessions of Tiingo while its data may not be consumed. -/
def requireConsumption (segments : List AuthoritySegment) : DailyTransaction Unit :=
  if segments.any (·.provider = .tiingo) then do
    let paused ← look fun store : DailyStore => store.paused
    attain (if paused = some "true" then .error .consumptionPaused else .ok ())
  else pure ()

def readCanonicalDailyBars (securityIds : List Nat) (start through : Int) :
    DailyTransaction (List CanonicalDailyRow) := do
  let segments ← attain (dailyAuthoritySegments boundaries start through)
  requireConsumption segments
  let rows ← look fun store : DailyStore =>
    (store.barsBetween securityIds start through).insertionSort fun first second => first.barStartAt ≤ second.barStartAt
  attain (validateCanonicalDailyRows daylight boundaries rows start through)

end Reading

/-- `Number.isSafeInteger(securityId) && securityId > 0` -/
def lockableSecurity (securityId : Nat) : Bool := 0 < securityId ∧ securityId ≤ 9007199254740991

section Writers

variable (isoDate : Int → String) (boundaries : DailyBoundaries)

/-- Whether a split event was created. -/
def ensureTiingoSplitEvent (securityId : Nat) (symbol : String) (date : Int) (splitFactor : ℚ) (receivedAt : Int) :
    DailyTransaction Bool :=
  if splitFactor = 1 then pure false
  else do
    let split ← look fun store : DailyStore => store.findSplit securityId date
    match split with
    | some split =>
      if split.splitFactor ≠ splitFactor ∨ split.provider ≠ .tiingo then throw .splitConflict else pure false
    | none => do
      createMarketSplitEvent
        { securityId, executionDate := date, splitFactor, provider := .tiingo
          provenance := s!"TIINGO:EOD:{symbol}:{isoDate date}", receivedAt }
      pure true

/-- The bar of either client. -/
inductive DailyBar where
  | massive (bar : DailyEvidenceBar)
  | tiingo (bar : TiingoBar)

def DailyBar.provider : DailyBar → DailyProvider
  | .massive _ => .massive
  | .tiingo _ => .tiingo

def DailyBar.canonical : DailyBar → Except DailyError BarValues
  | .massive bar => .ok
    { opening := bar.opening, high := bar.high, low := bar.low, close := bar.close, volume := bar.volume
      splitFactor := none }
  | .tiingo bar => canonicalTiingoBar bar

def dailyBarStartAt (provider : DailyProvider) (date : Int) : Int :=
  match provider with
  | .tiingo => date * dayMs
  | .massive => etInstant daylight date 0

/-- What follows the write of the row. -/
def ensureSplitOf (provider : DailyProvider) (securityId : Nat) (symbol : String) (date : Int) (values : BarValues)
    (receivedAt : Int) : DailyTransaction Unit :=
  match provider, values.splitFactor with
  | .tiingo, some factor => do
    let _ ← ensureTiingoSplitEvent isoDate securityId symbol date factor receivedAt
    pure ()
  | _, _ => pure ()

/-- The transaction of `persistDailyBar` once it holds the lock. -/
def persistDailyBarLocked (symbol : String) (securityId : Nat) (date : Int) (provider : DailyProvider)
    (canonical : BarValues) (receivedAt : Int) : DailyTransaction Nat := do
  let logical ← readCanonicalDailyBars daylight boundaries [securityId] date date
  let barStartAt := dailyBarStartAt daylight provider date
  attain (if 1 < logical.length then .error (.duplicateSession symbol date) else .ok ())
  attain (if logical.head?.any fun existing => decide (existing.row.barStartAt ≠ barStartAt)
    then .error (.providerConflict symbol date) else .ok ())
  let row ← upsertMarketBar
    { securityId, barStartAt, values := canonical, provider, adjustmentMode := .unadjusted, receivedAt }
  attain (if row.provider ≠ provider ∨ row.adjustmentMode ≠ .unadjusted ∨ row.values ≠ canonical
    then .error (.evidenceConflict symbol date) else .ok ())
  ensureSplitOf isoDate provider securityId symbol date canonical receivedAt
  pure (if logical.isEmpty then 1 else 0)

/-- The lock is taken after checks that read no table. -/
def lockMarketDailySession (securityId : Nat) : DailyTransaction Unit :=
  attain (if lockableSecurity securityId then .ok () else .error .positiveSecurity)

def persistDailyBar (symbol : String) (securityId : Nat) (date : Int) (bar : DailyBar) (receivedAt : Int) :
    DailyTransaction Nat := do
  let canonical ← attain bar.canonical
  lockMarketDailySession securityId
  persistDailyBarLocked daylight isoDate boundaries symbol securityId date bar.provider canonical receivedAt

structure Member where
  securityId : Nat
  symbol : String

def tiingoDayEligible (date now : Int) : Bool :=
  date < etDate daylight now ∨
    date = etDate daylight now ∧ etInstant daylight date tiingoDayEligibleMinutesEt ≤ now

inductive PersistResult where
  | inserted | already | other | conflict | split
deriving DecidableEq

/-- The rows whose session is the date. -/
def rowsOfSession (date : Int) : List MarketBar → Except DailyError (List MarketBar)
  | [] => .ok []
  | row :: rest => do
    let sessionDate ← canonicalDailySessionDate daylight row.barStartAt row.provider
    let later ← rowsOfSession date rest
    .ok (if sessionDate = date then row :: later else later)

/-- What an existing row makes of a write: `none` lets it through. -/
def refusalOf (existing : MarketBar) (barStartAt : Int) (values : BarValues) : Option PersistResult :=
  if existing.provider ≠ .tiingo then some .other
  else if existing.barStartAt ≠ barStartAt then some .conflict
  else if existing.adjustmentMode ≠ .unadjusted ∨ existing.values ≠ values then some .conflict
  else none

section

variable (member : Member)

/-- What follows once the row is there. -/
def finishTiingoDailyBar (date : Int) (values : BarValues) (receivedAt : Int) (found : Bool) :
    DailyTransaction (PersistResult × Bool) := do
  let split ← match values.splitFactor with
    | some factor => ensureTiingoSplitEvent isoDate member.securityId member.symbol date factor receivedAt
    | none => pure false
  let resolved ← resolveObservationStates member.securityId date receivedAt
  pure (if split then .split else if found then .already else .inserted, decide (0 < resolved))

/-- The transaction of `persistTiingoDailyBar` once it holds the lock. -/
def persistTiingoDailyBarLocked (date barStartAt : Int) (values : BarValues) (receivedAt : Int) :
    DailyTransaction (PersistResult × Bool) := do
  let candidates ← look fun store : DailyStore => store.barsBetween [member.securityId] date date
  let logical ← attain (rowsOfSession daylight date candidates)
  if 1 < logical.length then pure (.conflict, false)
  else
    match logical.head? with
    | some existing =>
      match refusalOf existing barStartAt values with
      | some refusal => pure (refusal, false)
      | none => finishTiingoDailyBar isoDate member date values receivedAt true
    | none => do
      createMarketBar
        { securityId := member.securityId, barStartAt, values, provider := .tiingo, adjustmentMode := .unadjusted
          receivedAt }
      finishTiingoDailyBar isoDate member date values receivedAt false

def persistTiingoDailyBar (bar : TiingoBar) (receivedAt : Int) :
    DailyTransaction (PersistResult × Bool) := do
  let values ← attain (canonicalTiingoBar bar)
  let date := bar.barStartAt / dayMs
  attain (if tiingoDayEligible daylight date receivedAt then .ok () else .error .notYetEligible)
  lockMarketDailySession member.securityId
  persistTiingoDailyBarLocked daylight isoDate member date bar.barStartAt values receivedAt

end

end Writers

end AiTrader.Market
