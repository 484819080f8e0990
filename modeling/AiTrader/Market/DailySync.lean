import AiTrader.Library.Sequential
import AiTrader.Market.DailyBars

/-! # The daily synchronization of the sensor panel

A run holds the lock of the market data, plans the missing sessions of each symbol since a fixed day, and asks for the
first of them. -/

namespace AiTrader.Market

open Library Sequential

/-- The errors of a run; `provider` is a failure of a client or of a lock, with its HTTP status. -/
inductive SyncError where
  | daily (error : DailyError)
  | invalidCheckpoint | calendarRange | calendarTooLong | backfillRange | massiveRange | tiingoPaused | noEligibleAt
  | evidenceTimestamp
  | securityRequired (symbol : String)
  | backfillSecurity (symbol : String)
  | tiingoResponse (symbol : String) (date : Int)
  | barsMissing (count : Nat)
  | provider (status : Option Nat) (message : String)
deriving DecidableEq

def trendDataStart : Int := civil 2012 1 1 - 550

def maxBackfillDays : Nat := 370

def dailySyncRetryMs : Int := 60 * 60000

/-- The texts, where `isoDate` writes a date as `YYYY-MM-DD`. -/
def SyncError.message (isoDate : Int → String) : SyncError → String
  | .daily error => error.message isoDate
  | .invalidCheckpoint => "Invalid market sync checkpoint."
  | .calendarRange => "Invalid calendar range."
  | .calendarTooLong => "Calendar range exceeds 6000 days."
  | .backfillRange => s!"Backfill requires {isoDate trendDataStart} or later, no future dates, and at most " ++
      s!"{maxBackfillDays} days per request."
  | .massiveRange => "Massive DAY_1 backfill range intersects a Tiingo-authority market session."
  | .tiingoPaused => "Tiingo DAY_1 acquisition is paused after retention purge."
  | .noEligibleAt => "Cannot read properties of null (reading 'getTime')"
  | .evidenceTimestamp => "Massive evidence: daily timestamp outside requested range or not Eastern midnight"
  | .securityRequired symbol => s!"Existing Security {symbol} is required for daily sync."
  | .backfillSecurity symbol => s!"Existing Security {symbol} is required; create it in Securities before backfill."
  | .tiingoResponse symbol date => s!"Invalid Tiingo DAY_1 session response for {symbol} {isoDate date}."
  | .barsMissing count => s!"{count} eligible daily bars remain missing. Check the authoritative provider and calendar " ++
      "exceptions."
  | .provider _ message => message

/-- The status of an `HttpError`. -/
def SyncError.statusCode : SyncError → Option Nat
  | .backfillRange => some 400
  | .massiveRange | .backfillSecurity _ => some 409
  | .evidenceTimestamp => some 502
  | .provider status _ => status
  | _ => none

structure SyncState where
  (fromDate nextAttemptAt : Int)
  lastAttemptAt : Option Int
  lastResult : String

/-- The row of the setting `marketDailyEvidenceSync`; `invalid` holds no state with a date and a time. -/
inductive SyncSetting where
  | absent | invalid
  | stored (state : SyncState)

/-- The tables a run writes, and the `nextAttemptAt` that it moves forward. -/
structure SyncTables where
  daily : DailyStore
  nextAttemptAt : Int

abbrev Sync (α : Type) : Type := Sequential SyncTables SyncError α

structure DailyGaps where
  (missing notYetEligible : List Int)

structure SyncPlan where
  symbol : String
  securityId : Nat
  gaps : DailyGaps

/-- What `ingestDailyRange` and `ingestTiingoPanelDay` tell of their bars. -/
structure IngestCounts where
  (inserted eligible : Nat)

structure SyncCounts where
  (inserted missing : Nat)

structure SyncReport where
  (inserted missing : Nat)
  notDue : Bool

/-- How a run ends, with what it leaves in the database. -/
structure SyncRun where
  result : Except SyncError SyncReport
  daily : DailyStore
  setting : SyncSetting

def marketDailyEvidenceSymbols : List String := ["SPY", "QQQ", "DIA", "IWM", "RSP"]

def datesBetween (start finish : Int) : Except SyncError (List Int) :=
  if finish < start then .error .calendarRange
  else if 6000 < finish - start then .error .calendarTooLong
  else .ok ((List.range (finish - start + 1).toNat).map fun index : Nat => start + (index : Int))

/-- What a run is given: zone, configuration, securities, calendar in the order of its sessions, and providers. -/
structure SyncEnvironment where
  daylight : Int → Bool
  isoDate : Int → String
  boundaries : DailyBoundaries
  securities : String → Option Nat
  calendar : List CalendarException
  /-- The bars that the Massive client reads for a symbol and a range, whatever their timestamps. -/
  massiveRows : String → Int → Int → Except SyncError (List DailyEvidenceBar)
  tiingoLock : String → Int → Except SyncError Unit
  tiingoDaily : String → Int → Except SyncError (List TiingoBar)

namespace SyncEnvironment

variable (env : SyncEnvironment)

def calendarExceptions (start finish : Int) : List CalendarException :=
  env.calendar.filter fun exception => start ≤ exception.sessionDate ∧ exception.sessionDate ≤ finish

section Calls

variable {α : Type}

def ofTarget : Except TargetError α → Except SyncError α
  | .ok value => .ok value
  | .error error => .error (.daily (.authority error))

def ofCalendarError : Except CalendarError α → Except SyncError α
  | .ok value => .ok value
  | .error error => .error (.daily (.authority (.calendar error)))

/-- A transaction on the daily tables. -/
def onDaily (transaction : DailyTransaction α) : Sync α :=
  transact (·.daily) (fun daily tables => { tables with daily }) .daily .constraint transaction

end Calls

def hasSession (exceptions : List CalendarException) (date : Int) : Except SyncError Bool :=
  ofCalendarError ((marketSession env.daylight exceptions date).map (·.isSome))

/-- The loop of `planDailyGaps`. -/
def planDates (present : List Int) (exceptions : List CalendarException) (now : Int) :
    List Int → Except SyncError DailyGaps
  | [] => .ok ⟨[], []⟩
  | date :: rest => do
    let session ← env.hasSession exceptions date
    if !session then planDates present exceptions now rest
    else
      let eligible ← ofTarget (dailySessionEligible env.daylight env.boundaries exceptions now date)
      let gaps ← planDates present exceptions now rest
      if !eligible then .ok { gaps with notYetEligible := date :: gaps.notYetEligible }
      else if date ∈ present then .ok gaps
      else .ok { gaps with missing := date :: gaps.missing }

def planDailyGaps (start finish : Int) (present : List Int) (exceptions : List CalendarException) (now : Int) :
    Except SyncError DailyGaps := do
  let dates ← datesBetween start finish
  env.planDates present exceptions now dates

def validateBackfillRange (start finish now : Int) : Except SyncError Unit :=
  if start < trendDataStart ∨ etDate env.daylight now < finish ∨ finish < start then .error .backfillRange
  else do
    let dates ← datesBetween start finish
    if maxBackfillDays < dates.length then .error .backfillRange else .ok ()

/-- `some`, with the errors of its predicate. -/
def someDate (holds : Int → Except SyncError Bool) : List Int → Except SyncError Bool
  | [] => .ok false
  | date :: rest => do
    let held ← holds date
    if held then .ok true else someDate holds rest

/-- A market session for which Massive is not authoritative. -/
def foreignSession (exceptions : List CalendarException) (date : Int) : Except SyncError Bool := do
  let session ← env.hasSession exceptions date
  if !session then .ok false
  else do
    let provider ← ofTarget (marketDailyAuthority env.boundaries date)
    .ok (provider ≠ .massive)

/-- `barEligibility('DAY_1', …).status === 'ELIGIBLE'` -/
def startEligible (exceptions : List CalendarException) (now start : Int) : Except SyncError Bool :=
  ofCalendarError ((barEligibility env.daylight exceptions .day1 start now).map (·.1 = .eligible))

/-- The bars of the client, each at a midnight of New York within the range. -/
def fetchDailyEvidence (symbol : String) (start finish : Int) : Except SyncError (List DailyEvidenceBar) := do
  let bars ← env.massiveRows symbol start finish
  if bars.any (fun bar =>
      let date := etDate env.daylight bar.barStartAt
      decide (date < start ∨ finish < date ∨ etInstant env.daylight date 0 ≠ bar.barStartAt)) then .error .evidenceTimestamp
  else .ok bars

def eligibleBars (exceptions : List CalendarException) (now : Int) :
    List DailyEvidenceBar → Except SyncError (List DailyEvidenceBar)
  | [] => .ok []
  | bar :: rest => do
    let eligible ← env.startEligible exceptions now bar.barStartAt
    let later ← eligibleBars exceptions now rest
    .ok (if eligible then bar :: later else later)

def persistBars (symbol : String) (securityId : Nat) : List DailyEvidenceBar → Sync Nat
  | [] => pure 0
  | bar :: rest => do
    let first ← onDaily (persistDailyBar env.daylight env.isoDate env.boundaries symbol securityId
      (etDate env.daylight bar.barStartAt) (.massive bar) bar.receivedAt)
    let later ← persistBars symbol securityId rest
    pure (first + later)

section

variable (symbol : String)

def ingestDailyRange (start finish now : Int) : Sync IngestCounts := do
  attain (env.validateBackfillRange start finish now)
  match env.securities symbol with
  | none => throw (.backfillSecurity symbol)
  | some securityId => do
    let exceptions := env.calendarExceptions start finish
    let dates ← attain (datesBetween start finish)
    let foreign ← attain (someDate (env.foreignSession exceptions) dates)
    if foreign then throw .massiveRange
    else do
      let due ← attain (someDate (fun date => env.startEligible exceptions now (etInstant env.daylight date 0)) dates)
      if !due then pure ⟨0, 0⟩
      else do
        let bars ← attain (env.fetchDailyEvidence symbol start finish)
        let eligible ← attain (env.eligibleBars exceptions now bars)
        let inserted ← env.persistBars symbol securityId eligible
        pure ⟨inserted, eligible.length⟩

/-- A Tiingo response for one session. -/
def tiingoSession (date : Int) (bars : List TiingoBar) : Except SyncError (Option TiingoBar) :=
  if bars.any (fun bar => decide (bar.barStartAt ≠ date * dayMs)) || decide (1 < bars.length) then
    .error (.tiingoResponse symbol date)
  else .ok bars.head?

def ingestTiingoPanelDay (securityId : Nat) (date now : Int) : Sync IngestCounts := do
  let eligible ← attain (ofTarget (dailySessionEligible env.daylight env.boundaries [] now date))
  if !eligible then pure ⟨0, 0⟩
  else do
    attain (env.tiingoLock symbol date)
    let paused ← look fun tables : SyncTables => tables.daily.paused
    if paused = some "true" then throw .tiingoPaused
    else do
      let bars ← attain (env.tiingoDaily symbol date)
      let bar ← attain (tiingoSession symbol date bars)
      match bar with
      | none => pure ⟨0, 0⟩
      | some bar => do
        let inserted ← onDaily (persistDailyBar env.daylight env.isoDate env.boundaries symbol securityId date (.tiingo bar) now)
        pure ⟨inserted, 1⟩

end

/-- The plan of a symbol. -/
def planOf (fromDate today now : Int) (exceptions : List CalendarException) (symbol : String) : Sync SyncPlan :=
  match env.securities symbol with
  | none => throw (.securityRequired symbol)
  | some securityId => do
    let rows ← onDaily (readCanonicalDailyBars env.daylight env.boundaries [securityId] fromDate today)
    let gaps ← attain (env.planDailyGaps fromDate today (rows.map (·.sessionDate)) exceptions now)
    pure ⟨symbol, securityId, gaps⟩

def plansOf (fromDate today now : Int) (exceptions : List CalendarException) : List String → Sync (List SyncPlan)
  | [] => pure []
  | symbol :: rest => do
    let plan ← env.planOf fromDate today now exceptions symbol
    let later ← plansOf fromDate today now exceptions rest
    pure (plan :: later)

/-- Ask the authoritative provider for a missing session. -/
def ingestSession (symbol : String) (securityId : Nat) (now date : Int) : Sync IngestCounts := do
  let provider ← attain (ofTarget (marketDailyAuthority env.boundaries date))
  match provider with
  | .massive => env.ingestDailyRange symbol date date now
  | .tiingo => env.ingestTiingoPanelDay symbol securityId date now

def ingestSessions (symbol : String) (securityId : Nat) (now : Int) : List Int → SyncCounts → Sync SyncCounts
  | [], counts => pure counts
  | date :: rest, counts => do
    let result ← env.ingestSession symbol securityId now date
    ingestSessions symbol securityId now rest
      { inserted := counts.inserted + result.inserted
        missing := if result.eligible = 0 then counts.missing + 1 else counts.missing }

/-- When the bar of a session that is not yet eligible becomes eligible. -/
def eligibleAt (exceptions : List CalendarException) (now date : Int) : Except SyncError Int := do
  let provider ← ofTarget (marketDailyAuthority env.boundaries date)
  match provider with
  | .tiingo => .ok (etInstant env.daylight date tiingoDayEligibleMinutesEt)
  | .massive => do
    let eligibility ← ofCalendarError (barEligibility env.daylight exceptions .day1 (etInstant env.daylight date 0) now)
    match eligibility.2 with
    | some eligibleAt => .ok eligibleAt
    | none => .error .noEligibleAt

def awaitSessions (exceptions : List CalendarException) (now : Int) : List Int → Sync Unit
  | [] => pure ()
  | date :: rest => do
    let close ← attain (env.eligibleAt exceptions now date)
    update fun tables =>
      if now < close ∧ close < tables.nextAttemptAt then { tables with nextAttemptAt := close } else tables
    awaitSessions exceptions now rest

/-- The sessions of a symbol that one run asks for. -/
def sessionsPerRun : Nat := 20

def syncPlan (exceptions : List CalendarException) (now : Int) (plan : SyncPlan) (counts : SyncCounts) : Sync SyncCounts := do
  let counts ← env.ingestSessions plan.symbol plan.securityId now (plan.gaps.missing.take sessionsPerRun) counts
  env.awaitSessions exceptions now plan.gaps.notYetEligible
  pure { counts with missing := counts.missing + (plan.gaps.missing.length - sessionsPerRun) }

def syncPlans (exceptions : List CalendarException) (now : Int) : List SyncPlan → SyncCounts → Sync SyncCounts
  | [], counts => pure counts
  | plan :: rest, counts => do
    let counts ← env.syncPlan exceptions now plan counts
    syncPlans exceptions now rest counts

/-- The body of the `try` of `syncDailyBars`, up to the count of what is still missing. -/
def syncWork (fromDate today now : Int) : Sync SyncCounts := do
  let exceptions := env.calendarExceptions fromDate today
  let plans ← env.plansOf fromDate today now exceptions marketDailyEvidenceSymbols
  env.syncPlans exceptions now plans ⟨0, 0⟩

/-- The state a run starts from; the setting is created when it is absent. -/
def checkpointOf (now : Int) : SyncSetting → Option SyncState
  | .absent => some ⟨etDate env.daylight now, now, none, "INITIALIZED"⟩
  | .invalid => none
  | .stored state => some state

/-- The `catch` of `syncDailyBars`. -/
def failedRun (now : Int) (state : SyncState) (daily : DailyStore) (error : SyncError) : SyncRun where
  result := .error error
  daily := daily
  setting := .stored
    { state with
      lastResult := error.message env.isoDate
      nextAttemptAt := if error.statusCode = some 409 then now else state.nextAttemptAt }

def syncDailyBars (now : Int) (setting : SyncSetting) (daily : DailyStore) : SyncRun :=
  match env.checkpointOf now setting with
  | none => ⟨.error .invalidCheckpoint, daily, setting⟩
  | some state =>
    if now < state.nextAttemptAt then ⟨.ok ⟨0, 0, true⟩, daily, .stored state⟩
    else
      let retryAt := now + dailySyncRetryMs
      match (env.syncWork state.fromDate (etDate env.daylight now) now).exec ⟨daily, retryAt⟩ with
      | (.error error, tables) =>
        env.failedRun now ⟨state.fromDate, tables.nextAttemptAt, some now, "RUNNING"⟩ tables.daily error
      | (.ok counts, tables) =>
        if counts.missing = 0 then
          ⟨.ok ⟨counts.inserted, 0, false⟩, tables.daily,
            .stored ⟨state.fromDate, tables.nextAttemptAt, some now, s!"COMPLETE:{counts.inserted}"⟩⟩
        else
          env.failedRun now ⟨state.fromDate, tables.nextAttemptAt, some now, s!"MISSING:{counts.missing}"⟩ tables.daily
            (.barsMissing counts.missing)

end SyncEnvironment

end AiTrader.Market
