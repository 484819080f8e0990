import AiTrader.Market.IntradayTargets

/-! # Expected assessment targets

Each dimension of the market composition expects the target that its own publisher would seek: the last daily
session whose bars are complete, the last full session of the reviewed calendar, the last intraday interval. -/

namespace AiTrader.Market

inductive DailyProvider where
  | massive | tiingo
deriving DecidableEq

/-- The configured boundaries between the two daily providers. -/
structure DailyBoundaries where
  (cutoverSession massiveResumeSession : Option Int)

inductive TargetError where
  | calendar (error : CalendarError)
  | resumeWithoutCutover | resumeNotAfterCutover | noMarketSession | authorityUnavailable | horizonExhausted
  | noExpectedTarget (label : String)
  | missingTarget (key : String) | targetAfterObservation (key : String)
deriving DecidableEq

def TargetError.message : TargetError → String
  | .calendar error => error.message
  | .resumeWithoutCutover => "MARKET_DAILY_MASSIVE_RESUME_SESSION requires MARKET_DAILY_TIINGO_CUTOVER_SESSION."
  | .resumeNotAfterCutover =>
    "MARKET_DAILY_MASSIVE_RESUME_SESSION must be later than MARKET_DAILY_TIINGO_CUTOVER_SESSION."
  | .noMarketSession => "Eligible daily assessment target has no market session."
  | .authorityUnavailable => "PARTICIPATION_V1 target calendar authority unavailable; operator review required."
  | .horizonExhausted => "PARTICIPATION_V1 target calendar horizon exhausted."
  | .noExpectedTarget label => "No expected " ++ label ++ " target is available within the authoritative calendar horizon."
  | .missingTarget key => "Missing valid expected target for " ++ key ++ "."
  | .targetAfterObservation key => "Expected target for " ++ key ++ " is after observedAt."

/-- Minutes after which a Tiingo daily bar is complete, 20:15. -/
def tiingoDayEligibleMinutesEt : Int := 20 * 60 + 15

/-- The provider that is authoritative for a session. -/
def marketDailyAuthority (boundaries : DailyBoundaries) (sessionDate : Int) : Except TargetError DailyProvider :=
  match boundaries.cutoverSession, boundaries.massiveResumeSession with
  | none, none => .ok .massive
  | none, some _ => .error .resumeWithoutCutover
  | some cutover, none => .ok (if cutover ≤ sessionDate then .tiingo else .massive)
  | some cutover, some resume =>
    if resume ≤ cutover then .error .resumeNotAfterCutover
    else .ok (if cutover ≤ sessionDate ∧ sessionDate < resume then .tiingo else .massive)

/-- The number of the day of a civil date. -/
def civil (year month day : Int) : Int :=
  let shifted := if month ≤ 2 then year - 1 else year
  let era := shifted / 400
  let yearOfEra := shifted - era * 400
  let dayOfYear := (153 * (if month > 2 then month - 3 else month + 9) + 2) / 5 + day - 1
  let dayOfEra := yearOfEra * 365 + yearOfEra / 4 - yearOfEra / 100 + dayOfYear
  era * 146097 + dayOfEra - 719468

namespace VerifiedNyseCalendar

def from_ : Int := civil 2021 1 1

def to_ : Int := civil 2026 12 31

def closedDates : List Int :=
  [civil 2021 1 1, civil 2021 1 18, civil 2021 2 15, civil 2021 4 2, civil 2021 5 31, civil 2021 7 5, civil 2021 9 6,
    civil 2021 11 25, civil 2021 12 24,
    civil 2022 1 17, civil 2022 2 21, civil 2022 4 15, civil 2022 5 30, civil 2022 6 20, civil 2022 7 4, civil 2022 9 5,
    civil 2022 11 24, civil 2022 12 26,
    civil 2023 1 2, civil 2023 1 16, civil 2023 2 20, civil 2023 4 7, civil 2023 5 29, civil 2023 6 19, civil 2023 7 4,
    civil 2023 9 4, civil 2023 11 23, civil 2023 12 25,
    civil 2024 1 1, civil 2024 1 15, civil 2024 2 19, civil 2024 3 29, civil 2024 5 27, civil 2024 6 19, civil 2024 7 4,
    civil 2024 9 2, civil 2024 11 28, civil 2024 12 25,
    civil 2025 1 1, civil 2025 1 9, civil 2025 1 20, civil 2025 2 17, civil 2025 4 18, civil 2025 5 26, civil 2025 6 19,
    civil 2025 7 4, civil 2025 9 1, civil 2025 11 27, civil 2025 12 25,
    civil 2026 1 1, civil 2026 1 19, civil 2026 2 16, civil 2026 4 3, civil 2026 5 25, civil 2026 6 19, civil 2026 7 3,
    civil 2026 9 7, civil 2026 11 26, civil 2026 12 25]

def earlyCloseDates : List Int :=
  [civil 2021 11 26, civil 2022 11 25, civil 2023 7 3, civil 2023 11 24, civil 2024 7 3, civil 2024 11 29,
    civil 2024 12 24, civil 2025 7 3, civil 2025 11 28, civil 2025 12 24, civil 2026 11 27, civil 2026 12 24]

end VerifiedNyseCalendar

section Source

variable (daylight : Int → Bool) (boundaries : DailyBoundaries) (exceptions : List CalendarException)

/-- A calendar function as one of the target functions. -/
def ofCalendar {Value : Type} : Except CalendarError Value → Except TargetError Value
  | .error error => .error (.calendar error)
  | .ok value => .ok value

/-- The daily bar of a session is complete. -/
def dayEligible (now date : Int) : Except TargetError Bool :=
  match barEligibility daylight exceptions .day1 (etInstant daylight date 0) now with
  | .error error => .error (.calendar error)
  | .ok (status, _) => .ok (status == .eligible)

def dailySessionEligible (now date : Int) : Except TargetError Bool :=
  match marketSession daylight exceptions date with
  | .error error => .error (.calendar error)
  | .ok none => .ok false
  | .ok (some _) =>
    match marketDailyAuthority boundaries date with
    | .error error => .error error
    | .ok .tiingo => .ok (decide (etInstant daylight date tiingoDayEligibleMinutesEt ≤ now))
    | .ok .massive => dayEligible daylight exceptions now date

/-- The first of the dates that is eligible. -/
def findEligible (eligible : Int → Except TargetError Bool) : List Int → Except TargetError (Option Int)
  | [] => .ok none
  | date :: rest =>
    match eligible date with
    | .error error => .error error
    | .ok true => .ok (some date)
    | .ok false => findEligible eligible rest

/-- The session of the latest eligible date of the last year. -/
def latestSession (now : Int) (eligible : Int → Except TargetError Bool) : Except TargetError (Option MarketSession) :=
  let today := etDate daylight now
  match findEligible eligible ((List.range 371).map fun back => today - back) with
  | .error error => .error error
  | .ok none => .ok none
  | .ok (some date) =>
    match marketSession daylight exceptions date with
    | .error error => .error (.calendar error)
    | .ok none => .error .noMarketSession
    | .ok (some session) => .ok (some session)

def latestCanonicalDailyAssessmentTarget (now : Int) : Except TargetError (Option MarketSession) :=
  latestSession daylight exceptions now (dailySessionEligible daylight boundaries exceptions now)

def latestBreadthV1AssessmentTarget (now : Int) : Except TargetError (Option MarketSession) :=
  latestSession daylight exceptions now (dayEligible daylight exceptions now)

/-- A full regular session. -/
def isFullMarketSession (date : Int) : Except TargetError Bool :=
  match marketSession daylight exceptions date with
  | .error error => .error (.calendar error)
  | .ok none => .ok false
  | .ok (some session) => .ok (decide (session.closeMinutes = sessionCloseMinutes) &&
      !exceptions.any fun row => row.sessionDate == date && row.type == .earlyClose)

inductive CalendarIssue where
  | outsideReviewedHorizon | duplicateException | missingOrConflictingReviewedException | invalidException

/-- Why the full-session identity of a date cannot be trusted. -/
def calendarIssue (date : Int) : Option CalendarIssue :=
  if date < VerifiedNyseCalendar.from_ ∨ VerifiedNyseCalendar.to_ < date then some .outsideReviewedHorizon
  else
    let rows := exceptions.filter fun row => row.sessionDate == date
    let expected : Option CalendarExceptionType :=
      if VerifiedNyseCalendar.closedDates.contains date then some .closed
      else if VerifiedNyseCalendar.earlyCloseDates.contains date then some .earlyClose
      else none
    if 1 < rows.length then some .duplicateException
    else if expected.any fun type => !rows.head?.any fun row =>
        row.type == type && row.closeTimeMinutesEt == (if type = .closed then none else some 780) then
      some .missingOrConflictingReviewedException
    else
      match marketSession daylight exceptions date with
      | .error _ => some .invalidException
      | .ok _ => none

/-- When the evidence of a session is due. -/
def participationEvidenceDueAt (closeAt : Int) : Except TargetError Int :=
  let date := etDate daylight closeAt
  match marketDailyAuthority boundaries date with
  | .error error => .error error
  | .ok .tiingo => .ok (etInstant daylight date tiingoDayEligibleMinutesEt)
  | .ok .massive => .ok (closeAt + completionGraceMinutes .day1 * minuteMs)

/-- The first of the dates with a full session whose evidence is due. -/
def selectParticipationSession (now : Int) : List Int → Except TargetError MarketSession
  | [] => .error .horizonExhausted
  | date :: rest =>
    if (calendarIssue daylight exceptions date).isSome then .error .authorityUnavailable
    else
      match isFullMarketSession daylight exceptions date, marketSession daylight exceptions date with
      | .error error, _ => .error error
      | .ok true, .ok (some session) =>
        match participationEvidenceDueAt daylight boundaries session.closeAt with
        | .error error => .error error
        | .ok dueAt => if dueAt ≤ now then .ok session else selectParticipationSession now rest
      | _, _ => selectParticipationSession now rest

def latestParticipationSession (now : Int) : Except TargetError MarketSession :=
  let today := etDate daylight now
  selectParticipationSession daylight boundaries exceptions now ((List.range 370).map fun back => today - back)

structure ExpectedMarketRegimeTargets where
  (trend volatility breadth participation intradayStress : Int)

structure MarketRegimeExpectedTargetResolution where
  observedAt : Int
  (targets sessions : ExpectedMarketRegimeTargets)

def required {Value : Type} (label : String) : Option Value → Except TargetError Value
  | none => .error (.noExpectedTarget label)
  | some value => .ok value

/-- Every slot through the target primitive of its publisher; the intraday one without freshness. -/
def resolveMarketRegimeExpectedTargets (observedAt : Int) : Except TargetError MarketRegimeExpectedTargetResolution := do
  let canonicalDaily ← required "canonical daily"
    (← latestCanonicalDailyAssessmentTarget daylight boundaries exceptions observedAt)
  let breadth ← required "Breadth V1" (← latestBreadthV1AssessmentTarget daylight exceptions observedAt)
  let participation ← latestParticipationSession daylight boundaries exceptions observedAt
  let intraday ← required "Intraday Stress"
    (← ofCalendar (latestIntradayStressAssessmentTarget daylight exceptions observedAt false))
  return {
    observedAt
    targets :=
      { trend := canonicalDaily.closeAt
        volatility := canonicalDaily.closeAt
        breadth := breadth.closeAt
        participation := participation.closeAt
        intradayStress := intraday.targetAt }
    sessions :=
      { trend := canonicalDaily.date
        volatility := canonicalDaily.date
        breadth := breadth.date
        participation := participation.date
        intradayStress := intraday.date } }

end Source

end AiTrader.Market
