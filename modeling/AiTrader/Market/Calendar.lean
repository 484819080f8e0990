import Mathlib.Data.List.Basic

/-! # The market calendar

Regular US equity sessions in New York time. A date is the number of its day since 1970-01-01, an instant
counts milliseconds, and `daylight` says on which dates New York observes daylight time. -/

namespace AiTrader.Market

def dayMs : Int := 86400000

def minuteMs : Int := 60000

def sessionOpenMinutes : Int := 570

def sessionCloseMinutes : Int := 960

inductive Timeframe where
  | day1 | minute15
deriving DecidableEq

/-- `COMPLETION_GRACE_MINUTES`. -/
def completionGraceMinutes : Timeframe → Int
  | .day1 => 30
  | .minute15 => 5

inductive CalendarExceptionType where
  | closed | earlyClose
deriving DecidableEq

structure CalendarException where
  sessionDate : Int
  type : CalendarExceptionType
  closeTimeMinutesEt : Option Int
deriving DecidableEq

/-- The errors the calendar functions throw. -/
inductive CalendarError where
  | invalidSessionClose | sessionNotAligned | noNextSession
deriving DecidableEq

def CalendarError.message : CalendarError → String
  | .invalidSessionClose => "Invalid session close."
  | .sessionNotAligned => "Session must align to 15-minute intervals."
  | .noNextSession => "No next session within calendar horizon."

section Zone

variable (daylight : Int → Bool)

section

variable (instant : Int)

/-- The UTC offset of New York in minutes; clocks change on a Sunday, at 02:00 in spring and 01:00 in autumn, standard
time. -/
def offsetMinutes : Int :=
  let standard := instant - 300 * minuteMs
  let day := standard / dayMs
  let time := standard % dayMs
  let observed :=
    if daylight day then daylight (day - 1) || decide (120 * minuteMs ≤ time)
    else daylight (day - 1) && decide (time < 60 * minuteMs)
  if observed then -240 else -300

/-- The wall clock of New York, counted like UTC. -/
def wallClock : Int := instant + offsetMinutes daylight instant * minuteMs

def etDate : Int := wallClock daylight instant / dayMs

def etMinutesOfDay : Int := wallClock daylight instant % dayMs / minuteMs

end

/-- The instant of a wall-clock minute, with the offset that holds at noon UTC of the date. -/
def etInstant (date minutes : Int) : Int :=
  let noonUtc := date * dayMs + 720 * minuteMs
  let offset := etMinutesOfDay daylight noonUtc - 720
  date * dayMs + (minutes - offset) * minuteMs

def isWeekend (date : Int) : Bool := (date + 4) % 7 == 0 || (date + 4) % 7 == 6

structure MarketSession where
  (date openAt closeAt closeMinutes : Int)
deriving DecidableEq

/-- The regular session of a date; `none` on weekends and closures. -/
def marketSession (exceptions : List CalendarException) (date : Int) : Except CalendarError (Option MarketSession) :=
  let exception := exceptions.find? fun row => row.sessionDate == date
  if isWeekend date || exception.any (fun row => row.type == .closed) then .ok none
  else
    let closeMinutes :=
      match exception with
      | some row => row.closeTimeMinutesEt
      | none => some sessionCloseMinutes
    match closeMinutes with
    | none => .error .invalidSessionClose
    | some closeMinutes =>
      if closeMinutes ≤ sessionOpenMinutes ∨ sessionCloseMinutes < closeMinutes then .error .invalidSessionClose
      else .ok (some
        { date
          openAt := etInstant daylight date sessionOpenMinutes
          closeAt := etInstant daylight date closeMinutes
          closeMinutes })

inductive EligibilityStatus where
  | closed | eligible | notYetEligible
deriving DecidableEq

/-- When a bar is complete; `none` outside the session. -/
def barEligibility (exceptions : List CalendarException) (timeframe : Timeframe) (start now : Int) :
    Except CalendarError (EligibilityStatus × Option Int) :=
  match marketSession daylight exceptions (etDate daylight start) with
  | .error error => .error error
  | .ok none => .ok (.closed, none)
  | .ok (some session) =>
    let finish := if timeframe = .day1 then session.closeAt else start + 15 * minuteMs
    if timeframe = .minute15 ∧ (start < session.openAt ∨ session.closeAt < finish) then .ok (.closed, none)
    else
      let eligibleAt := finish + completionGraceMinutes timeframe * minuteMs
      .ok (if eligibleAt ≤ now then .eligible else .notYetEligible, some eligibleAt)

end Zone

section Lemmas

variable {daylight : Int → Bool} {exceptions : List CalendarException} {date : Int}

theorem offsetMinutes_cases (daylight : Int → Bool) (instant : Int) :
    offsetMinutes daylight instant = -240 ∨ offsetMinutes daylight instant = -300 := by
  unfold offsetMinutes
  dsimp only
  generalize (if daylight _ then _ else _) = observed
  cases observed <;> simp

/-- From two hours after standard midnight on, the offset of a date is settled. -/
theorem offsetMinutes_settled {minutes : Int} (settled : 120 ≤ minutes) (bounded : minutes < 1440) :
    offsetMinutes daylight (date * dayMs + (minutes + 300) * minuteMs) = if daylight date then -240 else -300 := by
  have day : (date * dayMs + (minutes + 300) * minuteMs - 300 * minuteMs) / dayMs = date := by
    simp only [dayMs, minuteMs]
    omega
  have time : (date * dayMs + (minutes + 300) * minuteMs - 300 * minuteMs) % dayMs = minutes * minuteMs := by
    simp only [dayMs, minuteMs]
    omega
  have late : 120 * minuteMs ≤ minutes * minuteMs := by
    simp only [minuteMs]
    omega
  have not_early : ¬ minutes * minuteMs < 60 * minuteMs := by
    simp only [minuteMs]
    omega
  unfold offsetMinutes
  dsimp only
  rw [day, time]
  simp only [late, not_early, decide_true, decide_false, Bool.or_true, Bool.and_false]
  cases daylight date <;> rfl

/-- The wall clock of a date at noon decides where its minutes lie. -/
theorem etInstant_eq (daylight : Int → Bool) (date minutes : Int) :
    etInstant daylight date minutes = date * dayMs + (minutes + if daylight date then 240 else 300) * minuteMs := by
  have offset : offsetMinutes daylight (date * dayMs + 720 * minuteMs) = if daylight date then -240 else -300 :=
    @offsetMinutes_settled daylight date 420 (by omega) (by omega)
  unfold etInstant etMinutesOfDay wallClock
  dsimp only
  rw [offset]
  simp only [dayMs, minuteMs]
  split <;> omega

/-- During session hours the wall clock shows the date of the session. -/
theorem etDate_etInstant {minutes : Int} (after : 180 ≤ minutes) (before : minutes < 1380) :
    etDate daylight (etInstant daylight date minutes) = date := by
  rw [etInstant_eq]
  unfold etDate wallClock
  cases observed : daylight date with
  | true =>
    have offset : offsetMinutes daylight (date * dayMs + (minutes + 240) * minuteMs) = if daylight date then -240 else -300 := by
      have settled := @offsetMinutes_settled daylight date (minutes - 60) (by omega) (by omega)
      rwa [show minutes - 60 + 300 = minutes + 240 by omega] at settled
    simp only [if_true]
    rw [offset, observed]
    simp only [if_true, dayMs, minuteMs]
    omega
  | false =>
    have offset : offsetMinutes daylight (date * dayMs + (minutes + 300) * minuteMs) = if daylight date then -240 else -300 :=
      offsetMinutes_settled (by omega) (by omega)
    simp only [Bool.false_eq_true, if_false]
    rw [offset, observed]
    simp only [Bool.false_eq_true, if_false, dayMs, minuteMs]
    omega

/-- An instant lies within a day of the UTC midnight of its New York date. -/
theorem etDate_bounds (daylight : Int → Bool) (instant : Int) :
    etDate daylight instant * dayMs + 240 * minuteMs ≤ instant ∧
      instant < (etDate daylight instant + 1) * dayMs + 300 * minuteMs := by
  have offset := offsetMinutes_cases daylight instant
  unfold etDate wallClock
  simp only [dayMs, minuteMs]
  constructor <;> rcases offset with same | same <;> rw [same] <;> omega

/-- What the calendar says about a date that has a session. -/
theorem marketSession_some {session : MarketSession} (open_ : marketSession daylight exceptions date = .ok (some session)) :
    session.date = date ∧ session.openAt = etInstant daylight date sessionOpenMinutes ∧
      session.closeAt = etInstant daylight date session.closeMinutes ∧
      sessionOpenMinutes < session.closeMinutes ∧ session.closeMinutes ≤ sessionCloseMinutes := by
  unfold marketSession at open_
  dsimp only at open_
  split at open_
  · cases open_
  · split at open_
    · cases open_
    · split at open_
      case isTrue => cases open_
      case isFalse valid =>
        cases open_
        exact ⟨rfl, rfl, rfl, Int.not_le.mp (not_or.mp valid).1, Int.not_lt.mp (not_or.mp valid).2⟩

theorem marketSession_length {session : MarketSession} (open_ : marketSession daylight exceptions date = .ok (some session)) :
    session.closeAt - session.openAt = (session.closeMinutes - sessionOpenMinutes) * minuteMs := by
  obtain ⟨_, opens, closes, _⟩ := marketSession_some open_
  rw [opens, closes, etInstant_eq, etInstant_eq]
  simp only [minuteMs]
  omega

end Lemmas

end AiTrader.Market
