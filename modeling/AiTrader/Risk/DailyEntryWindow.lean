import AiTrader.Market.Calendar

/-! # The daily entry window

Entries are counted by New York day, from a local midnight to the next, found from UTC midnight corrected twice by the
offset of the zone. -/

namespace AiTrader.Risk

open Market

def secondMs : Int := 1000

def hourMs : Int := 3600000

/-- The wall clock of the zone down to the second. `date` stands for year, month and day. -/
structure ZonedParts where
  (date hour minute second : Int)

structure DailyEntryWindow where
  (date start nextStart : Int)

/-- `Date.UTC`. -/
def utc (parts : ZonedParts) : Int :=
  parts.date * dayMs + parts.hour * hourMs + parts.minute * minuteMs + parts.second * secondMs

def midnight (date : Int) : ZonedParts := { date, hour := 0, minute := 0, second := 0 }

section Window

variable (daylight : Int → Bool)

def getZonedParts (instant : Int) : ZonedParts :=
  let clock := wallClock daylight instant
  { date := clock / dayMs
    hour := clock % dayMs / hourMs
    minute := clock % hourMs / minuteMs
    second := clock % minuteMs / secondMs }

def getTimeZoneOffsetMs (instant : Int) : Int := utc (getZonedParts daylight instant) - instant

/-- The instant of a New York midnight, from a guess at UTC midnight corrected twice. -/
def zonedMidnightToUtc (date : Int) : Int :=
  let utcGuess := utc (midnight date)
  let firstPass := utcGuess - getTimeZoneOffsetMs daylight utcGuess
  utcGuess - getTimeZoneOffsetMs daylight firstPass

/-- The New York day of an instant. -/
def getNewYorkDailyEntryWindow (now : Int) : DailyEntryWindow :=
  let localDate := (getZonedParts daylight now).date
  { date := localDate
    start := zonedMidnightToUtc daylight localDate
    nextStart := zonedMidnightToUtc daylight (localDate + 1) }

end Window

section Lemmas

variable {daylight : Int → Bool} {date instant : Int}

theorem utc_getZonedParts (daylight : Int → Bool) (instant : Int) :
    utc (getZonedParts daylight instant) = wallClock daylight instant - instant % secondMs := by
  have offset := offsetMinutes_cases daylight instant
  have millis : wallClock daylight instant % secondMs = instant % secondMs := by
    unfold wallClock
    simp only [minuteMs, secondMs]
    rcases offset with same | same <;> rw [same] <;> omega
  rw [← millis]
  simp only [utc, getZonedParts, dayMs, hourMs, minuteMs, secondMs]
  omega

theorem getTimeZoneOffsetMs_eq (whole : instant % secondMs = 0) :
    getTimeZoneOffsetMs daylight instant = offsetMinutes daylight instant * minuteMs := by
  unfold getTimeZoneOffsetMs
  rw [utc_getZonedParts, whole]
  unfold wallClock
  omega

section

variable (daylight : Int → Bool)

theorem offsetMinutes_utcMidnight (date : Int) :
    offsetMinutes daylight (date * dayMs) = if daylight (date - 1) then -240 else -300 := by
  have settled := @offsetMinutes_settled daylight (date - 1) 1140 (by omega) (by omega)
  rwa [show (date - 1) * dayMs + (1140 + 300) * minuteMs = date * dayMs by simp only [dayMs, minuteMs]; omega] at settled

def localMidnight (date : Int) : Int :=
  date * dayMs + if daylight (date - 1) then 240 * minuteMs else 300 * minuteMs

/-- Clocks do not change at midnight: the first hour of a date keeps the offset the previous date ended with. -/
theorem offsetMinutes_localMidnight (date : Int) :
    offsetMinutes daylight (localMidnight daylight date) = if daylight (date - 1) then -240 else -300 := by
  unfold localMidnight
  cases before : daylight (date - 1) with
  | true =>
    have settled := @offsetMinutes_settled daylight (date - 1) 1380 (by omega) (by omega)
    rw [before, show (date - 1) * dayMs + (1380 + 300) * minuteMs = date * dayMs + 240 * minuteMs by
      simp only [dayMs, minuteMs]; omega] at settled
    exact settled
  | false =>
    have day : (date * dayMs + 300 * minuteMs - 300 * minuteMs) / dayMs = date := by
      simp only [dayMs, minuteMs]
      omega
    have time : (date * dayMs + 300 * minuteMs - 300 * minuteMs) % dayMs = 0 := by
      simp only [dayMs, minuteMs]
      omega
    unfold offsetMinutes
    simp only [Bool.false_eq_true, if_false, day, time, before, Bool.false_or, Bool.false_and]
    rw [show decide (120 * minuteMs ≤ 0) = false by decide]
    split <;> rfl

theorem zonedMidnightToUtc_eq (date : Int) :
    zonedMidnightToUtc daylight date = localMidnight daylight date := by
  have guess : utc (midnight date) = date * dayMs := by simp only [utc, midnight]; omega
  have whole : date * dayMs % secondMs = 0 := by simp only [dayMs, secondMs]; omega
  have firstPass : date * dayMs - getTimeZoneOffsetMs daylight (date * dayMs) = localMidnight daylight date := by
    rw [getTimeZoneOffsetMs_eq whole, offsetMinutes_utcMidnight]
    unfold localMidnight
    split <;> omega
  have settled : localMidnight daylight date % secondMs = 0 := by
    unfold localMidnight
    simp only [dayMs, minuteMs, secondMs]
    split <;> omega
  unfold zonedMidnightToUtc
  dsimp only
  rw [guess, firstPass, getTimeZoneOffsetMs_eq settled, offsetMinutes_localMidnight]
  unfold localMidnight
  split <;> omega

theorem getZonedParts_localMidnight (date : Int) :
    getZonedParts daylight (localMidnight daylight date) = midnight date := by
  have clock : wallClock daylight (localMidnight daylight date) = date * dayMs := by
    unfold wallClock
    rw [offsetMinutes_localMidnight]
    unfold localMidnight
    split <;> omega
  unfold getZonedParts midnight
  rw [clock]
  simp only [dayMs, hourMs, minuteMs, secondMs, ZonedParts.mk.injEq]
  omega

end

/-- A later date has a later midnight. -/
theorem localMidnight_lt {earlier later : Int} (before : earlier < later) :
    localMidnight daylight earlier < localMidnight daylight later := by
  unfold localMidnight
  simp only [dayMs, minuteMs]
  split <;> split <;> omega

theorem localMidnight_le {earlier later : Int} (before : earlier ≤ later) :
    localMidnight daylight earlier ≤ localMidnight daylight later := by
  rcases Int.lt_or_eq_of_le before with strictly | same
  · exact Int.le_of_lt (localMidnight_lt strictly)
  · exact Int.le_of_eq (congrArg _ same)

theorem localMidnight_cases (daylight : Int → Bool) (date : Int) :
    (daylight (date - 1) = true ∧ localMidnight daylight date = date * dayMs + 240 * minuteMs) ∨
      (daylight (date - 1) = false ∧ localMidnight daylight date = date * dayMs + 300 * minuteMs) := by
  unfold localMidnight
  cases daylight (date - 1) <;> simp

/-- Daylight time after the first hour of a standard day is the daylight time of that day, and standard time after
the second hour is its standard time. -/
theorem offsetMinutes_day {day time : Int} (positive : 0 ≤ time) (bounded : time < dayMs) :
    (offsetMinutes daylight (day * dayMs + time + 300 * minuteMs) = -240 ∧ (60 * minuteMs ≤ time → daylight day = true)) ∨
      (offsetMinutes daylight (day * dayMs + time + 300 * minuteMs) = -300 ∧ (120 * minuteMs ≤ time → daylight day = false)) := by
  have dayEq : (day * dayMs + time + 300 * minuteMs - 300 * minuteMs) / dayMs = day := by
    simp only [dayMs] at bounded ⊢
    omega
  have timeEq : (day * dayMs + time + 300 * minuteMs - 300 * minuteMs) % dayMs = time := by
    simp only [dayMs] at bounded ⊢
    omega
  unfold offsetMinutes
  simp only [dayEq, timeEq]
  cases today : daylight day with
  | true =>
    by_cases late : 120 * minuteMs ≤ time
    · simp [late]
    · cases daylight (day - 1) <;> simp [late]
  | false =>
    by_cases early : time < 60 * minuteMs
    · cases daylight (day - 1) <;> simp [early]
    · simp [early]

/-- An instant lies between the midnight of its date and the next one, also on days of 23 or 25 hours. -/
theorem localMidnight_bounds (daylight : Int → Bool) (instant : Int) :
    localMidnight daylight (etDate daylight instant) ≤ instant ∧
      instant < localMidnight daylight (etDate daylight instant + 1) := by
  obtain ⟨day, time, positive, bounded, rfl⟩ :
      ∃ day time, 0 ≤ time ∧ time < dayMs ∧ instant = day * dayMs + time + 300 * minuteMs := by
    refine ⟨(instant - 300 * minuteMs) / dayMs, (instant - 300 * minuteMs) % dayMs, ?_, ?_, ?_⟩ <;>
      simp only [dayMs, minuteMs] <;> omega
  have own := localMidnight_cases daylight day
  have next := localMidnight_cases daylight (day + 1)
  have afterNext := localMidnight_cases daylight (day + 1 + 1)
  rw [Int.add_sub_cancel] at next
  rcases @offsetMinutes_day daylight day time positive bounded with ⟨offset, today⟩ | ⟨offset, today⟩
  · -- with daylight time the last hour of a standard day belongs to the next date
    rcases Int.lt_or_le time (1380 * minuteMs) with before | after
    · have same : etDate daylight (day * dayMs + time + 300 * minuteMs) = day := by
        unfold etDate wallClock
        rw [offset]
        simp only [dayMs, minuteMs] at before ⊢
        omega
      rw [same]
      simp only [dayMs, minuteMs] at own next before ⊢
      omega
    · have later : etDate daylight (day * dayMs + time + 300 * minuteMs) = day + 1 := by
        unfold etDate wallClock
        rw [offset]
        simp only [dayMs, minuteMs] at bounded after ⊢
        omega
      have daylightToday : daylight day = true := today (by simp only [minuteMs] at after ⊢; omega)
      rw [later]
      simp only [daylightToday, Bool.true_eq_false, false_and, or_false, true_and] at next
      simp only [dayMs, minuteMs] at next afterNext bounded after ⊢
      omega
  · have same : etDate daylight (day * dayMs + time + 300 * minuteMs) = day := by
      unfold etDate wallClock
      rw [offset]
      simp only [dayMs, minuteMs] at bounded ⊢
      omega
    rw [same]
    refine ⟨by simp only [dayMs, minuteMs] at own ⊢; omega, ?_⟩
    rcases Int.lt_or_le time (120 * minuteMs) with early | late
    · simp only [dayMs, minuteMs] at next early ⊢
      omega
    · simp only [today late, Bool.false_eq_true, false_and, false_or, true_and] at next
      simp only [dayMs, minuteMs] at next bounded ⊢
      omega

theorem etDate_eq_iff : etDate daylight instant = date ↔
    localMidnight daylight date ≤ instant ∧ instant < localMidnight daylight (date + 1) := by
  have bounds := localMidnight_bounds daylight instant
  constructor
  · rintro rfl
    exact bounds
  · rintro ⟨after, before⟩
    rcases Int.lt_trichotomy (etDate daylight instant) date with earlier | same | later
    · have reached : localMidnight daylight (etDate daylight instant + 1) ≤ localMidnight daylight date :=
        localMidnight_le earlier
      omega
    · exact same
    · have reached : localMidnight daylight (date + 1) ≤ localMidnight daylight (etDate daylight instant) :=
        localMidnight_le later
      omega

section

variable (daylight : Int → Bool)

theorem getNewYorkDailyEntryWindow_eq (now : Int) :
    getNewYorkDailyEntryWindow daylight now =
      { date := etDate daylight now
        start := localMidnight daylight (etDate daylight now)
        nextStart := localMidnight daylight (etDate daylight now + 1) } := by
  unfold getNewYorkDailyEntryWindow
  simp only [zonedMidnightToUtc_eq, getZonedParts]
  rfl

theorem etDate_localMidnight (date : Int) : etDate daylight (localMidnight daylight date) = date :=
  etDate_eq_iff.mpr ⟨Int.le_refl _, localMidnight_lt (Int.lt_succ date)⟩

theorem etDate_before_localMidnight (date : Int) :
    etDate daylight (localMidnight daylight date - 1) = date - 1 := by
  have earlier : localMidnight daylight (date - 1) < localMidnight daylight date := localMidnight_lt (by omega)
  refine etDate_eq_iff.mpr ⟨by omega, ?_⟩
  rw [Int.sub_add_cancel]
  omega

end

end Lemmas

/-- The windows of New York days cut the whole time line at local midnights, into pieces that meet. -/
theorem dailyEntryWindows_partition (daylight : Int → Bool) (now other : Int) :
    ((getNewYorkDailyEntryWindow daylight now).start ≤ now ∧ now < (getNewYorkDailyEntryWindow daylight now).nextStart) ∧
      (getNewYorkDailyEntryWindow daylight now = getNewYorkDailyEntryWindow daylight other ∨
        (getNewYorkDailyEntryWindow daylight now).nextStart ≤ (getNewYorkDailyEntryWindow daylight other).start ∨
        (getNewYorkDailyEntryWindow daylight other).nextStart ≤ (getNewYorkDailyEntryWindow daylight now).start) ∧
      (getNewYorkDailyEntryWindow daylight (getNewYorkDailyEntryWindow daylight now).nextStart).start =
        (getNewYorkDailyEntryWindow daylight now).nextStart ∧
      (getNewYorkDailyEntryWindow daylight ((getNewYorkDailyEntryWindow daylight now).start - 1)).nextStart =
        (getNewYorkDailyEntryWindow daylight now).start ∧
      getZonedParts daylight (getNewYorkDailyEntryWindow daylight now).start =
        midnight (getNewYorkDailyEntryWindow daylight now).date ∧
      getZonedParts daylight (getNewYorkDailyEntryWindow daylight now).nextStart =
        midnight ((getNewYorkDailyEntryWindow daylight now).date + 1) := by
  simp only [getNewYorkDailyEntryWindow_eq, etDate_localMidnight, etDate_before_localMidnight,
    getZonedParts_localMidnight, Int.sub_add_cancel, and_self, and_true]
  refine ⟨localMidnight_bounds daylight now, ?_⟩
  rcases Int.lt_trichotomy (etDate daylight now) (etDate daylight other) with earlier | same | later
  · exact .inr (.inl (localMidnight_le earlier))
  · exact .inl (by rw [same])
  · exact .inr (.inr (localMidnight_le later))

end AiTrader.Risk
