import AiTrader.Library.Scan
import AiTrader.Market.ExpectedTargets

/-! # The window of a participation assessment

The baseline of a full session are the full sessions before it, and its assessment is valid until the next one. -/

namespace AiTrader.Market

open Library VerifiedNyseCalendar

def CalendarIssue.text : CalendarIssue → String
  | .outsideReviewedHorizon => "OUTSIDE_REVIEWED_HORIZON"
  | .duplicateException => "DUPLICATE_EXCEPTION"
  | .missingOrConflictingReviewedException => "MISSING_OR_CONFLICTING_REVIEWED_EXCEPTION"
  | .invalidException => "INVALID_EXCEPTION"

inductive WindowFailureCode where
  | issue (issue : CalendarIssue) | nextFullSessionUnavailable

def WindowFailureCode.text : WindowFailureCode → String
  | .issue found => found.text
  | .nextFullSessionUnavailable => "NEXT_FULL_SESSION_UNAVAILABLE"

structure WindowFailure where
  sessionDate : Int
  code : WindowFailureCode

structure WindowCalendar where
  (reviewedFrom reviewedThrough from_ through : Int)
  excludedEarlyCloseDates : List Int
  exceptions : List CalendarException
  failures : List WindowFailure

structure WindowPlan where
  baselineDates : List Int
  next : Option MarketSession
  proposedValidUntil : Option Int
  calendar : WindowCalendar

/-- `PARTICIPATION_BASELINE_SESSIONS` -/
def windowBaselineSessions : Nat := 20

def participationDueAt (close : Int) : Int := close + completionGraceMinutes .day1 * minuteMs

/-- What the walks have collected. -/
structure WindowWalk where
  (baselineDates excludedEarlyCloseDates : List Int)
  failures : List WindowFailure

section Source

variable (daylight : Int → Bool) (exceptions : List CalendarException)

def inspect (walk : WindowWalk) (date : Int) : WindowWalk :=
  match calendarIssue daylight exceptions date with
  | none => walk
  | some issue => { walk with failures := walk.failures ++ [⟨date, .issue issue⟩] }

def excludeEarlyClose (walk : WindowWalk) (date : Int) : WindowWalk :=
  if exceptions.any fun row => row.sessionDate == date && row.type == .earlyClose then
    { walk with excludedEarlyCloseDates := walk.excludedEarlyCloseDates ++ [date] }
  else walk

/-- `isFullMarketSession` where what it throws is swallowed. -/
def fullSession (date : Int) : Bool :=
  match isFullMarketSession daylight exceptions date with
  | .ok full => full
  | .error _ => false

/-- One date of the walk backwards. -/
def visitBaseline (walk : WindowWalk) (date : Int) : WindowWalk :=
  let walk := excludeEarlyClose exceptions (inspect daylight exceptions walk date) date
  if fullSession daylight exceptions date then { walk with baselineDates := date :: walk.baselineDates } else walk

/-- The walk backwards from a date, with the days that are left. -/
def walkBaseline : Nat → Int → WindowWalk → WindowWalk
  | 0, _, walk => walk
  | left + 1, cursor, walk =>
    if from_ ≤ cursor ∧ walk.baselineDates.length < windowBaselineSessions then
      walkBaseline left (cursor - 1) (visitBaseline daylight exceptions walk cursor)
    else walk

/-- The walk forwards from a date, with the days that are left. -/
def walkNext : Nat → Int → WindowWalk → WindowWalk × Option MarketSession
  | 0, _, walk => (walk, none)
  | left + 1, date, walk =>
    let walk := inspect daylight exceptions walk date
    if to_ < date then (walk, none)
    else
      let walk := excludeEarlyClose exceptions walk date
      if fullSession daylight exceptions date then
        match marketSession daylight exceptions date with
        | .ok next => (walk, next)
        | .error _ => walkNext left (date + 1) walk
      else walkNext left (date + 1) walk

/-- The target is inspected first, then the dates before it. -/
def walkedBack (date : Int) : WindowWalk :=
  walkBaseline daylight exceptions 370 (date - 1) (inspect daylight exceptions ⟨[], [], []⟩ date)

/-- The plan of a date from what its walks have collected. -/
def windowPlan (date : Int) (walk : WindowWalk) (next : Option MarketSession) : WindowPlan :=
  let failures :=
    if next = none ∧ walk.failures = [] then walk.failures ++ [⟨date, .nextFullSessionUnavailable⟩] else walk.failures
  let from_ := walk.baselineDates.head?.getD date
  let through := (next.map (·.date)).getD date
  { baselineDates := walk.baselineDates
    next
    proposedValidUntil := next.map fun next => participationDueAt next.closeAt
    calendar :=
      { reviewedFrom := from_
        reviewedThrough := to_
        from_
        through
        excludedEarlyCloseDates := walk.excludedEarlyCloseDates.mergeSort
        exceptions := (exceptions.filter fun row => decide (from_ ≤ row.sessionDate ∧ row.sessionDate ≤ through)).mergeSort
          fun a b => decide (a.sessionDate ≤ b.sessionDate)
        failures := failures.mergeSort fun a b => decide (a.sessionDate ≤ b.sessionDate) } }

def planParticipationWindow (date : Int) : WindowPlan :=
  let found := walkNext daylight exceptions 370 (date + 1) (walkedBack daylight exceptions date)
  windowPlan exceptions date found.1 found.2

end Source

variable {daylight : Int → Bool} {exceptions : List CalendarException} {date : Int}

section Walks

variable {walk : WindowWalk} {cursor : Int} {left : Nat}

/-- The full sessions of a range of dates, the last of them excluded. -/
def fullSessions (daylight : Int → Bool) (exceptions : List CalendarException) (lower upper : Int) : List Int :=
  picked (fullSession daylight exceptions) lower upper

/-- The full-session identity of a date can be trusted. -/
def TrustedDate (daylight : Int → Bool) (exceptions : List CalendarException) (date : Int) : Prop :=
  calendarIssue daylight exceptions date = none

theorem inspect_baselineDates : (inspect daylight exceptions walk date).baselineDates = walk.baselineDates := by
  unfold inspect
  split <;> rfl

/-- Inspecting a date reports nothing exactly if nothing was reported before and the date can be trusted. -/
theorem inspect_failures : (inspect daylight exceptions walk date).failures = [] ↔
    walk.failures = [] ∧ TrustedDate daylight exceptions date := by
  unfold inspect TrustedDate
  split
  case h_1 trusted => simp [trusted]
  case h_2 issue found => simp [found]

theorem excludeEarlyClose_kept : (excludeEarlyClose exceptions walk date).baselineDates = walk.baselineDates ∧
    (excludeEarlyClose exceptions walk date).failures = walk.failures := by
  unfold excludeEarlyClose
  split <;> exact ⟨rfl, rfl⟩

theorem visitBaseline_baselineDates : (visitBaseline daylight exceptions walk date).baselineDates =
    fullSessions daylight exceptions date (date + 1) ++ walk.baselineDates := by
  unfold visitBaseline fullSessions
  rw [picked_one]
  split
  · simp [excludeEarlyClose_kept.1, inspect_baselineDates]
  · simp [excludeEarlyClose_kept.1, inspect_baselineDates]

theorem visitBaseline_failures : (visitBaseline daylight exceptions walk date).failures = [] ↔
    walk.failures = [] ∧ TrustedDate daylight exceptions date := by
  have kept : (excludeEarlyClose exceptions (inspect daylight exceptions walk date) date).failures =
      (inspect daylight exceptions walk date).failures := excludeEarlyClose_kept.2
  rw [← inspect_failures, ← kept]
  unfold visitBaseline
  split <;> rfl

/-- The walk backwards collects the last full sessions it needs. -/
theorem walkBaseline_baselineDates (few : walk.baselineDates.length ≤ windowBaselineSessions) :
    (walkBaseline daylight exceptions left cursor walk).baselineDates =
      (fullSessions daylight exceptions (max from_ (cursor + 1 - left)) (cursor + 1) ++
        walk.baselineDates).rtake windowBaselineSessions := by
  induction left generalizing cursor walk with
  | zero =>
    rw [fullSessions, picked_of_le (by omega), List.nil_append, rtake_of_length_le few]
    rfl
  | succ left ih =>
    unfold walkBaseline
    split
    case isTrue further =>
      obtain ⟨inside, fewer⟩ := further
      have lower : max from_ (cursor - 1 + 1 - left) =
          max from_ (cursor + 1 - (left + 1 : Nat)) := by omega
      have visited : (visitBaseline daylight exceptions walk cursor).baselineDates.length ≤ windowBaselineSessions := by
        rw [visitBaseline_baselineDates, fullSessions, picked_one, List.length_append]
        split
        · rw [List.length_singleton]
          omega
        · rw [List.length_nil]
          omega
      rw [ih visited, visitBaseline_baselineDates, lower, ← List.append_assoc, Int.sub_add_cancel]
      unfold fullSessions
      rw [← picked_append _ (by omega) (by omega)]
    case isFalse stops =>
      by_cases inside : from_ ≤ cursor
      · have full : walk.baselineDates.length = windowBaselineSessions :=
          le_antisymm few (Nat.le_of_not_lt fun fewer => stops ⟨inside, fewer⟩)
        rw [rtake_append_of_length _ full]
      · rw [fullSessions, picked_of_le (by omega), List.nil_append, rtake_of_length_le few]

/-- A walk backwards that reports nothing has inspected every date back to the first that it collected. -/
theorem walkBaseline_trusted (reported : (walkBaseline daylight exceptions left cursor walk).failures = [])
    (after : ∀ found ∈ walk.baselineDates, cursor < found) :
    walk.failures = [] ∧ ∀ found ∈ (walkBaseline daylight exceptions left cursor walk).baselineDates,
      ∀ other, found ≤ other → other ≤ cursor → TrustedDate daylight exceptions other := by
  induction left generalizing cursor walk with
  | zero => exact ⟨reported, fun found member other above below => absurd (after found member) (by omega)⟩
  | succ left ih =>
    unfold walkBaseline at reported ⊢
    split at reported
    case isTrue further =>
      have later : ∀ found ∈ (visitBaseline daylight exceptions walk cursor).baselineDates, cursor - 1 < found := by
        intro found member
        rw [visitBaseline_baselineDates, List.mem_append] at member
        rcases member with here | before
        · have := (mem_picked.mp here).1
          omega
        · have := after found before
          omega
      obtain ⟨earlier, trusted⟩ := ih reported later
      obtain ⟨none, here⟩ := visitBaseline_failures.mp earlier
      rw [if_pos further]
      refine ⟨none, fun found member other above below => ?_⟩
      rcases Int.lt_or_eq_of_le below with before | rfl
      · exact trusted found member other above (by omega)
      · exact here
    case isFalse stops =>
      rw [if_neg stops]
      exact ⟨reported, fun found member other above below => absurd (after found member) (by omega)⟩

theorem marketSession_of_full (full : fullSession daylight exceptions date = true) :
    ∃ session, marketSession daylight exceptions date = .ok (some session) := by
  unfold fullSession isFullMarketSession at full
  cases opens : marketSession daylight exceptions date with
  | error error =>
    rw [opens] at full
    cases full
  | ok session =>
    cases session with
    | none =>
      rw [opens] at full
      cases full
    | some session => exact ⟨session, rfl⟩

/-- A walk forwards that reports nothing found the first full session over trusted dates. -/
structure FoundNext (daylight : Int → Bool) (exceptions : List CalendarException) (start : Int) (session : MarketSession) :
    Prop where
  opens : marketSession daylight exceptions session.date = .ok (some session)
  full : fullSession daylight exceptions session.date = true
  after : start ≤ session.date
  first : ∀ other, start ≤ other → other < session.date → fullSession daylight exceptions other = false
  trusted : ∀ other, start ≤ other → other ≤ session.date → TrustedDate daylight exceptions other

theorem walkNext_baselineDates : (walkNext daylight exceptions left date walk).1.baselineDates = walk.baselineDates := by
  induction left generalizing date walk with
  | zero => rfl
  | succ left ih =>
    have kept : (excludeEarlyClose exceptions (inspect daylight exceptions walk date) date).baselineDates =
        walk.baselineDates := excludeEarlyClose_kept.1.trans inspect_baselineDates
    unfold walkNext
    split
    · exact inspect_baselineDates
    · split
      · split
        · exact kept
        · exact ih.trans kept
      · exact ih.trans kept

theorem walkNext_found (reported : (walkNext daylight exceptions left date walk).1.failures = []) :
    walk.failures = [] ∧ ∀ session, (walkNext daylight exceptions left date walk).2 = some session →
      FoundNext daylight exceptions date session := by
  induction left generalizing date walk with
  | zero => exact ⟨reported, nofun⟩
  | succ left ih =>
    unfold walkNext at reported ⊢
    dsimp only at reported ⊢
    have kept : (excludeEarlyClose exceptions (inspect daylight exceptions walk date) date).failures =
        (inspect daylight exceptions walk date).failures := excludeEarlyClose_kept.2
    split at reported
    case isTrue outside =>
      rw [if_pos outside]
      exact ⟨(inspect_failures.mp reported).1, nofun⟩
    case isFalse inside =>
      rw [if_neg inside]
      split at reported
      case isTrue full =>
        obtain ⟨session, opens⟩ := marketSession_of_full full
        rw [opens] at reported
        obtain ⟨none, trusted⟩ := inspect_failures.mp (kept.symm.trans reported)
        rw [if_pos full, opens]
        refine ⟨none, fun found same => ?_⟩
        cases same
        obtain rfl : session.date = date := (marketSession_some opens).1
        exact ⟨opens, full, le_rfl, fun other above below => absurd above (by omega),
          fun other above below => by rwa [show other = session.date by omega]⟩
      case isFalse notFull =>
        obtain ⟨earlier, found⟩ := ih reported
        obtain ⟨none, trusted⟩ := inspect_failures.mp (kept.symm.trans earlier)
        rw [if_neg notFull]
        refine ⟨none, fun session same => ?_⟩
        have later := found session same
        refine ⟨later.opens, later.full, by have := later.after; omega, fun other above below => ?_, fun other above below => ?_⟩
        · rcases Int.lt_or_eq_of_le above with past | rfl
          · exact later.first other (by omega) below
          · exact Bool.not_eq_true _ ▸ notFull
        · rcases Int.lt_or_eq_of_le above with past | rfl
          · exact later.trusted other (by omega) below
          · exact trusted

end Walks

variable {walk : WindowWalk}

/-- What a plan that reports no failure is. -/
structure PlannedWindow (daylight : Int → Bool) (exceptions : List CalendarException) (date : Int) (plan : WindowPlan) : Prop where
  baseline : plan.baselineDates =
    (fullSessions daylight exceptions (max from_ (date - 370)) date).rtake windowBaselineSessions
  next : ∃ session, plan.next = some session ∧ marketSession daylight exceptions session.date = .ok (some session) ∧
    fullSession daylight exceptions session.date = true ∧ date < session.date ∧
    ∀ other, date < other → other < session.date → fullSession daylight exceptions other = false
  trusted : ∀ other, plan.calendar.from_ ≤ other → other ≤ plan.calendar.through → TrustedDate daylight exceptions other

theorem walkedBack_baselineDates (date : Int) : (walkedBack daylight exceptions date).baselineDates =
    (fullSessions daylight exceptions (max from_ (date - 370)) date).rtake windowBaselineSessions := by
  have empty : (inspect daylight exceptions ⟨[], [], []⟩ date).baselineDates = [] := inspect_baselineDates
  unfold walkedBack
  rw [walkBaseline_baselineDates (by rw [empty]; exact Nat.zero_le _), empty, List.append_nil, Int.sub_add_cancel]
  rfl

theorem planParticipationWindow_baselineDates (date : Int) :
    (planParticipationWindow daylight exceptions date).baselineDates =
      (fullSessions daylight exceptions (max from_ (date - 370)) date).rtake windowBaselineSessions := by
  have collected : (walkNext daylight exceptions 370 (date + 1) (walkedBack daylight exceptions date)).1.baselineDates =
      (walkedBack daylight exceptions date).baselineDates := walkNext_baselineDates
  exact collected.trans (walkedBack_baselineDates date)

/-- A plan that reports no failure has a next session, and its walks have reported nothing. -/
theorem windowPlan_reported {next : Option MarketSession}
    (reported : (windowPlan exceptions date walk next).calendar.failures = []) : next ≠ none ∧ walk.failures = [] := by
  have sorted : ∀ failures : List WindowFailure,
      failures.mergeSort (fun a b => decide (a.sessionDate ≤ b.sessionDate)) = [] → failures = [] :=
    fun failures none => (none ▸ List.mergeSort_perm failures _).symm.eq_nil
  have unsorted := sorted _ reported
  split at unsorted
  case isTrue => exact absurd unsorted (by simp)
  case isFalse found => exact ⟨fun none => found ⟨none, unsorted⟩, unsorted⟩

theorem planParticipationWindow_planned
    (reported : (planParticipationWindow daylight exceptions date).calendar.failures = []) :
    PlannedWindow daylight exceptions date (planParticipationWindow daylight exceptions date) := by
  have collected : (walkNext daylight exceptions 370 (date + 1) (walkedBack daylight exceptions date)).1.baselineDates =
      (walkedBack daylight exceptions date).baselineDates := walkNext_baselineDates
  unfold planParticipationWindow at reported ⊢
  dsimp only at reported ⊢
  obtain ⟨some_, none⟩ := windowPlan_reported reported
  obtain ⟨earlier, found⟩ := walkNext_found none
  obtain ⟨session, next⟩ := Option.ne_none_iff_exists'.mp some_
  obtain ⟨opens, full, after, first, ahead⟩ := found session next
  obtain ⟨started, back⟩ := walkBaseline_trusted earlier (by simp [inspect_baselineDates])
  obtain ⟨_, here⟩ := inspect_failures.mp started
  rw [next]
  refine ⟨collected.trans (walkedBack_baselineDates date), ⟨session, rfl, opens, full, by omega, ?_⟩, ?_⟩
  · exact fun other above below => first other (by omega) below
  · intro other above below
    replace below : other ≤ session.date := below
    replace above : (walkedBack daylight exceptions date).baselineDates.head?.getD date ≤ other := collected ▸ above
    rcases Int.lt_trichotomy other date with before | rfl | past
    · cases dates : (walkedBack daylight exceptions date).baselineDates with
      | nil =>
        rw [dates] at above
        exact absurd (show date ≤ other from above) (by omega)
      | cons oldest later =>
        rw [dates] at above
        exact back oldest (dates ▸ List.mem_cons_self) other above (by omega)
    · exact here
    · exact ahead other (by omega) below

/-- The sessions visited from one on, each the next of a plan without failure. -/
inductive FollowsPlans (daylight : Int → Bool) (exceptions : List CalendarException) : Int → List Int → Prop where
  | here (date : Int) : FollowsPlans daylight exceptions date []
  | next {date : Int} {session : MarketSession} {later : List Int}
      (reported : (planParticipationWindow daylight exceptions date).calendar.failures = [])
      (found : (planParticipationWindow daylight exceptions date).next = some session)
      (follows : FollowsPlans daylight exceptions session.date later) : FollowsPlans daylight exceptions date (session.date :: later)

/-- Following the plans visits every full session once. -/
theorem FollowsPlans.visits {later : List Int} (follows : FollowsPlans daylight exceptions date later)
    (full : fullSession daylight exceptions date = true) :
    date :: later = fullSessions daylight exceptions date (later.getLastD date + 1) := by
  induction follows with
  | here date => rw [List.getLastD_nil, fullSessions, picked_one, if_pos full]
  | @next date session later reported found follows ih =>
    obtain ⟨other, same, _, fullNext, after, first⟩ := (planParticipationWindow_planned reported).next
    obtain rfl := Option.some.inj (found.symm.trans same)
    have visited := ih fullNext
    have inside : session.date < later.getLastD session.date + 1 := by
      have member : session.date ∈ session.date :: later := List.mem_cons_self
      rw [visited] at member
      exact (mem_picked.mp member).2.1
    rw [List.getLastD_cons, visited]
    exact (picked_cons full first after (by omega)).symm

/-- A plan without failures has as its baseline the last full sessions of the reviewed days of a year, as its next session
the first full one, every date between trusted; following the plans visits every full session once. -/
theorem participationWindow_planned (full : fullSession daylight exceptions date = true)
    (reported : (planParticipationWindow daylight exceptions date).calendar.failures = []) :
    LastPicked (fullSession daylight exceptions) (max from_ (date - 370)) date windowBaselineSessions
      (planParticipationWindow daylight exceptions date).baselineDates ∧
    (∃ session, (planParticipationWindow daylight exceptions date).next = some session ∧
      marketSession daylight exceptions session.date = .ok (some session) ∧
      fullSession daylight exceptions session.date = true ∧ date < session.date ∧
      (∀ other, date < other → other < session.date → fullSession daylight exceptions other = false) ∧
      ∀ other, ((planParticipationWindow daylight exceptions date).baselineDates.head?).getD date ≤ other →
        other ≤ session.date → TrustedDate daylight exceptions other) ∧
    ∀ later, FollowsPlans daylight exceptions date later →
      date :: later = fullSessions daylight exceptions date (later.getLastD date + 1) := by
  have planned := planParticipationWindow_planned reported
  obtain ⟨session, next, opens, fullNext, after, first⟩ := planned.next
  refine ⟨?_, ⟨session, next, opens, fullNext, after, first, fun other above below => ?_⟩, fun later follows =>
    follows.visits full⟩
  · rw [planned.baseline]
    exact lastPicked_rtake _ _ _ _
  · refine planned.trusted other above ?_
    change other ≤ ((planParticipationWindow daylight exceptions date).next.map (·.date)).getD date
    rw [next]
    exact below

/-- The session after Labor Day 2026. -/
theorem participationWindow_planned_september :
    (planParticipationWindow (fun _ => true) [⟨civil 2026 9 7, .closed, none⟩] (civil 2026 9 14)).next.map (·.date) =
        some (civil 2026 9 15) ∧
      LastPicked (fullSession (fun _ => true) [⟨civil 2026 9 7, .closed, none⟩])
        (max from_ (civil 2026 9 14 - 370)) (civil 2026 9 14) windowBaselineSessions
        (planParticipationWindow (fun _ => true) [⟨civil 2026 9 7, .closed, none⟩] (civil 2026 9 14)).baselineDates :=
  ⟨by decide +kernel, (participationWindow_planned (by decide +kernel) (by decide +kernel)).1⟩

section ClosedYear

variable {others : List CalendarException}

/-- The calendar of a date only depends on the rows of that date. -/
def SameRows (exceptions others : List CalendarException) (date : Int) : Prop :=
  exceptions.filter (fun row => row.sessionDate == date) = others.filter (fun row => row.sessionDate == date)

section

variable (same : SameRows exceptions others date)
include same

theorem SameRows.marketSession_eq : marketSession daylight exceptions date = marketSession daylight others date := by
  have found : exceptions.find? (fun row => row.sessionDate == date) = others.find? fun row => row.sessionDate == date := by
    rw [← List.head?_filter, ← List.head?_filter, same]
  unfold marketSession
  rw [found]

theorem SameRows.calendarIssue_eq : calendarIssue daylight exceptions date = calendarIssue daylight others date := by
  unfold calendarIssue
  rw [same, same.marketSession_eq]

theorem SameRows.fullSession_eq : fullSession daylight exceptions date = fullSession daylight others date := by
  unfold fullSession isFullMarketSession
  rw [same.marketSession_eq, ← List.any_filter, ← List.any_filter, same]

end

/-- Every day of the walk backwards is closed, save those whose early close is reviewed. -/
def closedDay (date : Int) : CalendarException :=
  if earlyCloseDates.contains date then ⟨date, .earlyClose, some 780⟩ else ⟨date, .closed, none⟩

def closedYear (date : Int) : List CalendarException := (List.range 370).map fun back : Nat => closedDay (date - 1 - back)

theorem closedDay_sessionDate (date : Int) : (closedDay date).sessionDate = date := by
  unfold closedDay
  split <;> rfl

theorem closedYear_inside {back : Nat} (bound : back < 370) :
    SameRows (closedYear date) [closedDay (date - 1 - back)] (date - 1 - back) := by
  have same : (fun row => row.sessionDate == date - 1 - back) ∘ (fun back : Nat => closedDay (date - 1 - back)) =
      fun other : Nat => other == back := by
    funext other
    simp only [Function.comp_apply, closedDay_sessionDate]
    rw [Bool.eq_iff_iff, beq_iff_eq, beq_iff_eq]
    omega
  unfold SameRows closedYear
  rw [List.filter_map, same, List.filter_beq, List.nodup_range.count, if_pos (List.mem_range.mpr bound)]
  simp [closedDay_sessionDate]

theorem closedYear_outside {other : Int} (outside : date ≤ other ∨ other < date - 370) :
    SameRows (closedYear date) [] other := by
  unfold SameRows closedYear
  rw [List.filter_nil, List.filter_eq_nil_iff]
  intro row member
  obtain ⟨back, bound, rfl⟩ := List.mem_map.mp member
  have := List.mem_range.mp bound
  rw [closedDay_sessionDate, beq_iff_eq]
  omega

/-- A walk backwards over trusted dates reports nothing. -/
theorem walkBaseline_reports {left : Nat} {cursor : Int}
    (trusted : ∀ back : Nat, back < left → TrustedDate daylight exceptions (cursor - back)) (none : walk.failures = []) :
    (walkBaseline daylight exceptions left cursor walk).failures = [] := by
  induction left generalizing cursor walk with
  | zero => exact none
  | succ left ih =>
    unfold walkBaseline
    split
    · refine ih (fun back bound => ?_) (visitBaseline_failures.mpr ⟨none, ?_⟩)
      · have earlier := trusted (back + 1) (by omega)
        rwa [show cursor - ((back + 1 : Nat) : Int) = cursor - 1 - back by omega] at earlier
      · simpa using trusted 0 (by omega)
    · exact none

/-- A walk forwards stops at once at a full session. -/
theorem walkNext_here {left : Nat} {session : MarketSession}
    (trusted : TrustedDate daylight exceptions date) (inside : date ≤ to_)
    (full : fullSession daylight exceptions date = true)
    (opens : marketSession daylight exceptions date = .ok (some session)) (none : walk.failures = []) (some_ : 0 < left) :
    (walkNext daylight exceptions left date walk).1.failures = [] ∧
      (walkNext daylight exceptions left date walk).2 = some session := by
  obtain ⟨left, rfl⟩ := Nat.exists_eq_succ_of_ne_zero some_.ne'
  unfold walkNext
  rw [if_neg (by omega), if_pos full, opens]
  exact ⟨excludeEarlyClose_kept.2.trans (inspect_failures.mpr ⟨none, trusted⟩), rfl⟩

/-- A plan whose walks report nothing and that has a next session reports no failure. -/
theorem planParticipationWindow_reports {session : MarketSession}
    (none : (walkNext daylight exceptions 370 (date + 1) (walkedBack daylight exceptions date)).1.failures = [])
    (found : (walkNext daylight exceptions 370 (date + 1) (walkedBack daylight exceptions date)).2 = some session) :
    (planParticipationWindow daylight exceptions date).calendar.failures = [] := by
  unfold planParticipationWindow windowPlan
  dsimp only
  rw [found, if_neg (fun absent => nomatch absent.1), none, List.mergeSort_nil]

theorem closedDates_disjoint : ∀ date ∈ earlyCloseDates,
    closedDates.contains date = false := by decide

/-- A closed day of the reviewed horizon is trusted and no full session. -/
theorem closedDay_trusted (inside : from_ ≤ date ∧ date ≤ to_) :
    calendarIssue daylight [closedDay date] date = none ∧ fullSession daylight [closedDay date] date = false := by
  have within : ¬(date < from_ ∨ to_ < date) := by omega
  unfold closedDay
  by_cases early : earlyCloseDates.contains date = true
  · have open_ := closedDates_disjoint date (List.contains_iff_mem.mp early)
    obtain ⟨session, opens⟩ : ∃ session, marketSession daylight [⟨date, .earlyClose, some 780⟩] date = .ok session := by
      unfold marketSession
      simp only [List.find?_cons, beq_self_eq_true]
      split
      · exact ⟨_, rfl⟩
      · exact ⟨_, if_neg (by decide)⟩
    rw [if_pos early]
    constructor
    · unfold calendarIssue
      rw [if_neg within, opens, open_, early]
      simp
    · unfold fullSession isFullMarketSession
      rw [opens]
      cases session <;> simp
  · have closes : marketSession daylight [⟨date, .closed, none⟩] date = .ok none := by simp [marketSession]
    rw [if_neg early]
    constructor
    · unfold calendarIssue
      rw [if_neg within, closes, Bool.not_eq_true _ |>.mp early]
      cases closedDates.contains date <;> simp
    · unfold fullSession isFullMarketSession
      rw [closes]

/-- A reviewed calendar, a full session whose plan reports no failure, and one before it: the plan has no baseline. -/
theorem planParticipationWindow_short :
    (∀ row ∈ closedYear (civil 2022 1 10),
      from_ ≤ row.sessionDate ∧ row.sessionDate ≤ to_) ∧
    fullSession (fun _ => false) (closedYear (civil 2022 1 10)) (civil 2022 1 10) = true ∧
    (planParticipationWindow (fun _ => false) (closedYear (civil 2022 1 10)) (civil 2022 1 10)).calendar.failures = [] ∧
    (planParticipationWindow (fun _ => false) (closedYear (civil 2022 1 10)) (civil 2022 1 10)).baselineDates = [] ∧
    civil 2021 1 4 ∈ fullSessions (fun _ => false) (closedYear (civil 2022 1 10)) from_
      (civil 2022 1 10) := by
  have number : civil 2022 1 10 = 19002 ∧ from_ = 18628 ∧ to_ = 20818 ∧
      civil 2021 1 4 = 18631 := by decide
  have trusted : ∀ back : Nat, back < 370 →
      TrustedDate (fun _ => false) (closedYear (civil 2022 1 10)) (civil 2022 1 10 - 1 - back) :=
    fun back bound => (closedYear_inside bound).calendarIssue_eq.trans (closedDay_trusted ⟨by omega, by omega⟩).1
  have notFull : fullSessions (fun _ => false) (closedYear (civil 2022 1 10)) (civil 2022 1 10 - 370) (civil 2022 1 10) = [] := by
    refine List.eq_nil_iff_forall_not_mem.mpr fun other member => ?_
    obtain ⟨above, below, full⟩ := mem_picked.mp member
    obtain ⟨back, rfl⟩ : ∃ back : Nat, other = civil 2022 1 10 - 1 - back := ⟨(civil 2022 1 10 - 1 - other).toNat, by omega⟩
    rw [(closedYear_inside (by omega)).fullSession_eq, (closedDay_trusted ⟨by omega, by omega⟩).2] at full
    cases full
  have target : SameRows (closedYear (civil 2022 1 10)) [] (civil 2022 1 10) := closedYear_outside (.inl le_rfl)
  have tomorrow : SameRows (closedYear (civil 2022 1 10)) [] (civil 2022 1 10 + 1) := closedYear_outside (.inl (by omega))
  have earlier : SameRows (closedYear (civil 2022 1 10)) [] (civil 2021 1 4) := closedYear_outside (.inr (by omega))
  have walked : (walkedBack (fun _ => false) (closedYear (civil 2022 1 10)) (civil 2022 1 10)).failures = [] :=
    walkBaseline_reports trusted (inspect_failures.mpr ⟨rfl, target.calendarIssue_eq.trans (by decide)⟩)
  obtain ⟨session, opens⟩ : ∃ session, marketSession (fun _ => false) [] (civil 2022 1 10 + 1) = .ok (some session) :=
    marketSession_of_full (by decide)
  obtain ⟨reported, found⟩ :
      (walkNext (fun _ => false) (closedYear (civil 2022 1 10)) 370 (civil 2022 1 10 + 1)
        (walkedBack (fun _ => false) (closedYear (civil 2022 1 10)) (civil 2022 1 10))).1.failures = [] ∧
      (walkNext (fun _ => false) (closedYear (civil 2022 1 10)) 370 (civil 2022 1 10 + 1)
        (walkedBack (fun _ => false) (closedYear (civil 2022 1 10)) (civil 2022 1 10))).2 = some session :=
    walkNext_here (tomorrow.calendarIssue_eq.trans (by decide)) (by omega) (tomorrow.fullSession_eq.trans (by decide))
      (tomorrow.marketSession_eq.trans opens) walked (by omega)
  refine ⟨?_, target.fullSession_eq.trans (by decide), ?_, ?_, mem_picked.mpr ⟨by omega, by omega, ?_⟩⟩
  · intro row member
    obtain ⟨back, bound, rfl⟩ := List.mem_map.mp member
    have := List.mem_range.mp bound
    rw [closedDay_sessionDate]
    omega
  · exact planParticipationWindow_reports reported found
  · rw [planParticipationWindow_baselineDates, show max from_ (civil 2022 1 10 - 370) = civil 2022 1 10 - 370
      by omega, notFull]
    rfl
  · exact earlier.fullSession_eq.trans (by decide)

end ClosedYear

end AiTrader.Market
