import AiTrader.Market.Calendar

/-! # Intraday assessment targets

Every fifteen minutes of a session but the last is a target. A target becomes eligible when its bar is
complete and stays current until the next one is eligible, the final one until the close. -/

namespace AiTrader.Market

def intervalMs : Int := 15 * minuteMs

def graceMs : Int := completionGraceMinutes .minute15 * minuteMs

structure IntradayTarget where
  date : Int
  index : Nat
  (targetAt validUntil : Int)
deriving DecidableEq

section Source

variable (daylight : Int → Bool) (exceptions : List CalendarException)

/-- The session of a date and the number of its targets. -/
def actionableTargets (date : Int) : Except CalendarError (Option (MarketSession × Nat)) :=
  match marketSession daylight exceptions date with
  | .error error => .error error
  | .ok none => .ok none
  | .ok (some session) =>
    let length := session.closeAt - session.openAt
    if length % intervalMs ≠ 0 then .error .sessionNotAligned
    else .ok (some (session, (length / intervalMs - 1).toNat))

/-- The first target of the first session among the dates that follow. -/
def firstTargetAfter (date : Int) : List Int → Except CalendarError Int
  | [] => .error .noNextSession
  | forward :: rest =>
    match actionableTargets daylight exceptions (date + forward) with
    | .error error => .error error
    | .ok (some (session, _)) => .ok (session.openAt + intervalMs)
    | .ok none => firstTargetAfter date rest

def nextActionableTargetAt (date : Int) (index : Nat) : Except CalendarError Int :=
  match actionableTargets daylight exceptions date with
  | .error error => .error error
  | .ok none => .error .noNextSession
  | .ok (some (session, count)) =>
    if index < count then .ok (session.openAt + (index + 1) * intervalMs)
    else firstTargetAfter daylight exceptions date ((List.range 15).map fun offset => (offset + 1 : Int))

/-- The final target of a session is only current through session close. -/
def validUntilFor (date : Int) (index : Nat) : Except CalendarError Int :=
  match actionableTargets daylight exceptions date with
  | .error error => .error error
  | .ok none => .error .noNextSession
  | .ok (some (session, count)) =>
    if index < count then
      match nextActionableTargetAt daylight exceptions date index with
      | .error error => .error error
      | .ok next => .ok (next + graceMs)
    else .ok session.closeAt

/-- The targets of one session, latest first. -/
def scanTargets (now : Int) (requireFresh : Bool) (date : Int) (session : MarketSession) :
    List Nat → Except CalendarError (Option IntradayTarget)
  | [] => .ok none
  | index :: rest =>
    let targetAt := session.openAt + index * intervalMs
    match barEligibility daylight exceptions .minute15 (targetAt - intervalMs) now with
    | .error error => .error error
    | .ok (status, _) =>
      if status ≠ .eligible then scanTargets now requireFresh date session rest
      else
        match validUntilFor daylight exceptions date index with
        | .error error => .error error
        | .ok validUntil =>
          if requireFresh ∧ validUntil ≤ now then scanTargets now requireFresh date session rest
          else .ok (some ⟨date, index, targetAt, validUntil⟩)

/-- The indexes of `count` targets, latest first. -/
def descending : Nat → List Nat
  | 0 => []
  | count + 1 => (count + 1) :: descending count

/-- The dates walked backwards from today. -/
def walkDates (now : Int) (requireFresh : Bool) (today : Int) : List Int → Except CalendarError (Option IntradayTarget)
  | [] => .ok none
  | back :: rest =>
    match actionableTargets daylight exceptions (today - back) with
    | .error error => .error error
    | .ok none => walkDates now requireFresh today rest
    | .ok (some (session, count)) =>
      match scanTargets daylight exceptions now requireFresh (today - back) session (descending count) with
      | .error error => .error error
      | .ok (some target) => .ok (some target)
      | .ok none => walkDates now requireFresh today rest

/-- The most recent target past its evidence grace and, with `requireFresh`, unexpired. -/
def latestIntradayStressAssessmentTarget (now : Int) (requireFresh : Bool) :
    Except CalendarError (Option IntradayTarget) :=
  walkDates daylight exceptions now requireFresh (etDate daylight now) ((List.range 11).map fun back => (back : Int))

end Source

variable {exceptions : List CalendarException} {daylight : Int → Bool} {session : MarketSession}

section TradingDay

variable {date now : Int}

/-- Every early close lies after the open, no later than the regular close and on an interval. -/
def Aligned (exceptions : List CalendarException) : Prop :=
  ∀ row ∈ exceptions, row.type = .earlyClose → ∃ minutes, row.closeTimeMinutesEt = some minutes ∧
    sessionOpenMinutes < minutes ∧ minutes ≤ sessionCloseMinutes ∧ (minutes - sessionOpenMinutes) % 15 = 0

/-- A date with a session of `count + 1` intervals. -/
structure TradingDay (daylight : Int → Bool) (exceptions : List CalendarException) (date : Int)
    (session : MarketSession) (count : Nat) : Prop where
  open_ : marketSession daylight exceptions date = .ok (some session)
  listed : actionableTargets daylight exceptions date = .ok (some (session, count))
  openAt : session.openAt = etInstant daylight date sessionOpenMinutes
  closeAt : session.closeAt = session.openAt + (count + 1) * intervalMs
  bounded : count ≤ 25

theorem TradingDay.openAt_bounds {count : Nat} (day : TradingDay daylight exceptions date session count) :
    date * dayMs + 810 * minuteMs ≤ session.openAt ∧ session.openAt ≤ date * dayMs + 870 * minuteMs := by
  rw [day.openAt, etInstant_eq]
  simp only [dayMs, minuteMs, sessionOpenMinutes]
  constructor <;> split <;> omega

theorem tradingDay_of_session (open_ : marketSession daylight exceptions date = .ok (some session))
    (onInterval : (session.closeMinutes - sessionOpenMinutes) % 15 = 0) :
    ∃ count, TradingDay daylight exceptions date session count := by
  obtain ⟨_, opens, closes, after, before⟩ := marketSession_some open_
  have length := marketSession_length open_
  have aligned : (session.closeAt - session.openAt) % intervalMs = 0 := by
    rw [length]
    simp only [intervalMs, minuteMs]
    omega
  refine ⟨((session.closeAt - session.openAt) / intervalMs - 1).toNat, open_, ?_, opens, ?_, ?_⟩
  · unfold actionableTargets
    rw [open_]
    simp [aligned]
  all_goals
    rw [length] at aligned ⊢
    simp only [intervalMs, minuteMs, sessionOpenMinutes, sessionCloseMinutes] at *
    omega

/-- On an aligned calendar every date is a trading day or has no session. -/
theorem Aligned.date_cases (aligned : Aligned exceptions) (daylight : Int → Bool) (date : Int) :
    (marketSession daylight exceptions date = .ok none ∧ actionableTargets daylight exceptions date = .ok none) ∨
      ∃ session count, TradingDay daylight exceptions date session count := by
  have outcome : marketSession daylight exceptions date = .ok none ∨
      ∃ session, marketSession daylight exceptions date = .ok (some session) ∧
        (session.closeMinutes - sessionOpenMinutes) % 15 = 0 := by
    cases found : exceptions.find? fun row => row.sessionDate == date with
    | none =>
      unfold marketSession
      simp only [found, Option.any_none, Bool.or_false]
      split
      · exact .inl rfl
      · exact .inr ⟨_, rfl, rfl⟩
    | some row =>
      unfold marketSession
      simp only [found, Option.any_some]
      split
      · exact .inl rfl
      case isFalse regular =>
        have early : row.type = .earlyClose := by
          cases kind : row.type with
          | closed => simp [kind] at regular
          | earlyClose => rfl
        obtain ⟨minutes, closes, after, before, onInterval⟩ := aligned row (List.mem_of_find?_eq_some found) early
        rw [closes]
        simp only
        rw [if_neg (by omega)]
        exact .inr ⟨_, rfl, onInterval⟩
  rcases outcome with closed | ⟨session, open_, onInterval⟩
  · refine .inl ⟨closed, ?_⟩
    unfold actionableTargets
    rw [closed]
  · obtain ⟨count, day⟩ := tradingDay_of_session open_ onInterval
    exact .inr ⟨session, count, day⟩

variable {count index : Nat}

/-- When the target is replaced by the next one, or by nothing at the close. -/
def expiry (session : MarketSession) (count index : Nat) : Int :=
  if index < count then session.openAt + (index + 1) * intervalMs + graceMs else session.closeAt

theorem TradingDay.validUntilFor (day : TradingDay daylight exceptions date session count) (index : Nat) :
    Market.validUntilFor daylight exceptions date index = .ok (expiry session count index) := by
  unfold Market.validUntilFor nextActionableTargetAt expiry
  rw [day.listed]
  simp only
  split
  · rfl
  · rfl

/-- The bar of a target is eligible one grace after it ends. -/
theorem TradingDay.barEligibility (day : TradingDay daylight exceptions date session count) (positive : 1 ≤ index)
    (bounded : index ≤ count) (now : Int) :
    Market.barEligibility daylight exceptions .minute15 (session.openAt + index * intervalMs - intervalMs) now =
      .ok (if session.openAt + index * intervalMs + graceMs ≤ now then .eligible else .notYetEligible,
        some (session.openAt + index * intervalMs + graceMs)) := by
  have few := day.bounded
  have start : session.openAt + index * intervalMs - intervalMs =
      etInstant daylight date (sessionOpenMinutes + (index - 1) * 15) := by
    rw [day.openAt, etInstant_eq, etInstant_eq]
    simp only [intervalMs, minuteMs]
    omega
  have here : etDate daylight (session.openAt + index * intervalMs - intervalMs) = date := by
    rw [start]
    apply etDate_etInstant
    all_goals
      simp only [sessionOpenMinutes]
      omega
  have finish : session.openAt + index * intervalMs - intervalMs + 15 * minuteMs = session.openAt + index * intervalMs := by
    simp only [intervalMs]
    omega
  have inside : ¬ (session.openAt + index * intervalMs - intervalMs < session.openAt ∨
      session.closeAt < session.openAt + index * intervalMs) := by
    rw [day.closeAt]
    simp only [intervalMs, minuteMs]
    omega
  unfold Market.barEligibility
  rw [here, day.open_]
  simp only [reduceCtorEq, if_false, true_and]
  rw [finish, if_neg inside]
  rfl

end TradingDay

section Currentness

variable {date now : Int} {count : Nat}

/-- The bar of the target is eligible and its expiry has not passed. -/
def IsCurrent (daylight : Int → Bool) (exceptions : List CalendarException) (now : Int) (target : IntradayTarget) : Prop :=
  ∃ session count, actionableTargets daylight exceptions target.date = .ok (some (session, count)) ∧
    1 ≤ target.index ∧ target.index ≤ count ∧ target.targetAt = session.openAt + target.index * intervalMs ∧
    (∃ eligibleAt, barEligibility daylight exceptions .minute15 (target.targetAt - intervalMs) now =
      .ok (.eligible, eligibleAt)) ∧
    validUntilFor daylight exceptions target.date target.index = .ok target.validUntil ∧ now < target.validUntil

/-- The window in which the target with an index is current. -/
def InWindow (session : MarketSession) (count index : Nat) (now : Int) : Prop :=
  session.openAt + index * intervalMs + graceMs ≤ now ∧ now < expiry session count index

/-- The target with an index. -/
def targetOf (date : Int) (session : MarketSession) (count index : Nat) : IntradayTarget :=
  ⟨date, index, session.openAt + index * intervalMs, expiry session count index⟩

theorem TradingDay.isCurrent_iff (day : TradingDay daylight exceptions date session count) {target : IntradayTarget}
    (here : target.date = date) : IsCurrent daylight exceptions now target ↔
      1 ≤ target.index ∧ target.index ≤ count ∧ InWindow session count target.index now ∧
        target = targetOf date session count target.index := by
  subst here
  constructor
  · rintro ⟨otherSession, otherCount, listed, positive, bounded, placed, ⟨eligibleAt, eligible⟩, valid, fresh⟩
    rw [day.listed] at listed
    cases listed
    rw [placed, day.barEligibility positive bounded] at eligible
    rw [day.validUntilFor] at valid
    have expires : expiry session count target.index = target.validUntil := Except.ok.inj valid
    have reached : session.openAt + target.index * intervalMs + graceMs ≤ now := by
      by_contra early
      rw [if_neg early] at eligible
      cases eligible
    refine ⟨positive, bounded, ⟨reached, expires ▸ fresh⟩, ?_⟩
    rw [targetOf, ← placed, expires]
  · rintro ⟨positive, bounded, ⟨eligible, fresh⟩, same⟩
    have placed : target.targetAt = session.openAt + target.index * intervalMs := congrArg IntradayTarget.targetAt same
    have expires : target.validUntil = expiry session count target.index := congrArg IntradayTarget.validUntil same
    refine ⟨session, count, day.listed, positive, bounded, placed,
      ⟨some (session.openAt + target.index * intervalMs + graceMs), ?_⟩, ?_, ?_⟩
    · rw [placed, day.barEligibility positive bounded, if_pos eligible]
    · rw [expires]
      exact day.validUntilFor target.index
    · rw [expires]
      exact fresh

/-- The scan returns a target whose window holds the instant, and misses none. -/
theorem TradingDay.scanTargets (day : TradingDay daylight exceptions date session count) {last : Nat} (bounded : last ≤ count) :
    ∃ result, Market.scanTargets daylight exceptions now true date session (descending last) = .ok result ∧
      (∀ target, result = some target → ∃ index, 1 ≤ index ∧ index ≤ count ∧ InWindow session count index now ∧
        target = targetOf date session count index) ∧
      (result = none → ∀ index, 1 ≤ index → index ≤ last → ¬ InWindow session count index now) := by
  induction last with
  | zero =>
    refine ⟨none, rfl, nofun, fun _ index positive small => ?_⟩
    omega
  | succ previous ih =>
    obtain ⟨result, scanned, found, missed⟩ := ih (by omega)
    have eligibility := day.barEligibility (Nat.le_add_left 1 previous) bounded now
    unfold descending Market.scanTargets
    dsimp only
    rw [eligibility]
    by_cases window : InWindow session count (previous + 1) now
    · refine ⟨some (targetOf date session count (previous + 1)), ?_, ?_, nofun⟩
      · have unexpired : ¬ expiry session count (previous + 1) ≤ now := Int.not_le.mpr window.2
        rw [if_pos window.1, day.validUntilFor]
        simp [unexpired, targetOf]
      · intro target same
        cases same
        exact ⟨previous + 1, Nat.le_add_left 1 previous, bounded, window, rfl⟩
    · refine ⟨result, ?_, found, fun absent index positive small => ?_⟩
      · by_cases eligible : session.openAt + (previous + 1 : Nat) * intervalMs + graceMs ≤ now
        · have expired : expiry session count (previous + 1) ≤ now :=
            Int.not_lt.mp fun fresh => window ⟨eligible, fresh⟩
          rw [if_pos eligible, day.validUntilFor]
          simp [expired, scanned]
        · rw [if_neg eligible]
          simp [scanned]
      · rcases Nat.lt_or_ge index (previous + 1) with smaller | reached
        · exact missed absent index positive (by omega)
        · obtain rfl : index = previous + 1 := by omega
          exact window

/-- The walk returns a current target of one of the dates, and misses none of them. -/
theorem walkDates_spec (aligned : Aligned exceptions) (daylight : Int → Bool) (now today : Int) (backs : List Int) :
    ∃ result, walkDates daylight exceptions now true today backs = .ok result ∧
      (∀ target, result = some target → IsCurrent daylight exceptions now target) ∧
      (result = none → ∀ back ∈ backs, ∀ target, target.date = today - back →
        ¬ IsCurrent daylight exceptions now target) := by
  induction backs with
  | nil => exact ⟨none, rfl, nofun, nofun⟩
  | cons back rest ih =>
    obtain ⟨result, walked, found, missed⟩ := ih
    unfold walkDates
    rcases aligned.date_cases daylight (today - back) with ⟨_, untargeted⟩ | ⟨session, count, day⟩
    · rw [untargeted]
      refine ⟨result, walked, found, fun absent other member target here => ?_⟩
      rcases List.mem_cons.mp member with rfl | later
      · rintro ⟨session, count, listed, _⟩
        rw [here, untargeted] at listed
        cases listed
      · exact missed absent other later target here
    · obtain ⟨scanned, scan, inWindow, outside⟩ : ∃ result,
          scanTargets daylight exceptions now true (today - back) session (descending count) = .ok result ∧ _ :=
        day.scanTargets (Nat.le_refl count)
      rw [day.listed]
      dsimp only
      rw [scan]
      cases scanned with
      | some target =>
        refine ⟨some target, rfl, fun other same => ?_, nofun⟩
        cases same
        obtain ⟨index, positive, bounded, window, rfl⟩ := inWindow target rfl
        exact (day.isCurrent_iff rfl).mpr ⟨positive, bounded, window, rfl⟩
      | none =>
        refine ⟨result, walked, found, fun absent other member target here => ?_⟩
        rcases List.mem_cons.mp member with rfl | later
        · intro current
          obtain ⟨positive, bounded, window, _⟩ := (day.isCurrent_iff here).mp current
          exact outside rfl target.index positive bounded window
        · exact missed absent other later target here

section

variable (day : TradingDay daylight exceptions date session count)
include day

/-- Every window lies inside the session. -/
theorem TradingDay.inSession {index : Nat} (positive : 1 ≤ index)
    (bounded : index ≤ count) (window : InWindow session count index now) :
    session.openAt + intervalMs + graceMs ≤ now ∧ now < session.closeAt := by
  have closes := day.closeAt
  obtain ⟨eligible, fresh⟩ := window
  unfold expiry at fresh
  simp only [intervalMs, minuteMs, graceMs, completionGraceMinutes] at *
  split at fresh <;> constructor <;> omega

theorem TradingDay.exists_window (after : session.openAt + intervalMs + graceMs ≤ now) (before : now < session.closeAt) :
    ∃ index, 1 ≤ index ∧ index ≤ count ∧ InWindow session count index now := by
  have closes := day.closeAt
  have elapsed : 0 ≤ now - session.openAt - graceMs := by
    simp only [intervalMs, minuteMs, graceMs, completionGraceMinutes] at *
    omega
  generalize quotient : (now - session.openAt - graceMs) / intervalMs = intervals
  have reached : 1 ≤ intervals := by
    simp only [intervalMs, minuteMs, graceMs, completionGraceMinutes] at *
    omega
  by_cases final : (count : Int) ≤ intervals
  · refine ⟨count, ?_, Nat.le_refl count, ?_, ?_⟩
    · simp only [intervalMs, minuteMs, graceMs, completionGraceMinutes] at *
      omega
    · simp only [intervalMs, minuteMs, graceMs, completionGraceMinutes] at *
      omega
    · unfold expiry
      rw [if_neg (Nat.lt_irrefl count)]
      exact before
  · refine ⟨intervals.toNat, ?_, ?_, ?_, ?_⟩
    · simp only [intervalMs, minuteMs, graceMs, completionGraceMinutes] at *
      omega
    · omega
    · simp only [intervalMs, minuteMs, graceMs, completionGraceMinutes] at *
      omega
    · unfold expiry
      rw [if_pos (by omega)]
      simp only [intervalMs, minuteMs, graceMs, completionGraceMinutes] at *
      omega

theorem TradingDay.window_unique {first second : Nat}
    (firstBounded : first ≤ count) (secondBounded : second ≤ count) (firstWindow : InWindow session count first now)
    (secondWindow : InWindow session count second now) : first = second := by
  have closes := day.closeAt
  obtain ⟨firstEligible, firstFresh⟩ := firstWindow
  obtain ⟨secondEligible, secondFresh⟩ := secondWindow
  unfold expiry at firstFresh secondFresh
  simp only [intervalMs, minuteMs, graceMs, completionGraceMinutes] at *
  split at firstFresh <;> split at secondFresh <;> omega

theorem TradingDay.etDate_eq (after : session.openAt ≤ now)
    (before : now < session.closeAt) : etDate daylight now = date := by
  have opens := day.openAt_bounds
  have closes := day.closeAt
  have few := day.bounded
  have here := etDate_bounds daylight now
  simp only [intervalMs, dayMs, minuteMs] at *
  omega

end

/-- The date of a current target is the date of the instant. -/
theorem IsCurrent.tradingDay (aligned : Aligned exceptions) {target : IntradayTarget}
    (current : IsCurrent daylight exceptions now target) :
    ∃ session count, TradingDay daylight exceptions target.date session count ∧ 1 ≤ target.index ∧ target.index ≤ count ∧
      InWindow session count target.index now ∧ target = targetOf target.date session count target.index := by
  rcases aligned.date_cases daylight target.date with ⟨_, untargeted⟩ | ⟨session, count, day⟩
  · obtain ⟨session, count, listed, _⟩ := current
    rw [untargeted] at listed
    cases listed
  · exact ⟨session, count, day, (day.isCurrent_iff rfl).mp current⟩

theorem IsCurrent.unique (aligned : Aligned exceptions) {first second : IntradayTarget}
    (firstCurrent : IsCurrent daylight exceptions now first) (secondCurrent : IsCurrent daylight exceptions now second) :
    first = second := by
  obtain ⟨session, count, day, positive, bounded, window, shape⟩ := firstCurrent.tradingDay aligned
  obtain ⟨otherSession, otherCount, otherDay, otherPositive, otherBounded, otherWindow, otherShape⟩ :=
    secondCurrent.tradingDay aligned
  have inside := day.inSession positive bounded window
  have otherInside := otherDay.inSession otherPositive otherBounded otherWindow
  have grace : 0 ≤ intervalMs + graceMs := by decide
  have here := day.etDate_eq (by omega) inside.2
  have there := otherDay.etDate_eq (by omega) otherInside.2
  have same : first.date = second.date := here.symm.trans there
  rw [← same] at otherDay otherShape
  have listed := day.listed.symm.trans otherDay.listed
  cases listed
  have index := day.window_unique bounded otherBounded window otherWindow
  rw [shape, otherShape, index]

end Currentness

/-- With early closes on an interval, a fresh target is returned exactly within the sessions and is the one current target,
and the windows of a session tile it from the first eligibility to the close. -/
theorem latestIntradayStressAssessmentTarget_tiles {exceptions : List CalendarException} (aligned : Aligned exceptions)
    (daylight : Int → Bool) (now : Int) :
    ∃ result, latestIntradayStressAssessmentTarget daylight exceptions now true = .ok result ∧
      (result.isSome ↔ ∃ date session, marketSession daylight exceptions date = .ok (some session) ∧
        session.openAt + intervalMs + graceMs ≤ now ∧ now < session.closeAt) ∧
      (∀ target, result = some target ↔ IsCurrent daylight exceptions now target) ∧
      (∀ target, IsCurrent daylight exceptions now target → ∃ session,
        marketSession daylight exceptions target.date = .ok (some session) ∧ session.openAt ≤ now ∧ now < session.closeAt) ∧
      ∀ date session count, actionableTargets daylight exceptions date = .ok (some (session, count)) →
        ∃ eligibleAt : Nat → Int,
          (∀ index, 1 ≤ index → index ≤ count → ∃ status, barEligibility daylight exceptions .minute15
            (session.openAt + index * intervalMs - intervalMs) now = .ok (status, some (eligibleAt index))) ∧
          eligibleAt 1 = session.openAt + intervalMs + graceMs ∧
          (∀ index, index < count → validUntilFor daylight exceptions date index = .ok (eligibleAt (index + 1))) ∧
          validUntilFor daylight exceptions date count = .ok session.closeAt := by
  obtain ⟨result, walked, found, missed⟩ := walkDates_spec aligned daylight now (etDate daylight now)
    ((List.range 11).map fun back => (back : Int))
  have grace : 0 ≤ intervalMs + graceMs := by decide
  have complete : ∀ target, IsCurrent daylight exceptions now target → result = some target := by
    intro target current
    cases returned : result with
    | some other => rw [(found other returned).unique aligned current]
    | none =>
      obtain ⟨session, count, day, positive, bounded, window, _⟩ := current.tradingDay aligned
      have inside := day.inSession positive bounded window
      have here := day.etDate_eq (by omega) inside.2
      exact absurd current (missed returned 0 (by decide) target (by omega))
  refine ⟨result, walked, ⟨fun returned => ?_, fun open_ => ?_⟩, fun target => ⟨found target, complete target⟩,
    fun target current => ?_, fun date session count listed => ?_⟩
  · obtain ⟨target, same⟩ := Option.isSome_iff_exists.mp returned
    obtain ⟨session, count, day, positive, bounded, window, _⟩ := (found target same).tradingDay aligned
    exact ⟨target.date, session, day.open_, day.inSession positive bounded window⟩
  · obtain ⟨date, session, opened, after, before⟩ := open_
    rcases aligned.date_cases daylight date with ⟨closed, _⟩ | ⟨other, count, day⟩
    · rw [opened] at closed
      cases closed
    · have same := opened.symm.trans day.open_
      cases same
      obtain ⟨index, positive, bounded, window⟩ := day.exists_window after before
      have current : IsCurrent daylight exceptions now (targetOf date session count index) :=
        (day.isCurrent_iff rfl).mpr ⟨positive, bounded, window, rfl⟩
      rw [complete _ current]
      rfl
  · obtain ⟨session, count, day, positive, bounded, window, _⟩ := current.tradingDay aligned
    have inside := day.inSession positive bounded window
    exact ⟨session, day.open_, by omega, inside.2⟩
  · rcases aligned.date_cases daylight date with ⟨_, untargeted⟩ | ⟨other, otherCount, day⟩
    · rw [listed] at untargeted
      cases untargeted
    · have same := listed.symm.trans day.listed
      cases same
      refine ⟨fun index => session.openAt + index * intervalMs + graceMs, fun index positive bounded =>
        ⟨_, day.barEligibility positive bounded now⟩, ?_, fun index before => ?_, ?_⟩
      · have first : ((1 : Nat) : Int) * intervalMs = intervalMs := Int.one_mul intervalMs
        simp only [first]
      · rw [day.validUntilFor, expiry, if_pos before]
        push_cast
        rfl
      · rw [day.validUntilFor, expiry, if_neg (Nat.lt_irrefl count)]

/-- New York observes daylight time from 2026-03-08 to 2026-10-31. -/
def daylight2026 (date : Int) : Bool := decide (20520 ≤ date ∧ date < 20758)

/-- The early close of 2026-11-27 at 13:00. -/
def thanksgiving : List CalendarException := [⟨20784, .earlyClose, some 780⟩]

/-- At 12:55 on the early close the thirteenth target is current until the close. -/
theorem latestIntradayStressAssessmentTarget_tiles_earlyClose :
    latestIntradayStressAssessmentTarget daylight2026 thanksgiving 1795802100000 true =
      .ok (some ⟨20784, 13, 1795801500000, 1795802400000⟩) := by
  have aligned : Aligned thanksgiving := by
    intro row member early
    rw [List.mem_singleton.mp member]
    exact ⟨780, rfl, by decide, by decide, by decide⟩
  obtain ⟨result, returned, _, current, _⟩ :=
    latestIntradayStressAssessmentTarget_tiles aligned daylight2026 1795802100000
  have listed : actionableTargets daylight2026 thanksgiving 20784 =
      .ok (some (⟨20784, 1795789800000, 1795802400000, 780⟩, 13)) := by decide +kernel
  have eligible : barEligibility daylight2026 thanksgiving .minute15 (1795801500000 - intervalMs) 1795802100000 =
      .ok (.eligible, some 1795801800000) := by decide +kernel
  have valid : validUntilFor daylight2026 thanksgiving 20784 13 = .ok 1795802400000 := by decide +kernel
  rw [returned, (current ⟨20784, 13, 1795801500000, 1795802400000⟩).mpr ⟨_, 13, listed, by decide, by decide, by decide,
    ⟨_, eligible⟩, valid, by decide⟩]

/-- An early close at 11:40 lies on no interval, and the search throws. -/
theorem misaligned_earlyClose_throws : ¬ ∀ (exceptions : List CalendarException) (daylight : Int → Bool) (now : Int),
    ∃ result, latestIntradayStressAssessmentTarget daylight exceptions now true = .ok result ∧
      (result.isSome ↔ ∃ date session, marketSession daylight exceptions date = .ok (some session) ∧
        session.openAt + intervalMs + graceMs ≤ now ∧ now < session.closeAt) := by
  intro total
  obtain ⟨result, returned, _⟩ := total [⟨20784, .earlyClose, some 700⟩] daylight2026 1795802100000
  have thrown : latestIntradayStressAssessmentTarget daylight2026 [⟨20784, .earlyClose, some 700⟩] 1795802100000 true =
      .error .sessionNotAligned := by decide +kernel
  rw [thrown] at returned
  cases returned

end AiTrader.Market
