import AiTrader.Library.JsNumber
import AiTrader.Library.Replay
import AiTrader.Market.IntradayTargets

/-! # The intraday stress of a session

A target depends on the bars up to it and is valid only if all are there; the effective state worsens at once and recovers
after two supporting targets. -/

namespace AiTrader.Market

open Library

inductive IntradayStressState where
  | normal | elevated | high | severe
deriving DecidableEq

/-- `INTRADAY_STRESS_SEVERITY` -/
def IntradayStressState.severity : IntradayStressState → Nat
  | .normal => 0
  | .elevated => 1
  | .high => 2
  | .severe => 3

/-- `INTRADAY_STRESS_STATES` by index. -/
def intradayStressState : Nat → IntradayStressState
  | 0 => .normal
  | 1 => .elevated
  | 2 => .high
  | _ => .severe

def marketRawState (spy rsp : IntradayStressState) : IntradayStressState :=
  intradayStressState (max spy.severity rsp.severity)

inductive IntradayStressIssue where
  | missingInvalidOrDuplicateBar | missingReference | incompleteSessionPrefix | priorAtrUnavailable
  | rollingContinuityFailure
deriving DecidableEq

/-- The errors of the calculation. -/
inductive StressError where
  | calendar (error : CalendarError)
  | expectedOpenSession | barOutsideSession | invalidTrueRange | invalidContinuation
  /-- A target that was not measured is read. -/
  | missingTarget
deriving DecidableEq

def StressError.message : StressError → String
  | .calendar error => error.message
  | .expectedOpenSession => "Expected an open regular session."
  | .barOutsideSession => "Bar outside session or misaligned to a 15-minute interval."
  | .invalidTrueRange => "Invalid true-range inputs."
  | .invalidContinuation => "Invalid hysteresis continuation."
  | .missingTarget => "Cannot read properties of undefined"

section Bars

variable {N : Type} [JsNumber N]

open JsNumber

structure IntradayStressBar (N : Type) where
  barStartAtMs : Int
  (open_ high low close volume : N)
deriving DecidableEq

/-- `Number.MAX_SAFE_INTEGER` -/
def maxSafeInteger : Int := 9007199254740991

def validIntradayBar (bar : IntradayStressBar N) : Bool :=
  [bar.open_, bar.high, bar.low, bar.close].all finitePositive && isFinite bar.volume && le (number 0) bar.volume &&
    decide (-maxSafeInteger ≤ bar.barStartAtMs ∧ bar.barStartAtMs ≤ maxSafeInteger) &&
    le bar.low (min bar.open_ bar.close) && le (max bar.open_ bar.close) bar.high && le bar.low bar.high

def trueRange (high low previousClose : N) : Except StressError N :=
  if ¬ [high, low, previousClose].all finitePositive ∨ lt high low then .error .invalidTrueRange
  else .ok (max (max (high - low) (abs (high - previousClose))) (abs (low - previousClose)))

end Bars

section Targets

/-- A collapse that was triggered, and why. -/
structure Collapse where
  triggered : Bool
  reason : Option String
deriving DecidableEq

structure IntradayStressComponentStates where
  shockState : IntradayStressState
  /-- `none` during the warm-up of the session. -/
  rollingState : Option IntradayStressState
  drawdownState : IntradayStressState
  (acuteCloseDownside sessionDrawdown : Bool)
  (acuteCollapse sessionCollapse : Collapse)
deriving DecidableEq

inductive RollingStatus where
  | valid | notApplicableSessionWarmup | unavailable
deriving DecidableEq

structure IntradayStressTarget (N : Type) where
  date : Int
  index : Nat
  targetAt : Int
  /-- A target without issues is VALID. -/
  issues : List IntradayStressIssue
  priorAtr14Pct : Option N
  interval : Option (IntradayStressBar N)
  (referencePrice shockPct shockAtrRatio downsideExcursionPct downsideExcursionAtrRatio : Option N)
  (acuteCloseDownsidePct acuteCloseDownsideAtrRatio : Option N)
  rollingStatus : RollingStatus
  rollingReturns : Option (List (Option N))
  (realizedMovement60Pct realizedMovement60AtrRatio sessionOpen sessionPeak currentClose : Option N)
  (sessionDrawdownPct sessionDrawdownAtrRatio : Option N)
  componentStates : Option IntradayStressComponentStates
  (instrumentGeneralState instrumentRawState : Option IntradayStressState)
deriving DecidableEq

variable {N : Type} [JsNumber N]

open JsNumber

/-- A rule under which a fall is a collapse. -/
structure CollapseRule where
  (ratio floor emergency : ℚ)

def acuteCollapseRule : CollapseRule := ⟨120 / 100, 2 / 100, 3 / 100⟩

def sessionCollapseRule : CollapseRule := ⟨250 / 100, 25 / 1000, 4 / 100⟩

/-- `collapses` -/
def collapses (ratio absolute : Option N) (rule : CollapseRule) : Bool :=
  match ratio, absolute with
  | some ratio, some absolute =>
    (le (number rule.ratio) ratio && le (number rule.floor) absolute) || le (number rule.emergency) absolute
  | _, _ => false

/-- The collapse with its reason. -/
def collapse (ratio absolute : Option N) (rule : CollapseRule) (emergency normalized : String) : Collapse :=
  let triggered := collapses ratio absolute rule
  { triggered
    reason := if ¬ triggered then none
      else if absolute.any (le (number rule.emergency)) then some emergency else some normalized }

/-- `ladder` -/
def ladder (value : Option N) (bounds : List ℚ) : Nat :=
  match value with
  | none => 0
  | some value => (bounds.filter fun bound => le (number bound) value).length

/-- The states of a target without issues. -/
def classify (target : IntradayStressTarget N) (rollingApplicable : Bool) : IntradayStressTarget N :=
  let shockLadder := ladder target.shockAtrRatio [40 / 100, 70 / 100]
  let rollingLadder := ladder target.realizedMovement60AtrRatio [45 / 100, 80 / 100]
  let drawdownLadder := ladder target.sessionDrawdownAtrRatio [1, 175 / 100]
  let acuteHighTrigger := target.acuteCloseDownsidePct.any (le (number (1 / 100)))
  let sessionHighTrigger := target.sessionDrawdownPct.any (le (number (25 / 1000)))
  let general := intradayStressState (max (max (max shockLadder rollingLadder) drawdownLadder)
    (if acuteHighTrigger || sessionHighTrigger then 2 else 0))
  let acute := collapse target.acuteCloseDownsideAtrRatio target.acuteCloseDownsidePct acuteCollapseRule
    "EMERGENCY_3PCT_ACUTE_CLOSE_DOWNSIDE" "NORMALIZED_1_2ATR_AND_2PCT_FLOOR"
  let session := collapse target.sessionDrawdownAtrRatio target.sessionDrawdownPct sessionCollapseRule
    "EMERGENCY_4PCT_SESSION_DRAWDOWN" "NORMALIZED_2_5ATR_AND_2_5PCT_FLOOR"
  if target.issues ≠ [] then target
  else { target with
    componentStates := some
      { shockState := intradayStressState shockLadder
        rollingState := if rollingApplicable then some (intradayStressState rollingLadder) else none
        drawdownState := intradayStressState drawdownLadder
        acuteCloseDownside := acuteHighTrigger
        sessionDrawdown := sessionHighTrigger
        acuteCollapse := acute
        sessionCollapse := session }
    instrumentGeneralState := some general
    instrumentRawState := some (if acute.triggered || session.triggered then .severe else general) }

end Targets

section Measurement

variable {N : Type} [JsNumber N]

open JsNumber

/-- What the measurement remembers of the bars before. -/
structure SessionProgress (N : Type) where
  index : Nat
  (reference peak : Option N)
  prefixComplete : Bool
  returns : List (Option N)

/-- What the next bar finds. -/
def SessionProgress.next (progress : SessionProgress N) (bar : Option (IntradayStressBar N)) : SessionProgress N where
  index := progress.index + 1
  reference := bar.map (·.close)
  peak := match progress.peak, bar with
    | some peak, some bar => some (max peak bar.high)
    | peak, _ => peak
  prefixComplete := progress.prefixComplete && bar.isSome
  returns := progress.returns ++
    [match bar, progress.reference.filter truthy with
      | some bar, some reference => some (bar.close / reference - number 1)
      | _, _ => none]

/-- The true range against the reference, as far as both are there. -/
def SessionProgress.trueRange (progress : SessionProgress N) (bar : Option (IntradayStressBar N)) :
    Except StressError (Option N) :=
  match bar, progress.reference.filter truthy with
  | some bar, some reference =>
    match Market.trueRange bar.high bar.low reference with
    | .error error => .error error
    | .ok range => .ok (some (range / reference))
  | _, _ => .ok none

/-- Why a target is unavailable. -/
def SessionProgress.issues (progress : SessionProgress N) (bar : Option (IntradayStressBar N)) (baseline : Option N)
    (discontinuous : Bool) : List IntradayStressIssue :=
  (if bar.isNone then [.missingInvalidOrDuplicateBar] else []) ++
    (if progress.reference.isNone then [.missingReference] else []) ++
    (if (progress.next bar).prefixComplete then [] else [.incompleteSessionPrefix]) ++
    (if baseline.isNone then [.priorAtrUnavailable] else []) ++
    (if discontinuous then [.rollingContinuityFailure] else [])

/-- The target that a bar ends. -/
def targetOfBar (date openAt : Int) (baseline sessionOpen : Option N) (progress : SessionProgress N)
    (bar : Option (IntradayStressBar N)) (shockPct : Option N) : IntradayStressTarget N :=
  let after := progress.next bar
  let ratio : Option N → Option N := fun value =>
    match value, baseline with
    | some value, some baseline => some (value / baseline)
    | _, _ => none
  let downsideExcursionPct := match bar, progress.reference.filter truthy with
    | some bar, some reference => some (max (number 0) (reference - bar.low) / reference)
    | _, _ => none
  let window := after.returns.drop (after.returns.length - 4)
  let rollingApplicable := decide (3 ≤ progress.index)
  let realizedMovement60Pct := if ¬ rollingApplicable then none
    else (window.mapM id).map fun returns => sqrt (returns.foldl (fun sum x => sum + square x) (number 0))
  let sessionDrawdownPct := if ¬ after.prefixComplete then none
    else match bar, after.peak.filter truthy with
      | some bar, some peak => some (max (number 0) (peak - bar.close) / peak)
      | _, _ => none
  let acuteCloseDownsidePct := match progress.reference, bar with
    | some reference, some bar => some (max (number 0) (reference - bar.close) / reference)
    | _, _ => none
  classify
    { date
      index := progress.index + 1
      targetAt := openAt + (progress.index + 1) * intervalMs
      issues := progress.issues bar baseline (rollingApplicable && realizedMovement60Pct.isNone)
      priorAtr14Pct := baseline
      interval := bar
      referencePrice := progress.reference
      shockPct
      shockAtrRatio := ratio shockPct
      downsideExcursionPct
      downsideExcursionAtrRatio := ratio downsideExcursionPct
      acuteCloseDownsidePct
      acuteCloseDownsideAtrRatio := ratio acuteCloseDownsidePct
      rollingStatus := if ¬ rollingApplicable then .notApplicableSessionWarmup
        else if realizedMovement60Pct.isNone then .unavailable else .valid
      rollingReturns := if rollingApplicable then some window else none
      realizedMovement60Pct
      realizedMovement60AtrRatio := ratio realizedMovement60Pct
      sessionOpen
      sessionPeak := if after.prefixComplete then after.peak else none
      currentClose := bar.map (·.close)
      sessionDrawdownPct
      sessionDrawdownAtrRatio := ratio sessionDrawdownPct
      componentStates := none
      instrumentGeneralState := none
      instrumentRawState := none } rollingApplicable

/-- One bar of the session. -/
def measureTarget (date openAt : Int) (baseline sessionOpen : Option N) (progress : SessionProgress N)
    (bar : Option (IntradayStressBar N)) : Except StressError (SessionProgress N × IntradayStressTarget N) :=
  match progress.trueRange bar with
  | .error error => .error error
  | .ok shockPct => .ok (progress.next bar, targetOfBar date openAt baseline sessionOpen progress bar shockPct)

/-- The bar with an index, if it is valid and no duplicate. -/
def alignedBar (openAt : Int) (bars : List (IntradayStressBar N)) (index : Nat) :
    Option (IntradayStressBar N) :=
  match bars.filter fun bar => bar.barStartAtMs == openAt + index * intervalMs with
  | [bar] => if validIntradayBar bar then some bar else none
  | _ => none

/-- The targets of the aligned bars. -/
def measureAligned (date openAt : Int) (baseline : Option N)
    (aligned : List (Option (IntradayStressBar N))) : Except StressError (List (IntradayStressTarget N)) :=
  let sessionOpen := aligned.head?.join.map (·.open_)
  emit (measureTarget date openAt baseline sessionOpen) ⟨0, sessionOpen, sessionOpen, true, []⟩ aligned

/-- A bar that starts outside the session or off its intervals. -/
def outsideSession (session : MarketSession) (bar : IntradayStressBar N) : Bool :=
  decide (bar.barStartAtMs < session.openAt ∨ session.closeAt ≤ bar.barStartAtMs ∨
    (bar.barStartAtMs - session.openAt) % intervalMs ≠ 0)

/-- Every bar stored for the session is measured; the interval that ends at the close has no target. -/
def measureIntradaySession (daylight : Int → Bool) (exceptions : List CalendarException) (date : Int)
    (bars : List (IntradayStressBar N)) (priorAtr14Pct : Option N) :
    Except StressError (List (IntradayStressTarget N)) :=
  match marketSession daylight exceptions date with
  | .error error => .error (.calendar error)
  | .ok none => .error .expectedOpenSession
  | .ok (some session) =>
    let length := session.closeAt - session.openAt
    if length % intervalMs ≠ 0 then .error (.calendar .sessionNotAligned)
    else if bars.any (outsideSession session) then .error .barOutsideSession
    else measureAligned date session.openAt (priorAtr14Pct.filter finitePositive)
      ((List.range (length / intervalMs - 1).toNat).map (alignedBar session.openAt bars))

end Measurement

structure IntradayStressHistory where
  effectiveState : Option IntradayStressState
  confirmation : Nat
deriving DecidableEq

structure IntradayStressTransition where
  (previousEffectiveState rawState : Option IntradayStressState)
  confirmationBefore : Nat
  recoveryTarget : Option IntradayStressState
  confirmationAfter : Nat
  effectiveState : Option IntradayStressState
  transitioned : Bool
deriving DecidableEq

/-- What the next target continues from. -/
def IntradayStressTransition.history (transition : IntradayStressTransition) : IntradayStressHistory :=
  ⟨transition.effectiveState, transition.confirmationAfter⟩

/-- Before the first target of a session. -/
def IntradayStressHistory.start : IntradayStressHistory := ⟨none, 0⟩

def advanceIntradayStress (previous : IntradayStressHistory) (raw : Option IntradayStressState) :
    Except StressError IntradayStressTransition :=
  if 1 < previous.confirmation ∨ (previous.effectiveState = none ∧ previous.confirmation ≠ 0) then
    .error .invalidContinuation
  else
    let target := previous.effectiveState.bind fun before =>
      if before = .normal then none else some (intradayStressState (before.severity - 1))
    let base : IntradayStressTransition :=
      ⟨previous.effectiveState, raw, previous.confirmation, target, 0, previous.effectiveState, false⟩
    match raw, previous.effectiveState with
    | none, _ => .ok base
    | some raw, none => .ok { base with effectiveState := some raw }
    | some raw, some before =>
      if before.severity < raw.severity then .ok { base with effectiveState := some raw, transitioned := true }
      else if raw = before then .ok base
      else if previous.confirmation = 1 then .ok { base with effectiveState := target, transitioned := true }
      else .ok { base with confirmationAfter := 1 }

/-- The market raw state of two targets, if both are valid. -/
def marketRaw {N : Type} (spy rsp : IntradayStressTarget N) : Option IntradayStressState :=
  if spy.issues = [] ∧ rsp.issues = [] then
    match spy.instrumentRawState, rsp.instrumentRawState with
    | some spyState, some rspState => some (marketRawState spyState rspState)
    | _, _ => none
  else none

/-- One replay of the first targets of a session. -/
def replayIntradayStress {N : Type} (spy rsp : List (IntradayStressTarget N)) (count : Nat) :
    Except StressError IntradayStressHistory :=
  ((List.zipWith marketRaw spy rsp).take count).foldlM
    (fun history raw => (advanceIntradayStress history raw).map (·.history)) .start

section Completeness

variable {N : Type} [JsNumber N] {date openAt : Int} {baseline sessionOpen : Option N} {progress next : SessionProgress N}
  {bar : Option (IntradayStressBar N)} {target : IntradayStressTarget N}
  {aligned : List (Option (IntradayStressBar N))} {targets : List (IntradayStressTarget N)}

open JsNumber

theorem classify_issues (target : IntradayStressTarget N) (rollingApplicable : Bool) :
    (classify target rollingApplicable).issues = target.issues := by
  unfold classify
  split <;> rfl

theorem prefixComplete_of_issues {discontinuous : Bool} (complete : progress.issues bar baseline discontinuous = []) :
    (progress.next bar).prefixComplete = true ∧ baseline.isSome := by
  unfold SessionProgress.issues at complete
  simp only [List.append_eq_nil_iff] at complete
  obtain ⟨⟨⟨_, prefixed⟩, based⟩, _⟩ := complete
  constructor
  · by_contra incomplete
    simp [incomplete] at prefixed
  · cases baseline with
    | none => simp at based
    | some value => rfl

theorem measureTarget_cases (measured : measureTarget date openAt baseline sessionOpen progress bar = .ok (next, target)) :
    next = progress.next bar ∧ ∃ shockPct, target = targetOfBar date openAt baseline sessionOpen progress bar shockPct := by
  unfold measureTarget at measured
  split at measured
  case h_1 => cases measured
  case h_2 shockPct _ =>
    cases measured
    exact ⟨rfl, shockPct, rfl⟩

/-- A valid target has all bars up to it. -/
theorem bars_of_valid {index : Nat} (measured : measureAligned date openAt baseline aligned = .ok targets)
    (found : targets[index]? = some target) (valid : target.issues = []) :
    ∀ bar ∈ aligned.take (index + 1), bar.isSome := by
  have needs : ∀ progress bar next target,
      measureTarget date openAt baseline (aligned.head?.join.map (·.open_)) progress bar = .ok (next, target) →
      (target.issues = [] → next.prefixComplete = true) ∧
        (next.prefixComplete = true → progress.prefixComplete = true ∧ bar.isSome = true) := by
    intro progress bar next target stepped
    obtain ⟨rfl, shockPct, rfl⟩ := measureTarget_cases stepped
    constructor
    · intro complete
      unfold targetOfBar at complete
      rw [classify_issues] at complete
      exact (prefixComplete_of_issues complete).1
    · intro complete
      exact Bool.and_eq_true_iff.mp complete
  exact (emit_needs needs measured found valid).2

theorem measureAligned_take {count : Nat} (some_ : 1 ≤ count) (measured : measureAligned date openAt baseline aligned = .ok targets) :
    measureAligned date openAt baseline (aligned.take count) = .ok (targets.take count) := by
  have same : (aligned.take count).head? = aligned.head? := by
    rw [List.head?_take, if_neg (by omega)]
  unfold measureAligned at measured ⊢
  dsimp only at measured ⊢
  rw [same]
  exact emit_take count measured

/-- What the measurement needs of a valid bar. -/
structure SoundBar (bar : IntradayStressBar N) : Prop where
  open_ : finitePositive bar.open_ = true
  high : finitePositive bar.high = true
  low : finitePositive bar.low = true
  close : finitePositive bar.close = true
  ordered : le bar.low bar.high = true

theorem soundBar_of_valid {bar : IntradayStressBar N} (valid : validIntradayBar bar = true) : SoundBar bar := by
  simp only [validIntradayBar, List.all_cons, List.all_nil, Bool.and_eq_true] at valid
  obtain ⟨⟨⟨⟨⟨⟨⟨opens, high, low, close, _⟩, _⟩, _⟩, _⟩, _⟩, _⟩, ordered⟩ := valid
  exact ⟨opens, high, low, close, ordered⟩

theorem trueRange_ok {bar : IntradayStressBar N} {reference : N} (sound : SoundBar bar)
    (positive : finitePositive reference = true) : ∃ range, trueRange bar.high bar.low reference = .ok range := by
  unfold trueRange
  rw [if_neg]
  · exact ⟨_, rfl⟩
  · simp [sound.high, sound.low, positive, lt, sound.ordered]

/-- Valid bars are always measured. -/
theorem measureAligned_total (valid : ∀ bar, some bar ∈ aligned → validIntradayBar bar = true) :
    ∃ targets, measureAligned date openAt baseline aligned = .ok targets := by
  have total : ∀ (progress : SessionProgress N) (bar : Option (IntradayStressBar N)),
      (∀ reference, progress.reference = some reference → finitePositive reference = true) →
      (∀ given, bar = some given → validIntradayBar given = true) →
      ∃ next target, measureTarget date openAt baseline (aligned.head?.join.map (·.open_)) progress bar =
        .ok (next, target) ∧ ∀ reference, next.reference = some reference → finitePositive reference = true := by
    intro progress bar positive given
    have ranged : ∃ shockPct, progress.trueRange bar = .ok shockPct := by
      unfold SessionProgress.trueRange
      split
      case h_1 bar reference found =>
        obtain ⟨range, ranged⟩ := trueRange_ok (soundBar_of_valid (given bar rfl)) (positive reference (Option.eq_some_of_filter_eq_some found))
        rw [ranged]
        exact ⟨_, rfl⟩
      case h_2 => exact ⟨none, rfl⟩
    obtain ⟨shockPct, ranged⟩ := ranged
    refine ⟨progress.next bar,
      targetOfBar date openAt baseline (aligned.head?.join.map (·.open_)) progress bar shockPct, ?_, ?_⟩
    · unfold measureTarget
      rw [ranged]
    · intro reference found
      obtain ⟨bar, rfl, rfl⟩ := Option.map_eq_some_iff.mp found
      exact (soundBar_of_valid (given bar rfl)).close
  refine emit_total total ?_ fun bar member given same => valid given (same ▸ member)
  intro reference found
  obtain ⟨bar, first, rfl⟩ := Option.map_eq_some_iff.mp found
  refine (soundBar_of_valid (valid bar ?_)).open_
  cases aligned with
  | nil => cases first
  | cons head rest =>
    have same : head = some bar := first
    exact same ▸ List.mem_cons_self

variable {bars part : List (IntradayStressBar N)} {found : IntradayStressBar N} {index : Nat}

theorem alignedBar_some (aligned : alignedBar openAt bars index = some found) :
    found ∈ bars ∧ found.barStartAtMs = openAt + index * intervalMs ∧ validIntradayBar found = true := by
  unfold alignedBar at aligned
  split at aligned
  case h_2 => cases aligned
  case h_1 bar only =>
    split at aligned
    case isFalse => cases aligned
    case isTrue valid =>
      cases aligned
      have listed : found ∈ bars.filter fun bar => bar.barStartAtMs == openAt + index * intervalMs := by
        rw [only]
        exact List.mem_singleton_self _
      obtain ⟨member, starts⟩ := List.mem_filter.mp listed
      exact ⟨member, by simpa using starts, valid⟩

theorem alignedBar_eq_some (only : bars.filter (fun bar => bar.barStartAtMs == openAt + index * intervalMs) = [found])
    (valid : validIntradayBar found = true) : alignedBar openAt bars index = some found := by
  unfold alignedBar
  rw [only]
  simp [valid]

theorem map_alignedBar_congr {count : Nat}
    (same : ∀ index < count, alignedBar openAt part index = alignedBar openAt bars index) :
    (List.range count).map (alignedBar openAt part) = (List.range count).map (alignedBar openAt bars) :=
  List.map_congr_left fun index member => same index (List.mem_range.mp member)

end Completeness

section Recovery

variable {history : IntradayStressHistory} {raw : IntradayStressState} {transition : IntradayStressTransition}

/-- A valid target always has an effective state. -/
theorem advanceIntradayStress_some (advanced : advanceIntradayStress history (some raw) = .ok transition) :
    transition.effectiveState.isSome := by
  unfold advanceIntradayStress at advanced
  split at advanced
  · cases advanced
  · dsimp only at advanced
    split at advanced
    case h_1 absent => exact absurd absent (by simp)
    case h_2 =>
      cases advanced
      rfl
    case h_3 given before same known =>
      cases same
      split at advanced
      · cases advanced
        rfl
      case isFalse notWorse =>
        split at advanced
        · cases advanced
          rw [known]
          rfl
        case isFalse differs =>
          split at advanced
          · cases advanced
            have recovering : before ≠ .normal := by
              rintro rfl
              cases raw <;> simp_all [IntradayStressState.severity]
            simp [known, recovering]
          · cases advanced
            rw [known]
            rfl

/-- A replay of one more target advances the replay before. -/
theorem replayIntradayStress_succ {N : Type} {spy rsp : List (IntradayStressTarget N)} {spyTarget rspTarget : IntradayStressTarget N}
    {count : Nat} (replayed : replayIntradayStress spy rsp count = .ok history) (first : spy[count]? = some spyTarget)
    (second : rsp[count]? = some rspTarget) :
    replayIntradayStress spy rsp (count + 1) =
      (advanceIntradayStress history (marketRaw spyTarget rspTarget)).map (·.history) := by
  have found : (List.zipWith marketRaw spy rsp)[count]? = some (marketRaw spyTarget rspTarget) := by
    rw [List.getElem?_zipWith, first, second]
  unfold replayIntradayStress at replayed ⊢
  rw [List.take_add_one, found, Option.toList_some, List.foldlM_append, replayed]
  simp only [List.foldlM_cons, List.foldlM_nil, bind_pure]
  rfl

theorem replayIntradayStress_take {N : Type} (spy rsp : List (IntradayStressTarget N)) (count : Nat) :
    replayIntradayStress (spy.take count) (rsp.take count) count = replayIntradayStress spy rsp count := by
  unfold replayIntradayStress
  rw [← List.take_zipWith, List.take_take, Nat.min_self]

end Recovery

end AiTrader.Market
