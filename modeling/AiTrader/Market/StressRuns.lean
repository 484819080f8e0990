import AiTrader.Market.StressReplay

/-! # Runs of the stress publications

Publications hold the lock one after the other; bars, securities and calendar edits come in between. -/

namespace AiTrader.Market

open Library Library.Program Table Interleaving

variable {daylight : Int → Bool} {Fingerprint N : Type}

section Invariant

variable [JsNumber N] {store after : StressStore N Fingerprint}

/-- A VALID assessment stands at its target and publishes what its bars reproduce. -/
structure Published (daylight : Int → Bool) (store : StressStore N Fingerprint)
    (assessment : StressAssessment N Fingerprint) : Prop where
  positive : 1 ≤ assessment.evidence.index
  bounded : assessment.evidence.index ≤ 25
  targetAt : assessment.targetAt = openOf daylight assessment.sessionDate + assessment.evidence.index * intervalMs
  effective : assessment.effectiveState.isSome ∧ assessment.evidence.effectiveState = assessment.effectiveState
  reproduced : Reproduced store daylight assessment.sessionDate assessment.evidence.index assessment.evidence.baseline
    ⟨assessment.effectiveState, assessment.evidence.confirmationAfter⟩

/-- Bars are unique and on an interval, and every VALID assessment is that of its session's one replay. -/
structure Faithful (daylight : Int → Bool) (store : StressStore N Fingerprint) : Prop where
  unique : Unique MinuteBarRow.interval store.bars
  onInterval : ∀ row ∈ store.bars, OnInterval daylight row.barStartAt
  published : ∀ assessment ∈ store.valid, Published daylight store assessment
  frozen : ∀ first ∈ store.valid, ∀ second ∈ store.valid, first.sessionDate = second.sessionDate →
    first.evidence.baseline = second.evidence.baseline

theorem Published.grown {assessment : StressAssessment N Fingerprint} (published : Published daylight store assessment)
    (grown : Grown store after) (unique : Unique MinuteBarRow.interval after.bars) :
    Published daylight after assessment :=
  ⟨published.positive, published.bounded, published.targetAt, published.effective,
    published.reproduced.grown grown unique⟩

/-- Whoever holds no lock adds bars and securities and leaves the assessments. -/
structure Beside (store after : StressStore N Fingerprint) : Prop extends Grown store after where
  assessments : after.assessments = store.assessments

omit [JsNumber N] in
theorem Beside.refl (store : StressStore N Fingerprint) : Beside store store := ⟨Grown.refl store, rfl⟩

omit [JsNumber N] in
theorem Beside.trans {last : StressStore N Fingerprint} (first : Beside store after) (second : Beside after last) :
    Beside store last :=
  ⟨first.toGrown.trans second.toGrown, second.assessments.trans first.assessments⟩

theorem Faithful.beside (faithful : Faithful daylight store) (beside : Beside store after)
    (unique : Unique MinuteBarRow.interval after.bars)
    (onInterval : ∀ row ∈ after.bars, OnInterval daylight row.barStartAt) : Faithful daylight after := by
  have same : after.valid = store.valid := by
    unfold StressStore.valid
    rw [beside.assessments]
  refine ⟨unique, onInterval, fun assessment member => ?_, ?_⟩
  · exact (faithful.published assessment (same ▸ member)).grown beside.toGrown unique
  · rw [same]
    exact faithful.frozen

/-- The contract of the publication that holds the lock. -/
def publishing (daylight : Int → Bool) : Contract (StressStore N Fingerprint) where
  invariant := Faithful daylight
  rely := Beside
  guarantee := Grown
  rely_refl := Beside.refl
  rely_trans := Beside.trans
  guarantee_refl := Grown.refl

/-- The contract of everybody else. -/
def standingBy (daylight : Int → Bool) : Contract (StressStore N Fingerprint) where
  invariant := Faithful daylight
  rely := Grown
  guarantee := Beside
  rely_refl := Grown.refl
  rely_trans := Grown.trans
  guarantee_refl := Beside.refl

end Invariant

variable {target : IntradayTarget}

variable {baseline : StressBaseline N} {priorAttempt : Option (StressAssessment N Fingerprint)} {startedAt : Int}
  {history : IntradayStressHistory} {replay : StressReplay N}

section Outcomes

variable [JsNumber N] {store after : StressStore N Fingerprint} {predecessor : Option (StressAssessment N Fingerprint)}
  {outcome : StressOutcome N}

/-- What JSON keeps of a baseline. -/
def StressBaseline.toJson (baseline : StressBaseline N) : StressBaseline N :=
  ⟨baseline.spy.bind JsNumber.toJson, baseline.rsp.bind JsNumber.toJson⟩

theorem filter_toJson (value : Option N) :
    (value.bind JsNumber.toJson).filter JsNumber.finitePositive = value.filter JsNumber.finitePositive := by
  cases value with
  | none => rfl
  | some value =>
    cases finite : JsNumber.isFinite value with
    | true => simp [JsNumber.toJson, finite]
    | false =>
      have dropped : JsNumber.finitePositive value = false := by simp [JsNumber.finitePositive, finite]
      simp [JsNumber.toJson, finite, Option.filter, dropped]

theorem toJson_of_finitePositive {value : Option N} (positive : value.all JsNumber.finitePositive = true) :
    value.bind JsNumber.toJson = value := by
  cases value with
  | none => rfl
  | some value =>
    have finite : JsNumber.isFinite value = true := (Bool.and_eq_true_iff.mp positive).1
    simp [JsNumber.toJson, finite]

theorem Reproduced.toJson {date : Int} {count : Nat} (reproduced : Reproduced store daylight date count baseline history) :
    Reproduced store daylight date count baseline.toJson history where
  complete := reproduced.complete
  replay := by
    unfold StressBaseline.toJson
    rw [filter_toJson, filter_toJson]
    exact reproduced.replay

/-- The target lies on its date and after the latest VALID assessment. -/
structure Follows (daylight : Int → Bool) (store : StressStore N Fingerprint) (target : IntradayTarget)
    (predecessor : Option (StressAssessment N Fingerprint)) : Prop where
  positive : 1 ≤ target.index
  bounded : target.index ≤ 25
  targetAt : target.targetAt = openOf daylight target.date + target.index * intervalMs
  newest : predecessor = latest (·.targetAt) store.valid
  later : ∀ assessment, predecessor = some assessment → assessment.targetAt < target.targetAt

omit [JsNumber N] in
theorem Follows.beside (follows : Follows daylight store target predecessor) (beside : Beside store after) :
    Follows daylight after target predecessor where
  positive := follows.positive
  bounded := follows.bounded
  targetAt := follows.targetAt
  newest := by
    unfold StressStore.valid
    rw [beside.assessments]
    exact follows.newest
  later := follows.later

omit [JsNumber N] in
theorem Follows.listed (follows : Follows daylight store target predecessor)
    {assessment : StressAssessment N Fingerprint} (known : predecessor = some assessment) : assessment ∈ store.valid :=
  mem_of_latest (follows.newest.symm.trans known)

/-- The predecessor is of the session as soon as any VALID assessment is. -/
theorem Follows.same_session (follows : Follows daylight store target predecessor) (faithful : Faithful daylight store)
    {other : StressAssessment N Fingerprint} (member : other ∈ store.valid) (same : other.sessionDate = target.date) :
    ∃ assessment ∈ store.valid, predecessor = some assessment ∧ assessment.sessionDate = target.date := by
  cases known : predecessor with
  | none =>
    have empty : store.valid = [] := List.argmax_eq_none.mp (follows.newest.symm.trans known)
    rw [empty] at member
    cases member
  | some assessment =>
    have listed := follows.listed known
    refine ⟨assessment, listed, rfl, ?_⟩
    have above : other.targetAt ≤ assessment.targetAt := le_of_latest (follows.newest.symm.trans known) member
    have below := follows.later assessment known
    have there := faithful.published other member
    have here := faithful.published assessment listed
    have starts := there.targetAt
    have placed := follows.targetAt
    have positive := there.positive
    have few := follows.bounded
    rw [same] at starts
    refine date_of_interval here.bounded here.targetAt ?_ ?_
    · simp only [intervalMs, minuteMs] at *
      omega
    · simp only [intervalMs, minuteMs] at *
      omega

/-- Within a session the index of the predecessor is smaller. -/
theorem Follows.index_lt (follows : Follows daylight store target predecessor) (faithful : Faithful daylight store)
    {assessment : StressAssessment N Fingerprint} (known : predecessor = some assessment)
    (same : assessment.sessionDate = target.date) : assessment.evidence.index < target.index := by
  have below := follows.later assessment known
  have here := (faithful.published assessment (follows.listed known)).targetAt
  have placed := follows.targetAt
  rw [same] at here
  simp only [intervalMs, minuteMs] at *
  omega

/-- A VALID outcome is reproduced by the stored bars, with the baseline of its session. -/
structure Settles (daylight : Int → Bool) (store : StressStore N Fingerprint) (target : IntradayTarget)
    (predecessor : Option (StressAssessment N Fingerprint)) (outcome : StressOutcome N) : Prop where
  final : ∃ final, outcome.replay.final = some final ∧ outcome.replay.history = final.transition.history ∧
    final.transition.effectiveState.isSome
  reproduced : Reproduced store daylight target.date target.index outcome.baseline outcome.replay.history
  baseline : ∀ assessment, predecessor = some assessment → assessment.sessionDate = target.date →
    outcome.baseline.toJson = assessment.evidence.baseline

/-- The outcome is blocked, or settles the target. -/
def Decides (daylight : Int → Bool) (store : StressStore N Fingerprint) (target : IntradayTarget)
    (predecessor : Option (StressAssessment N Fingerprint)) (outcome : StressOutcome N) : Prop :=
  (outcome.blocked.map (·.1)).getD .valid = .valid → Settles daylight store target predecessor outcome

theorem Decides.beside (decides : Decides daylight store target predecessor outcome) (beside : Beside store after)
    (faithful : Faithful daylight after) : Decides daylight after target predecessor outcome := fun valid => by
  obtain ⟨final, reproduced, baseline⟩ := decides valid
  exact ⟨final, reproduced.grown beside.toGrown faithful.unique, baseline⟩

theorem decides_of_blocked {reason : StressReason} {status : DimensionAssessmentStatus} (blocked : status ≠ .valid) :
    Decides daylight store target predecessor ⟨some (status, reason), baseline, replay⟩ :=
  fun valid => absurd valid blocked

/-- The row of a settled outcome is published with the baseline of its session. -/
theorem published_assessmentRow {digest : AttemptIdentity → Fingerprint} {validUntil completedAt : Int}
    (follows : Follows daylight store target predecessor)
    (decides : Decides daylight store target predecessor outcome)
    (valid : (assessmentRow digest target predecessor priorAttempt outcome validUntil startedAt completedAt).status = .valid) :
    Published daylight store (assessmentRow digest target predecessor priorAttempt outcome validUntil startedAt completedAt) := by
  have status : (outcome.blocked.map (·.1)).getD .valid = .valid := valid
  obtain ⟨⟨final, finishes, ends, effective⟩, reproduced, _⟩ := decides status
  have known : (if (outcome.blocked.map (·.1)).getD .valid = .valid then outcome.replay.final else none) = some final := by
    rw [if_pos status, finishes]
  constructor
  · exact follows.positive
  · exact follows.bounded
  · exact follows.targetAt
  · refine ⟨?_, rfl⟩
    simp only [assessmentRow, known, Option.bind_some]
    exact effective
  · have stated : (⟨final.transition.effectiveState, final.transition.confirmationAfter⟩ : IntradayStressHistory) =
        outcome.replay.history := ends.symm
    simp only [assessmentRow, known, Option.bind_some]
    rw [stated]
    exact reproduced.toJson

end Outcomes

section Views

variable {α β : Type} [JsNumber N] {store : StressStore N Fingerprint} {held : β → StressStore N Fingerprint → Prop}

/-- A program of the lock holder that writes nothing, with what holds when it returns. -/
def Views (daylight : Int → Bool) (program : StressProgram N Fingerprint α)
    (held : α → StressStore N Fingerprint → Prop) (store : StressStore N Fingerprint) : Prop :=
  Faithful daylight store → program.Assured (publishing daylight) StressFault
    (fun result current => Beside store current ∧ Faithful daylight current ∧
      ∀ value, result = .ok value → held value current) store

theorem views_pure {value : β} (returned : Faithful daylight store → held value store) :
    Views daylight (pure value) held store := fun faithful =>
  ⟨Beside.refl store, faithful, fun other same => by
    cases same
    exact returned faithful⟩

theorem views_read {view : StressStore N Fingerprint → β} (held : β → StressStore N Fingerprint → Prop)
    (seen : ∀ current, Beside store current → Faithful daylight current → held (view current) current) :
    Views daylight (Program.read view) held store := fun _ =>
  assured_read fun current beside faithful =>
    ⟨⟨beside, faithful, fun value same => by
      cases same
      exact seen current beside faithful⟩, fun _ _ => ⟨beside, faithful, nofun⟩⟩

theorem views_answer (held : β → StressStore N Fingerprint → Prop) (answered : Faithful daylight store → ∀ value, held value store) :
    Views daylight (Program.answer : StressProgram N Fingerprint β) held store := fun faithful value =>
  ⟨Beside.refl store, faithful, fun other same => by
    cases same
    exact answered faithful value⟩

variable {middle : α → StressStore N Fingerprint → Prop} {program : StressProgram N Fingerprint α}

theorem Views.bind {next : α → StressProgram N Fingerprint β} (first : Views daylight program middle store)
    (rest : ∀ value current, Beside store current → Faithful daylight current → middle value current →
      Views daylight (next value) held current) : Views daylight (program >>= next) held store := fun faithful => by
  refine ((first faithful).mono fun result current seen => ?_).bind
  obtain ⟨beside, kept, returned⟩ := seen
  cases result with
  | error error => exact ⟨beside, kept, nofun⟩
  | ok value =>
    exact (rest value current beside kept (returned value rfl) kept).mono fun _ later seen =>
      ⟨beside.trans seen.1, seen.2.1, seen.2.2⟩

theorem Views.attempt (first : Views daylight program middle store) :
    Views daylight program.attempt (fun result current => ∀ value, result = .ok value → middle value current) store :=
  fun faithful => ((first faithful).mono fun result current seen =>
    ⟨seen.1, seen.2.1, fun value same => by
      cases same
      exact seen.2.2⟩).attempt

end Views

variable {date : Int} {digest : AttemptIdentity → Fingerprint} {verified : VerifiedClosures}

section Publications

variable [JsNumber N] {store : StressStore N Fingerprint} {options : StressOptions} {exceptions : List CalendarException}
  {predecessor : Option (StressAssessment N Fingerprint)}

variable {symbol : IntradaySymbol}

/-- Canonical rows of a session are fetched bars. -/
theorem fetched_canonicalBars {session : MarketSession} {securityId : Nat}
    {bars : List (IntradayStressBar N)} (unique : Unique MinuteBarRow.interval store.bars)
    (known : store.securityId symbol = some securityId)
    (canonical : canonicalBars daylight options exceptions date (store.sessionRows session securityId) = .ok bars) :
    Fetched store daylight date symbol bars := by
  intro index bar aligned
  unfold canonicalBars at canonical
  dsimp only at canonical
  split at canonical
  · cases canonical
  · split at canonical
    · cases canonical
    · cases canonical
      obtain ⟨row, member, rfl, starts, valid⟩ := row_of_alignedBar aligned
      obtain ⟨stored, selected⟩ := List.mem_filter.mp (List.mem_filter.mp member).1
      rw [Bool.and_eq_true] at selected
      unfold StressStore.storedBars
      rw [known]
      refine alignedBar_of_row unique stored starts valid selected.1 fun other same => ?_
      rw [beq_iff_eq] at same
      rw [same, beq_iff_eq.mp selected.1]

theorem views_fetchIntradayBars : Views daylight (fetchIntradayBars daylight options exceptions date symbol :
        StressProgram N Fingerprint (Except StressReason (List (IntradayStressBar N))))
      (fun fetched current => ∀ bars, fetched = .ok bars → Fetched current daylight date symbol bars) store := by
  refine (views_read (fun known current => known = current.securityId symbol) fun _ _ _ => rfl).bind ?_
  intro known current _ _ same
  cases known with
  | none =>
    refine views_pure fun _ bars same => ?_
    cases same
    intro index bar aligned
    cases (alignedBar_some aligned).1
  | some securityId =>
    dsimp only
    split
    case h_1 session open_ =>
      refine (views_read (fun rows later => rows = later.sessionRows session securityId ∧
        later.securityId symbol = some securityId) fun later beside _ =>
          ⟨rfl, beside.securities symbol securityId same.symm⟩).bind ?_
      rintro rows later _ kept ⟨rfl, known⟩
      exact views_pure fun _ bars same => fetched_canonicalBars kept.unique known same
    case h_2 => exact views_pure nofun

/-- What a replay continues from. -/
def Continues (daylight : Int → Bool) (store : StressStore N Fingerprint) (target : IntradayTarget)
    (baseline : StressBaseline N) : Option (StressContinuation N) → Prop
  | none => True
  | some continuation => 0 < continuation.index ∧ continuation.index < target.index ∧
      Reproduced store daylight target.date continuation.index baseline continuation.history

variable {continuation : Option (StressContinuation N)} {after : StressStore N Fingerprint}

theorem Continues.beside (continues : Continues daylight store target baseline continuation)
    (beside : Beside store after) (faithful : Faithful daylight after) :
    Continues daylight after target baseline continuation := by
  cases continuation with
  | none => trivial
  | some continuation =>
    exact ⟨continues.1, continues.2.1, continues.2.2.grown beside.toGrown faithful.unique⟩

/-- The outcome of a replay over fetched bars decides the target. -/
theorem decides_replayOutcome {spyBars rspBars : List (IntradayStressBar N)} (positive : 1 ≤ target.index)
    (continues : Continues daylight store target baseline continuation)
    (agreed : ∀ assessment, predecessor = some assessment → assessment.sessionDate = target.date →
      baseline.toJson = assessment.evidence.baseline)
    (spyFetched : Fetched store daylight target.date .spy spyBars)
    (rspFetched : Fetched store daylight target.date .rsp rspBars)
    (replayed : replaySession daylight exceptions target.date spyBars rspBars baseline
      ((continuation.map (·.history)).getD .start) ((continuation.map (·.index)).getD 0) target.index = .ok replay) :
    Decides daylight store target predecessor
      (replayOutcome baseline ((continuation.map (·.history)).getD .start) (.ok replay)) := by
  unfold replayOutcome
  dsimp only
  split
  case isFalse => exact decides_of_blocked (by decide)
  case isTrue valid =>
    intro _
    obtain ⟨raw, known⟩ := Option.isSome_iff_exists.mp valid
    obtain ⟨final, finishes, stated⟩ := Option.bind_eq_some_iff.mp known
    have continued : (continuation.map (·.index)).getD 0 = 0 ∧ (continuation.map (·.history)).getD .start = .start ∨
        0 < (continuation.map (·.index)).getD 0 ∧ Reproduced store daylight target.date
          ((continuation.map (·.index)).getD 0) baseline ((continuation.map (·.history)).getD .start) := by
      cases continuation with
      | none => exact .inl ⟨rfl, rfl⟩
      | some continuation => exact .inr ⟨continues.1, continues.2.2⟩
    have later : (continuation.map (·.index)).getD 0 < target.index := by
      cases continuation with
      | none => exact positive
      | some continuation => exact continues.2.1
    obtain ⟨reproduced, ends, effective⟩ := reproduced_of_replaySession later spyFetched rspFetched continued replayed
      finishes (by rw [stated]; rfl)
    exact ⟨⟨final, finishes, ends, effective⟩, reproduced, agreed⟩

variable {continuation : Option (StressContinuation N)}

theorem views_assessSession (positive : 1 ≤ target.index) (continues : Continues daylight store target baseline continuation)
    (agreed : ∀ assessment, predecessor = some assessment → assessment.sessionDate = target.date →
      baseline.toJson = assessment.evidence.baseline) :
    Views daylight (assessSession daylight options exceptions target baseline continuation :
        StressProgram N Fingerprint (StressOutcome N))
      (fun outcome current => Decides daylight current target predecessor outcome) store := by
  refine views_fetchIntradayBars.attempt.bind fun spyBars first beside _ spyFetched => ?_
  refine views_fetchIntradayBars.attempt.bind fun rspBars second later faithful rspFetched => ?_
  have blocked : ∀ reason, Views daylight
      (pure (replayOutcome baseline ((continuation.map (·.history)).getD .start) (.error reason)) :
        StressProgram N Fingerprint (StressOutcome N))
      (fun outcome current => Decides daylight current target predecessor outcome) second :=
    fun reason => views_pure fun _ => decides_of_blocked (by decide)
  split
  case h_1 spyBars rspBars =>
    dsimp only
    split
    case h_1 => exact blocked .calculationFailed
    case h_2 replay replayed =>
      refine views_pure fun _ => decides_replayOutcome positive (continues.beside (beside.trans later) faithful) agreed
        ((spyFetched _ rfl spyBars rfl).grown later.toGrown faithful.unique) (rspFetched _ rfl rspBars rfl) replayed
  case h_2 => exact blocked _
  case h_3 => exact blocked _
  case h_4 => exact blocked _

variable {assessment : StressAssessment N Fingerprint}

theorem parseContinuation_some {continuation : StressContinuation N}
    (parsed : parseContinuation assessment = some continuation) :
    continuation.index = assessment.evidence.index ∧
      continuation.history = ⟨assessment.evidence.effectiveState, assessment.evidence.confirmationAfter⟩ ∧
      continuation.baseline = assessment.evidence.baseline ∧ continuation.baseline.toJson = continuation.baseline := by
  unfold parseContinuation at parsed
  dsimp only at parsed
  split at parsed
  case isFalse => cases parsed
  case isTrue checked =>
    obtain ⟨_, _, _, spy, rsp, _⟩ := checked
    cases parsed
    refine ⟨rfl, rfl, rfl, ?_⟩
    unfold StressBaseline.toJson
    rw [toJson_of_finitePositive spy, toJson_of_finitePositive rsp]

/-- A continuation of the session goes on from its published state. -/
theorem continues_of_parse {continuation : StressContinuation N}
    (follows : Follows daylight store target predecessor) (faithful : Faithful daylight store)
    (known : predecessor = some assessment) (same : assessment.sessionDate = target.date)
    (parsed : parseContinuation assessment = some continuation) :
    Continues daylight store target continuation.baseline (some continuation) := by
  obtain ⟨index, history, baseline, _⟩ := parseContinuation_some parsed
  have published := faithful.published assessment (follows.listed known)
  have reproduced := published.reproduced
  rw [same, ← published.effective.2] at reproduced
  refine ⟨index ▸ published.positive, index ▸ follows.index_lt faithful known same, ?_⟩
  rw [index, history, baseline]
  exact reproduced

theorem views_calendarReason : Views daylight
    (calendarReason verified options exceptions date : StressProgram N Fingerprint (Option StressReason))
    (fun _ _ => True) store := by
  unfold calendarReason
  split
  · exact views_pure fun _ => trivial
  · split
    · refine (views_read (fun _ _ => True) fun _ _ _ => trivial).bind fun paused current _ _ _ => ?_
      exact views_pure fun _ => trivial
    · exact views_pure fun _ => trivial

theorem views_loadBaseline : Views daylight (loadBaseline continuation :
      StressProgram N Fingerprint (StressBaseline N × Option (DimensionAssessmentStatus × StressReason)))
    (fun loaded _ => (∀ continued, continuation = some continued → loaded.1 = continued.baseline) ∧
      ∀ status reason, loaded.2 = some (status, reason) → status ≠ .valid) store := by
  cases continuation with
  | some continuation =>
    refine views_pure fun _ => ⟨fun continued same => ?_, nofun⟩
    cases same
    rfl
  | none =>
    refine Views.bind (views_answer (fun _ _ => True) fun _ _ => trivial) fun computed current _ _ _ => ?_
    cases computed with
    | error message =>
      refine views_pure fun _ => ⟨nofun, fun status reason same => ?_⟩
      cases same
      decide
    | ok computed =>
      refine views_pure fun _ => ⟨nofun, fun status reason same => ?_⟩
      obtain ⟨given, _, stated⟩ := Option.map_eq_some_iff.mp same
      cases stated
      split <;> decide

/-- An assessment is blocked, or is that of one replay. -/
theorem views_assessTarget (follows : Follows daylight store target predecessor) : Views daylight
    (assessTarget daylight verified options exceptions predecessor target : StressProgram N Fingerprint (StressOutcome N))
    (fun outcome current => Decides daylight current target predecessor outcome) store := by
  refine views_calendarReason.bind fun reason first beside faithful _ => ?_
  have still := follows.beside beside
  cases reason with
  | some reason => exact views_pure fun _ => decides_of_blocked (by decide)
  | none =>
    dsimp only
    split
    case isTrue => exact views_pure fun _ => decides_of_blocked (by decide)
    case isFalse parsed =>
      refine views_loadBaseline.bind fun loaded second later kept facts => ?_
      obtain ⟨baseline, refused⟩ := loaded
      obtain ⟨reused, blocked⟩ := facts
      have here := still.beside later
      cases refused with
      | some refusal => exact views_pure fun _ => decides_of_blocked (blocked refusal.1 refusal.2 rfl)
      | none =>
        refine views_assessSession follows.positive ?_ ?_
        · split
          case isFalse => trivial
          case isTrue same =>
            cases known : predecessor with
            | none => trivial
            | some assessment =>
              rw [known] at same reused parsed
              rw [Option.any_some, beq_iff_eq] at same
              cases read : parseContinuation assessment with
              | none => simp [read] at parsed
              | some continuation =>
                have continues := continues_of_parse here kept known same read
                have based := reused continuation (by simp [read, same])
                dsimp only at based
                rw [Option.bind_some, read, based]
                exact continues
        · intro assessment known same
          rw [known] at reused parsed
          cases read : parseContinuation assessment with
          | none => simp [read] at parsed
          | some continuation =>
            obtain ⟨_, _, stored, exactly⟩ := parseContinuation_some read
            have based := reused continuation (by simp [read, same])
            dsimp only at based
            rw [based, exactly, stored]

variable [DecidableEq Fingerprint]

omit [JsNumber N] [DecidableEq Fingerprint] in
theorem createAssessment_cases {row : StressAssessment N Fingerprint} {value : Unit}
    (created : createAssessment row store = .ok (value, after)) :
    ∃ id, after = { store with assessments := store.assessments ++ [{ row with id }] } := by
  unfold createAssessment at created
  split at created
  · cases created
  · cases created
    exact ⟨_, rfl⟩

omit [DecidableEq Fingerprint] in
/-- A new assessment keeps the store faithful if it is published with the baseline of its session. -/
theorem Faithful.create {row : StressAssessment N Fingerprint} {after : StressStore N Fingerprint} {value : Unit}
    (faithful : Faithful daylight store) (published : row.status = .valid → Published daylight store row)
    (agreed : row.status = .valid → ∀ other ∈ store.valid, other.sessionDate = row.sessionDate →
      other.evidence.baseline = row.evidence.baseline)
    (created : createAssessment row store = .ok (value, after)) :
    Grown store after ∧ Faithful daylight after := by
  obtain ⟨id, rfl⟩ := createAssessment_cases created
  have grown : Grown store { store with assessments := store.assessments ++ [{ row with id }] } :=
    ⟨fun _ _ same => same, fun _ member => member⟩
  refine ⟨grown, ?_⟩
  have split : ∀ assessment ∈ StressStore.valid { store with assessments := store.assessments ++ [{ row with id }] },
      assessment ∈ store.valid ∨ assessment = { row with id } ∧ row.status = .valid := by
    intro assessment member
    obtain ⟨listed, valid⟩ := List.mem_filter.mp member
    rcases List.mem_append.mp listed with old | new
    · exact .inl (List.mem_filter.mpr ⟨old, valid⟩)
    · have same := List.mem_singleton.mp new
      subst same
      exact .inr ⟨rfl, beq_iff_eq.mp valid⟩
  refine ⟨faithful.unique, faithful.onInterval, fun assessment member => ?_, fun first one second other same => ?_⟩
  · rcases split assessment member with old | ⟨rfl, valid⟩
    · exact (faithful.published assessment old).grown grown faithful.unique
    · obtain ⟨positive, bounded, targetAt, effective, reproduced⟩ := published valid
      exact ⟨positive, bounded, targetAt, effective, reproduced.grown grown faithful.unique⟩
  · rcases split first one with old | ⟨rfl, valid⟩
    · rcases split second other with also | ⟨rfl, valid⟩
      · exact faithful.frozen first old second also same
      · exact agreed valid first old same
    · rcases split second other with old | ⟨rfl, _⟩
      · exact (agreed valid second old same.symm).symm
      · rfl

theorem assured_storeOutcome {outcome : StressOutcome N} (follows : Follows daylight store target predecessor)
    (decides : Decides daylight store target predecessor outcome) :
    (storeOutcome daylight digest exceptions target predecessor priorAttempt startedAt outcome).Assured
      (publishing daylight) StressFault (fun _ _ => True) store := by
  unfold storeOutcome
  split
  · trivial
  · refine Assured.bind (assured_answer.mpr fun completedAt => ?_)
    dsimp only
    split
    · trivial
    · split
      · trivial
      · split
        · trivial
        · refine Assured.bind (assured_commit fun current beside faithful => ⟨?_, fun _ _ => trivial,
            fun _ _ => trivial⟩)
          intro value after created
          have here := follows.beside beside
          have settled := decides.beside beside faithful
          obtain ⟨grown, kept⟩ := faithful.create (published_assessmentRow here settled) (fun valid other member same => by
            obtain ⟨assessment, listed, known, dated⟩ := here.same_session faithful member same
            have frozen := faithful.frozen other member assessment listed (same.trans dated.symm)
            exact frozen.trans ((settled valid).baseline assessment known dated).symm) created
          exact ⟨grown, kept, trivial, fun _ _ => trivial⟩

theorem assured_publishUnderLock : (publishUnderLock daylight verified digest options startedAt :
      StressProgram N Fingerprint StressPublicationResult).Assured (publishing daylight) StressFault
      (fun _ _ => True) store := by
  refine Assured.readThen fun first _ _ => ⟨?_, fun _ _ => trivial⟩
  refine Assured.readThen fun second beside _ => ⟨?_, fun _ _ => trivial⟩
  split
  · trivial
  · trivial
  case h_3 target selected =>
    split
    · trivial
    case isFalse later =>
      refine Assured.readThen fun third again faithful => ⟨?_, fun _ _ => trivial⟩
      obtain ⟨positive, bounded, targetAt⟩ := latestTarget_some selected
      have follows : Follows daylight third target (latest (·.targetAt) first.valid) := by
        refine ⟨positive, bounded, targetAt, ?_, fun assessment known => ?_⟩
        · unfold StressStore.valid
          rw [again.assessments, beside.assessments]
        · by_contra early
          rw [known] at later
          exact later (by simpa using Int.not_lt.mp early)
      refine Assured.bind ((views_assessTarget follows faithful).mono fun result current seen => ?_)
      obtain ⟨last, _, decided⟩ := seen
      cases result with
      | error error => trivial
      | ok outcome => exact assured_storeOutcome (follows.beside last) (decided outcome rfl)

/-- A publication keeps the store faithful. -/
theorem harmless_publishIntradayStressAssessments :
    (publishIntradayStressAssessments daylight verified digest options :
      StressProgram N Fingerprint StressPublicationResult).Harmless (publishing daylight) StressFault := by
  refine harmless_answer.bind fun startedAt => ?_
  have attempted : (publishUnderLock daylight verified digest options startedAt :
      StressProgram N Fingerprint StressPublicationResult).attempt.Harmless (publishing daylight) StressFault :=
    Harmless.attempt fun _ => assured_publishUnderLock
  refine attempted.bind fun result => ?_
  split
  · exact harmless_pure
  · refine harmless_read.bind fun winner => ?_
    split
    · exact harmless_pure
    · exact harmless_throw
  · exact harmless_throw

end Publications

section Runs

variable [JsNumber N] [DecidableEq Fingerprint] {store : StressStore N Fingerprint}

omit [DecidableEq Fingerprint] in
/-- A synchronized bar starts on an interval and is the only one of its interval. -/
theorem harmless_syncMinuteBar (now : Int) (row : MinuteBarRow) :
    (syncMinuteBar daylight now row : StressProgram N Fingerprint Unit).Harmless (standingBy daylight) StressFault := by
  refine harmless_read.bind fun exceptions => ?_
  split
  case h_2 => exact harmless_pure
  case h_1 session open_ =>
    dsimp only
    split
    case isFalse => exact harmless_pure
    case isTrue listed =>
      refine harmless_commit fun current value after faithful inserted => ?_
      obtain ⟨opens, before, onStep, _⟩ := listed
      obtain ⟨_, openAt, closeAt, _, late⟩ := marketSession_some open_
      have onInterval : OnInterval daylight row.barStartAt := by
        refine ⟨etDate daylight now, ((row.barStartAt - session.openAt) / intervalMs).toNat, ?_, ?_⟩
        all_goals
          rw [closeAt] at before
          rw [openAt] at opens onStep ⊢
          simp only [etInstant_eq, openOf, intervalMs, minuteMs, sessionOpenMinutes, sessionCloseMinutes] at *
          omega
      cases stored : insertUnique (fun row : MinuteBarRow => some (row.securityId, row.barStartAt)) row current.bars with
      | none =>
        rw [stored] at inserted
        cases inserted
      | some bars =>
        rw [stored] at inserted
        cases inserted
        have unique : Unique MinuteBarRow.interval bars := faithful.unique.insertUnique stored
        have appended := eq_append_of_insertUnique stored
        have beside : Beside current { current with bars } :=
          ⟨⟨fun _ _ same => same, fun other member => appended ▸ List.mem_append_left _ member⟩, rfl⟩
        refine ⟨beside, faithful.beside beside unique fun other member => ?_⟩
        have member : other ∈ bars := member
        rw [appended] at member
        rcases List.mem_append.mp member with old | new
        · exact faithful.onInterval other old
        · exact List.mem_singleton.mp new ▸ onInterval

omit [DecidableEq Fingerprint] in
theorem harmless_bystanding {program : StressProgram N Fingerprint Unit} (listed : Bystanding daylight program) :
    program.Harmless (standingBy daylight) StressFault := by
  cases listed with
  | syncMinuteBar now row => exact harmless_syncMinuteBar now row
  | saveCalendar exceptions =>
    refine harmless_write fun current faithful => ?_
    have beside : Beside current { current with exceptions } := ⟨⟨fun _ _ same => same, fun _ member => member⟩, rfl⟩
    exact ⟨beside, faithful.beside beside faithful.unique faithful.onInterval⟩
  | pauseTiingo paused =>
    refine harmless_write fun current faithful => ?_
    have beside : Beside current { current with tiingoDailyIngestionPaused := paused } :=
      ⟨⟨fun _ _ same => same, fun _ member => member⟩, rfl⟩
    exact ⟨beside, faithful.beside beside faithful.unique faithful.onInterval⟩
  | createSecurity symbol id =>
    refine harmless_write fun current faithful => ?_
    have beside : Beside current { current with securities := current.securities ++ [(symbol, id)] } := by
      refine ⟨⟨fun other known same => ?_, fun _ member => member⟩, rfl⟩
      obtain ⟨entry, found, rfl⟩ := Option.map_eq_some_iff.mp same
      unfold StressStore.securityId
      rw [List.find?_append, found]
      rfl
    exact ⟨beside, faithful.beside beside faithful.unique faithful.onInterval⟩

/-- The publications, each with an instant and a provider configuration of its own. -/
def Publishing (daylight : Int → Bool) (verified : VerifiedClosures) (digest : AttemptIdentity → Fingerprint)
    (program : StressProgram N Fingerprint Unit) : Prop :=
  ∃ options, program = publishIntradayStressAssessments daylight verified digest options >>= fun _ => pure ()

def stressDiscipline (daylight : Int → Bool) (verified : VerifiedClosures) (digest : AttemptIdentity → Fingerprint) :
    Workforce.Discipline StressFault (Publishing (N := N) daylight verified digest) (Bystanding daylight) where
  holding := publishing daylight
  sharing := standingBy daylight
  same_invariant := rfl
  holding_relies := fun beside => beside
  sharing_relies := fun beside => beside.toGrown
  sharing_relies_holder := fun grown => grown
  locked_harmless := fun program listed => by
    obtain ⟨options, rfl⟩ := listed
    exact harmless_publishIntradayStressAssessments.bind fun _ => harmless_pure
  free_harmless := fun _ listed => harmless_bystanding listed

/-- Bars are unique and on an interval, and nothing has been assessed. -/
structure Installed (daylight : Int → Bool) (store : StressStore N Fingerprint) : Prop where
  unique : Unique MinuteBarRow.interval store.bars
  onInterval : ∀ row ∈ store.bars, OnInterval daylight row.barStartAt
  assessments : store.assessments = []

/-- The instrument has one bar with this start, and it is valid. -/
def OneValidBar (store : StressStore N Fingerprint) (symbol : IntradaySymbol) (start : Int) : Prop :=
  ∃ securityId row, store.securityId symbol = some securityId ∧
    (store.bars.filter fun row => decide (row.interval = some (securityId, start))) = [row] ∧
    validIntradayBar (row.bar : IntradayStressBar N) = true

omit [DecidableEq Fingerprint] in
theorem Installed.faithful (installed : Installed daylight store) : Faithful daylight store := by
  have none_ : store.valid = [] := by
    unfold StressStore.valid
    rw [installed.assessments]
    rfl
  refine ⟨installed.unique, installed.onInterval, fun assessment member => ?_, fun first member => ?_⟩
  · rw [none_] at member
    cases member
  · rw [none_] at member
    cases member

omit [DecidableEq Fingerprint] in
theorem Reproduced.oneValidBar {count index : Nat} (reproduced : Reproduced store daylight date count baseline history)
    (unique : Unique MinuteBarRow.interval store.bars) (symbol : IntradaySymbol) (before : index < count) :
    OneValidBar store symbol (openOf daylight date + index * intervalMs) := by
  obtain ⟨bar, found⟩ := Option.isSome_iff_exists.mp (reproduced.complete symbol index before)
  unfold StressStore.storedBars at found
  cases known : store.securityId symbol with
  | none =>
    rw [known] at found
    cases found
  | some securityId =>
    rw [known] at found
    obtain ⟨row, member, rfl, starts, valid⟩ := row_of_alignedBar found
    obtain ⟨stored, instrument⟩ := List.mem_filter.mp member
    refine ⟨securityId, row, known, unique.filter_eq stored ?_, valid⟩
    rw [MinuteBarRow.interval, beq_iff_eq.mp instrument, starts]

/-- Whatever publications ran, failed or retried while bars and calendar changed: a VALID assessment has every bar of both
instruments up to its target, once and valid, and is that of one replay of its session, which has one baseline. -/
theorem publishIntradayStressAssessments_replay {start : StressStore N Fingerprint}
    {workforce : Workforce (StressStore N Fingerprint) StressPublicationError} (installed : Installed daylight start)
    (run : Workforce.Run StressFault (Publishing daylight verified digest) (Bystanding daylight) ⟨start, none, []⟩ workforce)
    {assessment : StressAssessment N Fingerprint} (member : assessment ∈ workforce.store.assessments)
    (valid : assessment.status = .valid) :
    assessment.effectiveState.isSome ∧
    (∀ symbol, ∀ index < assessment.evidence.index, OneValidBar workforce.store symbol
      (openOf daylight assessment.sessionDate + index * intervalMs)) ∧
    (∀ session count, actionableTargets daylight workforce.store.exceptions assessment.sessionDate =
        .ok (some (session, count)) → assessment.evidence.index ≤ count →
      ∃ spy rsp,
        measureIntradaySession daylight workforce.store.exceptions assessment.sessionDate
          (workforce.store.sessionBars session .spy) assessment.evidence.baseline.spy = .ok spy ∧
        measureIntradaySession daylight workforce.store.exceptions assessment.sessionDate
          (workforce.store.sessionBars session .rsp) assessment.evidence.baseline.rsp = .ok rsp ∧
        replayIntradayStress spy rsp assessment.evidence.index =
          .ok ⟨assessment.effectiveState, assessment.evidence.confirmationAfter⟩) ∧
    ∀ other ∈ workforce.store.assessments, other.status = .valid → other.sessionDate = assessment.sessionDate →
      other.evidence.baseline = assessment.evidence.baseline := by
  have idle : Workforce.Sound (stressDiscipline daylight verified digest) ⟨start, none, []⟩ :=
    Workforce.sound_idle _ installed.faithful
  have faithful : Faithful daylight workforce.store := (idle.run run).invariant
  have listed : assessment ∈ workforce.store.valid := List.mem_filter.mpr ⟨member, by simp [valid]⟩
  have published := faithful.published assessment listed
  refine ⟨published.effective.1, fun symbol index before =>
    published.reproduced.oneValidBar faithful.unique symbol before, fun session count targets bounded => ?_, ?_⟩
  · exact published.reproduced.measured published.positive faithful.unique faithful.onInterval targets bounded
  · intro other stored validToo same
    exact faithful.frozen other (List.mem_filter.mpr ⟨stored, by simp [validToo]⟩) assessment listed same

end Runs

section Sample

local instance : JsNumber ℚ := exactNumber

/-- Sessions of 2021 through 2026 without verified exceptions. -/
def openCalendar : VerifiedClosures := ⟨18628, 20818, [], [], 780⟩

/-- A bar of 2026-05-15. -/
def flatBar (securityId : Nat) (index : Int) (close : ℚ) : MinuteBarRow :=
  ⟨securityId, 1778851800000 + index * intervalMs, 100, 100, close, close, 1000, .massive⟩

/-- The store that holds three bars of both securities and no assessment. -/
def threeBars : StressStore ℚ AttemptIdentity :=
  ⟨[], [(.spy, 1), (.rsp, 2)], [flatBar 1 0 100, flatBar 2 0 100, flatBar 1 1 100, flatBar 2 1 100, flatBar 1 2 97,
    flatBar 2 2 97], false, []⟩

def sampleTarget (index : Nat) : IntradayTarget :=
  ⟨20588, index, 1778851800000 + index * intervalMs, 1778853000000 + index * intervalMs⟩

/-- One second after a target became eligible. -/
def sampleOptions (index : Nat) : StressOptions := ⟨1778852101000 + index * intervalMs, fun _ => .massive⟩

def sampleBaseline : StressBaseline ℚ := ⟨some (1 / 100), some (1 / 100)⟩

/-- The replay after a target through a later one. -/
def sampleReplay (history : IntradayStressHistory) (index through : Nat) : StressReplay ℚ :=
  let bars := fun securityId =>
    ([flatBar securityId 0 100, flatBar securityId 1 100, flatBar securityId 2 97].take through).map (·.bar)
  match replaySession daylight2026 [] 20588 (bars 1) (bars 2) sampleBaseline history index through with
  | .ok replay => replay
  | .error _ => ⟨.start, none, 0⟩

/-- What is stored of a target, a second after its publication started. -/
def sampleRow (index : Nat) (predecessor : Option (StressAssessment ℚ AttemptIdentity)) (replay : StressReplay ℚ) :
    StressAssessment ℚ AttemptIdentity :=
  assessmentRow id (sampleTarget index) predecessor none ⟨none, sampleBaseline, replay⟩ (sampleTarget index).validUntil
    (sampleOptions index).now ((sampleOptions index).now + 1000)

def firstAssessment : StressAssessment ℚ AttemptIdentity := { sampleRow 1 none (sampleReplay .start 0 1) with id := 1 }

/-- The second target is missed, the third one follows the first. -/
def thirdAssessment : StressAssessment ℚ AttemptIdentity :=
  { sampleRow 3 (some firstAssessment) (sampleReplay ⟨some .normal, 0⟩ 1 3) with id := 2 }

def startedStore : StressStore ℚ AttemptIdentity := { threeBars with assessments := [firstAssessment] }

def publishedStore : StressStore ℚ AttemptIdentity := { threeBars with assessments := [firstAssessment, thirdAssessment] }

variable {store after : StressStore ℚ AttemptIdentity} {predecessor : Option (StressAssessment ℚ AttemptIdentity)}

/-- The first attempt at a target, which succeeds. -/
theorem interleaving_publish {options : StressOptions} {target : IntradayTarget} {replay : StressReplay ℚ}
    {validUntil completedAt next : Int} (calendar : store.exceptions = [])
    (newest : latest (·.targetAt) store.valid = predecessor)
    (selected : latestIntradayStressAssessmentTarget daylight2026 [] options.now true = .ok (some target))
    (later : (predecessor.any fun earlier => decide (target.targetAt ≤ earlier.targetAt)) = false)
    (unattempted : latest (·.attempt) (store.assessments.filter (·.targetAt == target.targetAt)) = none)
    (expires : validUntilFor daylight2026 [] target.date target.index = .ok validUntil) (timely : completedAt < validUntil)
    (following : nextActionableTargetAt daylight2026 [] target.date target.index = .ok next)
    (created : createAssessment (assessmentRow id target predecessor none ⟨none, sampleBaseline, replay⟩ validUntil options.now
      completedAt) store = .ok ((), after))
    (assessed : Interleaving StressFault (fun _ _ => False)
      (assessTarget daylight2026 openCalendar options [] predecessor target, store)
      (.done (.ok ⟨none, sampleBaseline, replay⟩), store)) :
    Interleaving StressFault (fun _ _ => False)
      (publishIntradayStressAssessments daylight2026 openCalendar id options, store)
      (.done (.ok ⟨1, false, false, none⟩), after) := by
  have underLock : Interleaving StressFault (fun _ _ => False)
      (publishUnderLock daylight2026 openCalendar id options options.now, store)
      (.done (.ok ⟨1, false, false, none⟩), after) := by
    refine read (read ?_)
    rw [calendar, newest, selected]
    dsimp only
    rw [later]
    refine read ?_
    rw [unattempted]
    refine andThen assessed ?_
    unfold storeOutcome
    rw [expires, following]
    refine answer completedAt ?_
    rw [if_neg timely.not_ge]
    exact .single (.own (.commit created))
  refine answer options.now ?_
  exact andThen underLock.attempt .refl

theorem installed_threeBars : Installed daylight2026 threeBars := by
  have distinct : (threeBars.bars.map MinuteBarRow.interval).Nodup := by decide
  have starts : ∀ row ∈ threeBars.bars, ∃ index : Nat,
      index ≤ 25 ∧ row.barStartAt = openOf daylight2026 20588 + index * intervalMs := by
    decide +kernel
  exact ⟨.of_identified distinct fun _ _ _ _ _ first second => first.trans second.symm,
    fun row member => ⟨20588, starts row member⟩, rfl⟩

theorem interleaving_first : Interleaving StressFault (fun _ _ => False)
    (publishIntradayStressAssessments daylight2026 openCalendar id (sampleOptions 1), threeBars)
    (.done (.ok ⟨1, false, false, none⟩), startedStore) := by
  have opens : nextActionableTargetAt daylight2026 [] 20588 1 = .ok 1778853600000 := by decide +kernel
  have created : createAssessment (sampleRow 1 none (sampleReplay .start 0 1)) threeBars =
      .ok ((), startedStore) := by decide +kernel
  have expires : validUntilFor daylight2026 [] 20588 1 = .ok (sampleTarget 1).validUntil := by decide +kernel
  refine @interleaving_publish _ _ none _ _ _ _ _ _ rfl rfl (by decide +kernel) rfl rfl expires (by decide) opens created ?_
  have reason : (calendarReason openCalendar (sampleOptions 1) [] 20588 :
      StressProgram ℚ AttemptIdentity (Option StressReason)).alone threeBars = some (.ok none, threeBars) := by
    decide +kernel
  have loaded : Interleaving StressFault (fun _ _ => False)
      ((loadBaseline none : StressProgram ℚ AttemptIdentity _), threeBars) (.done (.ok (sampleBaseline, none)), threeBars) :=
    answer (.ok ⟨sampleBaseline, none⟩) .refl
  have assessed : (assessSession daylight2026 (sampleOptions 1) [] (sampleTarget 1) sampleBaseline none :
      StressProgram ℚ AttemptIdentity (StressOutcome ℚ)).alone threeBars =
        some (.ok ⟨none, sampleBaseline, sampleReplay .start 0 1⟩, threeBars) := by
    decide +kernel
  refine andThen (interleaving_alone reason) ?_
  exact andThen loaded (interleaving_alone assessed)

theorem interleaving_third : Interleaving StressFault (fun _ _ => False)
    (publishIntradayStressAssessments daylight2026 openCalendar id (sampleOptions 3), startedStore)
    (.done (.ok ⟨1, false, false, none⟩), publishedStore) := by
  have opens : nextActionableTargetAt daylight2026 [] 20588 3 = .ok 1778855400000 := by decide +kernel
  have created : createAssessment (sampleRow 3 (some firstAssessment) (sampleReplay ⟨some .normal, 0⟩ 1 3))
      startedStore = .ok ((), publishedStore) := by decide +kernel
  have expires : validUntilFor daylight2026 [] 20588 3 = .ok (sampleTarget 3).validUntil := by decide +kernel
  have newest : latest (·.targetAt) startedStore.valid = some firstAssessment := by decide +kernel
  refine interleaving_publish rfl newest (by decide +kernel) (by decide +kernel) (by decide +kernel) expires (by decide) opens
    created (interleaving_alone ?_)
  decide +kernel

/-- The third target of a session whose second one was missed is that of its one replay. -/
theorem publishIntradayStressAssessments_replay_third : ∃ spy rsp,
    measureIntradaySession daylight2026 [] 20588
      (publishedStore.sessionBars ⟨20588, 1778851800000, 1778875200000, 960⟩ .spy) (some (1 / 100)) = .ok spy ∧
    measureIntradaySession daylight2026 [] 20588
      (publishedStore.sessionBars ⟨20588, 1778851800000, 1778875200000, 960⟩ .rsp) (some (1 / 100)) = .ok rsp ∧
    replayIntradayStress spy rsp 3 = .ok ⟨some .severe, 0⟩ := by
  have run : Workforce.Run StressFault (Publishing daylight2026 openCalendar id) (Bystanding daylight2026)
      ⟨threeBars, none, []⟩ ⟨publishedStore, some (pure ()), []⟩ := by
    refine .head (.acquire ⟨sampleOptions 1, rfl⟩) ((Workforce.run_of_holder [] (andThen interleaving_first .refl)).trans ?_)
    refine .head .release (.head (.acquire ⟨sampleOptions 3, rfl⟩) ?_)
    exact Workforce.run_of_holder [] (andThen interleaving_third .refl)
  have replayed := (publishIntradayStressAssessments_replay installed_threeBars run
    (List.mem_cons_of_mem _ List.mem_cons_self) rfl).2.2.1 ⟨20588, 1778851800000, 1778875200000, 960⟩ 25 (by decide +kernel)
    (by decide)
  have final : thirdAssessment.effectiveState = some .severe ∧ thirdAssessment.evidence.confirmationAfter = 0 := by
    decide +kernel
  rwa [final.1, final.2] at replayed

end Sample

end AiTrader.Market
