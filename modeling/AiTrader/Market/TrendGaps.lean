import AiTrader.Market.Trend

/-! # The trend of an instrument forgets what precedes a gap

The measurements of a session are those of the bars since the last gap alone, there as soon as there are sixty. -/

namespace AiTrader.Market.Trend

open Library JsNumber

section Measurements

variable {N : Type} [JsNumber N] {bars run : List (Option (NormalizedBar N))} {measured : List (InstrumentMeasurements N)}
  {closes ema10 ema20 ema50 series : List (Option N)} {period consecutive start index gapped : Nat}

theorem emaSeries_eq (positive : 0 < period) : emaSeries closes period = (emaSmoothing period).series closes :=
  if_neg (by omega)

theorem emaSeries_gapLocal (positive : 0 < period) :
    GapLocal (fun closes : List (Option N) => emaSeries closes period) Option.isSome := by
  simp only [emaSeries_eq positive]
  exact Smoothing.series_gapLocal

/-- What the measurements of an instrument consist of. -/
theorem instrumentMeasurements_ok :
    instrumentMeasurements bars = .ok measured ↔
      ∃ ema10 ema20 ema50, emaSeries (closesOf bars) 10 = .ok ema10 ∧ emaSeries (closesOf bars) 20 = .ok ema20 ∧
        emaSeries (closesOf bars) 50 = .ok ema50 ∧ measured = measureSessions (closesOf bars) ema10 ema20 ema50 0 0 bars := by
  simp only [instrumentMeasurements, bind_eq_ok, Except.ok.injEq]
  constructor
  · rintro ⟨ema10, first, ema20, second, ema50, third, same⟩
    exact ⟨ema10, ema20, ema50, first, second, third, same.symm⟩
  · rintro ⟨ema10, ema20, ema50, first, second, third, same⟩
    exact ⟨ema10, first, ema20, second, ema50, third, same.symm⟩

theorem measureSessions_getElem? :
    (measureSessions closes ema10 ema20 ema50 consecutive start bars)[index]? = bars[index]?.map fun bar =>
      measureSession closes ema10 ema20 ema50 ((bars.take (index + 1)).foldl (lengthened Option.isSome) consecutive)
        (start + index) bar := by
  induction bars generalizing consecutive start index with
  | nil => simp [measureSessions]
  | cons bar rest ih =>
    cases index with
    | zero => simp [measureSessions]
    | succ index =>
      simp only [measureSessions, List.getElem?_cons_succ, ih, List.take_succ_cons, List.foldl_cons]
      rw [show start + 1 + index = start + (index + 1) by omega]

theorem length_measureSessions :
    (measureSessions closes ema10 ema20 ema50 consecutive start bars).length = bars.length := by
  induction bars generalizing consecutive start with
  | nil => rfl
  | cons bar rest ih => simp [measureSessions, ih]

theorem measureSessions_append {earlier : List (Option (NormalizedBar N))} :
    measureSessions closes ema10 ema20 ema50 consecutive start (earlier ++ run) =
      measureSessions closes ema10 ema20 ema50 consecutive start earlier ++
        measureSessions closes ema10 ema20 ema50 (earlier.foldl (lengthened Option.isSome) consecutive)
          (start + earlier.length) run := by
  induction earlier generalizing consecutive start with
  | nil => rfl
  | cons bar rest ih =>
    simp only [List.cons_append, measureSessions, ih, List.foldl_cons, List.length_cons]
    rw [show start + 1 + rest.length = start + (rest.length + 1) by omega]

variable {sessions : Nat}

omit [JsNumber N] in
theorem back_drop (near : sessions ≤ index) :
    back (series.drop gapped) index sessions = back series (gapped + index) sessions := by
  rw [back, back, if_pos near, if_pos (by omega), List.getElem?_drop]
  congr 1
  omega

omit [JsNumber N] in
theorem back_take {count : Nat} (early : index < count) :
    back (series.take count) index sessions = back series index sessions := by
  rw [back, back, List.getElem?_take_of_lt (by omega)]

variable {bar : Option (NormalizedBar N)}

/-- A session's measurements only read back as far as its consecutive sessions go. -/
theorem measureSession_drop (bound : consecutive ≤ index + 1) :
    measureSession (closes.drop gapped) (ema10.drop gapped) (ema20.drop gapped) (ema50.drop gapped) consecutive index bar =
      measureSession closes ema10 ema20 ema50 consecutive (gapped + index) bar := by
  by_cases short : consecutive < trendMinimumSessions
  · simp only [measureSession, if_pos short, List.getElem?_drop]
  · have far : 59 ≤ index := by simp only [trendMinimumSessions] at short; omega
    simp only [measureSession, if_neg short, readOperands, List.getElem?_drop]
    rw [back_drop (by omega), back_drop (by omega), back_drop (by omega), back_drop (by omega)]

theorem measureSession_take {count : Nat} (early : index < count) :
    measureSession (closes.take count) (ema10.take count) (ema20.take count) (ema50.take count) consecutive index bar =
      measureSession closes ema10 ema20 ema50 consecutive index bar := by
  simp only [measureSession, readOperands, back_take early, List.getElem?_take_of_lt early]

omit [JsNumber N] in
theorem lengthened_le (bar : Option (NormalizedBar N)) (bound : consecutive ≤ index) :
    lengthened Option.isSome consecutive bar ≤ index + 1 := by
  rw [lengthened]
  split_ifs <;> omega

theorem measureSessions_drop (bound : consecutive ≤ index) :
    measureSessions (closes.drop gapped) (ema10.drop gapped) (ema20.drop gapped) (ema50.drop gapped) consecutive index run =
      measureSessions closes ema10 ema20 ema50 consecutive (gapped + index) run := by
  induction run generalizing consecutive index with
  | nil => rfl
  | cons bar rest ih =>
    have next := lengthened_le bar bound
    rw [measureSessions, measureSessions, measureSession_drop next, ih next, Nat.add_assoc]

theorem measureSessions_take (count : Nat) :
    measureSessions (closes.take count) (ema10.take count) (ema20.take count) (ema50.take count) 0 0 (bars.take count) =
      (measureSessions closes ema10 ema20 ema50 0 0 bars).take count := by
  apply List.ext_getElem?
  intro index
  by_cases early : index < count
  · rw [List.getElem?_take_of_lt early, measureSessions_getElem?, measureSessions_getElem?,
      List.getElem?_take_of_lt early, List.take_take, Nat.min_eq_left (by omega)]
    simp only [measureSession_take (show 0 + index < count by omega)]
  · rw [List.getElem?_eq_none, List.getElem?_eq_none]
    · rw [List.length_take]
      omega
    · rw [length_measureSessions, List.length_take]
      omega

theorem instrumentMeasurements_gapLocal :
    GapLocal (instrumentMeasurements (N := N)) Option.isSome where
  length := by
    intro bars measured computed
    obtain ⟨_, _, _, _, _, _, rfl⟩ := instrumentMeasurements_ok.mp computed
    exact length_measureSessions
  take := by
    intro bars measured count computed
    obtain ⟨ema10, ema20, ema50, first, second, third, rfl⟩ := instrumentMeasurements_ok.mp computed
    apply instrumentMeasurements_ok.mpr
    have closes : closesOf (bars.take count) = (closesOf bars).take count := List.map_take
    rw [closes]
    exact ⟨_, _, _, (emaSeries_gapLocal (by decide)).take _ _ count first, (emaSeries_gapLocal (by decide)).take _ _ count second,
      (emaSeries_gapLocal (by decide)).take _ _ count third, (measureSessions_take count).symm⟩
  restart := by
    intro earlier gap run measured absent computed
    have missing : gap = none := by simpa using absent
    subst missing
    obtain ⟨ema10, ema20, ema50, first, second, third, rfl⟩ := instrumentMeasurements_ok.mp computed
    have closes : closesOf (earlier ++ none :: run) = closesOf earlier ++ none :: closesOf run := by
      simp [closesOf]
    have length : (closesOf earlier).length = earlier.length := by simp [closesOf]
    have later : (closesOf (earlier ++ none :: run)).drop (earlier.length + 1) = closesOf run := by
      rw [closes, ← length]
      simp
    rw [closes] at first second third
    have first' := (emaSeries_gapLocal (by decide)).restart _ none _ _ rfl first
    have second' := (emaSeries_gapLocal (by decide)).restart _ none _ _ rfl second
    have third' := (emaSeries_gapLocal (by decide)).restart _ none _ _ rfl third
    rw [length] at first' second' third'
    apply instrumentMeasurements_ok.mpr
    refine ⟨_, _, _, first', second', third', ?_⟩
    rw [← later, measureSessions_drop (Nat.le_refl 0), measureSessions_append, measureSessions]
    have lengths : (measureSessions (closesOf (earlier ++ none :: run)) ema10 ema20 ema50 0 0 earlier).length =
        earlier.length := length_measureSessions
    rw [Nat.zero_add, ← List.drop_drop, ← lengths, List.drop_left, lengths]
    rfl

/-- The measurements of a session without a bar. -/
def unmeasured : InstrumentMeasurements N := ⟨none, none, none, none, 0⟩

section

variable (computed : instrumentMeasurements bars = .ok measured)
include computed

section

variable {session : InstrumentMeasurements N}

theorem measured_at (found : measured[index]? = some session) :
    ∃ bar ema10 ema20 ema50, bars[index]? = some bar ∧ emaSeries (closesOf bars) 10 = .ok ema10 ∧
      emaSeries (closesOf bars) 20 = .ok ema20 ∧ emaSeries (closesOf bars) 50 = .ok ema50 ∧
      session = measureSession (closesOf bars) ema10 ema20 ema50 (sinceGap Option.isSome bars index).length index bar := by
  obtain ⟨ema10, ema20, ema50, first, second, third, rfl⟩ := instrumentMeasurements_ok.mp computed
  rw [measureSessions_getElem?, Option.map_eq_some_iff] at found
  obtain ⟨bar, at_, rfl⟩ := found
  rw [foldl_lengthened, Nat.zero_add]
  exact ⟨bar, ema10, ema20, ema50, at_, first, second, third, rfl⟩

/-- The measurements of a session are those of the bars since the last gap alone. -/
theorem measured_sinceGap (found : measured[index]? = some session) :
    ∃ alone, instrumentMeasurements (sinceGap Option.isSome bars index) = .ok alone ∧
      alone.getLast?.getD unmeasured = session := by
  obtain ⟨bar, ema10, ema20, ema50, at_, first, second, third, same⟩ := measured_at computed found
  refine instrumentMeasurements_gapLocal.since at_ computed found fun absent => ?_
  have nothing := sinceGap_of_absent at_ absent
  have missing : bar = none := by simpa using absent
  subst missing
  have close : (closesOf bars)[index]? = some none := by simp [closesOf, at_]
  rw [emaSeries_eq (by decide)] at first second third
  rw [same, nothing]
  simp [unmeasured, measureSession, trendMinimumSessions, Smoothing.series_gap first close,
    Smoothing.series_gap second close, Smoothing.series_gap third close]

theorem values_isSome (found : measured[index]? = some session) :
    session.values.isSome = true ↔ trendMinimumSessions ≤ (sinceGap Option.isSome bars index).length := by
  obtain ⟨bar, ema10, ema20, ema50, at_, _, _, _, rfl⟩ := measured_at computed found
  cases bar with
  | some bar => simp [measureSession]
  | none =>
    have nothing := sinceGap_of_absent at_ (rfl : Option.isSome (none : Option (NormalizedBar N)) = false)
    simp [measureSession, nothing, trendMinimumSessions]

end

end

omit [JsNumber N] in
theorem back_present (far : sessions ≤ index) (found : ∃ value, series[index - sessions]? = some (some value)) :
    ∃ value, back series index sessions = some (some value) := by
  rw [back, if_pos far]
  exact found

/-- Everything that the measurements of a session read is there. -/
theorem operands_present (first : emaSeries (closesOf bars) 10 = .ok ema10) (second : emaSeries (closesOf bars) 20 = .ok ema20)
    (third : emaSeries (closesOf bars) 50 = .ok ema50) (bound : index < bars.length)
    (warm : trendMinimumSessions ≤ (sinceGap Option.isSome bars index).length) :
    ∀ operand ∈ (readOperands (closesOf bars) ema10 ema20 ema50 index).toList, ∃ value, operand = some (some value) := by
  have atMost := length_sinceGap_le Option.isSome bars index
  have run : (sinceGap Option.isSome (closesOf bars) index).length = (sinceGap Option.isSome bars index).length := by
    rw [closesOf, sinceGap_map, List.length_map]
    congr 2
    funext bar
    cases bar <;> rfl
  have closesBound : index < (closesOf bars).length := by rwa [closesOf, List.length_map]
  rw [emaSeries_eq (by decide)] at first second third
  simp only [trendMinimumSessions] at warm
  have at10 := fun places (near : 10 + places ≤ 60) =>
    Smoothing.isSome_back places (Nat.succ_pos 9) first closesBound (by rw [run]; exact near.trans warm)
  have at20 := fun places (near : 20 + places ≤ 60) =>
    Smoothing.isSome_back places (Nat.succ_pos 19) second closesBound (by rw [run]; exact near.trans warm)
  have at50 := fun places (near : 50 + places ≤ 60) =>
    Smoothing.isSome_back places (Nat.succ_pos 49) third closesBound (by rw [run]; exact near.trans warm)
  have closeAt : ∃ value, (closesOf bars)[index - 5]? = some (some value) := by
    obtain ⟨close, found, present⟩ := present_back 5 closesBound (by rw [run]; omega : 5 < (sinceGap Option.isSome (closesOf bars) index).length)
    obtain ⟨value, rfl⟩ := Option.isSome_iff_exists.mp present
    exact ⟨value, found⟩
  obtain ⟨value10, found10⟩ := at10 0 (by omega)
  obtain ⟨value20, found20⟩ := at20 0 (by omega)
  obtain ⟨value50, found50⟩ := at50 0 (by omega)
  rw [Nat.sub_zero] at found10 found20 found50
  intro operand member
  simp only [readOperands, Operands.toList, found10, found20, found50, Option.join_some, List.mem_cons, List.not_mem_nil,
    or_false] at member
  rcases member with rfl | rfl | rfl | rfl | rfl | rfl | rfl
  · exact ⟨value10, rfl⟩
  · exact back_present (by omega) (at10 3 (by omega))
  · exact back_present (by omega) closeAt
  · exact ⟨value20, rfl⟩
  · exact back_present (by omega) (at20 5 (by omega))
  · exact ⟨value50, rfl⟩
  · exact back_present (by omega) (at50 10 (by omega))

end Measurements

section Days

variable {N : Type} [JsNumber N] {thresholds : List N} {dates : List String} {spy rsp bars : List (Option (NormalizedBar N))}
  {days : List (TrendDay N)} {day : TrendDay N} {index : Nat}

/-- The evidence of an instrument whose sessions since the last gap are given, none at a gap. -/
def evidenceSince (thresholds : List N) (run : List (Option (NormalizedBar N))) : Except TrendError (InstrumentEvidence N) := do
  let measured ← instrumentMeasurements run
  classifyInstrument (measured.getLast?.getD unmeasured) thresholds

theorem state_isSome {session : InstrumentMeasurements N} {evidence : InstrumentEvidence N}
    (classified : classifyInstrument session thresholds = .ok evidence) :
    evidence.state.isSome = true ↔ session.values.isSome = true := by
  unfold classifyInstrument at classified
  cases values : session.values with
  | none =>
    rw [values] at classified
    cases classified
    simp
  | some values' =>
    rw [values] at classified
    dsimp only at classified
    split_ifs at classified
    simp only [bind_eq_ok] at classified
    obtain ⟨_, _, _, _, _, _, same⟩ := classified
    cases same
    simp

/-- What a session's evidence rests on. -/
structure InstrumentLocal (thresholds : List N) (bars : List (Option (NormalizedBar N))) (index : Nat)
    (evidence : InstrumentEvidence N) : Prop where
  warm : evidence.state.isSome = true ↔ 60 ≤ (sinceGap Option.isSome bars index).length
  /-- Nothing that the measurements read is missing. -/
  present : evidence.state.isSome = true → ∃ ema10 ema20 ema50, emaSeries (closesOf bars) 10 = .ok ema10 ∧
    emaSeries (closesOf bars) 20 = .ok ema20 ∧ emaSeries (closesOf bars) 50 = .ok ema50 ∧
    ∀ operand ∈ (readOperands (closesOf bars) ema10 ema20 ema50 index).toList, ∃ value, operand = some (some value)
  /-- The bars since the last gap alone give the same evidence. -/
  alone : evidenceSince thresholds (sinceGap Option.isSome bars index) = .ok evidence

theorem instrumentLocal {measured : List (InstrumentMeasurements N)} {session : InstrumentMeasurements N}
    {evidence : InstrumentEvidence N} (computed : instrumentMeasurements bars = .ok measured)
    (found : measured[index]? = some session) (classified : classifyInstrument session thresholds = .ok evidence) :
    InstrumentLocal thresholds bars index evidence := by
  have warm : evidence.state.isSome = true ↔ 60 ≤ (sinceGap Option.isSome bars index).length :=
    (state_isSome classified).trans (values_isSome computed found)
  obtain ⟨bar, ema10, ema20, ema50, at_, first, second, third, _⟩ := measured_at computed found
  obtain ⟨bound, _⟩ := List.getElem?_eq_some_iff.mp at_
  obtain ⟨alone, again, last⟩ := measured_sinceGap computed found
  refine ⟨warm, fun classifies => ⟨ema10, ema20, ema50, first, second, third, ?_⟩, ?_⟩
  · exact operands_present first second third bound (warm.mp classifies)
  · simp only [evidenceSince, bind_eq_ok]
    exact ⟨alone, again, by rw [last]; exact classified⟩

/-- The sessions that a calculation accepts. -/
structure Admitted (dates : List String) (spy rsp : List (Option (NormalizedBar N))) : Prop where
  spyLength : dates.length = spy.length
  rspLength : dates.length = rsp.length
  chronological : ((dates.zip dates.tail).any fun (previous, date) => !before previous date) = false
  spyPlaced : misplaced dates spy = false
  rspPlaced : misplaced dates rsp = false

/-- What a calculated trend consists of. -/
theorem calculateTrendWithThresholds_ok :
    calculateTrendWithThresholds dates spy rsp thresholds = .ok days ↔
      ¬(thresholds.length ≠ 9 ∨ thresholds.any fun value => !isFinite value || less value (number 0)) ∧
        Admitted dates spy rsp ∧ ∃ a b, instrumentMeasurements spy = .ok a ∧ instrumentMeasurements rsp = .ok b ∧
          emit (trendStep thresholds) ⟨none, 0⟩ (dates.zip (a.zip b)) = .ok days := by
  unfold calculateTrendWithThresholds
  constructor
  · intro calculated
    split_ifs at calculated with invalid unaligned displaced
    simp only [not_or, not_not, Bool.not_eq_true] at unaligned
    simp only [Bool.or_eq_true, not_or, Bool.not_eq_true] at displaced
    simp only [bind_eq_ok] at calculated
    refine ⟨invalid, ⟨unaligned.1, unaligned.2.1, unaligned.2.2, displaced.1, displaced.2⟩, ?_⟩
    exact calculated.imp fun a ⟨first, b, second, emitted⟩ => ⟨b, first, second, emitted⟩
  · rintro ⟨valid, admitted, a, b, first, second, emitted⟩
    rw [if_neg valid, if_neg, if_neg]
    · simp only [bind_eq_ok]
      exact ⟨a, first, b, second, emitted⟩
    · simp only [admitted.spyPlaced, admitted.rspPlaced, Bool.or_self, Bool.false_eq_true, not_false_eq_true]
    · rw [admitted.chronological]
      simp [← admitted.spyLength, ← admitted.rspLength]

/-- A day's evidence, and its transition from some history. -/
theorem trendDay_at (calculated : calculateTrendWithThresholds dates spy rsp thresholds = .ok days)
    (found : days[index]? = some day) :
    InstrumentLocal thresholds spy index day.spy ∧ InstrumentLocal thresholds rsp index day.rsp ∧
      day.rawState = dayRawState day.spy.state day.rsp.state ∧
      ∃ history, day.transition = advanceTrend history day.rawState := by
  obtain ⟨_, _, a, b, first, second, emitted⟩ := calculateTrendWithThresholds_ok.mp calculated
  obtain ⟨bound, _⟩ := List.getElem?_eq_some_iff.mp found
  rw [length_emit emitted] at bound
  have input := List.getElem?_eq_getElem bound
  obtain ⟨history, next, stepped⟩ := emit_told emitted input found
  obtain ⟨_, pairAt⟩ := List.getElem?_zip_eq_some.mp input
  obtain ⟨atA, atB⟩ := List.getElem?_zip_eq_some.mp pairAt
  simp only [trendStep, bind_eq_ok] at stepped
  obtain ⟨spyEvidence, spyClassified, rspEvidence, rspClassified, same⟩ := stepped
  cases same
  exact ⟨instrumentLocal first atA spyClassified, instrumentLocal second atB rspClassified, rfl, history, rfl⟩

end Days

end AiTrader.Market.Trend
