import Mathlib.Algebra.BigOperators.Group.List.Basic
import Mathlib.Algebra.Order.BigOperators.GroupWithZero.List
import AiTrader.Market.SplitScaling

/-! # Normalization through a day or a later one

The splits up to a later horizon multiply all bars up to a day by one further factor. -/

namespace AiTrader.Market

open Library JsNumber ExactField
open Trend (ResearchBar ResearchSplit NormalizedBar TrendError TrendDay before validSplit normalizationFactor normalizeBar
  normalizeSplits)

attribute [local instance] exactField

variable {K : Type} [Field K] [LinearOrder K] [Transcendental K]

section Order

variable {first second third : String}

theorem before_iff : before first second = true ↔ ¬Json.codeUnitOrder second first := by
  simp [before]

theorem not_before_iff : before first second = false ↔ Json.codeUnitOrder second first := by
  simp [before]

theorem before_of_atMost_of_before (early : Json.codeUnitOrder first second) (later : before second third = true) :
    before first third = true := by
  rw [before_iff] at later ⊢
  intro atMost
  exact later (IsTrans.trans _ _ _ atMost early)

theorem atMost_of_not_before (later : before first second = false) (horizon : Json.codeUnitOrder first third) :
    before third second = false := by
  rw [not_before_iff] at later ⊢
  exact IsTrans.trans _ _ _ later horizon

end Order

section Factors

variable {splits : List (ResearchSplit K)} {d through other date : String}

/-- The product of the factors of the splits after one day, up to another. -/
theorem normalizationFactor_eq_prod (splits : List (ResearchSplit K)) (through date : String) :
    normalizationFactor splits through date =
      ((splits.filter fun split => before date split.executionDate && !before through split.executionDate).map
        (·.priceFactor)).prod := by
  rw [normalizationFactor, List.prod_eq_foldl, List.foldl_map, number_one]

/-- The splits after a day up to a horizon are those up to a day between them and those after it. -/
theorem normalizationFactor_mul (early : Json.codeUnitOrder date d) (horizon : Json.codeUnitOrder d through) :
    normalizationFactor splits through date = normalizationFactor splits through d * normalizationFactor splits d date := by
  simp only [normalizationFactor_eq_prod]
  induction splits with
  | nil => simp
  | cons split rest ih =>
    cases later : before d split.executionDate with
    | true =>
      have after := before_of_atMost_of_before early later
      simp only [List.filter_cons, later, after, Bool.true_and, Bool.not_true, Bool.and_false]
      cases before through split.executionDate with
      | true => simpa using ih
      | false =>
        simp only [Bool.not_false, if_true, List.map_cons, List.prod_cons, ih]
        simp [mul_assoc]
    | false =>
      have within := atMost_of_not_before later horizon
      simp only [List.filter_cons, later, within, Bool.not_false, Bool.and_true]
      cases before date split.executionDate with
      | true =>
        simp only [if_true, List.map_cons, List.prod_cons, ih]
        simp [mul_left_comm]
      | false => simpa using ih

theorem normalizationFactor_pos [IsStrictOrderedRing K] (valid : splits.all validSplit = true) :
    0 < normalizationFactor splits through date := by
  rw [normalizationFactor_eq_prod]
  apply List.prod_pos
  intro factor member
  obtain ⟨split, listed, rfl⟩ := List.mem_map.mp member
  have accepted := List.all_eq_true.mp valid split (List.mem_of_mem_filter listed)
  simp only [validSplit, Bool.and_eq_true, less_iff, number_zero] at accepted
  exact accepted.1.2

/-- The factor between two horizons. -/
def horizonFactor (splits : List (ResearchSplit K)) (through other date : String) : K :=
  normalizationFactor splits other date / normalizationFactor splits through date

variable [IsStrictOrderedRing K]

theorem horizonFactor_pos (valid : splits.all validSplit = true) : 0 < horizonFactor splits through other date :=
  div_pos (normalizationFactor_pos valid) (normalizationFactor_pos valid)

/-- Up to a day at or before both horizons the factor between them is the one of that day. -/
theorem horizonFactor_eq (valid : splits.all validSplit = true) (early : Json.codeUnitOrder date d)
    (horizon : Json.codeUnitOrder d through) (horizon' : Json.codeUnitOrder d other) :
    horizonFactor splits through other date = horizonFactor splits through other d := by
  have positive : 0 < normalizationFactor splits d date := normalizationFactor_pos valid
  rw [horizonFactor, normalizationFactor_mul early horizon, normalizationFactor_mul early horizon',
    mul_div_mul_right _ _ positive.ne']
  rfl

theorem normalizationFactor_other (through other date : String) (valid : splits.all validSplit = true) :
    normalizationFactor splits other date = horizonFactor splits through other date * normalizationFactor splits through date :=
  (div_mul_cancel₀ _ (normalizationFactor_pos valid).ne').symm

omit [IsStrictOrderedRing K] in
theorem normalizeBar_eq (splits : List (ResearchSplit K)) (through : String) (bar : ResearchBar K) :
    normalizeBar splits through bar =
      if JsNumber.le (bar.close * normalizationFactor splits through bar.date) (number 0) then .error .invalidNormalizedSeries
      else .ok { bar with
        openPrice := bar.openPrice * normalizationFactor splits through bar.date
        high := bar.high * normalizationFactor splits through bar.date
        low := bar.low * normalizationFactor splits through bar.date
        close := bar.close * normalizationFactor splits through bar.date
        volume := bar.volume / normalizationFactor splits through bar.date
        normalizationFactor := normalizationFactor splits through bar.date } := by
  simp [normalizeBar]

omit [IsStrictOrderedRing K] in
theorem date_of_normalizeBar {bar : ResearchBar K} {result : NormalizedBar K}
    (normalized : normalizeBar splits through bar = .ok result) : result.date = bar.date := by
  rw [normalizeBar_eq] at normalized
  split_ifs at normalized
  cases normalized
  rfl

/-- A bar through another horizon. -/
theorem normalizeBar_other {through other : String} (valid : splits.all validSplit = true) {bar : ResearchBar K} :
    normalizeBar splits other bar =
      (normalizeBar splits through bar).map (NormalizedBar.scaled (horizonFactor splits through other bar.date)) := by
  have positive : 0 < horizonFactor splits through other bar.date := horizonFactor_pos valid
  have moved : ∀ price : K, price * normalizationFactor splits other bar.date =
      horizonFactor splits through other bar.date * (price * normalizationFactor splits through bar.date) := by
    intro price
    rw [normalizationFactor_other through other bar.date valid, mul_left_comm]
  have volume : bar.volume / normalizationFactor splits other bar.date =
      bar.volume / normalizationFactor splits through bar.date / horizonFactor splits through other bar.date := by
    rw [normalizationFactor_other through other bar.date valid, mul_comm, div_mul_eq_div_div]
  have signs := le_scale positive (bar.close * normalizationFactor splits through bar.date) (number 0)
  rw [number_zero, mul_zero] at signs
  rw [normalizeBar_eq, normalizeBar_eq, moved, number_zero, signs]
  split_ifs
  · rfl
  · rw [moved, moved, moved, volume, normalizationFactor_other through other bar.date valid]
    rfl

/-- The bars through another horizon. -/
theorem normalizeSplits_other (through other : String) (valid : splits.all validSplit = true) (bars : List (ResearchBar K)) :
    normalizeSplits bars splits other = (normalizeSplits bars splits through).map
      (List.map fun bar => bar.scaled (horizonFactor splits through other bar.date)) := by
  simp only [normalizeSplits, valid, if_true]
  induction bars with
  | nil => rfl
  | cons bar rest ih =>
    rw [List.mapM_cons, List.mapM_cons, ih, normalizeBar_other valid]
    cases normalized : normalizeBar splits through bar with
    | error error => rfl
    | ok result =>
      have date : result.date = bar.date := date_of_normalizeBar normalized
      cases rest.mapM (normalizeBar splits through) with
      | error error => rfl
      | ok later =>
        simp only [Except.map, ← date]
        rfl

end Factors

section Alignment

variable {N : Type} {dates more : List String}

/-- The bars of expected sessions, looked up by their dates. -/
def aligned (normalized : List (NormalizedBar N)) (dates : List String) : List (Option (NormalizedBar N)) :=
  dates.map fun date => normalized.reverse.find? fun bar => bar.date = date

theorem aligned_append (normalized : List (NormalizedBar N)) (dates more : List String) :
    aligned normalized (dates ++ more) = aligned normalized dates ++ aligned normalized more := by
  simp [aligned]

theorem length_aligned {normalized : List (NormalizedBar N)} {dates : List String} :
    (aligned normalized dates).length = dates.length := by
  simp [aligned]

theorem aligned_scaled {factor : String → K} {c : K} (normalized : List (NormalizedBar K))
    (common : ∀ date ∈ dates, factor date = c) :
    aligned (normalized.map fun bar => bar.scaled (factor bar.date)) dates =
      (aligned normalized dates).map (Option.map (NormalizedBar.scaled c)) := by
  simp only [aligned, List.map_map]
  apply List.map_congr_left
  intro date listed
  have found : (normalized.reverse.map fun bar => bar.scaled (factor bar.date)).find? (fun bar => bar.date = date) =
      (normalized.reverse.find? fun bar => bar.date = date).map fun bar => bar.scaled (factor bar.date) := List.find?_map
  rw [← List.map_reverse, found, Function.comp_apply]
  cases known : normalized.reverse.find? fun bar => bar.date = date with
  | none => rfl
  | some bar =>
    have dated : bar.date = date := by simpa using List.find?_some known
    rw [Option.map_some, Option.map_some, dated, common date listed]

/-- Neighbours in the first elements are neighbours. -/
theorem any_neighbours_take {wrong : String × String → Bool} (count : Nat)
    (none : (dates.zip dates.tail).any wrong = false) :
    ((dates.take count).zip (dates.take count).tail).any wrong = false := by
  rw [List.any_eq_false] at none ⊢
  intro pair member
  obtain ⟨index, found⟩ := List.mem_iff_getElem?.mp member
  obtain ⟨first, second⟩ := List.getElem?_zip_eq_some.mp found
  apply none pair
  apply List.mem_iff_getElem?.mpr
  refine ⟨index, List.getElem?_zip_eq_some.mpr ⟨?_, ?_⟩⟩
  · rw [List.getElem?_take] at first
    split_ifs at first
    exact first
  · rw [List.getElem?_tail, List.getElem?_take] at second
    split_ifs at second
    rw [List.getElem?_tail]
    exact second

end Alignment

section Runs

variable {N : Type} {dates : List String} {spy rsp bars : List (Option (NormalizedBar N))}

theorem zip_take {A B : Type} (first : List A) (second : List B) (count : Nat) :
    (first.take count).zip (second.take count) = (first.zip second).take count :=
  List.take_zipWith.symm

theorem zip_mapped {A B : Type} (dates : List String) (first second : List A) (one other : A → B) :
    dates.zip ((first.map one).zip (second.map other)) =
      (dates.zip (first.zip second)).map fun input => (input.1, one input.2.1, other input.2.2) := by
  rw [List.zip_map, ← List.map_id dates, List.zip_map]
  simp

theorem misplaced_take {count : Nat} (placed : Trend.misplaced dates bars = false) :
    Trend.misplaced (dates.take count) (bars.take count) = false := by
  rw [Trend.misplaced, List.any_eq_false] at placed ⊢
  intro pair member
  rw [zip_take] at member
  exact placed pair (List.mem_of_mem_take member)

theorem Trend.Admitted.take (count : Nat) (admitted : Trend.Admitted dates spy rsp) :
    Trend.Admitted (dates.take count) (spy.take count) (rsp.take count) where
  spyLength := by rw [List.length_take, List.length_take, admitted.spyLength]
  rspLength := by rw [List.length_take, List.length_take, admitted.rspLength]
  chronological := any_neighbours_take count admitted.chronological
  spyPlaced := misplaced_take admitted.spyPlaced
  rspPlaced := misplaced_take admitted.rspPlaced

theorem misplaced_scaled (c : K) (dates : List String) (bars : List (Option (NormalizedBar K))) :
    Trend.misplaced dates (bars.map (Option.map (NormalizedBar.scaled c))) = Trend.misplaced dates bars := by
  have zipped : dates.zip (bars.map (Option.map (NormalizedBar.scaled c))) =
      (dates.zip bars).map (Prod.map id (Option.map (NormalizedBar.scaled c))) := by
    rw [← List.zip_map, List.map_id]
  rw [Trend.misplaced, zipped, List.any_map, Trend.misplaced]
  congr 1
  funext pair
  obtain ⟨date, bar⟩ := pair
  cases bar <;> rfl

theorem Trend.Admitted.scaled {spy rsp : List (Option (NormalizedBar K))} (a b : K) (admitted : Trend.Admitted dates spy rsp) :
    Trend.Admitted dates (spy.map (Option.map (NormalizedBar.scaled a))) (rsp.map (Option.map (NormalizedBar.scaled b))) where
  spyLength := by rw [List.length_map, admitted.spyLength]
  rspLength := by rw [List.length_map, admitted.rspLength]
  chronological := admitted.chronological
  spyPlaced := by rw [misplaced_scaled, admitted.spyPlaced]
  rspPlaced := by rw [misplaced_scaled, admitted.rspPlaced]

end Runs

variable {dates : List String}

namespace Trend

/-- The first sessions have the days that they have alone. -/
theorem calculateTrendWithThresholds_take {N : Type} [JsNumber N]
    {spy rsp : List (Option (NormalizedBar N))} {thresholds : List N} {days : List (TrendDay N)} (count : Nat)
    (calculated : calculateTrendWithThresholds dates spy rsp thresholds = .ok days) :
    calculateTrendWithThresholds (dates.take count) (spy.take count) (rsp.take count) thresholds = .ok (days.take count) := by
  obtain ⟨valid, admitted, a, b, first, second, emitted⟩ := calculateTrendWithThresholds_ok.mp calculated
  apply calculateTrendWithThresholds_ok.mpr
  refine ⟨valid, admitted.take count, a.take count, b.take count, instrumentMeasurements_gapLocal.take _ _ count first,
    instrumentMeasurements_gapLocal.take _ _ count second, ?_⟩
  rw [zip_take, zip_take]
  exact emit_take count emitted

/-- A day with the averages of its instruments on other share bases. -/
def TrendDay.scaled (a b : K) (day : TrendDay K) : TrendDay K :=
  { day with spy := day.spy.scaled a, rsp := day.rsp.scaled b }

theorem trendStep_scaled (a b : K) (thresholds : List K) (history : HysteresisState)
    (input : String × InstrumentMeasurements K × InstrumentMeasurements K) :
    trendStep thresholds history (input.1, input.2.1.scaled a, input.2.2.scaled b) =
      (trendStep thresholds history input).map fun (next, day) => (next, day.scaled a b) := by
  simp only [trendStep, classifyInstrument_scaled]
  cases classifyInstrument input.2.1 thresholds with
  | error error => rfl
  | ok spy =>
    cases classifyInstrument input.2.2 thresholds with
    | error error => rfl
    | ok rsp => rfl

/-- The trend is that of the bars on any share bases. -/
theorem calculateTrendWithThresholds_scaled [IsStrictOrderedRing K] {a b : K} (spyPositive : 0 < a) (rspPositive : 0 < b)
    {dates : List String} {spy rsp : List (Option (NormalizedBar K))} {thresholds : List K} {days : List (TrendDay K)}
    (calculated : calculateTrendWithThresholds dates spy rsp thresholds = .ok days) :
    calculateTrendWithThresholds dates (spy.map (Option.map (NormalizedBar.scaled a)))
      (rsp.map (Option.map (NormalizedBar.scaled b))) thresholds = .ok (days.map (TrendDay.scaled a b)) := by
  obtain ⟨valid, admitted, measuredSpy, measuredRsp, first, second, emitted⟩ := calculateTrendWithThresholds_ok.mp calculated
  apply calculateTrendWithThresholds_ok.mpr
  refine ⟨valid, admitted.scaled a b, measuredSpy.map (InstrumentMeasurements.scaled a),
    measuredRsp.map (InstrumentMeasurements.scaled b), ?_, ?_, ?_⟩
  · rw [instrumentMeasurements_scaled spyPositive, first]
    rfl
  · rw [instrumentMeasurements_scaled rspPositive, second]
    rfl
  · rw [zip_mapped, emit_map (trendStep_scaled a b thresholds) ⟨none, 0⟩, emitted]
    rfl

end Trend

namespace Volatility

/-- The first sessions have the days that they have alone. -/
theorem calculateVolatility_take {N : Type} [JsLogarithm N] {spy rsp : List (Option (NormalizedBar N))}
    {days : List (VolatilityDay N)} (count : Nat) (calculated : calculateVolatility dates spy rsp = .ok days) :
    calculateVolatility (dates.take count) (spy.take count) (rsp.take count) = .ok (days.take count) := by
  obtain ⟨admitted, a, b, first, second, emitted⟩ := calculateVolatility_ok.mp calculated
  apply calculateVolatility_ok.mpr
  refine ⟨admitted.take count, a.take count, b.take count, instrumentMeasurements_gapLocal.take _ _ count first,
    instrumentMeasurements_gapLocal.take _ _ count second, ?_⟩
  rw [zip_take, zip_take]
  exact emit_take count emitted

/-- A day with the ranges of its instruments on other share bases. -/
def VolatilityDay.scaled (a b : K) (day : VolatilityDay K) : VolatilityDay K :=
  { day with spy := day.spy.scaled a, rsp := day.rsp.scaled b }

theorem volatilityStep_scaled (a b : K) (history : VolatilityHistory)
    (input : String × VolatilityInstrument K × VolatilityInstrument K) :
    volatilityStep history (input.1, input.2.1.scaled a, input.2.2.scaled b) =
      (volatilityStep history input).map fun (next, day) => (next, day.scaled a b) := by
  change (advanceVolatility history (dayRawState input.2.1.rawState input.2.2.rawState) >>= _) =
    Except.map _ (advanceVolatility history (dayRawState input.2.1.rawState input.2.2.rawState) >>= _)
  cases advanceVolatility history (dayRawState input.2.1.rawState input.2.2.rawState) with
  | error error => rfl
  | ok transition => rfl

/-- The volatility is that of the bars on any share bases. -/
theorem calculateVolatility_scaled [IsStrictOrderedRing K] {a b : K} (spyPositive : 0 < a) (rspPositive : 0 < b)
    {dates : List String} {spy rsp : List (Option (NormalizedBar K))} {days : List (VolatilityDay K)}
    (calculated : calculateVolatility dates spy rsp = .ok days) :
    calculateVolatility dates (spy.map (Option.map (NormalizedBar.scaled a))) (rsp.map (Option.map (NormalizedBar.scaled b))) =
      .ok (days.map (VolatilityDay.scaled a b)) := by
  obtain ⟨admitted, measuredSpy, measuredRsp, first, second, emitted⟩ := calculateVolatility_ok.mp calculated
  apply calculateVolatility_ok.mpr
  refine ⟨admitted.scaled a b, measuredSpy.map (VolatilityInstrument.scaled a),
    measuredRsp.map (VolatilityInstrument.scaled b), ?_, ?_, ?_⟩
  · rw [instrumentMeasurements_scaled spyPositive, first]
    rfl
  · rw [instrumentMeasurements_scaled rspPositive, second]
    rfl
  · rw [zip_mapped, emit_map (volatilityStep_scaled a b) ⟨none, 0⟩, emitted]
    rfl

end Volatility

variable {splits : List (ResearchSplit K)}

section Horizons

variable [IsStrictOrderedRing K] {d through other : String}

omit [IsStrictOrderedRing K] in
theorem valid_of_normalizeSplits {bars : List (ResearchBar K)}
    {normalized : List (NormalizedBar K)} (computed : normalizeSplits bars splits through = .ok normalized) :
    splits.all validSplit = true := by
  unfold normalizeSplits at computed
  split_ifs at computed with valid
  exact valid

/-- The expected sessions up to a day, normalized through two horizons. -/
theorem aligned_other {bars : List (ResearchBar K)} {one another : List (NormalizedBar K)}
    (horizon : Json.codeUnitOrder d through) (horizon' : Json.codeUnitOrder d other)
    (first : normalizeSplits bars splits through = .ok one) (second : normalizeSplits bars splits other = .ok another)
    (early : ∀ date ∈ dates, Json.codeUnitOrder date d) :
    aligned another dates =
      (aligned one dates).map (Option.map (NormalizedBar.scaled (horizonFactor splits through other d))) := by
  have valid := valid_of_normalizeSplits first
  rw [normalizeSplits_other through other valid, first] at second
  cases second
  exact aligned_scaled one fun date listed => horizonFactor_eq valid (early date listed) horizon horizon'

end Horizons

section Reordering

variable {reordered : List (ResearchSplit K)}

theorem normalizationFactor_perm (same : splits.Perm reordered) (through date : String) :
    normalizationFactor splits through date = normalizationFactor reordered through date := by
  rw [normalizationFactor_eq_prod, normalizationFactor_eq_prod]
  exact ((same.filter _).map _).prod_eq

theorem normalizeSplits_perm (same : splits.Perm reordered) {bars : List (ResearchBar K)} {through : String} :
    normalizeSplits bars splits through = normalizeSplits bars reordered through := by
  have bar : normalizeBar splits through = normalizeBar reordered through := by
    funext bar
    rw [normalizeBar_eq, normalizeBar_eq, normalizationFactor_perm same]
  rw [normalizeSplits, normalizeSplits, bar, same.all_eq]

open Participation

/-- Splits that are well formed, have neither ids nor dates that were seen, and repeat none. -/
structure AcceptedSplits (ids dates : List String) (splits : List (ResearchSplit K)) : Prop where
  each : ∀ split ∈ splits, wellFormedSplit split = true ∧ split.id ∉ ids ∧ split.executionDate ∉ dates
  ids : (splits.map (·.id)).Nodup
  dates : (splits.map (·.executionDate)).Nodup

theorem acceptedSplits_cons {ids : List String} {split : ResearchSplit K} {rest : List (ResearchSplit K)} :
    AcceptedSplits ids dates (split :: rest) ↔
      (wellFormedSplit split = true ∧ split.id ∉ ids ∧ split.executionDate ∉ dates) ∧
        AcceptedSplits (split.id :: ids) (split.executionDate :: dates) rest := by
  constructor
  · intro accepted
    have heads := List.nodup_cons.mp accepted.ids
    have heads' := List.nodup_cons.mp accepted.dates
    refine ⟨accepted.each split List.mem_cons_self, ⟨fun other member => ?_, heads.2, heads'.2⟩⟩
    obtain ⟨formed, id, date⟩ := accepted.each other (List.mem_cons_of_mem _ member)
    refine ⟨formed, fun seen => ?_, fun seen => ?_⟩
    · rcases List.mem_cons.mp seen with same | seen
      · exact heads.1 (List.mem_map.mpr ⟨other, member, same⟩)
      · exact id seen
    · rcases List.mem_cons.mp seen with same | seen
      · exact heads'.1 (List.mem_map.mpr ⟨other, member, same⟩)
      · exact date seen
  · rintro ⟨first, accepted⟩
    refine ⟨fun other member => ?_, List.nodup_cons.mpr ⟨fun member => ?_, accepted.ids⟩,
      List.nodup_cons.mpr ⟨fun member => ?_, accepted.dates⟩⟩
    · rcases List.mem_cons.mp member with rfl | later
      · exact first
      · obtain ⟨formed, id, date⟩ := accepted.each other later
        exact ⟨formed, fun seen => id (List.mem_cons_of_mem _ seen), fun seen => date (List.mem_cons_of_mem _ seen)⟩
    · obtain ⟨other, listed, same⟩ := List.mem_map.mp member
      exact (accepted.each other listed).2.1 (by rw [same]; exact List.mem_cons_self)
    · obtain ⟨other, listed, same⟩ := List.mem_map.mp member
      exact (accepted.each other listed).2.2 (by rw [same]; exact List.mem_cons_self)

theorem validateSplitsFrom_cases (ids dates : List String) (splits : List (ResearchSplit K)) :
    validateSplitsFrom ids dates splits = .ok () ∧ AcceptedSplits ids dates splits ∨
      validateSplitsFrom ids dates splits = .error .splitEvidence ∧ ¬AcceptedSplits ids dates splits := by
  induction splits generalizing ids dates with
  | nil => exact .inl ⟨rfl, by simp, List.nodup_nil, List.nodup_nil⟩
  | cons split rest ih =>
    rw [validateSplitsFrom, acceptedSplits_cons]
    split_ifs with refused
    · simp only [Bool.or_eq_true, Bool.not_eq_true', List.contains_iff_mem] at refused
      refine .inr ⟨rfl, fun accepted => ?_⟩
      obtain ⟨⟨formed, id, date⟩, _⟩ := accepted
      rcases refused with (unformed | seen) | seen
      · rw [formed] at unformed
        cases unformed
      · exact id seen
      · exact date seen
    · simp only [Bool.or_eq_true, Bool.not_eq_true', List.contains_iff_mem, not_or, Bool.not_eq_false] at refused
      rcases ih (split.id :: ids) (split.executionDate :: dates) with ⟨told, accepted⟩ | ⟨told, unaccepted⟩
      · exact .inl ⟨told, ⟨refused.1.1, refused.1.2, refused.2⟩, accepted⟩
      · exact .inr ⟨told, fun accepted => unaccepted accepted.2⟩

theorem AcceptedSplits.perm {ids : List String} (accepted : AcceptedSplits ids dates splits)
    (same : splits.Perm reordered) : AcceptedSplits ids dates reordered where
  each := fun split member => accepted.each split (same.mem_iff.mpr member)
  ids := (same.map _).nodup_iff.mp accepted.ids
  dates := (same.map _).nodup_iff.mp accepted.dates

theorem validateParticipationSplits_perm (same : splits.Perm reordered) :
    validateParticipationSplits splits = validateParticipationSplits reordered := by
  rcases validateSplitsFrom_cases [] [] splits with ⟨told, accepted⟩ | ⟨told, unaccepted⟩
  · rcases validateSplitsFrom_cases [] [] reordered with ⟨told', _⟩ | ⟨_, unaccepted⟩
    · exact told.trans told'.symm
    · exact (unaccepted (accepted.perm same)).elim
  · rcases validateSplitsFrom_cases [] [] reordered with ⟨_, accepted⟩ | ⟨told', _⟩
    · exact (unaccepted (accepted.perm same.symm)).elim
    · exact told.trans told'.symm

theorem normalizeParticipationVolumes_perm (same : splits.Perm reordered) {bars : List (ParticipationVolume K)}
    {targetDate : String} :
    normalizeParticipationVolumes bars splits targetDate = normalizeParticipationVolumes bars reordered targetDate := by
  rw [normalizeParticipationVolumes, normalizeParticipationVolumes, validateParticipationSplits_perm same,
    normalizeSplits_perm same]

end Reordering

section Volumes

open Participation

variable [IsStrictOrderedRing K] {d through other : String}

/-- The normalized volumes as observations. -/
def observationsOf (normalized : ParticipationSymbol → List (NormalizedVolume K)) (symbol : ParticipationSymbol) :
    List (ParticipationVolume K) :=
  (normalized symbol).map (·.toParticipationVolume)

/-- The volumes through another horizon. -/
theorem normalizeParticipationVolumes_other {bars : List (ParticipationVolume K)}
    {one : List (NormalizedVolume K)} (computed : normalizeParticipationVolumes bars splits through = .ok one)
    (validOther : validDate other = true) (early : ∀ bar ∈ bars, Json.codeUnitOrder bar.date other) :
    splits.all validSplit = true ∧ ∃ another, normalizeParticipationVolumes bars splits other = .ok another ∧
      another.map (·.toParticipationVolume) = (one.map (·.toParticipationVolume)).map
        (ParticipationVolume.scaled fun date => (horizonFactor splits through other date)⁻¹) := by
  simp only [normalizeParticipationVolumes, bind_eq_ok] at computed ⊢
  obtain ⟨_, validated, computed⟩ := computed
  split_ifs at computed with refused
  split at computed
  · cases computed
  · rename_i found normalized
    cases computed
    have valid := valid_of_normalizeSplits normalized
    have accepted : ¬(!validDate other || bars.any fun bar =>
        !validDate bar.date || before other bar.date || !isFinite bar.volume || less bar.volume (number 0)) = true := by
      simp only [Bool.or_eq_true, not_or, Bool.not_eq_true, List.any_eq_false] at refused ⊢
      refine ⟨by rw [validOther]; rfl, fun bar member => ?_⟩
      obtain ⟨⟨⟨dated, _⟩, finite⟩, nonnegative⟩ := refused.2 bar member
      exact ⟨⟨⟨dated, not_before_iff.mpr (early bar member)⟩, finite⟩, nonnegative⟩
    refine ⟨valid, (found.map fun bar => bar.scaled (horizonFactor splits through other bar.date)).map normalizedVolume,
      ⟨(), validated, ?_⟩, ?_⟩
    · rw [if_neg accepted, normalizeSplits_other through other valid, normalized]
      rfl
    · simp only [List.map_map]
      apply List.map_congr_left
      intro bar _
      simp only [Function.comp_apply, normalizedVolume, NormalizedBar.scaled, ParticipationVolume.scaled, div_eq_inv_mul]

/-- The relative volumes of a day through another horizon. -/
theorem calculateParticipationV1_other {bars : ParticipationSymbol → List (ParticipationVolume K)}
    {splits : ParticipationSymbol → List (ResearchSplit K)} {one : ParticipationSymbol → List (NormalizedVolume K)}
    (horizon : Json.codeUnitOrder d through) (horizon' : Json.codeUnitOrder d other)
    (computed : ∀ symbol, normalizeParticipationVolumes (bars symbol) (splits symbol) through = .ok (one symbol))
    (validOther : validDate other = true) (early : ∀ symbol, ∀ bar ∈ bars symbol, Json.codeUnitOrder bar.date other) :
    ∃ another common, (∀ symbol, normalizeParticipationVolumes (bars symbol) (splits symbol) other = .ok (another symbol)) ∧
      (∀ symbol, 0 < common symbol) ∧ ∀ baselineDates,
        calculateParticipationV1 d baselineDates (observationsOf another) =
          (calculateParticipationV1 d baselineDates (observationsOf one)).map (ParticipationCalculation.scaled common) := by
  have each := fun symbol => normalizeParticipationVolumes_other (computed symbol) validOther (early symbol)
  choose valid another normalized scaled using each
  refine ⟨another, fun symbol => (horizonFactor (splits symbol) through other d)⁻¹, normalized,
    fun symbol => inv_pos.mpr (horizonFactor_pos (valid symbol)), fun baselineDates => ?_⟩
  have observed : observationsOf another = fun symbol => (observationsOf one symbol).map
      (ParticipationVolume.scaled fun date => (horizonFactor (splits symbol) through other date)⁻¹) := funext scaled
  rw [observed]
  apply calculateParticipationV1_scaled
  · exact fun symbol date => inv_pos.mpr (horizonFactor_pos (valid symbol))
  · intro symbol date upTo
    rw [horizonFactor_eq (valid symbol) upTo horizon horizon']

end Volumes

section Measures

variable [IsStrictOrderedRing K] {d through other : String} {spy rsp : List (ResearchBar K)}
  {spySplits rspSplits : List (ResearchSplit K)} {spyOne rspOne spyOther rspOther : List (NormalizedBar K)}

/-- The bars of both instruments, normalized through two horizons at or after a day. -/
structure TwoHorizons (d through other : String) (spy rsp : List (ResearchBar K)) (spySplits rspSplits : List (ResearchSplit K))
    (spyOne rspOne spyOther rspOther : List (NormalizedBar K)) : Prop where
  atThrough : Json.codeUnitOrder d through
  atOther : Json.codeUnitOrder d other
  spyOne : normalizeSplits spy spySplits through = .ok spyOne
  rspOne : normalizeSplits rsp rspSplits through = .ok rspOne
  spyOther : normalizeSplits spy spySplits other = .ok spyOther
  rspOther : normalizeSplits rsp rspSplits other = .ok rspOther

/-- What the first sessions have alone, the days up to a day have through both horizons. -/
theorem TwoHorizons.calculated_other {Error Day : Type}
    (calculate : List String → List (Option (NormalizedBar K)) → List (Option (NormalizedBar K)) → Except Error (List Day))
    (scaled : K → K → Day → Day)
    (take : ∀ {dates spy rsp days} (count : Nat), calculate dates spy rsp = .ok days →
      calculate (dates.take count) (spy.take count) (rsp.take count) = .ok (days.take count))
    (rebased : ∀ {a b : K}, 0 < a → 0 < b → ∀ {dates spy rsp days}, calculate dates spy rsp = .ok days →
      calculate dates (spy.map (Option.map (NormalizedBar.scaled a))) (rsp.map (Option.map (NormalizedBar.scaled b))) =
        .ok (days.map (scaled a b)))
    (horizons : TwoHorizons d through other spy rsp spySplits rspSplits spyOne rspOne spyOther rspOther)
    {dates more : List String} {days : List Day} (early : ∀ date ∈ dates, Json.codeUnitOrder date d)
    (calculated : calculate (dates ++ more) (aligned spyOne (dates ++ more)) (aligned rspOne (dates ++ more)) = .ok days) :
    calculate dates (aligned spyOther dates) (aligned rspOther dates) = .ok ((days.take dates.length).map
      (scaled (horizonFactor spySplits through other d) (horizonFactor rspSplits through other d))) := by
  have prefixed := take dates.length calculated
  rw [aligned_append, aligned_append, List.take_left, List.take_left' (length_aligned),
    List.take_left' (length_aligned)] at prefixed
  rw [aligned_other horizons.atThrough horizons.atOther horizons.spyOne horizons.spyOther early,
    aligned_other horizons.atThrough horizons.atOther horizons.rspOne horizons.rspOther early]
  exact rebased (horizonFactor_pos (valid_of_normalizeSplits horizons.spyOne))
    (horizonFactor_pos (valid_of_normalizeSplits horizons.rspOne)) prefixed

/-- Normalization through any later horizon changes the bars up to a day by one factor, so the trend, volatility and relative
volumes of the day are the same; the order of the splits changes nothing. -/
theorem splitHorizon (d : String) :
    (∀ (splits : List (ResearchSplit K)) (through other : String), splits.all validSplit = true →
      Json.codeUnitOrder d through → Json.codeUnitOrder d other →
        ∃ factor : String → K, (∀ date, 0 < factor date) ∧
          (∀ date, Json.codeUnitOrder date d → factor date = factor d) ∧
          ∀ bars, normalizeSplits bars splits other =
            (normalizeSplits bars splits through).map (List.map fun bar => bar.scaled (factor bar.date))) ∧
    (∀ (through other : String) (spy rsp : List (ResearchBar K)) (spySplits rspSplits : List (ResearchSplit K))
      (spyOne rspOne spyOther rspOther : List (NormalizedBar K)),
      TwoHorizons d through other spy rsp spySplits rspSplits spyOne rspOne spyOther rspOther →
        ∃ a b : K, 0 < a ∧ 0 < b ∧ ∀ dates more : List String, (∀ date ∈ dates, Json.codeUnitOrder date d) →
          (∀ thresholds days, Trend.calculateTrendWithThresholds (dates ++ more) (aligned spyOne (dates ++ more))
              (aligned rspOne (dates ++ more)) thresholds = .ok days →
            Trend.calculateTrendWithThresholds dates (aligned spyOther dates) (aligned rspOther dates) thresholds =
              .ok ((days.take dates.length).map (TrendDay.scaled a b))) ∧
          ∀ days, Volatility.calculateVolatility (dates ++ more) (aligned spyOne (dates ++ more))
              (aligned rspOne (dates ++ more)) = .ok days →
            Volatility.calculateVolatility dates (aligned spyOther dates) (aligned rspOther dates) =
              .ok ((days.take dates.length).map (Volatility.VolatilityDay.scaled a b))) ∧
    (∀ (bars : Participation.ParticipationSymbol → List (Participation.ParticipationVolume K))
      (splits : Participation.ParticipationSymbol → List (ResearchSplit K))
      (one : Participation.ParticipationSymbol → List (Participation.NormalizedVolume K)) (through other : String),
      Json.codeUnitOrder d through → Json.codeUnitOrder d other →
      (∀ symbol, Participation.normalizeParticipationVolumes (bars symbol) (splits symbol) through = .ok (one symbol)) →
      Participation.validDate other = true → (∀ symbol, ∀ bar ∈ bars symbol, Json.codeUnitOrder bar.date other) →
        ∃ another common,
          (∀ symbol, Participation.normalizeParticipationVolumes (bars symbol) (splits symbol) other =
            .ok (another symbol)) ∧
          (∀ symbol, 0 < common symbol) ∧ ∀ baselineDates,
            Participation.calculateParticipationV1 d baselineDates (observationsOf another) =
              (Participation.calculateParticipationV1 d baselineDates (observationsOf one)).map
                (Participation.ParticipationCalculation.scaled common)) ∧
    ∀ splits reordered : List (ResearchSplit K), splits.Perm reordered → ∀ through,
      (∀ bars, normalizeSplits bars splits through = normalizeSplits bars reordered through) ∧
        ∀ bars, Participation.normalizeParticipationVolumes bars splits through =
          Participation.normalizeParticipationVolumes bars reordered through := by
  refine ⟨?_, ?_, ?_, ?_⟩
  · intro splits through other valid horizon horizon'
    exact ⟨horizonFactor splits through other, fun date => horizonFactor_pos valid,
      fun date early => horizonFactor_eq valid early horizon horizon', normalizeSplits_other through other valid⟩
  · intro through other spy rsp spySplits rspSplits spyOne rspOne spyOther rspOther horizons
    refine ⟨horizonFactor spySplits through other d, horizonFactor rspSplits through other d,
      horizonFactor_pos (valid_of_normalizeSplits horizons.spyOne),
      horizonFactor_pos (valid_of_normalizeSplits horizons.rspOne), fun dates more early => ⟨?_, ?_⟩⟩
    · exact fun thresholds days => horizons.calculated_other (Trend.calculateTrendWithThresholds · · · thresholds) TrendDay.scaled
        Trend.calculateTrendWithThresholds_take
        (fun positive positive' => Trend.calculateTrendWithThresholds_scaled positive positive') early
    · exact fun days => horizons.calculated_other Volatility.calculateVolatility Volatility.VolatilityDay.scaled
        Volatility.calculateVolatility_take (fun positive positive' => Volatility.calculateVolatility_scaled positive positive')
        early
  · intro bars splits one through other horizon horizon' computed validOther early
    exact calculateParticipationV1_other horizon horizon' computed validOther early
  · intro splits reordered same through
    exact ⟨fun bars => normalizeSplits_perm same,
      fun bars => normalizeParticipationVolumes_perm same⟩

end Measures

section Rational

/-- Roots of squares, and the logarithm of one. -/
local instance : Transcendental ℚ where
  sqrt := exactNumber.sqrt
  log := fun x => x - 1

def twoForOne : ResearchSplit ℚ := ⟨"split", "2024-06-10", 1, 2, 1 / 2⟩

def fourForOne : ResearchSplit ℚ := ⟨"earlier", "2020-08-31", 1, 4, 1 / 4⟩

/-- Bars before and after a split into two, and after an earlier one into four. -/
theorem splitHorizon_twoForOne :
    (∃ factor : String → ℚ, (∀ date, 0 < factor date) ∧
      (∀ date, Json.codeUnitOrder date "2024-06-07" → factor date = factor "2024-06-07") ∧
      ∀ bars, normalizeSplits bars [twoForOne, fourForOne] "2024-06-11" =
        (normalizeSplits bars [twoForOne, fourForOne] "2024-06-07").map
          (List.map fun bar => bar.scaled (factor bar.date))) ∧
    ∀ through bars, normalizeSplits bars [twoForOne, fourForOne] through = normalizeSplits bars [fourForOne, twoForOne] through :=
  ⟨(splitHorizon "2024-06-07").1 _ "2024-06-07" "2024-06-11" (by decide +kernel) (by decide +kernel) (by decide +kernel),
    fun through => ((splitHorizon "2024-06-07").2.2.2 _ _ (List.Perm.swap _ _ _) through).1⟩

end Rational

end AiTrader.Market
