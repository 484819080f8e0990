import AiTrader.Market.StressPublication

/-! # Intraday stress is that of one replay

A valid assessment has all bars up to its target, so one replay of the whole session comes to the state it published. -/

namespace AiTrader.Market

open Library

variable {symbol : IntradaySymbol} {Fingerprint N : Type}

section Bars

variable [JsNumber N] {store after : StressStore N Fingerprint} {openAt : Int} {index : Nat} {found : IntradayStressBar N}

/-- The interval a bar stands for. -/
def MinuteBarRow.interval (row : MinuteBarRow) : Option (Nat × Int) := some (row.securityId, row.barStartAt)

/-- The bars of an instrument. -/
def StressStore.storedBars (store : StressStore N Fingerprint) (symbol : IntradaySymbol) : List (IntradayStressBar N) :=
  match store.securityId symbol with
  | none => []
  | some securityId => (store.bars.filter (·.securityId == securityId)).map (·.bar)

/-- Bars and securities are only added. -/
structure Grown (store after : StressStore N Fingerprint) : Prop where
  securities : ∀ symbol id, store.securityId symbol = some id → after.securityId symbol = some id
  bars : ∀ row ∈ store.bars, row ∈ after.bars

omit [JsNumber N] in
theorem Grown.refl (store : StressStore N Fingerprint) : Grown store store := ⟨fun _ _ same => same, fun _ member => member⟩

omit [JsNumber N] in
theorem Grown.trans {last : StressStore N Fingerprint} (first : Grown store after) (second : Grown after last) :
    Grown store last :=
  ⟨fun symbol id same => second.securities symbol id (first.securities symbol id same),
    fun row member => second.bars row (first.bars row member)⟩

/-- The row of an aligned bar. -/
theorem row_of_alignedBar {rows : List MinuteBarRow}
    (aligned : alignedBar openAt (rows.map (·.bar)) index = some found) :
    ∃ row ∈ rows, row.bar = found ∧ row.barStartAt = openAt + index * intervalMs ∧ validIntradayBar found = true := by
  obtain ⟨member, starts, valid⟩ := alignedBar_some aligned
  obtain ⟨row, listed, rfl⟩ := List.mem_map.mp member
  exact ⟨row, listed, rfl, starts, valid⟩

/-- Any selection of one instrument that contains a valid bar has it aligned. -/
theorem alignedBar_of_row {bars : List MinuteBarRow} {row : MinuteBarRow} {selected : MinuteBarRow → Bool}
    (unique : Table.Unique MinuteBarRow.interval bars) (member : row ∈ bars)
    (starts : row.barStartAt = openAt + index * intervalMs) (valid : validIntradayBar (row.bar : IntradayStressBar N) = true)
    (chosen : selected row = true) (instrument : ∀ other, selected other = true → other.securityId = row.securityId) :
    alignedBar openAt ((bars.filter selected).map (·.bar)) index = some (row.bar : IntradayStressBar N) := by
  refine alignedBar_eq_some ?_ valid
  have only := unique.filter_eq member (rfl : row.interval = some (row.securityId, row.barStartAt))
  have same : (bars.filter selected).filter (fun other => other.barStartAt == openAt + index * intervalMs) =
      (bars.filter fun other => decide (other.interval = some (row.securityId, row.barStartAt))).filter selected := by
    rw [List.filter_filter, List.filter_filter]
    refine List.filter_congr fun other _ => ?_
    cases chosen : selected other with
    | false => simp
    | true =>
      have same := instrument other chosen
      simp only [MinuteBarRow.interval, same, starts, Option.some.injEq, Prod.mk.injEq, true_and, Bool.and_true]
      exact Bool.eq_iff_iff.mpr (by simp)
  rw [List.filter_map]
  have rows : (bars.filter selected).filter
      ((fun bar : IntradayStressBar N => bar.barStartAtMs == openAt + index * intervalMs) ∘ MinuteBarRow.bar) = [row] := by
    refine Eq.trans same ?_
    rw [only]
    simp [chosen]
  rw [rows]
  rfl

/-- An aligned bar stays aligned. -/
theorem Grown.alignedBar (grown : Grown store after) (unique : Table.Unique MinuteBarRow.interval after.bars)
    (aligned : Market.alignedBar openAt (store.storedBars symbol) index = some found) :
    Market.alignedBar openAt (after.storedBars symbol) index = some found := by
  unfold StressStore.storedBars at aligned ⊢
  cases known : store.securityId symbol with
  | none =>
    rw [known] at aligned
    cases aligned
  | some id =>
    rw [known] at aligned
    obtain ⟨row, listed, rfl, starts, valid⟩ := row_of_alignedBar aligned
    obtain ⟨member, instrument⟩ := List.mem_filter.mp listed
    rw [grown.securities symbol id known]
    refine alignedBar_of_row unique (grown.bars row member) starts valid instrument fun other same => ?_
    rw [beq_iff_eq] at instrument same
    rw [instrument, same]

end Bars

variable {index : Nat} {exceptions : List CalendarException} {daylight : Int → Bool}

section Replays

variable [JsNumber N] {store after : StressStore N Fingerprint} {date : Int} {baseline : StressBaseline N}
  {history : IntradayStressHistory} {count : Nat}

/-- The opening of the regular session of a date. -/
def openOf (daylight : Int → Bool) (date : Int) : Int := etInstant daylight date sessionOpenMinutes

/-- The first aligned bars of a date. -/
def StressStore.alignedBars (store : StressStore N Fingerprint) (daylight : Int → Bool) (date : Int)
    (symbol : IntradaySymbol) (count : Nat) : List (Option (IntradayStressBar N)) :=
  (List.range count).map (alignedBar (openOf daylight date) (store.storedBars symbol))

/-- The stored bars of the first targets are complete, and a replay over them ends in the history. -/
structure Reproduced (store : StressStore N Fingerprint) (daylight : Int → Bool) (date : Int) (count : Nat)
    (baseline : StressBaseline N) (history : IntradayStressHistory) : Prop where
  complete : ∀ symbol, ∀ index < count, (alignedBar (openOf daylight date) (store.storedBars symbol) index).isSome
  replay : ∃ spy rsp,
    measureAligned date (openOf daylight date) (baseline.spy.filter JsNumber.finitePositive)
      (store.alignedBars daylight date .spy count) = .ok spy ∧
    measureAligned date (openOf daylight date) (baseline.rsp.filter JsNumber.finitePositive)
      (store.alignedBars daylight date .rsp count) = .ok rsp ∧
    replayIntradayStress spy rsp count = .ok history

theorem Grown.alignedBars (grown : Grown store after) (unique : Table.Unique MinuteBarRow.interval after.bars)
    {symbol : IntradaySymbol}
    (complete : ∀ index < count, (Market.alignedBar (openOf daylight date) (store.storedBars symbol) index).isSome) :
    after.alignedBars daylight date symbol count = store.alignedBars daylight date symbol count := by
  refine map_alignedBar_congr fun index before => ?_
  obtain ⟨bar, found⟩ := Option.isSome_iff_exists.mp (complete index before)
  rw [found]
  exact grown.alignedBar unique found

theorem Reproduced.grown (reproduced : Reproduced store daylight date count baseline history) (grown : Grown store after)
    (unique : Table.Unique MinuteBarRow.interval after.bars) :
    Reproduced after daylight date count baseline history where
  complete := fun symbol index before => by
    obtain ⟨bar, found⟩ := Option.isSome_iff_exists.mp (reproduced.complete symbol index before)
    rw [grown.alignedBar unique found]
    rfl
  replay := by
    rw [grown.alignedBars unique (reproduced.complete .spy), grown.alignedBars unique (reproduced.complete .rsp)]
    exact reproduced.replay

/-- Bars that were fetched at some time: what they align is stored. -/
def Fetched (store : StressStore N Fingerprint) (daylight : Int → Bool) (date : Int) (symbol : IntradaySymbol)
    (bars : List (IntradayStressBar N)) : Prop :=
  ∀ index bar, alignedBar (openOf daylight date) bars index = some bar →
    alignedBar (openOf daylight date) (store.storedBars symbol) index = some bar

variable {bars : List (IntradayStressBar N)}

theorem Fetched.grown (fetched : Fetched store daylight date symbol bars) (grown : Grown store after)
    (unique : Table.Unique MinuteBarRow.interval after.bars) : Fetched after daylight date symbol bars :=
  fun index bar aligned => grown.alignedBar unique (fetched index bar aligned)

variable {targets : List (IntradayStressTarget N)} {prior : Option N}

/-- What a measured session consists of. -/
theorem measureIntradaySession_cases (measured : measureIntradaySession daylight exceptions date bars prior = .ok targets) :
    ∃ length, measureAligned date (openOf daylight date) (prior.filter JsNumber.finitePositive)
      ((List.range length).map (alignedBar (openOf daylight date) bars)) = .ok targets := by
  unfold measureIntradaySession at measured
  split at measured
  · cases measured
  · cases measured
  case h_3 session open_ =>
    obtain ⟨_, opens, _⟩ := marketSession_some open_
    dsimp only at measured
    split at measured
    · cases measured
    · split at measured
      · cases measured
      · rw [opens] at measured
        exact ⟨_, measured⟩

/-- A valid target of fetched bars has all its bars stored. -/
theorem stored_of_valid {length : Nat} {target : IntradayStressTarget N}
    (fetched : Fetched store daylight date symbol bars)
    (measured : measureAligned date (openOf daylight date) prior
      ((List.range length).map (alignedBar (openOf daylight date) bars)) = .ok targets)
    (found : targets[index]? = some target) (valid : target.issues = []) :
    (∀ earlier < index + 1, (alignedBar (openOf daylight date) (store.storedBars symbol) earlier).isSome) ∧
      measureAligned date (openOf daylight date) prior (store.alignedBars daylight date symbol (index + 1)) =
        .ok (targets.take (index + 1)) := by
  have bounded : index + 1 ≤ length := by
    have few := length_emit measured
    rw [List.length_map, List.length_range] at few
    exact few ▸ (List.getElem?_eq_some_iff.mp found).1
  have first : ((List.range length).map (alignedBar (openOf daylight date) bars)).take (index + 1) =
      (List.range (index + 1)).map (alignedBar (openOf daylight date) bars) := by
    rw [← List.map_take, List.take_range, Nat.min_eq_left bounded]
  have present := bars_of_valid measured found valid
  rw [first] at present
  have aligned : ∀ earlier < index + 1, ∃ bar, alignedBar (openOf daylight date) bars earlier = some bar ∧
      alignedBar (openOf daylight date) (store.storedBars symbol) earlier = some bar := by
    intro earlier before
    obtain ⟨bar, found⟩ := Option.isSome_iff_exists.mp
      (present _ (List.mem_map_of_mem (List.mem_range.mpr before)))
    exact ⟨bar, found, fetched earlier bar found⟩
  constructor
  · intro earlier before
    obtain ⟨bar, _, stored⟩ := aligned earlier before
    rw [stored]
    rfl
  · have same : store.alignedBars daylight date symbol (index + 1) =
        (List.range (index + 1)).map (alignedBar (openOf daylight date) bars) := by
      refine map_alignedBar_congr fun earlier before => ?_
      obtain ⟨bar, here, stored⟩ := aligned earlier before
      rw [here, stored]
    rw [same, ← first]
    exact measureAligned_take (Nat.le_add_left 1 index) measured

/-- The last target of a replay, as it was measured. -/
def Finishes (spyTargets rspTargets : List (IntradayStressTarget N)) (through : Nat) (replay : StressReplay N) : Prop :=
  ∀ final, replay.final = some final → spyTargets[through - 1]? = some final.spy ∧
    rspTargets[through - 1]? = some final.rsp ∧ final.raw = marketRaw final.spy final.rsp ∧
    replay.history = final.transition.history ∧ ∃ before, advanceIntradayStress before final.raw = .ok final.transition

variable {spyTargets rspTargets : List (IntradayStressTarget N)} {replay : StressReplay N}

omit [JsNumber N] in
theorem finishes_of_replayTarget {next : StressReplay N}
    (replayed : replayTarget spyTargets rspTargets replay (index + 1) = .ok next) :
    Finishes spyTargets rspTargets (index + 1) next := by
  unfold replayTarget at replayed
  split at replayed
  case h_2 => cases replayed
  case h_1 spy rsp first second =>
    split at replayed
    case h_1 => cases replayed
    case h_2 transition advanced =>
      cases replayed
      rintro final ⟨⟩
      exact ⟨first, second, rfl, rfl, replay.history, advanced⟩

omit [JsNumber N] in
theorem replayIntradayStress_of_replayTarget {next : StressReplay N}
    (replayed : replayTarget spyTargets rspTargets replay (index + 1) = .ok next)
    (before : replayIntradayStress spyTargets rspTargets index = .ok replay.history) :
    replayIntradayStress spyTargets rspTargets (index + 1) = .ok next.history := by
  unfold replayTarget at replayed
  split at replayed
  case h_2 => cases replayed
  case h_1 spy rsp first second =>
    rw [Nat.add_sub_cancel] at first second
    split at replayed
    case h_1 => cases replayed
    case h_2 transition advanced =>
      cases replayed
      rw [replayIntradayStress_succ before first second, advanced]
      rfl

omit [JsNumber N] in
/-- The last step of a replay. -/
theorem replayTargets_succ {steps : Nat} {start : StressReplay N}
    (replayed : (List.range' (index + 1) (steps + 1)).foldlM (replayTarget spyTargets rspTargets) start = .ok replay) :
    ∃ middle, (List.range' (index + 1) steps).foldlM (replayTarget spyTargets rspTargets) start = .ok middle ∧
      replayTarget spyTargets rspTargets middle (index + steps + 1) = .ok replay := by
  rw [List.range'_1_concat, List.foldlM_append] at replayed
  cases earlier : (List.range' (index + 1) steps).foldlM (replayTarget spyTargets rspTargets) start with
  | error error =>
    rw [earlier] at replayed
    cases replayed
  | ok middle =>
    rw [earlier] at replayed
    simp only [List.foldlM_cons, List.foldlM_nil, bind_pure] at replayed
    refine ⟨middle, rfl, ?_⟩
    rw [show index + steps + 1 = index + 1 + steps by omega]
    exact replayed

omit [JsNumber N] in
/-- A replay that goes on where another ended is one replay. -/
theorem replayTargets_continue {steps : Nat} (before : replayIntradayStress spyTargets rspTargets index = .ok history)
    (replayed : (List.range' (index + 1) steps).foldlM (replayTarget spyTargets rspTargets) ⟨history, none, 0⟩ = .ok replay) :
    replayIntradayStress spyTargets rspTargets (index + steps) = .ok replay.history := by
  induction steps generalizing replay with
  | zero =>
    cases replayed
    exact before
  | succ steps ih =>
    obtain ⟨middle, earlier, last⟩ := replayTargets_succ replayed
    exact replayIntradayStress_of_replayTarget last (ih earlier)

omit [JsNumber N] in
theorem issues_of_marketRaw {spy rsp : IntradayStressTarget N} (valid : (marketRaw spy rsp).isSome) :
    spy.issues = [] ∧ rsp.issues = [] := by
  unfold marketRaw at valid
  split at valid
  · assumption
  · cases valid

/-- The targets of a longer prefix begin with those of a shorter one. -/
theorem measureAligned_earlier {through : Nat}
    {short long : List (IntradayStressTarget N)} (positive : 0 < index) (below : index ≤ through)
    (shorter : measureAligned date (openOf daylight date) prior (store.alignedBars daylight date symbol index) = .ok short)
    (longer : measureAligned date (openOf daylight date) prior (store.alignedBars daylight date symbol through) = .ok long) :
    short = long.take index := by
  have same : (store.alignedBars daylight date symbol through).take index =
      store.alignedBars daylight date symbol index := by
    unfold StressStore.alignedBars
    rw [← List.map_take, List.take_range, Nat.min_eq_left below]
  have taken := measureAligned_take positive longer
  rw [same, shorter] at taken
  exact Except.ok.inj taken

/-- A replay that ends in a valid target reproduces the session. -/
theorem reproduced_of_replaySession {spyBars rspBars : List (IntradayStressBar N)}
    {through : Nat} {final : ReplayedTarget N} (later : index < through)
    (spyFetched : Fetched store daylight date .spy spyBars) (rspFetched : Fetched store daylight date .rsp rspBars)
    (continued : index = 0 ∧ history = .start ∨ 0 < index ∧ Reproduced store daylight date index baseline history)
    (replayed : replaySession daylight exceptions date spyBars rspBars baseline history index through = .ok replay)
    (finishes : replay.final = some final) (valid : final.raw.isSome) :
    Reproduced store daylight date through baseline replay.history ∧ replay.history = final.transition.history ∧
      final.transition.effectiveState.isSome := by
  unfold replaySession at replayed
  cases spyMeasured : measureIntradaySession daylight exceptions date spyBars baseline.spy with
  | error error =>
    rw [spyMeasured] at replayed
    cases replayed
  | ok spyTargets =>
    cases rspMeasured : measureIntradaySession daylight exceptions date rspBars baseline.rsp with
    | error error =>
      rw [spyMeasured, rspMeasured] at replayed
      cases replayed
    | ok rspTargets =>
      rw [spyMeasured, rspMeasured] at replayed
      obtain ⟨spyLength, spyAligned⟩ := measureIntradaySession_cases spyMeasured
      obtain ⟨rspLength, rspAligned⟩ := measureIntradaySession_cases rspMeasured
      obtain ⟨steps, rfl⟩ : ∃ steps, through = index + steps + 1 := ⟨through - index - 1, by omega⟩
      rw [show index + steps + 1 - index = steps + 1 by omega] at replayed
      obtain ⟨middle, _, last⟩ := replayTargets_succ replayed
      obtain ⟨spyFound, rspFound, raw, same, before, advanced⟩ := finishes_of_replayTarget last final finishes
      rw [Nat.add_sub_cancel] at spyFound rspFound
      obtain ⟨spySound, rspSound⟩ := issues_of_marketRaw (raw ▸ valid)
      obtain ⟨spyComplete, spyPrefix⟩ := stored_of_valid spyFetched spyAligned spyFound spySound
      obtain ⟨rspComplete, rspPrefix⟩ := stored_of_valid rspFetched rspAligned rspFound rspSound
      have earlier : replayIntradayStress spyTargets rspTargets index = .ok history := by
        rcases continued with ⟨rfl, rfl⟩ | ⟨positive, _, spy, rsp, spyMeasured, rspMeasured, replayed⟩
        · rfl
        · have below : index ≤ index + steps + 1 := by omega
          rw [measureAligned_earlier positive below spyMeasured spyPrefix,
            measureAligned_earlier positive below rspMeasured rspPrefix, List.take_take, List.take_take,
            Nat.min_eq_left below, replayIntradayStress_take] at replayed
          exact replayed
      have whole := replayTargets_continue earlier replayed
      refine ⟨⟨?_, _, _, spyPrefix, rspPrefix, ?_⟩, same, ?_⟩
      · intro symbol
        cases symbol with
        | spy => exact spyComplete
        | rsp => exact rspComplete
      · rw [replayIntradayStress_take]
        exact whole
      · obtain ⟨state, known⟩ := Option.isSome_iff_exists.mp valid
        rw [known] at advanced
        exact advanceIntradayStress_some advanced

end Replays

variable {count : Nat}

section Sessions

variable [JsNumber N] {store : StressStore N Fingerprint} {date : Int} {session : MarketSession}

/-- The bar starts on an interval of the regular session of some date. -/
def OnInterval (daylight : Int → Bool) (start : Int) : Prop :=
  ∃ date, ∃ index ≤ 25, start = openOf daylight date + (index : Nat) * intervalMs

/-- The bars of an instrument within a session, whoever provided them. -/
def StressStore.sessionBars (store : StressStore N Fingerprint) (session : MarketSession) (symbol : IntradaySymbol) :
    List (IntradayStressBar N) :=
  match store.securityId symbol with
  | none => []
  | some securityId => (store.sessionRows session securityId).map (·.bar)

theorem openOf_bounds (daylight : Int → Bool) (date : Int) :
    date * dayMs + 810 * minuteMs ≤ openOf daylight date ∧ openOf daylight date ≤ date * dayMs + 870 * minuteMs := by
  unfold openOf
  rw [etInstant_eq]
  simp only [dayMs, minuteMs, sessionOpenMinutes]
  constructor <;> split <;> omega

/-- Intervals of different dates do not meet. -/
theorem date_of_interval {other : Int} {instant : Int} (few : index ≤ 25)
    (starts : instant = openOf daylight other + index * intervalMs) (after : openOf daylight date ≤ instant)
    (before : instant < openOf daylight date + 26 * intervalMs) : other = date := by
  have here := openOf_bounds daylight date
  have there := openOf_bounds daylight other
  simp only [dayMs, minuteMs, intervalMs] at *
  omega

/-- What the calendar says about a date with targets. -/
theorem actionableTargets_some (listed : actionableTargets daylight exceptions date = .ok (some (session, count))) :
    marketSession daylight exceptions date = .ok (some session) ∧ session.openAt = openOf daylight date ∧
      (session.closeAt - session.openAt) % intervalMs = 0 ∧
      count = ((session.closeAt - session.openAt) / intervalMs - 1).toNat ∧ count ≤ 25 ∧
      session.openAt + count * intervalMs < session.closeAt ∧
      session.closeAt ≤ openOf daylight date + 26 * intervalMs := by
  unfold actionableTargets at listed
  split at listed
  · cases listed
  · cases listed
  case h_3 found open_ =>
    dsimp only at listed
    split at listed
    · cases listed
    case isFalse aligned =>
      cases listed
      obtain ⟨_, opens, closes, after, before⟩ := marketSession_some open_
      have length := marketSession_length open_
      refine ⟨open_, opens, not_not.mp aligned, rfl, ?_, ?_, ?_⟩
      all_goals
        simp only [intervalMs, minuteMs, sessionOpenMinutes, sessionCloseMinutes, openOf] at *
        omega

/-- The stored bars of a session are measured, and its complete prefix is aligned as it is stored. -/
theorem alignedBar_sessionBars (unique : Table.Unique MinuteBarRow.interval store.bars)
    (listed : actionableTargets daylight exceptions date = .ok (some (session, count))) (before : index < count)
    {found : IntradayStressBar N}
    (stored : alignedBar (openOf daylight date) (store.storedBars symbol) index = some found) :
    alignedBar (openOf daylight date) (store.sessionBars session symbol) index = some found := by
  obtain ⟨_, opens, _, _, _, closes, _⟩ := actionableTargets_some listed
  unfold StressStore.storedBars at stored
  unfold StressStore.sessionBars
  cases known : store.securityId symbol with
  | none =>
    rw [known] at stored
    cases stored
  | some id =>
    rw [known] at stored
    obtain ⟨row, member, rfl, starts, valid⟩ := row_of_alignedBar stored
    obtain ⟨member, instrument⟩ := List.mem_filter.mp member
    rw [beq_iff_eq] at instrument
    have within : session.openAt ≤ row.barStartAt ∧ row.barStartAt < session.closeAt := by
      have order : (index : Int) * intervalMs ≤ count * intervalMs := by
        simp only [intervalMs, minuteMs]
        omega
      have nonneg : 0 ≤ (index : Int) * intervalMs := by
        simp only [intervalMs, minuteMs]
        omega
      constructor <;> omega
    refine alignedBar_of_row unique member starts valid (by simp [instrument, within]) fun other chosen => ?_
    rw [Bool.and_eq_true, beq_iff_eq] at chosen
    rw [chosen.1, instrument]

/-- No stored bar of a session is outside it. -/
theorem insideSession (onInterval : ∀ row ∈ store.bars, OnInterval daylight row.barStartAt)
    (listed : actionableTargets daylight exceptions date = .ok (some (session, count))) :
    (store.sessionBars session symbol).any (outsideSession session) = false := by
  obtain ⟨_, opens, _, _, _, _, closes⟩ := actionableTargets_some listed
  rw [List.any_eq_false]
  intro bar member
  unfold StressStore.sessionBars at member
  cases known : store.securityId symbol with
  | none =>
    rw [known] at member
    cases member
  | some id =>
    rw [known] at member
    obtain ⟨row, listed, rfl⟩ := List.mem_map.mp member
    obtain ⟨stored, selected⟩ := List.mem_filter.mp listed
    rw [Bool.and_eq_true, decide_eq_true_iff] at selected
    obtain ⟨_, after, before⟩ := selected
    obtain ⟨other, index, few, starts⟩ := onInterval row stored
    obtain rfl := date_of_interval few starts (opens ▸ after) (Int.lt_of_lt_of_le before closes)
    have onStep : (row.barStartAt - session.openAt) % intervalMs = 0 := by
      rw [starts, opens]
      simp only [intervalMs, minuteMs]
      omega
    simp [outsideSession, MinuteBarRow.bar, after, before, onStep]

/-- What was reproduced from the stored bars is the replay of the measured session. -/
theorem Reproduced.measured {baseline : StressBaseline N} {history : IntradayStressHistory}
    (reproduced : Reproduced store daylight date index baseline history) (positive : 0 < index)
    (unique : Table.Unique MinuteBarRow.interval store.bars)
    (onInterval : ∀ row ∈ store.bars, OnInterval daylight row.barStartAt)
    (listed : actionableTargets daylight exceptions date = .ok (some (session, count))) (bounded : index ≤ count) :
    ∃ spy rsp, measureIntradaySession daylight exceptions date (store.sessionBars session .spy) baseline.spy = .ok spy ∧
      measureIntradaySession daylight exceptions date (store.sessionBars session .rsp) baseline.rsp = .ok rsp ∧
      replayIntradayStress spy rsp index = .ok history := by
  obtain ⟨open_, opens, aligned, counted, _⟩ := actionableTargets_some listed
  have measured : ∀ symbol prior, ∃ targets,
      measureIntradaySession daylight exceptions date (store.sessionBars session symbol) prior = .ok targets ∧
        measureAligned date (openOf daylight date) (prior.filter JsNumber.finitePositive)
          (store.alignedBars daylight date symbol index) = .ok (targets.take index) := by
    intro symbol prior
    have total : ∃ targets, measureAligned date (openOf daylight date) (prior.filter JsNumber.finitePositive)
        ((List.range count).map (alignedBar (openOf daylight date) (store.sessionBars session symbol))) = .ok targets := by
      refine measureAligned_total fun bar member => ?_
      obtain ⟨position, _, found⟩ := List.mem_map.mp member
      exact (alignedBar_some found).2.2
    obtain ⟨targets, total⟩ := total
    refine ⟨targets, ?_, ?_⟩
    · unfold measureIntradaySession
      rw [open_]
      simp only [aligned, ne_eq, not_true_eq_false, if_false, insideSession onInterval listed, Bool.false_eq_true]
      rw [← counted, opens]
      exact total
    · have first := measureAligned_take positive total
      rw [← List.map_take, List.take_range, Nat.min_eq_left bounded] at first
      rw [← first]
      congr 1
      refine map_alignedBar_congr fun earlier before => ?_
      obtain ⟨bar, stored⟩ := Option.isSome_iff_exists.mp (reproduced.complete symbol earlier before)
      rw [stored, alignedBar_sessionBars unique listed (Nat.lt_of_lt_of_le before bounded) stored]
  obtain ⟨spy, rsp, spyPrefix, rspPrefix, replayed⟩ := reproduced.replay
  obtain ⟨spyTargets, spyMeasured, spyTaken⟩ := measured .spy baseline.spy
  obtain ⟨rspTargets, rspMeasured, rspTaken⟩ := measured .rsp baseline.rsp
  refine ⟨spyTargets, rspTargets, spyMeasured, rspMeasured, ?_⟩
  rw [← replayIntradayStress_take]
  obtain rfl := Except.ok.inj (spyTaken.symm.trans spyPrefix)
  obtain rfl := Except.ok.inj (rspTaken.symm.trans rspPrefix)
  exact replayed

end Sessions

section Targets

variable {now : Int} {requireFresh : Bool} {target : IntradayTarget}

theorem mem_descending (member : index ∈ descending count) : 1 ≤ index ∧ index ≤ count := by
  induction count with
  | zero => cases member
  | succ count ih =>
    rcases List.mem_cons.mp member with rfl | later
    · omega
    · have := ih later
      omega

theorem scanTargets_some {date : Int} {session : MarketSession} {indexes : List Nat}
    (scanned : scanTargets daylight exceptions now requireFresh date session indexes = .ok (some target)) :
    target.date = date ∧ target.index ∈ indexes ∧ target.targetAt = session.openAt + target.index * intervalMs := by
  induction indexes with
  | nil => cases scanned
  | cons index rest ih =>
    have skipped : scanTargets daylight exceptions now requireFresh date session rest = .ok (some target) →
        target.date = date ∧ target.index ∈ index :: rest ∧
          target.targetAt = session.openAt + target.index * intervalMs := by
      intro later
      obtain ⟨here, member, placed⟩ := ih later
      exact ⟨here, List.mem_cons_of_mem _ member, placed⟩
    unfold scanTargets at scanned
    dsimp only at scanned
    split at scanned
    · cases scanned
    · split at scanned
      · exact skipped scanned
      · split at scanned
        · cases scanned
        · split at scanned
          · exact skipped scanned
          · cases scanned
            exact ⟨rfl, List.mem_cons_self, rfl⟩

/-- The selected target is one of its session. -/
theorem latestTarget_some
    (selected : latestIntradayStressAssessmentTarget daylight exceptions now requireFresh = .ok (some target)) :
    1 ≤ target.index ∧ target.index ≤ 25 ∧
      target.targetAt = openOf daylight target.date + target.index * intervalMs := by
  unfold latestIntradayStressAssessmentTarget at selected
  generalize (List.range 11).map (fun back => (back : Int)) = backs at selected
  induction backs with
  | nil => cases selected
  | cons back rest ih =>
    unfold walkDates at selected
    split at selected
    · cases selected
    · exact ih selected
    case h_3 session count listed =>
      split at selected
      · cases selected
      case h_2 found scanned =>
        cases selected
        obtain ⟨here, member, placed⟩ := scanTargets_some scanned
        obtain ⟨positive, bounded⟩ := mem_descending member
        obtain ⟨_, opens, _, _, few, _⟩ := actionableTargets_some listed
        rw [here, ← opens]
        exact ⟨positive, Nat.le_trans bounded few, placed⟩
      · exact ih selected

end Targets

end AiTrader.Market
