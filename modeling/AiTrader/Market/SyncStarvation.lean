import AiTrader.Market.DailyBarWriters
import AiTrader.Market.DailySync

/-! # What one daily synchronization stores

A run asks for the first twenty missing sessions of each symbol, counted from a day that never moves. -/

namespace AiTrader.Market

open Library Program Transaction Sequential

variable {receivedAt : Int} {inserted securityId : Nat} {boundaries : DailyBoundaries} {daylight : Int → Bool}

section Persisting

variable {isoDate : Int → String} {silence : DailyError} {sight after : Sight DailyStore} {store left : DailyStore}
  {start through date : Int}

/-- Reading writes nothing, and what is read passed the validation. -/
theorem evaluate_readCanonicalDailyBars {securityIds : List Nat} {rows : List CanonicalDailyRow}
    (returned : (readCanonicalDailyBars daylight boundaries securityIds start through).evaluate silence sight = (.ok rows, after)) :
    after = sight ∧ validateCanonicalDailyRows daylight boundaries
      ((sight.visible.barsBetween securityIds start through).insertionSort fun first second =>
        first.barStartAt ≤ second.barStartAt) start through = .ok rows := by
  obtain ⟨segments, middle, segmented, returned⟩ := evaluate_bind_eq_ok.mp returned
  obtain ⟨_, rfl⟩ := Prod.mk.inj segmented
  obtain ⟨_, middle, consumable, returned⟩ := evaluate_bind_eq_ok.mp returned
  have unwritten : middle = sight := by
    unfold requireConsumption at consumable
    split at consumable
    · obtain ⟨paused, last, looked, checked⟩ := evaluate_bind_eq_ok.mp consumable
      rw [← (Prod.mk.inj checked).2, ← (Prod.mk.inj looked).2]
    · exact (Prod.mk.inj consumable).2.symm
  obtain ⟨stored, last, looked, validated⟩ := evaluate_bind_eq_ok.mp returned
  obtain ⟨same, rfl⟩ := Prod.mk.inj looked
  obtain ⟨valid, rfl⟩ := Prod.mk.inj validated
  cases same
  exact ⟨unwritten, unwritten ▸ valid⟩

theorem evaluate_ensureSplitOf {provider : DailyProvider} {symbol : String} {values : BarValues}
    (returned : (ensureSplitOf isoDate provider securityId symbol date values receivedAt).evaluate silence sight =
      (.ok (), after)) : after.visible.bars = sight.visible.bars := by
  unfold ensureSplitOf at returned
  split at returned
  · obtain ⟨_, middle, ensured, returned⟩ := evaluate_bind_eq_ok.mp returned
    cases returned
    unfold ensureTiingoSplitEvent at ensured
    split at ensured
    · rw [← (Prod.mk.inj ensured).2]
    · obtain ⟨split, last, looked, ensured⟩ := evaluate_bind_eq_ok.mp ensured
      obtain ⟨_, rfl⟩ := Prod.mk.inj looked
      split at ensured
      · split at ensured
        · cases ensured
        · rw [← (Prod.mk.inj ensured).2]
      · obtain ⟨_, created, inserted, ensured⟩ := evaluate_bind_eq_ok.mp ensured
        cases ensured
        obtain ⟨update, written, rfl⟩ := evaluate_statement.mp inserted
        split at written
        · cases written
          rfl
        · cases written
  · rw [← (Prod.mk.inj returned).2]

/-- A bar of this security and session. -/
def MarketBar.isOf (securityId : Nat) (date : Int) (row : MarketBar) : Prop :=
  row.securityId = securityId ∧ row.barStartAt / dayMs = date

theorem evaluate_upsertMarketBar {bar row : MarketBar}
    (returned : (upsertMarketBar bar).evaluate silence sight = (.ok row, after)) :
    row ∈ after.visible.bars ∧ row.securityId = bar.securityId ∧ row.barStartAt = bar.barStartAt ∧
      (after.visible.bars = sight.visible.bars ∨ after.visible.bars = sight.visible.bars ++ [row]) := by
  obtain ⟨update, written, rfl⟩ := evaluate_statement.mp returned
  split at written
  case h_1 found =>
    cases written
    have met := List.find?_some found
    rw [decide_eq_true_iff] at met
    exact ⟨List.mem_of_find?_eq_some found, met.1, met.2, .inl rfl⟩
  case h_2 =>
    split at written
    case h_1 kept stored =>
      cases written
      obtain ⟨values, rfl⟩ := (stored_bar stored).1
      exact ⟨List.mem_concat_self, rfl, rfl, .inr rfl⟩
    case h_2 => cases written

/-- A bar that is persisted is there afterwards, and at most its own row is new. -/
theorem persistDailyBar_alone {symbol : String} {bar : DailyBar}
    (persisted : (persistDailyBar daylight isoDate boundaries symbol securityId date bar receivedAt).alone silence store =
      (.ok inserted, left)) :
    ∃ row ∈ left.bars, row.isOf securityId date ∧ (left.bars = store.bars ∨ left.bars = store.bars ++ [row]) := by
  obtain ⟨final, returned, rfl⟩ := alone_eq_ok.mp persisted
  obtain ⟨values, middle, canonical, returned⟩ := evaluate_bind_eq_ok.mp returned
  obtain ⟨_, rfl⟩ := Prod.mk.inj canonical
  obtain ⟨_, middle, locked, returned⟩ := evaluate_bind_eq_ok.mp returned
  obtain ⟨_, rfl⟩ := Prod.mk.inj locked
  obtain ⟨logical, middle, read, returned⟩ := evaluate_bind_eq_ok.mp returned
  obtain ⟨rfl, _⟩ := evaluate_readCanonicalDailyBars read
  obtain ⟨_, middle, single, returned⟩ := evaluate_bind_eq_ok.mp returned
  obtain ⟨_, rfl⟩ := Prod.mk.inj single
  obtain ⟨_, middle, alike, returned⟩ := evaluate_bind_eq_ok.mp returned
  obtain ⟨_, rfl⟩ := Prod.mk.inj alike
  obtain ⟨row, written, upserted, returned⟩ := evaluate_bind_eq_ok.mp returned
  obtain ⟨_, middle, agreed, returned⟩ := evaluate_bind_eq_ok.mp returned
  obtain ⟨_, rfl⟩ := Prod.mk.inj agreed
  obtain ⟨_, middle, split, returned⟩ := evaluate_bind_eq_ok.mp returned
  obtain ⟨_, rfl⟩ := Prod.mk.inj returned
  obtain ⟨member, secured, started, added⟩ := evaluate_upsertMarketBar upserted
  rw [← evaluate_ensureSplitOf split] at member added
  refine ⟨row, member, ⟨secured, ?_⟩, added⟩
  rw [started]
  exact dailyBarStartAt_day bar.provider

end Persisting

variable {exceptions : List CalendarException} {env : SyncEnvironment}

section Planning

variable {start through date now : Int}

/-- The validation goes through every row, and keeps those of its range. -/
theorem mem_validateRows {seen : List (Nat × Int)} {result out : List CanonicalDailyRow} {rows : List MarketBar}
    (valid : validateRows daylight boundaries start through seen result rows = .ok out) :
    (∀ row ∈ result, row ∈ out) ∧ ∀ row ∈ rows, start ≤ row.barStartAt / dayMs → row.barStartAt / dayMs ≤ through →
      ∃ kept ∈ out, kept.sessionDate = row.barStartAt / dayMs := by
  induction rows generalizing seen result with
  | nil =>
    cases valid
    exact ⟨fun _ => id, fun _ member => nomatch member⟩
  | cons first rest ih =>
    obtain ⟨sessionDate, stamped, valid⟩ := bind_eq_ok.mp valid
    have day := day_of_canonical stamped
    split_ifs at valid with outside repeated
    · obtain ⟨kept, others⟩ := ih valid
      refine ⟨kept, fun row member from_ to_ => ?_⟩
      rcases List.mem_cons.mp member with rfl | later
      · omega
      · exact others row later from_ to_
    · obtain ⟨authority, _, valid⟩ := bind_eq_ok.mp valid
      split_ifs at valid
      obtain ⟨kept, others⟩ := ih valid
      refine ⟨fun row member => kept row (List.mem_append_left _ member), fun row member from_ to_ => ?_⟩
      rcases List.mem_cons.mp member with rfl | later
      · exact ⟨⟨row, sessionDate⟩, kept _ (List.mem_concat_self), day.symm⟩
      · exact others row later from_ to_

/-- Every stored bar of the range is among the canonical rows. -/
theorem mem_readCanonicalDailyBars {silence : DailyError} {sight after : Sight DailyStore} {securityId : Nat}
    {rows : List CanonicalDailyRow} {row : MarketBar}
    (returned : (readCanonicalDailyBars daylight boundaries [securityId] start through).evaluate silence sight =
      (.ok rows, after)) (member : row ∈ sight.visible.bars) (of : row.isOf securityId date) (after_ : start ≤ date)
    (before : date ≤ through) : date ∈ rows.map (·.sessionDate) := by
  obtain ⟨_, valid⟩ := evaluate_readCanonicalDailyBars returned
  unfold validateCanonicalDailyRows at valid
  split_ifs at valid
  obtain ⟨out, validated, sorted⟩ := bind_eq_ok.mp valid
  cases sorted
  obtain ⟨secured, day⟩ := of
  have listed : row ∈ (sight.visible.barsBetween [securityId] start through).insertionSort fun first second =>
      first.barStartAt ≤ second.barStartAt := by
    rw [List.mem_insertionSort]
    refine List.mem_filter.mpr ⟨member, decide_eq_true ⟨List.mem_singleton.mpr secured, ?_⟩⟩
    unfold dayMs at day ⊢
    omega
  obtain ⟨kept, present, same⟩ := (mem_validateRows validated).2 row listed (by omega) (by omega)
  exact List.mem_map.mpr ⟨kept, (List.mem_insertionSort _).mpr present, same.trans day⟩

variable {present dates : List Int} {gaps : DailyGaps}

theorem ofTarget_eq_ok {α : Type} {attempt : Except TargetError α} {value : α} :
    SyncEnvironment.ofTarget attempt = .ok value ↔ attempt = .ok value := by
  cases attempt <;> simp [SyncEnvironment.ofTarget]

theorem ofCalendarError_eq_ok {α : Type} {attempt : Except CalendarError α} {value : α} :
    SyncEnvironment.ofCalendarError attempt = .ok value ↔ attempt = .ok value := by
  cases attempt <;> simp [SyncEnvironment.ofCalendarError]

theorem mem_missing (planned : env.planDates present exceptions now dates = .ok gaps) (missing : date ∈ gaps.missing) :
    date ∈ dates ∧ date ∉ present ∧ dailySessionEligible env.daylight env.boundaries exceptions now date = .ok true := by
  induction dates generalizing gaps with
  | nil =>
    cases planned
    exact absurd missing List.not_mem_nil
  | cons first rest ih =>
    obtain ⟨session, _, planned⟩ := bind_eq_ok.mp planned
    have later {gaps : DailyGaps} (planned : env.planDates present exceptions now rest = .ok gaps)
        (missing : date ∈ gaps.missing) := by
      obtain ⟨member, rest⟩ := ih planned missing
      exact And.intro (List.mem_cons_of_mem first member) rest
    split at planned
    · exact later planned missing
    · obtain ⟨eligible, determined, planned⟩ := bind_eq_ok.mp planned
      obtain ⟨others, planned_, planned⟩ := bind_eq_ok.mp planned
      split_ifs at planned with early stored
      · cases planned
        exact later planned_ missing
      · cases planned
        exact later planned_ missing
      · cases planned
        rcases List.mem_cons.mp missing with rfl | there
        · refine ⟨List.mem_cons_self, stored, ?_⟩
          rw [ofTarget_eq_ok.mp determined]
          simpa using early
        · exact later planned_ there

theorem mem_datesBetween (between : datesBetween start through = .ok dates) : date ∈ dates ↔ start ≤ date ∧ date ≤ through := by
  unfold datesBetween at between
  split_ifs at between with empty long
  cases between
  rw [List.mem_map]
  constructor
  · rintro ⟨index, member, rfl⟩
    have bound := List.mem_range.mp member
    omega
  · rintro ⟨from_, to_⟩
    exact ⟨(date - start).toNat, List.mem_range.mpr (by omega), by omega⟩

theorem marketSession_within {calendar : List CalendarException} (from_ : start ≤ date) (to_ : date ≤ through) :
    marketSession daylight (calendar.filter fun exception => start ≤ exception.sessionDate ∧ exception.sessionDate ≤ through)
      date = marketSession daylight calendar date := by
  have found : (calendar.filter fun exception => start ≤ exception.sessionDate ∧ exception.sessionDate ≤ through).find?
      (fun row => row.sessionDate == date) = calendar.find? fun row => row.sessionDate == date := by
    rw [List.find?_filter]
    congr 1
    funext row
    rw [Bool.eq_iff_iff]
    simp only [decide_eq_true_eq, beq_iff_eq]
    omega
  unfold marketSession
  rw [found]

end Planning

namespace SyncEnvironment

/-- The authoritative provider has a bar for the session. -/
def hasBar (env : SyncEnvironment) (symbol : String) (date : Int) : Bool :=
  match marketDailyAuthority env.boundaries date with
  | .ok .massive => (env.fetchDailyEvidence symbol date date).toOption.any (!·.isEmpty)
  | .ok .tiingo => (env.tiingoDaily symbol date).toOption.any (!·.isEmpty)
  | .error _ => false

end SyncEnvironment

/-- A session that a run asks a provider for. -/
structure Ask where
  symbol : String
  securityId : Nat
  date : Int

/-- What a run that asked for some sessions stored: the bars there were, and nothing else. -/
structure Served (env : SyncEnvironment) (asks : List Ask) (before after : DailyStore) : Prop where
  added : ∃ added, after.bars = before.bars ++ added ∧ ∀ row ∈ added, ∃ ask ∈ asks,
    env.hasBar ask.symbol ask.date = true ∧ row.isOf ask.securityId ask.date
  stored : ∀ ask ∈ asks, env.hasBar ask.symbol ask.date = true → ∃ row ∈ after.bars, row.isOf ask.securityId ask.date

section Serving

variable {asks more : List Ask} {before middle after : DailyStore} {tables left : SyncTables} {symbol : String}
  {date now : Int}

theorem served_nil : Served env [] before before where
  added := ⟨[], (List.append_nil _).symm, fun _ member => nomatch member⟩
  stored _ member := absurd member List.not_mem_nil

theorem Served.append (first : Served env asks before middle) (second : Served env more middle after) :
    Served env (asks ++ more) before after := by
  obtain ⟨early, grown, asked⟩ := first.added
  obtain ⟨late, grownAgain, askedAgain⟩ := second.added
  refine ⟨⟨early ++ late, by rw [grownAgain, grown, List.append_assoc], fun row member => ?_⟩, fun ask member has => ?_⟩
  · rcases List.mem_append.mp member with here | there
    · obtain ⟨ask, listed, has⟩ := asked row here
      exact ⟨ask, List.mem_append_left _ listed, has⟩
    · obtain ⟨ask, listed, has⟩ := askedAgain row there
      exact ⟨ask, List.mem_append_right _ listed, has⟩
  · rcases List.mem_append.mp member with here | there
    · obtain ⟨row, present, of⟩ := first.stored ask here has
      exact ⟨row, grownAgain ▸ List.mem_append_left _ present, of⟩
    · exact second.stored ask there has

/-- A session without a bar leaves the store as it is. -/
theorem served_none (lacks : env.hasBar symbol date = false) : Served env [⟨symbol, securityId, date⟩] before before where
  added := ⟨[], (List.append_nil _).symm, fun _ member => nomatch member⟩
  stored ask member has := by
    rw [List.mem_singleton.mp member, lacks] at has
    exact Bool.noConfusion has

theorem served_one (has : env.hasBar symbol date = true)
    (added : ∃ added, after.bars = before.bars ++ added ∧ ∀ row ∈ added, row.isOf securityId date)
    (stored : ∃ row ∈ after.bars, row.isOf securityId date) : Served env [⟨symbol, securityId, date⟩] before after where
  added := by
    obtain ⟨added, grown, of⟩ := added
    exact ⟨added, grown, fun row member => ⟨_, List.mem_singleton_self _, has, of row member⟩⟩
  stored ask member _ := by
    rw [List.mem_singleton.mp member]
    exact stored

/-- A transaction on the daily tables that persists a bar. -/
theorem onDaily_persist {bar : DailyBar}
    (returned : (SyncEnvironment.onDaily (persistDailyBar env.daylight env.isoDate env.boundaries symbol securityId date bar
      receivedAt)).exec tables = (.ok inserted, left)) :
    (∃ added, left.daily.bars = tables.daily.bars ++ added ∧ ∀ row ∈ added, row.isOf securityId date) ∧
      ∃ row ∈ left.daily.bars, row.isOf securityId date := by
  obtain ⟨daily, persisted, rfl⟩ := exec_transact_eq_ok.mp returned
  obtain ⟨row, member, of, same | grown⟩ := persistDailyBar_alone persisted
  · exact ⟨⟨[], by rw [List.append_nil]; exact same, fun _ none => absurd none List.not_mem_nil⟩, row, member, of⟩
  · refine ⟨⟨[row], grown, fun other only => ?_⟩, row, member, of⟩
    rw [List.mem_singleton.mp only]
    exact of

variable {bars : List DailyEvidenceBar}

/-- The bars of one session are persisted one after the other. -/
theorem persistBars_session (session : ∀ bar ∈ bars, etDate env.daylight bar.barStartAt = date)
    (returned : (env.persistBars symbol securityId bars).exec tables = (.ok inserted, left)) :
    (∃ added, left.daily.bars = tables.daily.bars ++ added ∧ ∀ row ∈ added, row.isOf securityId date) ∧
      (bars ≠ [] → ∃ row ∈ left.daily.bars, row.isOf securityId date) := by
  induction bars generalizing tables inserted with
  | nil =>
    cases returned
    exact ⟨⟨[], (List.append_nil _).symm, fun _ member => nomatch member⟩, fun empty => absurd rfl empty⟩
  | cons bar rest ih =>
    obtain ⟨first, middle, persisted, returned⟩ := exec_bind_eq_ok.mp returned
    obtain ⟨later, last, continued, finished⟩ := exec_bind_eq_ok.mp returned
    cases finished
    rw [session bar List.mem_cons_self] at persisted
    obtain ⟨⟨early, grown, of⟩, row, member, stored⟩ := onDaily_persist persisted
    obtain ⟨⟨late, grownAgain, ofAgain⟩, _⟩ := ih (fun other member => session other (List.mem_cons_of_mem _ member)) continued
    refine ⟨⟨early ++ late, by rw [grownAgain, grown, List.append_assoc], fun other member => ?_⟩,
      fun _ => ⟨row, grownAgain ▸ List.mem_append_left _ member, stored⟩⟩
    rcases List.mem_append.mp member with here | there
    · exact of other here
    · exact ofAgain other there

theorem fetchDailyEvidence_day (fetched : env.fetchDailyEvidence symbol date date = .ok bars)
    {bar : DailyEvidenceBar} (member : bar ∈ bars) :
    etDate env.daylight bar.barStartAt = date ∧ bar.barStartAt = etInstant env.daylight date 0 := by
  obtain ⟨rows, _, checked⟩ := bind_eq_ok.mp fetched
  split_ifs at checked with outside
  cases checked
  have valid : ¬ (etDate env.daylight bar.barStartAt < date ∨ date < etDate env.daylight bar.barStartAt ∨
      etInstant env.daylight (etDate env.daylight bar.barStartAt) 0 ≠ bar.barStartAt) := fun invalid =>
    outside (List.any_eq_true.mpr ⟨bar, member, decide_eq_true invalid⟩)
  rw [not_or, not_or, not_not] at valid
  obtain ⟨low, high, midnight⟩ := valid
  have day : etDate env.daylight bar.barStartAt = date := by omega
  exact ⟨day, by rw [← midnight, day]⟩

theorem eligibleBars_all (eligible : ∀ bar ∈ bars, env.startEligible exceptions now bar.barStartAt = .ok true) :
    env.eligibleBars exceptions now bars = .ok bars := by
  induction bars with
  | nil => rfl
  | cons bar rest ih =>
    unfold SyncEnvironment.eligibleBars
    rw [eligible bar List.mem_cons_self, ih fun other member => eligible other (List.mem_cons_of_mem _ member)]
    rfl

variable {fromDate today start : Int} {counts : IngestCounts}

theorem barEligibility_calendarExceptions (day : etDate env.daylight start = date) (from_ : fromDate ≤ date) (to_ : date ≤ today) :
    barEligibility env.daylight (env.calendarExceptions fromDate today) .day1 start now =
      barEligibility env.daylight env.calendar .day1 start now := by
  unfold barEligibility
  rw [day, show marketSession env.daylight (env.calendarExceptions fromDate today) date = _ from marketSession_within from_ to_]

/-- A session of Massive that the plan takes to be eligible is so for its own bar. -/
theorem startEligible_of_plan (authority : marketDailyAuthority env.boundaries date = .ok .massive)
    (eligible : dailySessionEligible env.daylight env.boundaries (env.calendarExceptions fromDate today) now date = .ok true)
    (from_ : fromDate ≤ date) (to_ : date ≤ today) (day : etDate env.daylight (etInstant env.daylight date 0) = date) :
    env.startEligible (env.calendarExceptions date date) now (etInstant env.daylight date 0) = .ok true := by
  unfold dailySessionEligible at eligible
  split at eligible
  · cases eligible
  · cases eligible
  · simp only [authority, dayEligible] at eligible
    rw [barEligibility_calendarExceptions day from_ to_] at eligible
    unfold SyncEnvironment.startEligible
    rw [barEligibility_calendarExceptions day (Int.le_refl date) (Int.le_refl date)]
    split at eligible
    · cases eligible
    case h_2 status close determined =>
      rw [determined, ofCalendarError_eq_ok]
      simpa [Except.map] using eligible

theorem someDate_of_first {holds : Int → Except SyncError Bool} {dates : List Int} (first : holds date = .ok true) :
    SyncEnvironment.someDate holds (date :: dates) = .ok true := by
  unfold SyncEnvironment.someDate
  rw [first]
  rfl

/-- The bars of Massive for a session that the plan found missing. -/
theorem ingestDailyRange_day (authority : marketDailyAuthority env.boundaries date = .ok .massive)
    (secured : env.securities symbol = some securityId)
    (eligible : dailySessionEligible env.daylight env.boundaries (env.calendarExceptions fromDate today) now date = .ok true)
    (from_ : fromDate ≤ date) (to_ : date ≤ today)
    (ran : (env.ingestDailyRange symbol date date now).exec tables = (.ok counts, left)) :
    Served env [⟨symbol, securityId, date⟩] tables.daily left.daily := by
  have asked : env.hasBar symbol date = (env.fetchDailyEvidence symbol date date).toOption.any (!·.isEmpty) := by
    unfold SyncEnvironment.hasBar
    rw [authority]
  obtain ⟨_, _, ran⟩ := exec_attain_bind_eq_ok.mp ran
  rw [secured] at ran
  obtain ⟨dates, between, ran⟩ := exec_attain_bind_eq_ok.mp ran
  obtain ⟨foreign, _, ran⟩ := exec_attain_bind_eq_ok.mp ran
  split at ran
  · cases ran
  obtain ⟨due, decided, ran⟩ := exec_attain_bind_eq_ok.mp ran
  have single : dates = [date] := by
    unfold datesBetween at between
    rw [if_neg (Int.lt_irrefl date), if_neg (by omega)] at between
    cases between
    simp
  rw [single] at decided
  have due_of_bar {bars : List DailyEvidenceBar} {bar : DailyEvidenceBar}
      (fetched : env.fetchDailyEvidence symbol date date = .ok bars) (member : bar ∈ bars) :
      env.startEligible (env.calendarExceptions date date) now bar.barStartAt = .ok true := by
    obtain ⟨day, midnight⟩ := fetchDailyEvidence_day fetched member
    rw [midnight] at day ⊢
    exact startEligible_of_plan authority eligible from_ to_ day
  split at ran
  · -- No bar of the session is eligible by the calendar of its day, so the client would fail or have none.
    rename_i undue
    cases ran
    apply served_none
    rw [asked]
    cases fetched : env.fetchDailyEvidence symbol date date with
    | error error => rfl
    | ok bars =>
      cases bars with
      | nil => rfl
      | cons bar rest =>
        have first : bar ∈ bar :: rest := List.mem_cons_self
        have eligible := due_of_bar fetched first
        rw [(fetchDailyEvidence_day fetched first).2] at eligible
        have found : SyncEnvironment.someDate (fun other => env.startEligible (env.calendarExceptions date date) now
            (etInstant env.daylight other 0)) [date] = .ok true := someDate_of_first eligible
        rw [found] at decided
        cases decided
        simp at undue
  · obtain ⟨bars, fetched, ran⟩ := exec_attain_bind_eq_ok.mp ran
    obtain ⟨eligible_, filtered, ran⟩ := exec_attain_bind_eq_ok.mp ran
    rw [eligibleBars_all fun bar member => due_of_bar fetched member] at filtered
    cases filtered
    obtain ⟨inserted, middle, persisted, ran⟩ := exec_bind_eq_ok.mp ran
    obtain ⟨_, rfl⟩ := Prod.mk.inj ran
    have kept := persistBars_session (fun bar member => (fetchDailyEvidence_day fetched member).1) persisted
    cases bars with
    | nil =>
      cases persisted
      apply served_none
      rw [asked, fetched]
      rfl
    | cons bar rest =>
      refine served_one ?_ kept.1 (kept.2 (List.cons_ne_nil _ _))
      rw [asked, fetched]
      rfl

/-- A session of Tiingo that the plan takes to be eligible is so without the calendar. -/
theorem tiingo_eligible_of_plan (authority : marketDailyAuthority env.boundaries date = .ok .tiingo)
    (eligible : dailySessionEligible env.daylight env.boundaries exceptions now date = .ok true) :
    dailySessionEligible env.daylight env.boundaries [] now date = .ok true := by
  unfold dailySessionEligible at eligible
  split at eligible
  · cases eligible
  · cases eligible
  case h_3 session open_ =>
    simp only [authority] at eligible
    have workday : isWeekend date = false := by
      by_contra weekend
      rw [Bool.not_eq_false] at weekend
      unfold marketSession at open_
      simp [weekend] at open_
    have regular : ∃ session, marketSession env.daylight [] date = .ok (some session) := by
      unfold marketSession
      simp [workday, sessionCloseMinutes, sessionOpenMinutes]
    obtain ⟨session, regular⟩ := regular
    unfold dailySessionEligible
    simp only [regular, authority]
    exact eligible

/-- The bar of Tiingo for a session that the plan found missing. -/
theorem ingestTiingoPanelDay_day (authority : marketDailyAuthority env.boundaries date = .ok .tiingo)
    (eligible : dailySessionEligible env.daylight env.boundaries exceptions now date = .ok true)
    (ran : (env.ingestTiingoPanelDay symbol securityId date now).exec tables = (.ok counts, left)) :
    Served env [⟨symbol, securityId, date⟩] tables.daily left.daily := by
  have asked : env.hasBar symbol date = (env.tiingoDaily symbol date).toOption.any (!·.isEmpty) := by
    unfold SyncEnvironment.hasBar
    rw [authority]
  obtain ⟨due, decided, ran⟩ := exec_attain_bind_eq_ok.mp ran
  rw [tiingo_eligible_of_plan authority eligible] at decided
  cases decided
  rw [if_neg (by simp)] at ran
  obtain ⟨_, _, ran⟩ := exec_attain_bind_eq_ok.mp ran
  obtain ⟨paused, _, ran⟩ := exec_attain_bind_eq_ok.mp ran
  split at ran
  · cases ran
  obtain ⟨bars, fetched, ran⟩ := exec_attain_bind_eq_ok.mp ran
  obtain ⟨bar, session, ran⟩ := exec_attain_bind_eq_ok.mp ran
  unfold SyncEnvironment.tiingoSession at session
  split_ifs at session
  cases session
  cases bars with
  | nil =>
    cases ran
    apply served_none
    rw [asked, fetched]
    rfl
  | cons bar rest =>
    obtain ⟨inserted, middle, persisted, ran⟩ := exec_bind_eq_ok.mp ran
    obtain ⟨_, rfl⟩ := Prod.mk.inj ran
    obtain ⟨grown, stored⟩ := onDaily_persist persisted
    refine served_one ?_ grown stored
    rw [asked, fetched]
    rfl

/-- A plan of a symbol: its security, and missing sessions that are eligible sessions of the range. -/
structure Planned (env : SyncEnvironment) (fromDate today now : Int) (plan : SyncPlan) : Prop where
  secured : env.securities plan.symbol = some plan.securityId
  eligible : ∀ date ∈ plan.gaps.missing, fromDate ≤ date ∧ date ≤ today ∧
    dailySessionEligible env.daylight env.boundaries (env.calendarExceptions fromDate today) now date = .ok true

variable {plan : SyncPlan} {plans : List SyncPlan} {dates : List Int} {totals result : SyncCounts}

theorem ingestSession_planned (planned : Planned env fromDate today now plan) (missing : date ∈ plan.gaps.missing)
    (ran : (env.ingestSession plan.symbol plan.securityId now date).exec tables = (.ok counts, left)) :
    Served env [⟨plan.symbol, plan.securityId, date⟩] tables.daily left.daily := by
  obtain ⟨from_, to_, eligible⟩ := planned.eligible date missing
  obtain ⟨provider, authority, ran⟩ := exec_attain_bind_eq_ok.mp ran
  rw [ofTarget_eq_ok] at authority
  cases provider with
  | massive => exact ingestDailyRange_day authority planned.secured eligible from_ to_ ran
  | tiingo => exact ingestTiingoPanelDay_day authority eligible ran

/-- What a run asks for a symbol, when it asks for some sessions. -/
def SyncPlan.asksFor (plan : SyncPlan) (dates : List Int) : List Ask := dates.map fun date => ⟨plan.symbol, plan.securityId, date⟩

theorem ingestSessions_planned (planned : Planned env fromDate today now plan)
    (missing : ∀ date ∈ dates, date ∈ plan.gaps.missing)
    (ran : (env.ingestSessions plan.symbol plan.securityId now dates totals).exec tables = (.ok result, left)) :
    Served env (plan.asksFor dates) tables.daily left.daily := by
  induction dates generalizing tables totals with
  | nil =>
    cases ran
    exact served_nil
  | cons date rest ih =>
    obtain ⟨counts, middle, first, ran⟩ := exec_bind_eq_ok.mp ran
    have served := ingestSession_planned planned (missing date List.mem_cons_self) first
    exact served.append (ih (fun other member => missing other (List.mem_cons_of_mem _ member)) ran)

theorem awaitSessions_daily
    (ran : (env.awaitSessions exceptions now dates).exec tables = (.ok (), left)) : left.daily = tables.daily := by
  induction dates generalizing tables with
  | nil =>
    cases ran
    rfl
  | cons date rest ih =>
    obtain ⟨close, _, ran⟩ := exec_attain_bind_eq_ok.mp ran
    obtain ⟨_, _, ran⟩ := exec_attain_bind_eq_ok.mp ran
    rw [ih ran]
    dsimp only
    split <;> rfl

/-- What a run asks the providers for. -/
def asksOf (plans : List SyncPlan) : List Ask :=
  plans.flatMap fun plan => plan.asksFor (plan.gaps.missing.take SyncEnvironment.sessionsPerRun)

theorem syncPlans_served (planned : ∀ plan ∈ plans, Planned env fromDate today now plan)
    (ran : (env.syncPlans exceptions now plans totals).exec tables = (.ok result, left)) :
    Served env (asksOf plans) tables.daily left.daily := by
  induction plans generalizing tables totals with
  | nil =>
    cases ran
    exact served_nil
  | cons plan rest ih =>
    obtain ⟨counts, middle, synced, ran⟩ := exec_bind_eq_ok.mp ran
    obtain ⟨fed, ingested, ingesting, synced⟩ := exec_bind_eq_ok.mp synced
    obtain ⟨_, awaited, awaiting, synced⟩ := exec_bind_eq_ok.mp synced
    obtain ⟨_, rfl⟩ := Prod.mk.inj synced
    have served := ingestSessions_planned (planned plan List.mem_cons_self) (fun date => List.mem_of_mem_take) ingesting
    rw [← awaitSessions_daily awaiting] at served
    exact served.append (ih (fun other member => planned other (List.mem_cons_of_mem _ member)) ran)

/-- A plan is a planned one, its missing sessions have no stored bar, and making it writes nothing. -/
theorem planOf_planned (given : exceptions = env.calendarExceptions fromDate today)
    (ran : (env.planOf fromDate today now exceptions symbol).exec tables = (.ok plan, left)) :
    left.daily = tables.daily ∧ Planned env fromDate today now plan ∧
      ∀ date ∈ plan.gaps.missing, ∀ row ∈ tables.daily.bars, ¬ row.isOf plan.securityId date := by
  unfold SyncEnvironment.planOf at ran
  cases secured : env.securities symbol with
  | none =>
    rw [secured] at ran
    cases ran
  | some securityId =>
    rw [secured] at ran
    obtain ⟨rows, middle, read, ran⟩ := exec_bind_eq_ok.mp ran
    obtain ⟨gaps, last, answered, ran⟩ := exec_bind_eq_ok.mp ran
    obtain ⟨same, rfl⟩ := Prod.mk.inj ran
    obtain ⟨gapped, rfl⟩ := Prod.mk.inj answered
    cases same
    obtain ⟨daily, transacted, rfl⟩ := exec_transact_eq_ok.mp read
    obtain ⟨sight, returned, rfl⟩ := alone_eq_ok.mp transacted
    have unwritten := (evaluate_readCanonicalDailyBars returned).1
    obtain ⟨dates, between, gapped⟩ := bind_eq_ok.mp gapped
    subst given
    refine ⟨by rw [unwritten]; rfl, ⟨secured, fun date missing => ?_⟩, fun date missing row member of => ?_⟩
    · obtain ⟨listed, _, eligible⟩ := mem_missing gapped missing
      exact ⟨((mem_datesBetween between).mp listed).1, ((mem_datesBetween between).mp listed).2, eligible⟩
    · obtain ⟨listed, absent, _⟩ := mem_missing gapped missing
      obtain ⟨from_, to_⟩ := (mem_datesBetween between).mp listed
      exact absent (mem_readCanonicalDailyBars returned member of from_ to_)

theorem plansOf_planned {symbols : List String} (given : exceptions = env.calendarExceptions fromDate today)
    (ran : (env.plansOf fromDate today now exceptions symbols).exec tables = (.ok plans, left)) :
    left.daily = tables.daily ∧ ∀ plan ∈ plans, Planned env fromDate today now plan ∧
      ∀ date ∈ plan.gaps.missing, ∀ row ∈ tables.daily.bars, ¬ row.isOf plan.securityId date := by
  induction symbols generalizing tables plans with
  | nil =>
    cases ran
    exact ⟨rfl, nofun⟩
  | cons symbol rest ih =>
    obtain ⟨plan, middle, first, ran⟩ := exec_bind_eq_ok.mp ran
    obtain ⟨later, last, others, ran⟩ := exec_bind_eq_ok.mp ran
    cases ran
    obtain ⟨same, planned⟩ := planOf_planned given first
    obtain ⟨sameAgain, plannedAgain⟩ := ih others
    rw [same] at sameAgain plannedAgain
    refine ⟨sameAgain, fun other member => ?_⟩
    rcases List.mem_cons.mp member with rfl | there
    · exact planned
    · exact plannedAgain other there

end Serving

section Runs

variable (env : SyncEnvironment) (now : Int) (setting : SyncSetting) (daily : DailyStore)

/-- The plans of a run that is due. -/
def duePlans : List SyncPlan :=
  match env.checkpointOf now setting with
  | none => []
  | some state =>
    let today := etDate env.daylight now
    match (env.plansOf state.fromDate today now (env.calendarExceptions state.fromDate today)
      marketDailyEvidenceSymbols).exec ⟨daily, now + dailySyncRetryMs⟩ with
    | (.ok plans, _) => plans
    | (.error _, _) => []

/-- The run is due and goes through all its plans; it may then still fail because sessions are missing. -/
def reachesEnd : Bool :=
  match env.checkpointOf now setting with
  | none => false
  | some state =>
    decide (state.nextAttemptAt ≤ now) &&
      ((env.syncWork state.fromDate (etDate env.daylight now) now).exec ⟨daily, now + dailySyncRetryMs⟩).1.toOption.isSome

/-- Some eligible missing session of some symbol of the panel has a bar at its authoritative provider. -/
def SomeAvailable : Prop :=
  ∃ plan ∈ duePlans env now setting daily, ∃ date ∈ plan.gaps.missing, env.hasBar plan.symbol date = true

/-- One of them is among the first twenty missing sessions of its symbol. -/
def FirstAvailable : Prop :=
  ∃ plan ∈ duePlans env now setting daily, ∃ date ∈ plan.gaps.missing.take SyncEnvironment.sessionsPerRun,
    env.hasBar plan.symbol date = true

/-- The run stores a bar whenever one is available. -/
def Unstarved : Prop :=
  SomeAvailable env now setting daily → daily.bars.length < (env.syncDailyBars now setting daily).daily.bars.length

variable {env now setting daily}

/-- A run that reaches its end has served its plans. -/
theorem syncDailyBars_served (ended : reachesEnd env now setting daily = true) :
    Served env (asksOf (duePlans env now setting daily)) daily (env.syncDailyBars now setting daily).daily ∧
      ∀ plan ∈ duePlans env now setting daily, ∀ date ∈ plan.gaps.missing, ∀ row ∈ daily.bars,
        ¬ row.isOf plan.securityId date := by
  unfold reachesEnd at ended
  unfold SyncEnvironment.syncDailyBars duePlans
  cases checkpoint : env.checkpointOf now setting with
  | none =>
    rw [checkpoint] at ended
    cases ended
  | some state =>
    simp only [checkpoint, Bool.and_eq_true, decide_eq_true_eq] at ended
    obtain ⟨due, completed⟩ := ended
    simp only [if_neg (Int.not_lt.mpr due)]
    cases worked : (env.syncWork state.fromDate (etDate env.daylight now) now).exec ⟨daily, now + dailySyncRetryMs⟩ with
    | mk result tables =>
      rw [worked] at completed
      cases result with
      | error error => cases completed
      | ok counts =>
        obtain ⟨plans, middle, planned, synced⟩ := exec_bind_eq_ok.mp worked
        obtain ⟨same, sound⟩ := plansOf_planned rfl planned
        have served := syncPlans_served (fun plan member => (sound plan member).1) synced
        rw [same] at served
        simp only [planned]
        refine ⟨?_, fun plan member => (sound plan member).2⟩
        split
        · exact served
        · exact served

theorem mem_asksOf {plans : List SyncPlan} {ask : Ask} : ask ∈ asksOf plans ↔ ∃ plan ∈ plans,
    ∃ date ∈ plan.gaps.missing.take SyncEnvironment.sessionsPerRun, ask = ⟨plan.symbol, plan.securityId, date⟩ := by
  unfold asksOf SyncPlan.asksFor
  simp only [List.mem_flatMap, List.mem_map]
  constructor
  · rintro ⟨plan, planned, date, first, rfl⟩
    exact ⟨plan, planned, date, first, rfl⟩
  · rintro ⟨plan, planned, date, first, rfl⟩
    exact ⟨plan, planned, date, first, rfl⟩

theorem grows_iff (ended : reachesEnd env now setting daily = true) :
    daily.bars.length < (env.syncDailyBars now setting daily).daily.bars.length ↔ FirstAvailable env now setting daily := by
  obtain ⟨served, fresh⟩ := syncDailyBars_served ended
  obtain ⟨added, grown, asked⟩ := served.added
  rw [grown, List.length_append]
  constructor
  · intro longer
    obtain ⟨row, member⟩ := List.exists_mem_of_length_pos (show 0 < added.length by omega)
    obtain ⟨ask, listed, has, _⟩ := asked row member
    obtain ⟨plan, planned, date, first, rfl⟩ := mem_asksOf.mp listed
    exact ⟨plan, planned, date, first, has⟩
  · rintro ⟨plan, planned, date, first, has⟩
    obtain ⟨row, member, of⟩ := served.stored _ (mem_asksOf.mpr ⟨plan, planned, date, first, rfl⟩) has
    rw [grown] at member
    rcases List.mem_append.mp member with old | new
    · exact absurd of (fresh plan planned date (List.mem_of_mem_take first) row old)
    · have nonempty := List.length_pos_of_mem new
      omega

/-- A finished run stores an available bar whenever there is one, exactly when one is among the first twenty missing sessions
of its symbol. -/
theorem unstarved_iff (ended : reachesEnd env now setting daily = true) :
    Unstarved env now setting daily ↔ (SomeAvailable env now setting daily → FirstAvailable env now setting daily) := by
  unfold Unstarved
  rw [grows_iff ended]

end Runs

instance (env : SyncEnvironment) (now : Int) (setting : SyncSetting) (daily : DailyStore) :
    Decidable (SomeAvailable env now setting daily) := by
  unfold SomeAvailable
  infer_instance

instance (env : SyncEnvironment) (now : Int) (setting : SyncSetting) (daily : DailyStore) :
    Decidable (FirstAvailable env now setting daily) := by
  unfold FirstAvailable
  infer_instance

/-- Monday 2026-01-05. -/
def sampleMonday : Int := civil 2026 1 5

/-- Massive has the bars of 2026-02-02 and no others. -/
def sampleSync : SyncEnvironment where
  daylight _ := false
  isoDate _ := ""
  boundaries := ⟨none, none⟩
  securities symbol := some (marketDailyEvidenceSymbols.idxOf symbol + 1)
  calendar := []
  massiveRows _ start _ := .ok
    (if start = civil 2026 2 2 then [⟨etInstant (fun _ => false) start 0, 10, 12, 9, 11, 100, 0⟩] else [])
  tiingoLock _ _ := .ok ()
  tiingoDaily _ _ := .ok []

/-- 17:00 in New York on 2026-02-02. -/
def sampleEvening : Int := civil 2026 2 2 * dayMs + 1320 * minuteMs

def syncSince (fromDate : Int) : SyncSetting := .stored ⟨fromDate, 0, none, "INITIALIZED"⟩

/-- Twenty sessions without a bar keep the run from the session after them. -/
theorem starved_behind_twenty : reachesEnd sampleSync sampleEvening (syncSince sampleMonday) ⟨[], [], [], none⟩ = true ∧
    SomeAvailable sampleSync sampleEvening (syncSince sampleMonday) ⟨[], [], [], none⟩ ∧
    ¬ Unstarved sampleSync sampleEvening (syncSince sampleMonday) ⟨[], [], [], none⟩ := by
  have ended : reachesEnd sampleSync sampleEvening (syncSince sampleMonday) ⟨[], [], [], none⟩ = true := by decide +kernel
  have available : SomeAvailable sampleSync sampleEvening (syncSince sampleMonday) ⟨[], [], [], none⟩ := by decide +kernel
  refine ⟨ended, available, fun unstarved => ?_⟩
  have first := (grows_iff ended).mp (unstarved available)
  exact absurd first (by decide +kernel)

/-- A run since the day of the bar stores it. -/
theorem unstarved_iff_today :
    SomeAvailable sampleSync sampleEvening (syncSince (civil 2026 2 2)) ⟨[], [], [], none⟩ ∧
      Unstarved sampleSync sampleEvening (syncSince (civil 2026 2 2)) ⟨[], [], [], none⟩ :=
  ⟨by decide +kernel, (unstarved_iff (by decide +kernel)).mpr fun _ => by decide +kernel⟩

end AiTrader.Market
