import AiTrader.Market.AuthoritySegments
import AiTrader.Market.PersistedSplits
import AiTrader.Market.SyncStarvation

/-! # Split evidence is complete

The events a reader gets are those of the tables, however the coverage rows overlap. -/

namespace AiTrader.Market

open Library Program Transaction JsNumber

variable {daylight : Int → Bool} {isoDate : Int → String} {boundaries : DailyBoundaries} {tables : SplitTables}
  {symbol : String} {securityId : Nat} {start through date : Int} {segment : AuthoritySegment}
  {bars : List CanonicalDailyRow}

section CanonicalBars

variable {seen : List (Nat × Int)} {result out : List CanonicalDailyRow} {rows : List MarketBar} {daily : DailyStore}

/-- The security and the session of a canonical row. -/
def CanonicalDailyRow.key (kept : CanonicalDailyRow) : Nat × Int := (kept.row.securityId, kept.sessionDate)

/-- The rows of the range, one for each session and of the provider with the authority. -/
theorem validateRows_canonical (valid : validateRows daylight boundaries start through seen result rows = .ok out)
    (known : ∀ kept ∈ result, kept.key ∈ seen) (distinct : (result.map (·.key)).Nodup) :
    (out.map (·.key)).Nodup ∧
    (∀ kept, kept ∈ out ↔ kept ∈ result ∨ kept.row ∈ rows ∧
      canonicalDailySessionDate daylight kept.row.barStartAt kept.row.provider = .ok kept.sessionDate ∧
      start ≤ kept.sessionDate ∧ kept.sessionDate ≤ through) ∧
    ∀ kept ∈ out, kept ∈ result ∨ authorityOf boundaries kept.sessionDate = .ok kept.row.provider := by
  induction rows generalizing seen result with
  | nil =>
    cases valid
    exact ⟨distinct, by simp, fun kept member => .inl member⟩
  | cons row rest ih =>
    obtain ⟨session, stamped, valid⟩ := bind_eq_ok.mp valid
    split_ifs at valid with outside repeated
    · obtain ⟨single, members, provided⟩ := ih valid known distinct
      refine ⟨single, fun kept => ?_, provided⟩
      rw [members]
      constructor
      · rintro (old | ⟨listed, rest⟩)
        · exact .inl old
        · exact .inr ⟨List.mem_cons_of_mem row listed, rest⟩
      · rintro (old | ⟨listed, told, within⟩)
        · exact .inl old
        · rcases List.mem_cons.mp listed with same | listed
          · rw [same, stamped] at told
            cases told
            omega
          · exact .inr ⟨listed, told, within⟩
    · obtain ⟨authority, provider, valid⟩ := bind_eq_ok.mp valid
      split_ifs at valid with foreign
      have fresh : (row.securityId, session) ∉ result.map (·.key) := by
        intro listed
        obtain ⟨kept, member, same⟩ := List.mem_map.mp listed
        exact repeated (same ▸ known kept member)
      have known' : ∀ kept ∈ result ++ [⟨row, session⟩], kept.key ∈ (row.securityId, session) :: seen := by
        intro kept member
        rcases List.mem_append.mp member with old | new
        · exact List.mem_cons_of_mem _ (known kept old)
        · rw [List.mem_singleton.mp new]
          exact List.mem_cons_self
      have distinct' : ((result ++ [(⟨row, session⟩ : CanonicalDailyRow)]).map (·.key)).Nodup := by
        rw [List.map_append, List.nodup_append]
        refine ⟨distinct, List.nodup_singleton _, ?_⟩
        intro key old other new same
        rw [List.map_singleton, List.mem_singleton] at new
        rw [same, new] at old
        exact fresh old
      obtain ⟨single, members, provided⟩ := ih valid known' distinct'
      refine ⟨single, fun kept => ?_, fun kept member => ?_⟩
      · rw [members, List.mem_append, List.mem_singleton]
        constructor
        · rintro ((old | rfl) | ⟨listed, rest⟩)
          · exact .inl old
          · exact .inr ⟨List.mem_cons_self, stamped, by dsimp only; omega, by dsimp only; omega⟩
          · exact .inr ⟨List.mem_cons_of_mem row listed, rest⟩
        · rintro (old | ⟨listed, told, within⟩)
          · exact .inl (.inl old)
          · rcases List.mem_cons.mp listed with same | listed
            · refine .inl (.inr ?_)
              obtain ⟨stored, dated⟩ := kept
              obtain rfl : stored = row := same
              rw [stamped] at told
              rw [Except.ok.inj told]
            · exact .inr ⟨listed, told, within⟩
      · rcases provided kept member with listed | known
        · rcases List.mem_append.mp listed with old | new
          · exact .inl old
          · right
            rw [List.mem_singleton.mp new, not_not.mp foreign]
            exact provider
        · exact .inr known

/-- The canonical bars of a security and a range. -/
structure CanonicalBars (daylight : Int → Bool) (boundaries : DailyBoundaries) (daily : DailyStore) (securityId : Nat)
    (start through : Int) (bars : List CanonicalDailyRow) : Prop where
  mem : ∀ kept, kept ∈ bars ↔ kept.row ∈ daily.bars ∧ kept.row.securityId = securityId ∧
    canonicalDailySessionDate daylight kept.row.barStartAt kept.row.provider = .ok kept.sessionDate ∧
    start ≤ kept.sessionDate ∧ kept.sessionDate ≤ through
  authority : ∀ kept ∈ bars, authorityOf boundaries kept.sessionDate = .ok kept.row.provider
  distinct : (bars.map (·.sessionDate)).Nodup

theorem readCanonicalDailyBars_canonical {silence : DailyError}
    (read : ((readCanonicalDailyBars daylight boundaries [securityId] start through).alone silence daily).1 = .ok bars) :
    CanonicalBars daylight boundaries daily securityId start through bars := by
  obtain ⟨final, returned, _⟩ := alone_eq_ok.mp (Prod.ext read rfl)
  obtain ⟨_, valid⟩ := evaluate_readCanonicalDailyBars returned
  unfold validateCanonicalDailyRows at valid
  split_ifs at valid
  obtain ⟨out, validated, sorted⟩ := bind_eq_ok.mp valid
  cases sorted
  obtain ⟨single, members, provided⟩ := validateRows_canonical validated (by simp) List.nodup_nil
  have listed (kept : CanonicalDailyRow) : kept ∈ out.insertionSort (fun first second => first.le second) ↔
      kept.row ∈ daily.bars ∧ kept.row.securityId = securityId ∧
      canonicalDailySessionDate daylight kept.row.barStartAt kept.row.provider = .ok kept.sessionDate ∧
      start ≤ kept.sessionDate ∧ kept.sessionDate ≤ through := by
    rw [List.mem_insertionSort, members, List.mem_insertionSort]
    unfold DailyStore.barsBetween
    rw [List.mem_filter, decide_eq_true_iff, List.mem_singleton]
    constructor
    · rintro (impossible | ⟨⟨stored, secured, _⟩, told, within⟩)
      · exact absurd impossible List.not_mem_nil
      · exact ⟨stored, secured, told, within⟩
    · rintro ⟨stored, secured, told, within⟩
      have day := day_of_canonical told
      refine .inr ⟨⟨stored, secured, ?_⟩, told, within⟩
      unfold dayMs at day ⊢
      omega
  refine ⟨listed, fun kept member => ?_, ?_⟩
  · rcases provided kept ((List.mem_insertionSort _).mp member) with impossible | known
    · exact absurd impossible List.not_mem_nil
    · exact known
  · have keys := ((List.perm_insertionSort (fun first second : CanonicalDailyRow => first.le second) out).map
      CanonicalDailyRow.key).nodup_iff.mpr single
    rw [List.Nodup, List.pairwise_map] at keys ⊢
    refine List.Pairwise.imp_of_mem (fun {first second} member other differs same => differs ?_) keys
    exact Prod.ext (((listed first).mp member).2.1.trans ((listed second).mp other).2.1.symm) same

end CanonicalBars

variable {segments : List AuthoritySegment} {coverage : List MarketSplitCoverage}

section Coverage

variable {row : MarketSplitCoverage}

theorem mem_coverageBetween : row ∈ tables.coverageBetween securityId start through ↔
    row ∈ tables.coverage ∧ row.securityId = securityId ∧ row.fromDate ≤ through ∧ start ≤ row.throughDate := by
  unfold SplitTables.coverageBetween
  rw [List.mem_insertionSort, List.mem_filter, decide_eq_true_iff]

theorem coverageBetween_sorted :
    (tables.coverageBetween securityId start through).Pairwise fun row other => row.fromDate ≤ other.fromDate := by
  let earlier (row other : MarketSplitCoverage) : Prop :=
    row.fromDate < other.fromDate ∨ row.fromDate = other.fromDate ∧ row.throughDate ≤ other.throughDate
  have total : Std.Total earlier := ⟨fun row other => by unfold earlier; omega⟩
  have transitive : IsTrans MarketSplitCoverage earlier :=
    ⟨fun first second third before after => by unfold earlier at *; omega⟩
  refine List.Pairwise.imp (fun {row other} before => ?_) (List.pairwise_insertionSort earlier _)
  omega

theorem coverSegments_eq_ok :
    coverSegments coverage segments = .ok () ↔ ∀ segment ∈ segments, coverSegment coverage segment = .ok () := by
  induction segments with
  | nil => simp [coverSegments]
  | cons segment rest ih =>
    unfold coverSegments
    rw [bind_eq_ok, List.forall_mem_cons, ← ih]
    constructor
    · rintro ⟨_, passed, rest⟩
      exact ⟨passed, rest⟩
    · rintro ⟨passed, rest⟩
      exact ⟨(), passed, rest⟩

theorem coverSegment_sound (covered : coverSegment coverage segment = .ok ()) (from_ : segment.start ≤ date)
    (to_ : date ≤ segment.through) : ∃ row ∈ coverage, row.provider = .massive ∧ row.Contains date := by
  unfold coverSegment at covered
  split at covered
  case h_1 => cases covered
  case h_2 next swept =>
    split_ifs at covered with open_
    obtain ⟨row, member, massive, within⟩ := sweep_sound swept from_ (by omega)
    exact ⟨row, member, of_decide_eq_true massive, within⟩

/-- Rows of Massive in the order of their first days pass wherever they leave no day out. -/
theorem coverSegment_complete (nonempty : segment.start ≤ segment.through)
    (sorted : coverage.Pairwise fun row other => row.fromDate ≤ other.fromDate)
    (massive : ∀ row ∈ coverage, segment.start ≤ row.throughDate → row.fromDate ≤ segment.through → row.provider = .massive)
    (covers : Covers MarketSplitCoverage.fromDate MarketSplitCoverage.throughDate coverage segment.start segment.through) :
    coverSegment coverage segment = .ok () := by
  have admitted (row : MarketSplitCoverage) (member : row ∈ coverage) (from_ : segment.start ≤ row.throughDate)
      (to_ : row.fromDate ≤ segment.through) : decide (row.provider = .massive) = true :=
    decide_eq_true (massive row member from_ to_)
  obtain ⟨reached, swept, past⟩ := sweep_complete admitted sorted le_rfl nonempty covers
  unfold coverSegment
  rw [swept]
  exact if_neg (by omega)

end Coverage

section Evidence

variable {exceptions : List CalendarException} {dates expected : List Int}

theorem ofSync_eq_ok {Value : Type} {attempt : Except SyncError Value} {value : Value} :
    ofSync attempt = .ok value ↔ attempt = .ok value := by
  cases attempt <;> simp [ofSync]

theorem ofDaily_eq_ok {Value : Type} {attempt : Except DailyError Value} {value : Value} :
    ofDaily attempt = .ok value ↔ attempt = .ok value := by
  cases attempt <;> simp [ofDaily]

theorem mem_sessionsOf (listed : sessionsOf daylight exceptions dates = .ok expected) (member : date ∈ dates)
    {session : MarketSession} (open_ : marketSession daylight exceptions date = .ok (some session)) : date ∈ expected := by
  induction dates generalizing expected with
  | nil => exact absurd member List.not_mem_nil
  | cons first rest ih =>
    obtain ⟨found, told, listed⟩ := bind_eq_ok.mp listed
    obtain ⟨later, others, listed⟩ := bind_eq_ok.mp listed
    cases listed
    rcases List.mem_cons.mp member with rfl | member
    · rw [open_] at told
      cases told
      exact List.mem_cons_self
    · have there := ih others member
      split
      · exact List.mem_cons_of_mem first there
      · exact there

/-- A segment of Tiingo that passes has a positive factor for each of its sessions. -/
theorem tiingoEvidence_some (evidence : tiingoEvidence daylight boundaries tables securityId (some segment) = .ok bars) :
    CanonicalBars daylight boundaries tables.daily securityId segment.start segment.through bars ∧
    ∀ date, segment.start ≤ date → date ≤ segment.through → ∀ session,
      marketSession daylight tables.calendar date = .ok (some session) →
      ∃ bar ∈ bars, bar.sessionDate = date ∧ ∃ factor, bar.row.values.splitFactor = some factor ∧ 0 < factor := by
  obtain ⟨read, canonical, evidence⟩ := bind_eq_ok.mp evidence
  obtain ⟨dates, between, evidence⟩ := bind_eq_ok.mp evidence
  obtain ⟨expected, listed, evidence⟩ := bind_eq_ok.mp evidence
  split_ifs at evidence with incomplete
  cases evidence
  refine ⟨readCanonicalDailyBars_canonical (ofDaily_eq_ok.mp canonical), fun date from_ to_ session open_ => ?_⟩
  have member := mem_sessionsOf listed ((mem_datesBetween (ofSync_eq_ok.mp between)).mpr ⟨from_, to_⟩)
    ((marketSession_within from_ to_).trans open_)
  obtain ⟨_, complete⟩ := not_or.mp incomplete
  have told : bars.any (fun bar => bar.sessionDate == date &&
      bar.row.values.splitFactor.any fun factor => decide (0 < factor)) = true := by
    by_contra absent
    exact complete (List.any_eq_true.mpr ⟨date, member, by simpa using absent⟩)
  obtain ⟨bar, present, told⟩ := List.any_eq_true.mp told
  rw [Bool.and_eq_true, beq_iff_eq] at told
  obtain ⟨factor, given, positive⟩ := (Option.any_eq_true ..).mp told.2
  exact ⟨bar, present, told.1, factor, given, of_decide_eq_true positive⟩

end Evidence

section Events

variable {N : Type} [JsNumber N] {other : List MarketSplitCoverage} {row : MarketSplitEvent}

theorem mem_splitsBetween : row ∈ tables.splitsBetween securityId start through ↔
    row ∈ tables.daily.splits ∧ row.securityId = securityId ∧ start ≤ row.executionDate ∧ row.executionDate ≤ through := by
  unfold SplitTables.splitsBetween
  rw [List.mem_insertionSort, List.mem_filter, decide_eq_true_iff]

/-- The event that a stored row tells. -/
def SplitTables.eventOf (tables : SplitTables) (symbol : String) (row : MarketSplitEvent) : SplitEvent N :=
  splitEventOf (tables.splitId row) symbol row.executionDate row.splitFactor

theorem normalizedPersistedSplit_eq_ok {id : Int} {factor : ℚ} {event : SplitEvent N}
    (made : normalizedPersistedSplit id symbol date factor = .ok event) : event = splitEventOf id symbol date factor := by
  unfold normalizedPersistedSplit at made
  dsimp only at made
  split_ifs at made
  cases made
  rfl

/-- A row that passes is of the provider of its day; one of Tiingo has its bar's factor. -/
theorem persistedSplit_eq_ok {event : SplitEvent N}
    (made : persistedSplit isoDate boundaries tables symbol coverage bars row = .ok event) :
    event = tables.eventOf symbol row ∧ authorityOf boundaries row.executionDate = .ok row.provider ∧
      (row.provider = .tiingo →
        (bars.find? (·.sessionDate == row.executionDate)).bind (·.row.values.splitFactor) = some row.splitFactor) := by
  obtain ⟨provider, known, made⟩ := bind_eq_ok.mp made
  have known := ofDaily_eq_ok.mp known
  cases provider with
  | massive =>
    dsimp only at made
    split_ifs at made with conflicting
    have same : row.provider = .massive := not_not.mp (not_or.mp conflicting).1
    refine ⟨normalizedPersistedSplit_eq_ok made, by rw [known, same], fun tiingo => ?_⟩
    rw [same] at tiingo
    cases tiingo
  | tiingo =>
    dsimp only at made
    split_ifs at made with conflicting
    have same : row.provider = .tiingo := not_not.mp (not_or.mp conflicting).1
    exact ⟨normalizedPersistedSplit_eq_ok made, by rw [known, same], fun _ =>
      not_not.mp (not_or.mp (not_or.mp conflicting).2).2⟩

/-- Coverage only has to contain the days of Massive. -/
theorem persistedSplit_congr (alike : authorityOf boundaries row.executionDate = .ok .massive →
    coverage.any (fun covering => decide (covering.Contains row.executionDate)) =
      other.any fun covering => decide (covering.Contains row.executionDate)) :
    (persistedSplit isoDate boundaries tables symbol coverage bars row : Except SplitEvidenceError (SplitEvent N)) =
      persistedSplit isoDate boundaries tables symbol other bars row := by
  unfold persistedSplit
  dsimp only
  cases known : authorityOf boundaries row.executionDate with
  | error error => rfl
  | ok provider =>
    cases provider with
    | massive =>
      rw [alike known]
    | tiingo => rfl

/-- What the reader returns, and that every factor of a bar other than one has an event. -/
theorem readCoveredSplits_eq_ok {events : List (SplitEvent N)}
    (read : readCoveredSplits daylight isoDate boundaries tables symbol securityId start through segments coverage = .ok events) :
    ∃ bars, tiingoEvidence daylight boundaries tables securityId (segments.find? (·.provider == .tiingo)) = .ok bars ∧
      events = (tables.splitsBetween securityId start through).map (tables.eventOf symbol) ∧
      (∀ row ∈ tables.splitsBetween securityId start through,
        authorityOf boundaries row.executionDate = .ok row.provider ∧ (row.provider = .tiingo →
          (bars.find? (·.sessionDate == row.executionDate)).bind (·.row.values.splitFactor) = some row.splitFactor)) ∧
      ∀ bar ∈ bars, ∀ factor, bar.row.values.splitFactor = some factor → factor ≠ 1 →
        ∃ row ∈ tables.splitsBetween securityId start through, row.executionDate = bar.sessionDate := by
  obtain ⟨bars, evidence, read⟩ := bind_eq_ok.mp read
  obtain ⟨made, mapped, read⟩ := bind_eq_ok.mp read
  split_ifs at read with missing
  cases read
  obtain ⟨same, passed⟩ := mapM_eq_ok (fun _ _ made => (persistedSplit_eq_ok made).1) mapped
  refine ⟨bars, evidence, same, fun row member => (persistedSplit_eq_ok (passed row member)).2, ?_⟩
  intro bar present factor given differs
  by_contra absent
  refine missing (List.any_eq_true.mpr ⟨bar, present, ?_⟩)
  rw [Bool.and_eq_true, Bool.not_eq_true', List.any_eq_false]
  refine ⟨(Option.any_eq_true ..).mpr ⟨factor, given, decide_eq_true differs⟩, fun row member => ?_⟩
  rw [beq_iff_eq]
  exact fun same => absent ⟨row, member, same⟩

theorem readCoveredSplits_congr (alike : ∀ date, start ≤ date → date ≤ through → authorityOf boundaries date = .ok .massive →
    coverage.any (fun covering => decide (covering.Contains date)) = other.any fun covering => decide (covering.Contains date)) :
    (readCoveredSplits daylight isoDate boundaries tables symbol securityId start through segments coverage :
      Except SplitEvidenceError (List (SplitEvent N))) =
      readCoveredSplits daylight isoDate boundaries tables symbol securityId start through segments other := by
  unfold readCoveredSplits
  congr 1
  funext bars
  dsimp only
  rw [mapM_congr fun row member => persistedSplit_congr (alike row.executionDate (mem_splitsBetween.mp member).2.2.1
    (mem_splitsBetween.mp member).2.2.2)]

end Events

section Refusals

/-- An attempt that does not fail for want of coverage. -/
def Uncovering {Value : Type} (attempt : Except SplitEvidenceError Value) : Prop :=
  attempt ≠ .error .mixedCoverage ∧ attempt ≠ .error .incompleteCoverage

variable {Value Next : Type}

theorem Uncovering.ok {value : Value} : Uncovering (.ok value : Except SplitEvidenceError Value) := ⟨nofun, nofun⟩

theorem Uncovering.bind {attempt : Except SplitEvidenceError Value} {next : Value → Except SplitEvidenceError Next}
    (first : Uncovering attempt) (later : ∀ value, Uncovering (next value)) : Uncovering (attempt >>= next) := by
  cases attempt with
  | error error =>
    refine ⟨fun failed => first.1 ?_, fun failed => first.2 ?_⟩
    all_goals
      cases failed
      rfl
  | ok value => exact later value

theorem Uncovering.ofSync (attempt : Except SyncError Value) : Uncovering (ofSync attempt) := by
  cases attempt <;> exact ⟨nofun, nofun⟩

theorem Uncovering.ofDaily (attempt : Except DailyError Value) : Uncovering (ofDaily attempt) := by
  cases attempt <;> exact ⟨nofun, nofun⟩

theorem Uncovering.mapM {body : Value → Except SplitEvidenceError Next} (each : ∀ value, Uncovering (body value))
    (values : List Value) : Uncovering (values.mapM body) := by
  constructor
  all_goals
    intro failed
    obtain ⟨value, _, told⟩ := mapM_eq_error failed
  · exact (each value).1 told
  · exact (each value).2 told

theorem Uncovering.ite {condition : Prop} [Decidable condition] {first second : Except SplitEvidenceError Value}
    (held : Uncovering first) (otherwise : Uncovering second) : Uncovering (if condition then first else second) := by
  split
  · exact held
  · exact otherwise

theorem uncovering_sessionsOf {exceptions : List CalendarException} (dates : List Int) :
    Uncovering (sessionsOf daylight exceptions dates) := by
  induction dates with
  | nil => exact .ok
  | cons date rest ih => exact .bind (.ofSync _) fun _ => .bind ih fun _ => .ok

theorem uncovering_tiingoEvidence (tiingo : Option AuthoritySegment) :
    Uncovering (tiingoEvidence daylight boundaries tables securityId tiingo) := by
  cases tiingo with
  | none => exact .ok
  | some segment =>
    exact .bind (.ofDaily _) fun _ => .bind (.ofSync _) fun _ => .bind (uncovering_sessionsOf _) fun _ =>
      .ite ⟨nofun, nofun⟩ .ok

variable {N : Type} [JsNumber N]

theorem uncovering_persistedSplit (row : MarketSplitEvent) :
    Uncovering (persistedSplit isoDate boundaries tables symbol coverage bars row : Except _ (SplitEvent N)) := by
  have normalized (id : Int) (date : Int) (factor : ℚ) :
      Uncovering (normalizedPersistedSplit id symbol date factor : Except _ (SplitEvent N)) := .ite ⟨nofun, nofun⟩ .ok
  refine .bind (.ofDaily _) fun provider => ?_
  cases provider with
  | massive => exact .ite ⟨nofun, nofun⟩ (normalized _ _ _)
  | tiingo => exact .ite ⟨nofun, nofun⟩ (normalized _ _ _)

theorem uncovering_readCoveredSplits : Uncovering (readCoveredSplits daylight isoDate boundaries tables symbol securityId
    start through segments coverage : Except _ (List (SplitEvent N))) :=
  .bind (uncovering_tiingoEvidence _) fun _ => .bind (.mapM uncovering_persistedSplit _) fun _ => .ite ⟨nofun, nofun⟩ .ok

end Refusals

/-- What the tables say about the splits of a security in a range is complete. -/
structure CompleteEvidence (daylight : Int → Bool) (boundaries : DailyBoundaries) (tables : SplitTables) (securityId : Nat)
    (start through : Int) : Prop where
  /-- Every day of Massive is covered by a row of Massive. -/
  covered : ∀ date, start ≤ date → date ≤ through → marketDailyAuthority boundaries date = .ok .massive →
    ∃ row ∈ tables.coverage, row.securityId = securityId ∧ row.provider = .massive ∧ row.Contains date
  /-- Every session of Tiingo has a bar of Tiingo with a positive factor. -/
  sessions : ∀ date, start ≤ date → date ≤ through → marketDailyAuthority boundaries date = .ok .tiingo →
    ∀ session, marketSession daylight tables.calendar date = .ok (some session) →
      ∃ bar ∈ tables.daily.bars, bar.securityId = securityId ∧ bar.provider = .tiingo ∧
        canonicalDailySessionDate daylight bar.barStartAt bar.provider = .ok date ∧
        ∃ factor, bar.values.splitFactor = some factor ∧ 0 < factor
  /-- Every event is of the provider with the authority on its day. -/
  authority : ∀ row ∈ tables.daily.splits, row.securityId = securityId → start ≤ row.executionDate →
    row.executionDate ≤ through → marketDailyAuthority boundaries row.executionDate = .ok row.provider
  /-- Every factor of Tiingo other than one has an event of Tiingo with that factor. -/
  factors : ∀ bar ∈ tables.daily.bars, bar.securityId = securityId → ∀ date,
    canonicalDailySessionDate daylight bar.barStartAt bar.provider = .ok date → start ≤ date → date ≤ through →
    marketDailyAuthority boundaries date = .ok .tiingo → ∀ factor, bar.values.splitFactor = some factor → factor ≠ 1 →
      ∃ row ∈ tables.daily.splits, row.securityId = securityId ∧ row.executionDate = date ∧ row.provider = .tiingo ∧
        row.splitFactor = factor

/-- Coverage that leaves out no day of Massive, and whose rows about these days are all of Massive. -/
structure FullCoverage (boundaries : DailyBoundaries) (securityId : Nat) (start through : Int)
    (coverage : List MarketSplitCoverage) : Prop where
  massive : ∀ row ∈ coverage, row.securityId = securityId → ∀ date, start ≤ date → date ≤ through →
    marketDailyAuthority boundaries date = .ok .massive → row.Contains date → row.provider = .massive
  covers : ∀ date, start ≤ date → date ≤ through → marketDailyAuthority boundaries date = .ok .massive →
    ∃ row ∈ coverage, row.securityId = securityId ∧ row.Contains date

section Segments

variable {provider : DailyProvider}

/-- The segment of a day is one of its provider. -/
theorem Segmented.find (segmented : Segmented boundaries start through segments) (from_ : start ≤ date) (to_ : date ≤ through)
    (known : authorityOf boundaries date = .ok provider) :
    ∃ segment ∈ segments, segment.provider = provider ∧ segment.start ≤ date ∧ date ≤ segment.through := by
  obtain ⟨segment, member, after, before⟩ := segmented.covers date from_ to_
  have told := segmented.authority segment member date after before
  exact ⟨segment, member, Except.ok.inj (told.symm.trans known), after, before⟩

/-- The coverage that the reader asks for contains every day that the table does. -/
theorem coverageOf_contains (tables : SplitTables) (segmented : Segmented boundaries start through segments)
    (full : FullCoverage boundaries securityId start through tables.coverage) (from_ : start ≤ date) (to_ : date ≤ through)
    (known : authorityOf boundaries date = .ok .massive) :
    ∃ row ∈ tables.coverageOf securityId start through (segments.filter (·.provider == .massive)), row.Contains date := by
  obtain ⟨segment, member, massive, _⟩ := segmented.find from_ to_ known
  have listed : segment ∈ segments.filter (·.provider == .massive) := List.mem_filter.mpr ⟨member, by simp [massive]⟩
  obtain ⟨row, covering, secured, within⟩ := full.covers date from_ to_ (authorityOf_eq_ok.mp known)
  refine ⟨row, ?_, within⟩
  unfold SplitTables.coverageOf
  rw [if_neg (by simpa using List.ne_nil_of_mem listed)]
  exact mem_coverageBetween.mpr ⟨covering, secured, within.1.trans to_, from_.trans within.2⟩

theorem coverSegments_full (segmented : Segmented boundaries start through segments)
    (full : FullCoverage boundaries securityId start through tables.coverage) :
    coverSegments (tables.coverageOf securityId start through (segments.filter (·.provider == .massive)))
      (segments.filter (·.provider == .massive)) = .ok () := by
  refine coverSegments_eq_ok.mpr fun segment listed => ?_
  obtain ⟨member, massive⟩ := List.mem_filter.mp listed
  obtain ⟨begins, nonempty, ends⟩ := segmented.within segment member
  have known {date : Int} (after : segment.start ≤ date) (before : date ≤ segment.through) :
      authorityOf boundaries date = .ok .massive := by
    rw [segmented.authority segment member date after before, beq_iff_eq.mp massive]
  have asked : tables.coverageOf securityId start through (segments.filter (·.provider == .massive)) =
      tables.coverageBetween securityId start through := by
    unfold SplitTables.coverageOf
    rw [if_neg (by simpa using List.ne_nil_of_mem listed)]
  rw [asked]
  apply coverSegment_complete nonempty coverageBetween_sorted
  · intro row covering from_ to_
    obtain ⟨stored, secured, _⟩ := mem_coverageBetween.mp covering
    -- The interval and the segment share the later of their first days.
    have ordered := row.ordered
    rcases le_total row.fromDate segment.start with early | late
    · exact full.massive row stored secured segment.start begins (nonempty.trans ends)
        (authorityOf_eq_ok.mp (known le_rfl nonempty)) ⟨early, from_⟩
    · exact full.massive row stored secured row.fromDate (begins.trans late) (to_.trans ends)
        (authorityOf_eq_ok.mp (known late to_)) ⟨le_rfl, ordered⟩
  · intro date after before
    obtain ⟨row, listed, within⟩ := coverageOf_contains tables segmented full (begins.trans after) (before.trans ends)
      (known after before)
    exact ⟨row, asked ▸ listed, within⟩

/-- The bars of the segment of Tiingo are there for each of its days. -/
theorem tiingoEvidence_find (segmented : Segmented boundaries start through segments)
    (evidence : tiingoEvidence daylight boundaries tables securityId (segments.find? (·.provider == .tiingo)) = .ok bars)
    (from_ : start ≤ date) (to_ : date ≤ through) (known : authorityOf boundaries date = .ok .tiingo) :
    ∃ segment, segment.start ≤ date ∧ date ≤ segment.through ∧
      tiingoEvidence daylight boundaries tables securityId (some segment) = .ok bars := by
  obtain ⟨segment, member, tiingo, after, before⟩ := segmented.find from_ to_ known
  obtain ⟨found, sought⟩ : ∃ found, segments.find? (·.provider == .tiingo) = some found := by
    refine Option.isSome_iff_exists.mp (List.find?_isSome.mpr ⟨segment, member, ?_⟩)
    rw [tiingo]
    rfl
  obtain rfl : segment = found := segmented.single segment member found (List.mem_of_find?_eq_some sought) tiingo
    (beq_iff_eq.mp (List.find?_some (p := fun segment : AuthoritySegment => segment.provider == .tiingo) sought))
  exact ⟨segment, after, before, sought ▸ evidence⟩

end Segments

section Reader

variable {N : Type} [JsNumber N] {events : List (SplitEvent N)}

/-- What a reader that returns has gone through. -/
theorem readPersistedSplits_eq_ok
    (read : readPersistedSplits daylight isoDate boundaries tables symbol start through = .ok events) :
    ∃ securityId segments, tables.securities symbol = some securityId ∧ Segmented boundaries start through segments ∧
      coverSegments (tables.coverageOf securityId start through (segments.filter (·.provider == .massive)))
        (segments.filter (·.provider == .massive)) = .ok () ∧
      readCoveredSplits daylight isoDate boundaries tables symbol securityId start through segments
        (tables.coverageOf securityId start through (segments.filter (·.provider == .massive))) = .ok events := by
  unfold readPersistedSplits at read
  split_ifs at read
  split at read
  case h_1 => cases read
  case h_2 securityId found =>
    obtain ⟨segments, segmented, read⟩ := bind_eq_ok.mp read
    obtain ⟨_, covered, read⟩ := bind_eq_ok.mp read
    exact ⟨securityId, segments, found, dailyAuthoritySegments_segmented (ofDaily_eq_ok.mp segmented), covered, read⟩

theorem completeEvidence_of_read (segmented : Segmented boundaries start through segments)
    (covered : coverSegments (tables.coverageOf securityId start through (segments.filter (·.provider == .massive)))
      (segments.filter (·.provider == .massive)) = .ok ())
    (read : readCoveredSplits daylight isoDate boundaries tables symbol securityId start through segments
      (tables.coverageOf securityId start through (segments.filter (·.provider == .massive))) = .ok events) :
    CompleteEvidence daylight boundaries tables securityId start through := by
  obtain ⟨bars, evidence, _, passed, factors⟩ := readCoveredSplits_eq_ok read
  refine ⟨?_, ?_, ?_, ?_⟩
  · intro date from_ to_ known
    obtain ⟨segment, member, massive, after, before⟩ := segmented.find from_ to_ (authorityOf_eq_ok.mpr known)
    have listed : segment ∈ segments.filter (·.provider == .massive) := List.mem_filter.mpr ⟨member, by simp [massive]⟩
    obtain ⟨row, asked, provided, within⟩ := coverSegment_sound (coverSegments_eq_ok.mp covered segment listed) after before
    unfold SplitTables.coverageOf at asked
    rw [if_neg (by simpa using List.ne_nil_of_mem listed)] at asked
    obtain ⟨stored, secured, _⟩ := mem_coverageBetween.mp asked
    exact ⟨row, stored, secured, provided, within⟩
  · intro date from_ to_ known session open_
    obtain ⟨segment, after, before, evidence⟩ := tiingoEvidence_find segmented evidence from_ to_ (authorityOf_eq_ok.mpr known)
    obtain ⟨canonical, told⟩ := tiingoEvidence_some evidence
    obtain ⟨bar, present, rfl, factor⟩ := told date after before session open_
    obtain ⟨stored, secured, stamped, _⟩ := (canonical.mem bar).mp present
    have provided := (canonical.authority bar present).symm.trans (authorityOf_eq_ok.mpr known)
    exact ⟨bar.row, stored, secured, Except.ok.inj provided, stamped, factor⟩
  · intro row stored secured from_ to_
    exact authorityOf_eq_ok.mp (passed row (mem_splitsBetween.mpr ⟨stored, secured, from_, to_⟩)).1
  · intro bar stored secured date stamped from_ to_ known factor given differs
    obtain ⟨segment, after, before, evidence⟩ := tiingoEvidence_find segmented evidence from_ to_ (authorityOf_eq_ok.mpr known)
    obtain ⟨canonical, _⟩ := tiingoEvidence_some evidence
    have present := (canonical.mem ⟨bar, date⟩).mpr ⟨stored, secured, stamped, after, before⟩
    obtain ⟨row, listed, same⟩ := factors ⟨bar, date⟩ present factor given differs
    obtain ⟨authority, found⟩ := passed row listed
    rw [same] at authority found
    have tiingo : row.provider = .tiingo := Except.ok.inj (authority.symm.trans (authorityOf_eq_ok.mpr known))
    obtain ⟨other, sought, told⟩ := Option.bind_eq_some_iff.mp (found tiingo)
    -- The bar that the row agrees with is this one: a session has one bar.
    have dated : other.sessionDate = date :=
      beq_iff_eq.mp (List.find?_some (p := fun bar : CanonicalDailyRow => bar.sessionDate == date) sought)
    obtain rfl : other = ⟨bar, date⟩ :=
      List.inj_on_of_nodup_map canonical.distinct (List.mem_of_find?_eq_some sought) present dated
    obtain ⟨kept, whose, _⟩ := mem_splitsBetween.mp listed
    exact ⟨row, kept, whose, same, tiingo, Option.some.inj (told.symm.trans given)⟩

/-- Full coverage leads past the segments of Massive. -/
theorem readPersistedSplits_full (tables : SplitTables) (found : tables.securities symbol = some securityId) (range : start ≤ through)
    (full : FullCoverage boundaries securityId start through tables.coverage) :
    (readPersistedSplits daylight isoDate boundaries tables symbol start through :
      Except SplitEvidenceError (List (SplitEvent N))) =
    ofDaily (dailyAuthoritySegments boundaries start through) >>= fun segments =>
      readCoveredSplits daylight isoDate boundaries tables symbol securityId start through segments
        (tables.coverageOf securityId start through (segments.filter (·.provider == .massive))) := by
  unfold readPersistedSplits
  rw [if_neg (by omega), found]
  cases segmented : dailyAuthoritySegments boundaries start through with
  | error error => rfl
  | ok segments =>
    show (coverSegments _ _ >>= _) = _
    rw [coverSegments_full (dailyAuthoritySegments_segmented segmented) full]
    rfl

/-- The reader returns exactly the events of a range whose evidence is complete, and never refuses full coverage, whatever
the overlaps. -/
theorem splitEvidenceCoverage (daylight : Int → Bool) (isoDate : Int → String) (boundaries : DailyBoundaries)
    (tables : SplitTables) (symbol : String) (start through : Int) :
    (∀ events : List (SplitEvent N),
      readPersistedSplits daylight isoDate boundaries tables symbol start through = .ok events →
      ∃ securityId, tables.securities symbol = some securityId ∧
        CompleteEvidence daylight boundaries tables securityId start through ∧
        events = (tables.splitsBetween securityId start through).map (tables.eventOf symbol)) ∧
    ∀ securityId, tables.securities symbol = some securityId →
      FullCoverage boundaries securityId start through tables.coverage →
      ((readPersistedSplits daylight isoDate boundaries tables symbol start through :
          Except SplitEvidenceError (List (SplitEvent N))) ≠ .error .mixedCoverage ∧
        (readPersistedSplits daylight isoDate boundaries tables symbol start through :
          Except SplitEvidenceError (List (SplitEvent N))) ≠ .error .incompleteCoverage) ∧
      ∀ coverage, FullCoverage boundaries securityId start through coverage →
        (readPersistedSplits daylight isoDate boundaries { tables with coverage } symbol start through :
          Except SplitEvidenceError (List (SplitEvent N))) =
        readPersistedSplits daylight isoDate boundaries tables symbol start through := by
  constructor
  · intro events read
    obtain ⟨securityId, segments, found, segmented, covered, read⟩ := readPersistedSplits_eq_ok read
    obtain ⟨_, _, same, _⟩ := readCoveredSplits_eq_ok read
    exact ⟨securityId, found, completeEvidence_of_read segmented covered read, same⟩
  · intro securityId found full
    by_cases range : start ≤ through
    · refine ⟨?_, fun coverage other => ?_⟩
      · rw [readPersistedSplits_full tables found range full]
        exact Uncovering.bind (.ofDaily _) fun _ => uncovering_readCoveredSplits
      · rw [readPersistedSplits_full tables found range full,
          readPersistedSplits_full { tables with coverage } found range other]
        cases segmented : dailyAuthoritySegments boundaries start through with
        | error error => rfl
        | ok segments =>
          have segmented := dailyAuthoritySegments_segmented segmented
          refine readCoveredSplits_congr fun date from_ to_ known => ?_
          obtain ⟨row, listed, within⟩ := coverageOf_contains tables segmented full from_ to_ known
          obtain ⟨row', listed', within'⟩ :=
            coverageOf_contains { tables with coverage } segmented other from_ to_ known
          rw [List.any_eq_true.mpr ⟨row, listed, decide_eq_true within⟩,
            List.any_eq_true.mpr ⟨row', listed', decide_eq_true within'⟩]
    · have refused (tables : SplitTables) : (readPersistedSplits daylight isoDate boundaries tables symbol start through :
          Except SplitEvidenceError (List (SplitEvent N))) = .error .invalidRange := if_pos (by omega)
      refine ⟨?_, fun coverage _ => ?_⟩
      · rw [refused]
        exact ⟨nofun, nofun⟩
      · rw [refused, refused]

end Reader

section Sample

attribute [local instance] exactNumber

/-- Three overlapping rows of Massive up to a Monday, and a bar of Tiingo on the Tuesday of its cutover. -/
def splitSample : SplitTables :=
  { securities := fun _ => some 1
    coverage := [⟨1, 10, 11, .massive, by decide⟩, ⟨1, 8, 9, .massive, by decide⟩, ⟨1, 7, 10, .massive, by decide⟩]
    daily :=
      { bars := [⟨1, 12 * dayMs, ⟨10, 11, 9, 10, 100, some 3⟩, .tiingo, .unadjusted, 0⟩]
        splits := [⟨1, 12, 3, .tiingo, "TIINGO:EOD:SPY:1970-01-13", 0⟩, ⟨1, 11, 2, .massive, "MASSIVE:E", 0⟩]
        observations := []
        paused := none }
    splitId := fun row => row.executionDate
    calendar := [] }

theorem splitEvidenceCoverage_sample :
    ∃ securityId, splitSample.securities "SPY" = some securityId ∧
      CompleteEvidence (fun _ => false) ⟨some 12, none⟩ splitSample securityId 9 12 ∧
      [⟨"market-split-event:11", "SPY", 11, 1, 2, 1 / 2⟩, ⟨"market-split-event:12", "SPY", 12, 1, 3, 1 / 3⟩] =
        (splitSample.splitsBetween securityId 9 12).map (splitSample.eventOf (N := ℚ) "SPY") :=
  (splitEvidenceCoverage (fun _ => false) (fun _ => "1970-01-13") ⟨some 12, none⟩ splitSample "SPY" 9 12).1 _
    (by decide +kernel)

end Sample

end AiTrader.Market
