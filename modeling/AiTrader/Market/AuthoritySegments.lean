import AiTrader.Library.Service
import AiTrader.Market.DailyBars

/-! # The segments of daily authority

The boundaries of the configuration cut a range into segments. -/

namespace AiTrader.Market

open Library

variable {boundaries : DailyBoundaries} {start through date first second : Int} {dates : List Int}
  {segments : List AuthoritySegment}

theorem authorityOf_congr (cutover : ∀ session, boundaries.cutoverSession = some session → (session ≤ first ↔ session ≤ second))
    (resume : ∀ session, boundaries.massiveResumeSession = some session → (session ≤ first ↔ session ≤ second)) :
    authorityOf boundaries first = authorityOf boundaries second := by
  have same : marketDailyAuthority boundaries first = marketDailyAuthority boundaries second := by
    unfold marketDailyAuthority
    cases begun : boundaries.cutoverSession with
    | none => cases boundaries.massiveResumeSession <;> rfl
    | some session =>
      cases resumed : boundaries.massiveResumeSession with
      | none => simp only [cutover session begun]
      | some later =>
        have before : first < later ↔ second < later := by
          have := resume later resumed
          omega
        simp only [cutover session begun, before]
  unfold authorityOf
  rw [same]

theorem authorityOf_eq_ok {provider : DailyProvider} :
    authorityOf boundaries date = .ok provider ↔ marketDailyAuthority boundaries date = .ok provider := by
  unfold authorityOf
  cases marketDailyAuthority boundaries date <;> simp

/-- Tiingo has the authority from the cutover until Massive resumes. -/
theorem authorityOf_tiingo (known : authorityOf boundaries date = .ok .tiingo) :
    ∃ cutover, boundaries.cutoverSession = some cutover ∧ cutover ≤ date ∧
      ∀ resume, boundaries.massiveResumeSession = some resume → date < resume := by
  have authority := authorityOf_eq_ok.mp known
  unfold marketDailyAuthority at authority
  split at authority
  case h_1 => cases authority
  case h_2 => cases authority
  case h_3 cutover begun resumed =>
    split_ifs at authority with after
    · exact ⟨cutover, begun, after, fun _ resumes => by rw [resumed] at resumes; cases resumes⟩
    · cases authority
  case h_4 cutover resume begun resumed =>
    split_ifs at authority with misplaced within
    · refine ⟨cutover, begun, within.1, fun other resumes => ?_⟩
      rw [resumed] at resumes
      cases resumes
      exact within.2
    · cases authority

/-- A sorted list without its repetitions. -/
theorem eraseDups_increasing (sorted : dates.Pairwise (· ≤ ·)) : dates.eraseDups.Pairwise (· < ·) := by
  induction size : dates.length using Nat.strong_induction_on generalizing dates with
  | h length ih =>
    cases dates with
    | nil => exact List.Pairwise.nil
    | cons date rest =>
      obtain ⟨least, sorted⟩ := List.pairwise_cons.mp sorted
      have shorter : (rest.filter fun other => !other == date).length < length := by
        have := List.length_filter_le (fun other => !other == date) rest
        rw [← size, List.length_cons]
        omega
      rw [List.eraseDups_cons]
      refine List.pairwise_cons.mpr ⟨fun other member => ?_, ih _ shorter (sorted.filter _) rfl⟩
      obtain ⟨listed, differs⟩ := List.mem_filter.mp (List.mem_eraseDups.mp member)
      have above := least other listed
      have distinct : other ≠ date := by simpa using differs
      omega

/-- The first days of the segments of a range. -/
def segmentStarts (boundaries : DailyBoundaries) (start through : Int) : List Int :=
  ((([some start, boundaries.cutoverSession, boundaries.massiveResumeSession].filterMap id).filter
    fun date => start ≤ date ∧ date ≤ through).insertionSort (· ≤ ·)).eraseDups

theorem mem_segmentStarts : date ∈ segmentStarts boundaries start through ↔
    (date = start ∨ boundaries.cutoverSession = some date ∨ boundaries.massiveResumeSession = some date) ∧
      start ≤ date ∧ date ≤ through := by
  unfold segmentStarts
  rw [List.mem_eraseDups, List.mem_insertionSort, List.mem_filter, List.mem_filterMap, decide_eq_true_iff]
  have listed : (∃ given ∈ [some start, boundaries.cutoverSession, boundaries.massiveResumeSession], id given = some date) ↔
      date = start ∨ boundaries.cutoverSession = some date ∨ boundaries.massiveResumeSession = some date := by
    simp [eq_comm]
  rw [listed]

theorem segmentStarts_increasing (boundaries : DailyBoundaries) (start through : Int) :
    (segmentStarts boundaries start through).Pairwise (· < ·) :=
  eraseDups_increasing (List.pairwise_insertionSort _ _)

theorem dailyAuthoritySegments_eq_ok (segmented : dailyAuthoritySegments boundaries start through = .ok segments) :
    start ≤ through ∧ segmentsFrom boundaries through (segmentStarts boundaries start through) = .ok segments := by
  unfold dailyAuthoritySegments at segmented
  split_ifs at segmented with empty
  obtain ⟨_, _, segmented⟩ := bind_eq_ok.mp segmented
  exact ⟨by omega, segmented⟩

/-- Each segment runs from its start to the day before the next start. -/
theorem mem_segmentsFrom (segmented : segmentsFrom boundaries through dates = .ok segments)
    (increasing : dates.Pairwise (· < ·)) (within : ∀ date ∈ dates, date ≤ through) :
    ∀ segment ∈ segments, segment.start ∈ dates ∧ authorityOf boundaries segment.start = .ok segment.provider ∧
      segment.start ≤ segment.through ∧ segment.through ≤ through ∧
      ∀ date ∈ dates, date ≤ segment.start ∨ segment.through < date := by
  induction dates generalizing segments with
  | nil =>
    cases segmented
    exact nofun
  | cons first later ih =>
    obtain ⟨provider, known, segmented⟩ := bind_eq_ok.mp segmented
    obtain ⟨rest, others, segmented⟩ := bind_eq_ok.mp segmented
    cases segmented
    obtain ⟨least, increasing⟩ := List.pairwise_cons.mp increasing
    have ended := within first List.mem_cons_self
    intro segment member
    rcases List.mem_cons.mp member with rfl | member
    · refine ⟨List.mem_cons_self, known, ?_⟩
      cases later with
      | nil => exact ⟨ended, le_rfl, fun date listed => .inl (List.mem_singleton.mp listed).le⟩
      | cons next more =>
        have above := least next List.mem_cons_self
        have bounded := within next (List.mem_cons_of_mem _ List.mem_cons_self)
        refine ⟨Int.le_sub_one_of_lt above, by dsimp only; omega, fun date listed => ?_⟩
        rcases List.mem_cons.mp listed with rfl | listed
        · exact .inl le_rfl
        · rcases List.mem_cons.mp listed with rfl | listed
          · exact .inr (by dsimp only; omega)
          · have := (List.pairwise_cons.mp increasing).1 date listed
            exact .inr (by dsimp only; omega)
    · obtain ⟨listed, authority, nonempty, bounded, alone⟩ :=
        ih others increasing (fun date later => within date (List.mem_cons_of_mem _ later)) segment member
      refine ⟨List.mem_cons_of_mem _ listed, authority, nonempty, bounded, fun date given => ?_⟩
      rcases List.mem_cons.mp given with rfl | given
      · exact .inl (least _ listed).le
      · exact alone date given

theorem segmentsFrom_covers (segmented : segmentsFrom boundaries through (first :: dates) = .ok segments)
    (from_ : first ≤ date) (to_ : date ≤ through) : ∃ segment ∈ segments, segment.start ≤ date ∧ date ≤ segment.through := by
  induction dates generalizing first segments with
  | nil =>
    obtain ⟨provider, _, segmented⟩ := bind_eq_ok.mp segmented
    obtain ⟨rest, _, segmented⟩ := bind_eq_ok.mp segmented
    cases segmented
    exact ⟨_, List.mem_cons_self, from_, to_⟩
  | cons next later ih =>
    obtain ⟨provider, _, segmented⟩ := bind_eq_ok.mp segmented
    obtain ⟨rest, others, segmented⟩ := bind_eq_ok.mp segmented
    cases segmented
    by_cases reached : next ≤ date
    · obtain ⟨segment, member, found⟩ := ih others reached
      exact ⟨segment, List.mem_cons_of_mem _ member, found⟩
    · exact ⟨_, List.mem_cons_self, from_, by dsimp only; omega⟩

theorem segmentsFrom_starts (segmented : segmentsFrom boundaries through dates = .ok segments) :
    segments.map (·.start) = dates := by
  induction dates generalizing segments with
  | nil =>
    cases segmented
    rfl
  | cons first later ih =>
    obtain ⟨provider, _, segmented⟩ := bind_eq_ok.mp segmented
    obtain ⟨rest, others, segmented⟩ := bind_eq_ok.mp segmented
    cases segmented
    rw [List.map_cons, ih others]

/-- The segments cover the range, each under the provider of its days, Tiingo in one at most. -/
structure Segmented (boundaries : DailyBoundaries) (start through : Int) (segments : List AuthoritySegment) : Prop where
  within : ∀ segment ∈ segments, start ≤ segment.start ∧ segment.start ≤ segment.through ∧ segment.through ≤ through
  authority : ∀ segment ∈ segments, ∀ date, segment.start ≤ date → date ≤ segment.through →
    authorityOf boundaries date = .ok segment.provider
  covers : ∀ date, start ≤ date → date ≤ through → ∃ segment ∈ segments, segment.start ≤ date ∧ date ≤ segment.through
  single : ∀ segment ∈ segments, ∀ other ∈ segments, segment.provider = .tiingo → other.provider = .tiingo → segment = other

theorem dailyAuthoritySegments_segmented (segmented : dailyAuthoritySegments boundaries start through = .ok segments) :
    Segmented boundaries start through segments := by
  obtain ⟨nonempty, segmented⟩ := dailyAuthoritySegments_eq_ok segmented
  have increasing := segmentStarts_increasing boundaries start through
  have facts := mem_segmentsFrom segmented increasing fun date listed => (mem_segmentStarts.mp listed).2.2
  have starts := segmentsFrom_starts segmented
  refine ⟨?_, ?_, ?_, ?_⟩
  · intro segment member
    obtain ⟨listed, _, forward, bounded, _⟩ := facts segment member
    exact ⟨(mem_segmentStarts.mp listed).2.1, forward, bounded⟩
  · intro segment member date from_ to_
    obtain ⟨listed, known, _, bounded, alone⟩ := facts segment member
    have begins := (mem_segmentStarts.mp listed).2.1
    rw [← known]
    -- A boundary between the start and the day would have begun a segment of its own.
    have sides {session : Int} (boundary : boundaries.cutoverSession = some session ∨
        boundaries.massiveResumeSession = some session) : session ≤ date ↔ session ≤ segment.start := by
      constructor
      · intro reached
        by_cases early : start ≤ session
        · have := alone session (mem_segmentStarts.mpr ⟨.inr boundary, early, by omega⟩)
          omega
        · omega
      · intro reached
        omega
    exact authorityOf_congr (fun _ given => sides (.inl given)) (fun _ given => sides (.inr given))
  · intro date from_ to_
    have listed : start ∈ segmentStarts boundaries start through := mem_segmentStarts.mpr ⟨.inl rfl, le_rfl, nonempty⟩
    cases shape : segmentStarts boundaries start through with
    | nil =>
      rw [shape] at listed
      exact absurd listed List.not_mem_nil
    | cons first rest =>
      rw [shape] at listed increasing segmented
      have least : first ≤ start := by
        rcases List.mem_cons.mp listed with rfl | later
        · exact le_rfl
        · exact ((List.pairwise_cons.mp increasing).1 start later).le
      exact segmentsFrom_covers segmented (least.trans from_) to_
  · intro segment member other present tiingo alike
    obtain ⟨listed, known, _⟩ := facts segment member
    obtain ⟨given, told, _⟩ := facts other present
    have same : segment.start = other.start := by
      obtain ⟨cutover, begun, after, before⟩ := authorityOf_tiingo (tiingo ▸ known)
      obtain ⟨session, again, following, preceding⟩ := authorityOf_tiingo (alike ▸ told)
      obtain rfl : cutover = session := Option.some.inj (begun.symm.trans again)
      obtain ⟨first, from_, _⟩ := mem_segmentStarts.mp listed
      obtain ⟨second, begins, _⟩ := mem_segmentStarts.mp given
      have first : segment.start = start ∨ segment.start = cutover := by
        rcases first with same | same | same
        · exact .inl same
        · exact .inr (Option.some.inj (same.symm.trans begun))
        · exact absurd (before _ same) (lt_irrefl _)
      have second : other.start = start ∨ other.start = cutover := by
        rcases second with same | same | same
        · exact .inl same
        · exact .inr (Option.some.inj (same.symm.trans begun))
        · exact absurd (preceding _ same) (lt_irrefl _)
      omega
    have distinct : (segments.map (·.start)).Nodup := starts ▸ increasing.imp fun less => ne_of_lt less
    exact List.inj_on_of_nodup_map distinct member present same

end AiTrader.Market
