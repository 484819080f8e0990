import AiTrader.Market.AuthoritySegments
import Mathlib.Data.List.Chain

/-! # The segments of a range are a partition

Under a valid configuration every range has segments: consecutive and non-empty, each under the provider of its days, with
another provider after each and Tiingo in one at most. -/

namespace AiTrader.Market

open Library

variable {boundaries : DailyBoundaries} {start through first : Int} {dates : List Int} {segments : List AuthoritySegment}

/-- Massive resumes only after a cutover to Tiingo. -/
def DailyBoundaries.Valid (boundaries : DailyBoundaries) : Prop :=
  ∀ resume, boundaries.massiveResumeSession = some resume → ∃ cutover, boundaries.cutoverSession = some cutover ∧ cutover < resume

/-- Under a valid configuration a day is Tiingo's from the cutover until Massive resumes. -/
theorem DailyBoundaries.Valid.authority (valid : boundaries.Valid) (date : Int) :
    ∃ provider, marketDailyAuthority boundaries date = .ok provider ∧ (provider = .tiingo ↔
      (∃ cutover, boundaries.cutoverSession = some cutover ∧ cutover ≤ date) ∧
        ∀ resume, boundaries.massiveResumeSession = some resume → date < resume) := by
  unfold marketDailyAuthority
  cases resumed : boundaries.massiveResumeSession with
  | none =>
    cases begun : boundaries.cutoverSession with
    | none => exact ⟨_, rfl, by simp⟩
    | some cutover => exact ⟨_, rfl, by simp⟩
  | some resume =>
    obtain ⟨cutover, begun, before⟩ := valid resume resumed
    rw [begun]
    exact ⟨_, if_neg (not_le.mpr before), by simp⟩

theorem segmentsFrom_total (valid : boundaries.Valid) (through : Int) (dates : List Int) :
    ∃ segments, segmentsFrom boundaries through dates = .ok segments := by
  induction dates with
  | nil => exact ⟨[], rfl⟩
  | cons date later ih =>
    obtain ⟨provider, known, -⟩ := valid.authority date
    obtain ⟨rest, segmented⟩ := ih
    exact ⟨_, bind_eq_ok.mpr ⟨provider, authorityOf_eq_ok.mpr known, bind_eq_ok.mpr ⟨rest, segmented, rfl⟩⟩⟩

/-- Each segment ends the day before the next starts, and the last one ends the range. -/
theorem segmentsFrom_consecutive (segmented : segmentsFrom boundaries through (first :: dates) = .ok segments) :
    segments.IsChain (fun segment next => segment.through + 1 = next.start) ∧
      segments.getLast?.map (·.through) = some through := by
  induction dates generalizing first segments with
  | nil =>
    obtain ⟨provider, _, segmented⟩ := bind_eq_ok.mp segmented
    cases segmented
    exact ⟨.singleton _, rfl⟩
  | cons next later ih =>
    obtain ⟨provider, _, segmented⟩ := bind_eq_ok.mp segmented
    obtain ⟨rest, others, segmented⟩ := bind_eq_ok.mp segmented
    cases segmented
    have starts := segmentsFrom_starts others
    obtain ⟨chained, last⟩ := ih others
    cases rest with
    | nil => cases starts
    | cons following rest =>
      obtain rfl : following.start = next := (List.cons.inj starts).1
      exact ⟨.cons_cons (Int.sub_add_cancel _ _) chained, last⟩

/-- A day has one provider, and the day a neighbour starts on is a boundary. -/
theorem Segmented.different (valid : boundaries.Valid) (segmented : Segmented boundaries start through segments)
    (starts : ∀ segment ∈ segments, segment.start ∈ segmentStarts boundaries start through)
    {segment next : AuthoritySegment} (member : segment ∈ segments) (listed : next ∈ segments)
    (follows : segment.through + 1 = next.start) : segment.provider ≠ next.provider := by
  intro same
  obtain ⟨early, nonempty, _⟩ := segmented.within segment member
  have forward := (segmented.within next listed).2.1
  obtain ⟨boundary, -⟩ := mem_segmentStarts.mp (starts next listed)
  obtain ⟨before, known, tiingoBefore⟩ := valid.authority segment.through
  obtain ⟨after, told, tiingoAfter⟩ := valid.authority next.start
  obtain rfl : before = segment.provider :=
    Except.ok.inj (known.symm.trans (authorityOf_eq_ok.mp (segmented.authority _ member _ nonempty le_rfl)))
  obtain rfl : after = next.provider :=
    Except.ok.inj (told.symm.trans (authorityOf_eq_ok.mp (segmented.authority _ listed _ le_rfl forward)))
  rw [same, tiingoAfter] at tiingoBefore
  rcases boundary with begins | begins | resumes
  · omega
  · have tiingo := tiingoBefore.mp ⟨⟨_, begins, le_rfl⟩, fun resume resumed => by
      obtain ⟨cutover, begun, earlier⟩ := valid resume resumed
      rw [begins] at begun
      cases begun
      exact earlier⟩
    obtain ⟨⟨cutover, begun, reached⟩, -⟩ := tiingo
    rw [begins] at begun
    cases begun
    omega
  · obtain ⟨cutover, begun, earlier⟩ := valid _ resumes
    have tiingo := tiingoBefore.mpr ⟨⟨cutover, begun, by omega⟩, fun resume resumed => by
      rw [resumes] at resumed
      cases resumed
      omega⟩
    exact absurd (tiingo.2 _ resumes) (lt_irrefl _)

/-- Consecutive non-empty segments, each under the provider of its days, neighbours under different ones. -/
structure AuthorityPartition (boundaries : DailyBoundaries) (start through : Int) (segments : List AuthoritySegment) : Prop where
  first : segments.head?.map (·.start) = some start
  last : segments.getLast?.map (·.through) = some through
  nonempty : ∀ segment ∈ segments, segment.start ≤ segment.through
  consecutive : segments.IsChain fun segment next => segment.through + 1 = next.start ∧ segment.provider ≠ next.provider
  authority : ∀ segment ∈ segments, ∀ date, segment.start ≤ date → date ≤ segment.through →
    marketDailyAuthority boundaries date = .ok segment.provider
  tiingo : segments.Pairwise fun segment later => segment.provider = .tiingo → later.provider ≠ .tiingo

theorem dailyAuthoritySegments_partition (valid : boundaries.Valid) (ordered : start ≤ through) :
    ∃ segments, dailyAuthoritySegments boundaries start through = .ok segments ∧
      AuthorityPartition boundaries start through segments := by
  obtain ⟨provider, known, -⟩ := valid.authority through
  obtain ⟨segments, found⟩ := segmentsFrom_total valid through (segmentStarts boundaries start through)
  have computed : dailyAuthoritySegments boundaries start through = .ok segments := by
    unfold dailyAuthoritySegments
    rw [if_neg (not_lt.mpr ordered)]
    exact bind_eq_ok.mpr ⟨provider, authorityOf_eq_ok.mpr known, found⟩
  have segmented := dailyAuthoritySegments_segmented computed
  have increasing := segmentStarts_increasing boundaries start through
  have starts := segmentsFrom_starts found
  have listed : start ∈ segmentStarts boundaries start through := mem_segmentStarts.mpr ⟨.inl rfl, le_rfl, ordered⟩
  refine ⟨segments, computed, ?_⟩
  cases shape : segmentStarts boundaries start through with
  | nil => simp [shape] at listed
  | cons least rest =>
    obtain ⟨chained, last⟩ := segmentsFrom_consecutive (shape ▸ found)
    have begins : least = start := by
      have := (mem_segmentStarts.mp (shape ▸ List.mem_cons_self : least ∈ segmentStarts boundaries start through)).2.1
      rw [shape] at listed increasing
      rcases List.mem_cons.mp listed with same | later
      · exact same.symm
      · have := (List.pairwise_cons.mp increasing).1 start later
        omega
    refine ⟨?_, last, fun segment member => (segmented.within segment member).2.1, ?_,
      fun segment member date from_ to_ => authorityOf_eq_ok.mp (segmented.authority segment member date from_ to_), ?_⟩
    · rw [← List.head?_map, starts, shape, begins]
      rfl
    · have given : ∀ segment ∈ segments, segment.start ∈ segmentStarts boundaries start through := fun segment member =>
        starts ▸ List.mem_map_of_mem member
      exact chained.imp_of_mem_imp fun segment next member listed follows =>
        ⟨follows, segmented.different valid given member listed follows⟩
    · have distinct : segments.Pairwise fun segment later => segment.start < later.start :=
        List.pairwise_map.mp (starts ▸ increasing)
      refine distinct.imp_of_mem fun {segment later} member listed before tiingo again => ?_
      rw [segmented.single segment member later listed tiingo again] at before
      exact lt_irrefl _ before

/-- From a Monday to the Friday, with Tiingo from Wednesday on and Massive again on Friday. -/
theorem dailyAuthoritySegments_partition_week : ∃ segments, dailyAuthoritySegments ⟨some 2, some 4⟩ 0 4 = .ok segments ∧
    AuthorityPartition ⟨some 2, some 4⟩ 0 4 segments :=
  dailyAuthoritySegments_partition (fun resume given => ⟨2, rfl, by cases given; decide⟩) (by decide)

end AiTrader.Market
