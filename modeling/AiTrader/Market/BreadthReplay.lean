import Mathlib.Data.List.Chain
import Mathlib.Data.String.Basic
import AiTrader.Library.Json
import AiTrader.Market.RawCloses

/-! # The bootstrap of breadth's second version

The bootstrap counts one member after another over the whole history, the measurement all members over a window of 21
sessions. -/

namespace AiTrader.BreadthV2

open Library

section Source

/-- `HORIZONS` -/
def horizons : List Nat := [1, 5, 20]

structure Member where
  symbol : String
  bars : String → Option ResearchBar

structure Counts where
  (advancing declining unchanged : Nat)
deriving DecidableEq

def emptyCounts : Counts := ⟨0, 0, 0⟩

def Counts.add (counts : Counts) : Direction → Counts
  | .advancing => { counts with advancing := counts.advancing + 1 }
  | .declining => { counts with declining := counts.declining + 1 }
  | .unchanged => { counts with unchanged := counts.unchanged + 1 }

inductive BootstrapError where
  | unchronologicalSessions | noTargetSessions | unsortedMembers

def BootstrapError.message : BootstrapError → String
  | .unchronologicalSessions => "Unique chronological replay sessions required."
  | .noTargetSessions => "No reviewed bootstrap target sessions."
  | .unsortedMembers => "Bootstrap members must be unique and sorted by canonical symbol."

/-- The counts are kept by the index of the target session and the horizon. -/
structure BreadthV2BootstrapAccumulator where
  sessions : List String
  counts : List ((Nat × Nat) × Counts)
  memberCount : Nat
  lastSymbol : Option String

section

variable (sessions : List String)

def targetIndexes (replayFrom replayThrough : String) : List Nat :=
  (List.range sessions.length).filter fun index =>
    sessions[index]?.any fun date => replayFrom ≤ date ∧ date ≤ replayThrough

/-- The constructor. -/
def bootstrapAccumulator (replayFrom replayThrough : String) :
    Except BootstrapError BreadthV2BootstrapAccumulator :=
  if sessions = [] ∨ ¬ sessions.IsChain (· < ·) then .error .unchronologicalSessions
  else if targetIndexes sessions replayFrom replayThrough = [] then .error .noTargetSessions
  else .ok ⟨sessions, ((targetIndexes sessions replayFrom replayThrough).product horizons).map fun key => (key, emptyCounts), 0, none⟩

/-- Counting one member for a target session and a horizon. -/
def countMember (key : Nat × Nat) (counts : Counts) (member : Member) : Counts :=
  if (key.1 : Int) - key.2 < 0 then counts
  else (compareRawCloses sessions (key.1 - key.2) key.1 member.bars false).elim counts fun comparison =>
    counts.add comparison.direction

end

def addMember (accumulator : BreadthV2BootstrapAccumulator) (member : Member) : Except BootstrapError BreadthV2BootstrapAccumulator :=
  if accumulator.lastSymbol.any (Json.codeUnitOrder member.symbol ·) then .error .unsortedMembers
  else .ok { accumulator with
    lastSymbol := some member.symbol
    memberCount := accumulator.memberCount + 1
    counts := accumulator.counts.map fun (key, counts) => (key, countMember accumulator.sessions key counts member) }

/-- The members are added batch after batch. -/
def addBatches (accumulator : BreadthV2BootstrapAccumulator) (batches : List (List Member)) :
    Except BootstrapError BreadthV2BootstrapAccumulator :=
  batches.foldlM (fun accumulator batch => batch.foldlM addMember accumulator) accumulator

structure HorizonMeasurement where
  counts : Counts
  (missingTarget missingAnchor missingIntermediateSplitEvidence : Nat)

/-- The bars of the window's dates, from its first session through the target. -/
def windowBars (window : List String) (bars : String → Option ResearchBar) (day : String) : Option ResearchBar :=
  if window[0]?.any (· ≤ day) ∧ window[20]?.any (day ≤ ·) then bars day else none

def measureMember (window : List String) (horizon : Nat) (measured : HorizonMeasurement) (member : Member) : HorizonMeasurement :=
  if barAt window (windowBars window member.bars) 20 = none then { measured with missingTarget := measured.missingTarget + 1 }
  else if barAt window (windowBars window member.bars) (20 - horizon) = none then
    { measured with missingAnchor := measured.missingAnchor + 1 }
  else
    match compareRawCloses window (20 - horizon) 20 (windowBars window member.bars) false with
    | none => { measured with missingIntermediateSplitEvidence := measured.missingIntermediateSplitEvidence + 1 }
    | some comparison => { measured with counts := measured.counts.add comparison.direction }

/-- `sessions.slice(-21)` -/
def windowOf (sessions : List String) : List String := sessions.drop (sessions.length - 21)

/-- The counting of `computeBreadthV2Measurement`, of the sessions through the target. -/
def measureHorizon (sessions : List String) (horizon : Nat) (members : List Member) : HorizonMeasurement :=
  members.foldl (measureMember (windowOf sessions) horizon) ⟨emptyCounts, 0, 0, 0⟩

end Source

variable {sessions : List String} {found other : Int → Option ResearchBar} {anchorIndex targetIndex : Int} {allow : Bool}

/-! ## Windows -/

/-- A comparison does not depend on where its sessions are in the list. -/
theorem compareBars_shift {offset : Int} (ordered : anchorIndex ≤ targetIndex)
    (same : ∀ index, anchorIndex ≤ index → index ≤ targetIndex → other index = found (index + offset)) :
    compareBars other anchorIndex targetIndex allow = compareBars found (anchorIndex + offset) (targetIndex + offset) allow := by
  have looped (indexes : List Int) (within : ∀ index ∈ indexes, other index = found (index + offset)) (factor : Decimal)
      (missing : Nat) : accumulate other factor missing indexes = accumulate found factor missing (indexes.map (· + offset)) := by
    induction indexes generalizing factor missing with
    | nil => rfl
    | cons index later ih =>
      simp only [accumulate, List.map_cons, within index List.mem_cons_self, ih fun next after => within next (.tail _ after)]
  have moved : between (anchorIndex + offset) (targetIndex + offset) = (between anchorIndex targetIndex).map (· + offset) := by
    unfold between
    rw [List.map_map, show targetIndex + offset - (anchorIndex + offset) = targetIndex - anchorIndex by omega]
    exact List.map_congr_left fun step _ => by simp only [Function.comp_apply]; omega
  have inside : ∀ index ∈ between anchorIndex targetIndex, other index = found (index + offset) := fun index within =>
    same index (mem_between.mp within).1.le (mem_between.mp within).2
  unfold compareBars
  rw [same _ le_rfl ordered, same _ ordered le_rfl, moved, looped _ inside]
  simp only [add_lt_add_iff_right]

section Windows

variable (chronological : sessions.Pairwise (· < ·)) {index horizon : Nat} (warm : 20 ≤ index) (inside : index < sessions.length)
include chronological warm inside

/-- The window's bars are those of the last 21 sessions. -/
theorem barAt_window (bars : String → Option ResearchBar) (place : Int) (first : 0 ≤ place) (last : place ≤ 20) :
    barAt (windowOf (sessions.take (index + 1))) (windowBars (windowOf (sessions.take (index + 1))) bars) place =
      barAt sessions bars (place + (index - 20)) := by
  generalize made : windowOf (sessions.take (index + 1)) = window
  have at_ (place : Nat) (within : place ≤ 20) : window[place]? = sessions[index - 20 + place]? := by
    rw [← made, windowOf, List.getElem?_drop, List.length_take, List.getElem?_take_of_lt (by omega)]
    congr 1
    omega
  have sorted : window.Pairwise (· < ·) := by
    rw [← made]
    exact chronological.sublist ((List.drop_sublist ..).trans (List.take_sublist ..))
  have ordered {i j : Nat} {before after : String} (le : i ≤ j) (atI : window[i]? = some before) (atJ : window[j]? = some after) :
      before ≤ after := by
    obtain ⟨_, rfl⟩ := List.getElem?_eq_some_iff.mp atI
    obtain ⟨_, rfl⟩ := List.getElem?_eq_some_iff.mp atJ
    obtain rfl | lt := le.eq_or_lt
    · exact le_rfl
    · exact (List.pairwise_iff_getElem.mp sorted _ _ _ _ lt).le
  have known (place : Nat) (within : place ≤ 20) : ∃ date, window[place]? = some date :=
    ⟨_, (at_ place within).trans (List.getElem?_eq_getElem (by omega))⟩
  obtain ⟨place, rfl⟩ := Int.eq_ofNat_of_zero_le first
  have within : place ≤ 20 := by omega
  obtain ⟨date, atPlace⟩ := known place within
  obtain ⟨opening, atFirst⟩ := known 0 (by omega)
  obtain ⟨target, atLast⟩ := known 20 le_rfl
  have moved : ((place : Int) + (index - 20)).toNat = index - 20 + place := by omega
  unfold barAt windowBars
  rw [if_neg (by omega), if_neg (by omega), moved, ← at_ place within, Int.toNat_natCast, atPlace, atFirst, atLast]
  simp [ordered (Nat.zero_le place) atFirst atPlace, ordered within atPlace atLast]

/-- A member counts in the window as in the whole history. -/
theorem counts_measureMember (listed : horizon ∈ horizons) (measured : HorizonMeasurement) (member : Member) :
    (measureMember (windowOf (sessions.take (index + 1))) horizon measured member).counts =
      countMember sessions (index, horizon) measured.counts member := by
  have short : 1 ≤ horizon ∧ horizon ≤ 20 := by
    revert horizon
    decide
  have compared : compareRawCloses _ (20 - horizon) 20 _ false = compareRawCloses sessions (20 - horizon + (index - 20))
      (20 + (index - 20)) member.bars false :=
    compareBars_shift (by omega) fun place first last =>
      barAt_window chronological warm inside member.bars place (by omega) last
  rw [show (20 - horizon + (index - 20) : Int) = index - horizon by omega, show (20 + (index - 20) : Int) = index by omega] at compared
  have warmed : ¬ (index : Int) - horizon < 0 := by omega
  simp only [countMember, if_neg warmed, ← compared, measureMember]
  -- A window without one of the two bars has no comparison.
  cases made : compareRawCloses (windowOf (sessions.take (index + 1))) (20 - horizon) 20
    (windowBars (windowOf (sessions.take (index + 1))) member.bars) false with
  | none =>
    split
    · rfl
    · split <;> rfl
  | some comparison =>
    rw [if_neg, if_neg]
    · rfl
    · intro missing
      simp [compareRawCloses, compareBars, missing] at made
    · intro missing
      simp [compareRawCloses, compareBars, missing] at made

theorem counts_measureHorizon (listed : horizon ∈ horizons) (members : List Member) :
    (measureHorizon (sessions.take (index + 1)) horizon members).counts =
      members.foldl (countMember sessions (index, horizon)) emptyCounts :=
  (List.foldl_hom HorizonMeasurement.counts fun measured member =>
    (counts_measureMember chronological warm inside listed measured member).symm).symm

end Windows

/-- After twenty sessions before the range every target has a window. -/
theorem warm_of_sessions (chronological : sessions.Pairwise (· < ·)) {replayFrom replayThrough : String} {index : Nat}
    (target : index ∈ targetIndexes sessions replayFrom replayThrough) :
    (sessions.filter (· < replayFrom)).length ≤ index ∧ index < sessions.length := by
  obtain ⟨inside, dated⟩ := List.mem_filter.mp target
  have inside := List.mem_range.mp inside
  rw [List.getElem?_eq_getElem inside, Option.any_some, decide_eq_true_eq] at dated
  refine ⟨?_, inside⟩
  have later : (sessions.drop index).filter (· < replayFrom) = [] := by
    have sorted := chronological.sublist (List.drop_sublist index sessions)
    rw [List.drop_eq_getElem_cons inside] at sorted ⊢
    refine List.filter_eq_nil_iff.mpr fun date listed => ?_
    rw [decide_eq_true_eq, not_lt]
    obtain rfl | after := List.mem_cons.mp listed
    · exact dated.1
    · exact dated.1.trans (List.rel_of_pairwise_cons sorted after).le
  calc (sessions.filter (· < replayFrom)).length
      = (((sessions.take index) ++ sessions.drop index).filter (· < replayFrom)).length := by rw [List.take_append_drop]
    _ = ((sessions.take index).filter (· < replayFrom)).length := by rw [List.filter_append, later, List.append_nil]
    _ ≤ index := (List.length_filter_le _ _).trans (List.length_take_le _ _)

/-! ## Members -/

section Members

variable {accumulator : BreadthV2BootstrapAccumulator} {members : List Member} {key : Nat × Nat} {counts : Counts}

def Counts.total (counts : Counts) : Nat := counts.advancing + counts.declining + counts.unchanged

theorem total_countMember (member : Member) : (countMember sessions key counts member).total ≤ counts.total + 1 := by
  unfold countMember
  split
  · exact Nat.le_succ _
  cases compareRawCloses sessions _ _ member.bars false with
  | none => exact Nat.le_succ _
  | some comparison => cases direction : comparison.direction <;> simp [direction, Counts.add, Counts.total] <;> omega

/-- A member is counted once at most. -/
theorem total_foldl (members : List Member) : (members.foldl (countMember sessions key) counts).total ≤ counts.total + members.length := by
  induction members generalizing counts with
  | nil => exact le_rfl
  | cons member later ih =>
    have added : (countMember sessions key counts member).total ≤ counts.total + 1 := total_countMember member
    have rest := @ih (countMember sessions key counts member)
    simp only [List.foldl_cons, List.length_cons]
    omega

/-- The direction in which a member counts, if it counts at all. -/
def memberDirection (sessions : List String) (key : Nat × Nat) (member : Member) : Option Direction :=
  if (key.1 : Int) - key.2 < 0 then none
  else (compareRawCloses sessions (key.1 - key.2) key.1 member.bars false).map (·.direction)

/-- How many members count in each direction. -/
def tally (sessions : List String) (key : Nat × Nat) (members : List Member) : Counts :=
  let directions := members.map (memberDirection sessions key)
  ⟨directions.count (some .advancing), directions.count (some .declining), directions.count (some .unchanged)⟩

theorem foldl_countMember (members : List Member) :
    members.foldl (countMember sessions key) counts = ⟨counts.advancing + (tally sessions key members).advancing,
      counts.declining + (tally sessions key members).declining, counts.unchanged + (tally sessions key members).unchanged⟩ := by
  induction members generalizing counts with
  | nil => rfl
  | cons member later ih =>
    have counted : countMember sessions key counts member =
        (memberDirection sessions key member).elim counts fun direction => counts.add direction := by
      unfold countMember memberDirection
      split_ifs with cold
      · rfl
      · cases compareRawCloses sessions _ _ member.bars false <;> rfl
    rw [List.foldl_cons, ih, counted]
    cases found : memberDirection sessions key member with
    | none => simp [tally, found]
    | some direction => cases direction <;> simp [tally, found, Counts.add] <;> omega

theorem addBatches_eq (batches : List (List Member)) : addBatches accumulator batches = batches.flatten.foldlM addMember accumulator := by
  unfold addBatches
  induction batches generalizing accumulator with
  | nil => rfl
  | cons batch later ih => simp only [List.foldlM_cons, List.flatten_cons, List.foldlM_append, ih]

/-- The second symbol comes after the first. -/
abbrev Precedes (first second : String) : Prop := ¬ Json.codeUnitOrder second first

/-- Members in the order of their symbols are all counted. -/
theorem foldlM_addMember (ordered : members.Pairwise fun first second => Precedes first.symbol second.symbol)
    (after : ∀ last, accumulator.lastSymbol = some last → ∀ member ∈ members, Precedes last member.symbol) :
    ∃ result, members.foldlM addMember accumulator = .ok result ∧ result.memberCount = accumulator.memberCount + members.length ∧
      result.counts = accumulator.counts.map fun (key, counts) => (key, members.foldl (countMember accumulator.sessions key) counts) := by
  induction members generalizing accumulator with
  | nil => exact ⟨accumulator, rfl, rfl, by simp⟩
  | cons member later ih =>
    obtain ⟨first, ordered⟩ := List.pairwise_cons.mp ordered
    have increasing : accumulator.lastSymbol.any (Json.codeUnitOrder member.symbol ·) = false := by
      cases last : accumulator.lastSymbol with
      | none => rfl
      | some last_ => exact decide_eq_false (after last_ last member List.mem_cons_self)
    rw [List.foldlM_cons, addMember, if_neg (by simp [increasing])]
    obtain ⟨result, added, count, counts⟩ := @ih ⟨_, _, _, some member.symbol⟩ ordered fun last same next listed => by
      cases same
      exact first next listed
    refine ⟨result, added, by rw [count, List.length_cons]; dsimp only; omega, ?_⟩
    rw [counts, List.map_map]
    rfl

theorem lookup_keyed {keys : List (Nat × Nat)} (tally : Nat × Nat → Counts) (listed : key ∈ keys) :
    (keys.map fun key => (key, tally key)).lookup key = some (tally key) := by
  induction keys with
  | nil => cases listed
  | cons first later ih =>
    rw [List.map_cons, List.lookup_cons]
    by_cases same : key = first
    · rw [same, beq_self_eq_true]
    · rw [beq_false_of_ne same]
      exact ih ((List.mem_cons.mp listed).resolve_left same)

end Members

/-- The constructor accepts the chronological sessions with a target, and starts every target and horizon at nothing. -/
theorem bootstrapAccumulator_eq_ok {replayFrom replayThrough : String} {start : BreadthV2BootstrapAccumulator}
    (made : bootstrapAccumulator sessions replayFrom replayThrough = .ok start) :
    sessions.Pairwise (· < ·) ∧ start = ⟨sessions, ((targetIndexes sessions replayFrom replayThrough).product horizons).map
      fun key => (key, emptyCounts), 0, none⟩ := by
  unfold bootstrapAccumulator at made
  split at made
  · cases made
  · next accepted =>
    split at made
    · cases made
    · cases made
      exact ⟨List.isChain_iff_pairwise.mp (not_not.mp (not_or.mp accepted).2), rfl⟩

/-- However the members are batched, every target session and horizon counts each of them once at most, as the measurement
over the 21 sessions does; after twenty sessions before the range every target has so many. -/
theorem bootstrap_counts {replayFrom replayThrough : String} {start : BreadthV2BootstrapAccumulator}
    (made : bootstrapAccumulator sessions replayFrom replayThrough = .ok start) (batches : List (List Member))
    (ordered : batches.flatten.Pairwise fun first second => Precedes first.symbol second.symbol) :
    ∃ result, addBatches start batches = .ok result ∧ addBatches start [batches.flatten] = .ok result ∧
      result.memberCount = batches.flatten.length ∧
      ∀ index ∈ targetIndexes sessions replayFrom replayThrough, ∀ horizon ∈ horizons,
        ∃ counts, result.counts.lookup (index, horizon) = some counts ∧ counts.total ≤ result.memberCount ∧
          counts = tally sessions (index, horizon) batches.flatten ∧
          (20 ≤ index ∨ 20 ≤ (sessions.filter (· < replayFrom)).length →
            (measureHorizon (sessions.take (index + 1)) horizon batches.flatten).counts = counts) := by
  obtain ⟨chronological, rfl⟩ := bootstrapAccumulator_eq_ok made
  obtain ⟨result, added, count, counts⟩ := @foldlM_addMember ⟨_, _, _, none⟩ _ ordered fun _ none_ => by cases none_
  refine ⟨result, (addBatches_eq _).trans added, ?_, ?_, fun index target horizon listed => ?_⟩
  · rw [addBatches_eq, List.flatten_singleton]
    exact added
  · rw [count, Nat.zero_add]
  · obtain ⟨reached, inside⟩ := warm_of_sessions chronological target
    refine ⟨batches.flatten.foldl (countMember sessions (index, horizon)) emptyCounts, ?_, ?_, ?_, fun warm => ?_⟩
    · rw [counts, List.map_map]
      exact lookup_keyed _ (List.pair_mem_product.mpr ⟨target, listed⟩)
    · rw [count]
      exact total_foldl _
    · simp [foldl_countMember, emptyCounts]
    · exact counts_measureHorizon chronological (warm.elim id (·.trans reached)) inside listed _

/-- Two members in two batches over 21 sessions of January. -/
theorem bootstrap_counts_january :
    let sessions := (List.range 21).map fun day => "2021-01-" ++ toString (day + 10)
    let members : List Member := ["A", "B"].map fun symbol => ⟨symbol, fun _ => some ⟨10 ^ 12, 10 ^ 10⟩⟩
    ∃ start result counts, bootstrapAccumulator sessions "2021-01-30" "2021-01-31" = .ok start ∧
      addBatches start (members.map ([·])) = .ok result ∧ result.counts.lookup (20, 5) = some counts ∧
        (measureHorizon sessions 5 members).counts = counts := by
  intro sessions members
  obtain ⟨start, made⟩ : ∃ start, bootstrapAccumulator sessions "2021-01-30" "2021-01-31" = .ok start :=
    ⟨_, (if_neg (by decide +kernel)).trans (if_neg (by decide +kernel))⟩
  obtain ⟨result, added, -, -, counted⟩ := bootstrap_counts made (members.map ([·])) (by decide +kernel)
  obtain ⟨counts, found, -, -, same⟩ := counted 20 (by decide +kernel) 5 (by decide)
  exact ⟨start, result, counts, made, added, found, same (.inl le_rfl)⟩

end AiTrader.BreadthV2
