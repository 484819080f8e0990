import Mathlib.Algebra.BigOperators.Group.List.Basic
import AiTrader.Library.Json
import AiTrader.Exit.ExactArithmetic

/-! # Attributed fills

The quantity a position has already sold is the sum of its attributed fills. -/

namespace AiTrader.Exit

open Library Entry

structure AttributedFillEvidence where
  (broker mode activityId : String)
  /-- A number, as `String` prints it. -/
  qty : Option String
  rawBrokerJson : Json

inductive FillProblem where
  | malformedFill | conflictingDuplicateIdentity
deriving DecidableEq

namespace RemainingExposure

/-- `exact` of a member of a JSON value. -/
def exactJson : Json → Option ExactDecimal
  | .number value => exact (String.ofList value.text)
  | .string text => exact text
  | _ => none

/-- The quantity the broker wrote, or else the stored number. -/
def fillQty (activity : AttributedFillEvidence) : Option ExactDecimal :=
  match activity.rawBrokerJson with
  | .object fields => ((fields.lookup "qty").bind exactJson).or (activity.qty.bind exact)
  | _ => activity.qty.bind exact

/-- `Map.set`: a new key goes to the end. -/
def setIdentity (identity : String) (quantity : ExactDecimal) (identities : List (String × ExactDecimal)) :
    List (String × ExactDecimal) :=
  match identities.lookup identity with
  | some _ => identities.map fun entry => if entry.1 = identity then (identity, quantity) else entry
  | none => identities ++ [(identity, quantity)]

section

variable (toLowerCase : String → String)

/-- `toLowerCase` is that of strings: which letters it maps is of no account here. -/
def identityOf (fill : AttributedFillEvidence) : String :=
  toLowerCase fill.broker ++ ":" ++ toLowerCase fill.mode ++ ":" ++ String.ofList (trim fill.activityId)

def recordFill (identities : List (String × ExactDecimal)) (fill : AttributedFillEvidence) :
    Except FillProblem (List (String × ExactDecimal)) :=
  match fillQty fill with
  | none => .error .malformedFill
  | some quantity =>
    if trim fill.activityId = [] ∨ quantity.coefficient = 0 then .error .malformedFill
    else
      let identity := identityOf toLowerCase fill
      if (identities.lookup identity).any fun existing => !eq existing quantity then
        .error .conflictingDuplicateIdentity
      else .ok (setIdentity identity quantity identities)

/-- The quantity of all fills, or the problem of the first fill that has one. -/
def summarizeAttributedFillQuantities (fills : List AttributedFillEvidence) :
    Except FillProblem ExactDecimal := do
  let identities ← fills.foldlM (recordFill toLowerCase) []
  return add (identities.map Prod.snd)

end

section Tally

variable {toLowerCase : String → String} {fill : AttributedFillEvidence} {seen fills : List AttributedFillEvidence}
  {identities after : List (String × ExactDecimal)} {quantity : ExactDecimal}

/-- A fill has an activity id and a positive quantity. -/
def WellFormed (fill : AttributedFillEvidence) : Prop :=
  trim fill.activityId ≠ [] ∧ ∃ quantity, fillQty fill = some quantity ∧ 0 < quantity.value

/-- Fills with one identity have one quantity. -/
def Agreeing (toLowerCase : String → String) (fills : List AttributedFillEvidence) : Prop :=
  ∀ fill ∈ fills, ∀ other ∈ fills, identityOf toLowerCase fill = identityOf toLowerCase other →
    ∀ quantity same, fillQty fill = some quantity → fillQty other = some same → quantity.value = same.value

/-- The quantities by identity of the fills read so far. -/
structure Tallied (toLowerCase : String → String) (seen : List AttributedFillEvidence)
    (identities : List (String × ExactDecimal)) : Prop where
  distinct : (identities.map Prod.fst).Nodup
  fromFill : ∀ entry ∈ identities, ∃ fill ∈ seen, identityOf toLowerCase fill = entry.1 ∧ fillQty fill = some entry.2
  wellFormed : ∀ fill ∈ seen, WellFormed fill
  tallied : ∀ fill ∈ seen, ∀ quantity, fillQty fill = some quantity →
    (identityOf toLowerCase fill, quantity) ∈ identities

theorem canonical_of_fillQty (read : fillQty fill = some quantity) : quantity.Canonical := by
  have of_json (value : Json) (parsed : exactJson value = some quantity) : quantity.Canonical := by
    cases value with
    | number value => exact canonical_of_parse parsed
    | string text => exact canonical_of_parse parsed
    | null => cases parsed
    | bool value => cases parsed
    | array items => cases parsed
    | object fields => cases parsed
  have of_stored (parsed : fill.qty.bind exact = some quantity) : quantity.Canonical := by
    obtain ⟨_, _, parsed⟩ := Option.bind_eq_some_iff.mp parsed
    exact canonical_of_parse parsed
  unfold fillQty at read
  split at read
  · obtain found | ⟨_, stored⟩ := Option.or_eq_some_iff.mp read
    · obtain ⟨value, _, parsed⟩ := Option.bind_eq_some_iff.mp found
      exact of_json value parsed
    · exact of_stored stored
  · exact of_stored read

theorem mem_of_lookup {identity : String} (found : identities.lookup identity = some quantity) :
    (identity, quantity) ∈ identities := by
  obtain ⟨front, rest, split, _⟩ := List.lookup_eq_some_iff.mp found
  rw [split]
  exact List.mem_append_right _ List.mem_cons_self

theorem entry_unique (distinct : (identities.map Prod.fst).Nodup) {entry other : String × ExactDecimal}
    (member : entry ∈ identities) (also : other ∈ identities) (same : entry.1 = other.1) : entry = other :=
  List.inj_on_of_nodup_map distinct member also same

theorem wellFormed_iff : WellFormed fill ↔
    ∃ quantity, fillQty fill = some quantity ∧ ¬ (trim fill.activityId = [] ∨ quantity.coefficient = 0) := by
  have positive (quantity : ExactDecimal) : 0 < quantity.value ↔ quantity.coefficient ≠ 0 :=
    Decimal.scaled_pos_iff.trans Nat.pos_iff_ne_zero
  constructor
  · rintro ⟨named, quantity, read, counted⟩
    exact ⟨quantity, read, not_or.mpr ⟨named, (positive quantity).mp counted⟩⟩
  · rintro ⟨quantity, read, sound⟩
    exact ⟨(not_or.mp sound).1, quantity, read, (positive quantity).mpr (not_or.mp sound).2⟩

/-- A fill is recorded under its identity unless malformed or already there with another quantity. -/
theorem recordFill_ok (recorded : recordFill toLowerCase identities fill = .ok after) :
    ∃ quantity, WellFormed fill ∧ fillQty fill = some quantity ∧
      (∀ existing, identities.lookup (identityOf toLowerCase fill) = some existing → existing.value = quantity.value) ∧
      after = setIdentity (identityOf toLowerCase fill) quantity identities := by
  unfold recordFill at recorded
  dsimp only at recorded
  split at recorded
  · cases recorded
  · rename_i quantity read
    split_ifs at recorded with malformed conflict
    refine ⟨quantity, wellFormed_iff.mpr ⟨quantity, read, malformed⟩, read, ?_, (Except.ok.inj recorded).symm⟩
    intro existing found
    rw [found, Option.any_some, Bool.not_eq_true, Bool.not_eq_false'] at conflict
    exact eq_iff.mp conflict

theorem recordFill_of_sound (sound : WellFormed fill) (read : fillQty fill = some quantity)
    (agrees : ∀ existing, identities.lookup (identityOf toLowerCase fill) = some existing →
      existing.value = quantity.value) :
    recordFill toLowerCase identities fill = .ok (setIdentity (identityOf toLowerCase fill) quantity identities) := by
  obtain ⟨same, read_again, named⟩ := wellFormed_iff.mp sound
  rw [read] at read_again
  obtain rfl := Option.some.inj read_again
  simp only [recordFill, read, if_neg named]
  cases found : identities.lookup (identityOf toLowerCase fill) with
  | none => rfl
  | some existing => simp [eq_iff.mpr (agrees existing found)]

theorem setIdentity_of_mem (distinct : (identities.map Prod.fst).Nodup) {identity : String}
    (member : (identity, quantity) ∈ identities) : setIdentity identity quantity identities = identities := by
  unfold setIdentity
  split
  · conv_rhs => rw [← List.map_id identities]
    apply List.map_congr_left
    intro entry listed
    split_ifs with same
    · exact entry_unique distinct member listed same.symm
    · rfl
  · rename_i missing
    exact absurd rfl (bne_iff_ne.mp (List.lookup_eq_none_iff.mp missing _ member))

section

variable (tally : Tallied toLowerCase seen identities)
include tally

/-- The step: one more fill keeps the tally of the fills read so far. -/
theorem Tallied.record
    (recorded : recordFill toLowerCase identities fill = .ok after) : Tallied toLowerCase (seen ++ [fill]) after := by
  obtain ⟨quantity, sound, read, agrees, rfl⟩ := recordFill_ok recorded
  have well_formed : ∀ other ∈ seen ++ [fill], WellFormed other := by
    intro other member
    obtain member | member := List.mem_append.mp member
    · exact tally.wellFormed other member
    · rwa [List.mem_singleton.mp member]
  have from_seen : ∀ entry ∈ identities,
      ∃ other ∈ seen ++ [fill], identityOf toLowerCase other = entry.1 ∧ fillQty other = some entry.2 := by
    intro entry member
    obtain ⟨other, listed, source⟩ := tally.fromFill entry member
    exact ⟨other, List.mem_append_left _ listed, source⟩
  cases found : identities.lookup (identityOf toLowerCase fill) with
  | some existing =>
    -- The fill was delivered before: its quantity is the recorded one.
    have member := mem_of_lookup found
    obtain ⟨other, _, _, read_other⟩ := tally.fromFill _ member
    have same : existing = quantity :=
      (canonical_of_fillQty read_other).unique (canonical_of_fillQty read) (agrees existing found)
    subst same
    rw [setIdentity_of_mem tally.distinct member]
    refine ⟨tally.distinct, from_seen, well_formed, ?_⟩
    intro other listed quantity read_this
    obtain listed | listed := List.mem_append.mp listed
    · exact tally.tallied other listed quantity read_this
    · obtain rfl := List.mem_singleton.mp listed
      rw [read] at read_this
      rwa [← Option.some.inj read_this]
  | none =>
    have set : setIdentity (identityOf toLowerCase fill) quantity identities =
        identities ++ [(identityOf toLowerCase fill, quantity)] := by
      simp only [setIdentity, found]
    have fresh : identityOf toLowerCase fill ∉ identities.map Prod.fst := by
      intro listed
      obtain ⟨entry, member, same⟩ := List.mem_map.mp listed
      exact bne_iff_ne.mp (List.lookup_eq_none_iff.mp found entry member) same.symm
    rw [set]
    refine ⟨?_, ?_, well_formed, ?_⟩
    · rw [List.map_append, List.map_singleton, ← List.concat_eq_append]
      exact tally.distinct.concat fresh
    · intro entry member
      obtain member | member := List.mem_append.mp member
      · exact from_seen entry member
      · rw [List.mem_singleton.mp member]
        exact ⟨fill, List.mem_concat_self, rfl, read⟩
    · intro other listed quantity read_this
      obtain listed | listed := List.mem_append.mp listed
      · exact List.mem_append_left _ (tally.tallied other listed quantity read_this)
      · obtain rfl := List.mem_singleton.mp listed
        rw [read] at read_this
        rw [← Option.some.inj read_this]
        exact List.mem_concat_self

theorem Tallied.recordable (sound : WellFormed fill)
    (agreeing : Agreeing toLowerCase (seen ++ [fill])) : ∃ after, recordFill toLowerCase identities fill = .ok after := by
  have ⟨_, quantity, read, _⟩ := sound
  refine ⟨_, recordFill_of_sound sound read ?_⟩
  intro existing found
  obtain ⟨other, listed, same, read_other⟩ := tally.fromFill _ (mem_of_lookup found)
  exact agreeing other (List.mem_append_left _ listed) fill (List.mem_concat_self) same
    existing quantity read_other read

theorem Tallied.run (recorded : fills.foldlM (recordFill toLowerCase) identities = .ok after) :
    Tallied toLowerCase (seen ++ fills) after := by
  induction fills generalizing seen identities with
  | nil =>
    rw [List.append_nil]
    rwa [← Except.ok.inj recorded]
  | cons fill rest ih =>
    rw [List.foldlM_cons] at recorded
    cases first : recordFill toLowerCase identities fill with
    | error problem =>
      rw [first] at recorded
      cases recorded
    | ok next =>
      rw [first] at recorded
      rw [List.append_cons]
      exact ih (tally.record first) recorded

theorem Tallied.runs (sound : ∀ fill ∈ fills, WellFormed fill) (agreeing : Agreeing toLowerCase (seen ++ fills)) :
    ∃ after, fills.foldlM (recordFill toLowerCase) identities = .ok after := by
  induction fills generalizing seen identities with
  | nil => exact ⟨identities, rfl⟩
  | cons fill rest ih =>
    rw [List.append_cons] at agreeing
    obtain ⟨sound_first, sound_rest⟩ := List.forall_mem_cons.mp sound
    have agreeing_first : Agreeing toLowerCase (seen ++ [fill]) := by
      intro one listed other also
      exact agreeing one (List.mem_append_left _ listed) other (List.mem_append_left _ also)
    obtain ⟨next, recorded⟩ := tally.recordable sound_first agreeing_first
    obtain ⟨after, rest_recorded⟩ := ih (tally.record recorded) sound_rest agreeing
    refine ⟨after, ?_⟩
    rw [List.foldlM_cons, recorded]
    exact rest_recorded

end

theorem tallied_nil : Tallied toLowerCase [] [] where
  distinct := List.nodup_nil
  fromFill := nofun
  wellFormed := nofun
  tallied := nofun

end Tally

section Summary

variable {toLowerCase : String → String} {fills others : List AttributedFillEvidence} {quantity : ExactDecimal}

theorem summarize_eq_ok_iff : summarizeAttributedFillQuantities toLowerCase fills = .ok quantity ↔
    ∃ identities, fills.foldlM (recordFill toLowerCase) [] = .ok identities ∧ quantity = add (identities.map Prod.snd) := by
  unfold summarizeAttributedFillQuantities
  cases fills.foldlM (recordFill toLowerCase) [] with
  | error problem =>
    constructor
    · exact nofun
    · rintro ⟨_, impossible, _⟩
      cases impossible
  | ok identities =>
    constructor
    · exact fun summary => ⟨identities, rfl, (Except.ok.inj summary).symm⟩
    · rintro ⟨_, same, rfl⟩
      rw [Except.ok.inj same]
      rfl

/-- Fills of every identity of a list, each identity once. -/
structure Represents (toLowerCase : String → String) (representatives fills : List AttributedFillEvidence) : Prop where
  distinct : (representatives.map (identityOf toLowerCase)).Nodup
  listed : representatives ⊆ fills
  every : ∀ fill ∈ fills, ∃ representative ∈ representatives,
    identityOf toLowerCase representative = identityOf toLowerCase fill

/-- The value of a fill's quantity. -/
def fillValue (fill : AttributedFillEvidence) : ℚ := ((fillQty fill).map ExactDecimal.value).getD 0

/-- The tally holds the quantity of one representative of each identity. -/
theorem Tallied.sum_eq {identities : List (String × ExactDecimal)} (tally : Tallied toLowerCase fills identities)
    {representatives : List AttributedFillEvidence} (represents : Represents toLowerCase representatives fills) :
    ((identities.map Prod.snd).map ExactDecimal.value).sum = (representatives.map fillValue).sum := by
  have same_rows : (identities.map fun entry => (entry.1, entry.2.value)).Perm
      (representatives.map fun fill => (identityOf toLowerCase fill, fillValue fill)) := by
    rw [List.perm_ext_iff_of_nodup]
    · rintro ⟨identity, value⟩
      simp only [List.mem_map, Prod.mk.injEq]
      constructor
      · rintro ⟨entry, listed, rfl, rfl⟩
        obtain ⟨fill, seen, same, read⟩ := tally.fromFill entry listed
        obtain ⟨representative, chosen, represented⟩ := represents.every fill seen
        refine ⟨representative, chosen, represented.trans same, ?_⟩
        obtain ⟨_, other, read_other, _⟩ := tally.wellFormed representative (represents.listed chosen)
        have recorded := tally.tallied representative (represents.listed chosen) other read_other
        have one : (identityOf toLowerCase representative, other) = entry :=
          entry_unique tally.distinct recorded listed (represented.trans same)
        simp [fillValue, read_other, ← one]
      · rintro ⟨fill, chosen, rfl, rfl⟩
        obtain ⟨_, other, read_other, _⟩ := tally.wellFormed fill (represents.listed chosen)
        refine ⟨_, tally.tallied fill (represents.listed chosen) other read_other, rfl, ?_⟩
        simp [fillValue, read_other]
    · apply List.Nodup.of_map Prod.fst
      simpa [List.map_map, Function.comp_def] using tally.distinct
    · apply List.Nodup.of_map Prod.fst
      simpa [List.map_map, Function.comp_def] using represents.distinct
  have sums := (same_rows.map Prod.snd).sum_eq
  simpa [List.map_map, Function.comp_def] using sums

theorem exists_represents {toLowerCase : String → String} {fills : List AttributedFillEvidence} :
    ∃ representatives, Represents toLowerCase representatives fills := by
  induction fills with
  | nil => exact ⟨[], List.nodup_nil, List.Subset.refl _, nofun⟩
  | cons fill rest ih =>
    obtain ⟨representatives, distinct, listed, every⟩ := ih
    by_cases known : identityOf toLowerCase fill ∈ representatives.map (identityOf toLowerCase)
    · refine ⟨representatives, distinct, fun one chosen => List.mem_cons_of_mem _ (listed chosen), ?_⟩
      exact List.forall_mem_cons.mpr ⟨List.mem_map.mp known, every⟩
    · refine ⟨fill :: representatives, List.nodup_cons.mpr ⟨known, distinct⟩, List.cons_subset_cons fill listed, ?_⟩
      refine List.forall_mem_cons.mpr ⟨⟨fill, List.mem_cons_self, rfl⟩, ?_⟩
      intro other member
      obtain ⟨representative, chosen, same⟩ := every other member
      exact ⟨representative, List.mem_cons_of_mem _ chosen, same⟩

theorem valid_iff : (∃ quantity, summarizeAttributedFillQuantities toLowerCase fills = .ok quantity) ↔
    (∀ fill ∈ fills, WellFormed fill) ∧ Agreeing toLowerCase fills := by
  constructor
  · rintro ⟨quantity, summary⟩
    obtain ⟨identities, recorded, _⟩ := summarize_eq_ok_iff.mp summary
    have tally := tallied_nil.run recorded
    rw [List.nil_append] at tally
    refine ⟨tally.wellFormed, ?_⟩
    intro fill listed other also same quantity quantity_other read read_other
    have one := entry_unique tally.distinct (tally.tallied fill listed quantity read)
      (tally.tallied other also quantity_other read_other) same
    rw [(Prod.mk.inj one).2]
  · rintro ⟨sound, agreeing⟩
    obtain ⟨identities, recorded⟩ := tallied_nil.runs sound (by rwa [List.nil_append])
    exact ⟨_, summarize_eq_ok_iff.mpr ⟨identities, recorded, rfl⟩⟩

theorem total_exact (summary : summarizeAttributedFillQuantities toLowerCase fills = .ok quantity) :
    quantity.Canonical ∧ ∀ representatives, Represents toLowerCase representatives fills →
      quantity.value = (representatives.map fillValue).sum := by
  obtain ⟨identities, recorded, rfl⟩ := summarize_eq_ok_iff.mp summary
  have tally := tallied_nil.run recorded
  rw [List.nil_append] at tally
  refine ⟨canonical_add _, fun representatives represents => ?_⟩
  rw [value_add]
  exact tally.sum_eq represents

theorem summarize_congr (subset : others ⊆ fills) (superset : fills ⊆ others)
    (summary : summarizeAttributedFillQuantities toLowerCase fills = .ok quantity) :
    summarizeAttributedFillQuantities toLowerCase others = .ok quantity := by
  obtain ⟨sound, agreeing⟩ := valid_iff.mp ⟨quantity, summary⟩
  have sound_other : ∀ fill ∈ others, WellFormed fill := fun fill listed => sound fill (subset listed)
  have agreeing_other : Agreeing toLowerCase others :=
    fun fill listed other also => agreeing fill (subset listed) other (subset also)
  obtain ⟨total, valid⟩ := valid_iff.mpr ⟨sound_other, agreeing_other⟩
  obtain ⟨representatives, represents⟩ := exists_represents
  have represents_fills : Represents toLowerCase representatives fills :=
    ⟨represents.distinct, fun one chosen => subset (represents.listed chosen), fun fill listed =>
      represents.every fill (superset listed)⟩
  have same_value : total.value = quantity.value :=
    ((total_exact valid).2 _ represents).trans ((total_exact summary).2 _ represents_fills).symm
  rw [valid, (total_exact valid).1.unique (total_exact summary).1 same_value]

end Summary

/-- A valid total is a function of the set of fills: the exact sum over distinct identities, when all fills are well formed
and agree. -/
theorem summarizeAttributedFillQuantities_laws (toLowerCase : String → String) (fills : List AttributedFillEvidence) :
    (∀ others, others ⊆ fills → fills ⊆ others → ∀ quantity,
      summarizeAttributedFillQuantities toLowerCase others = .ok quantity ↔
        summarizeAttributedFillQuantities toLowerCase fills = .ok quantity) ∧
    ((∃ quantity, summarizeAttributedFillQuantities toLowerCase fills = .ok quantity) ↔
      (∀ fill ∈ fills, WellFormed fill) ∧ Agreeing toLowerCase fills) ∧
    ∀ quantity, summarizeAttributedFillQuantities toLowerCase fills = .ok quantity → quantity.Canonical ∧
      (∃ representatives, Represents toLowerCase representatives fills) ∧
      ∀ representatives, Represents toLowerCase representatives fills →
        quantity.value = (representatives.map fillValue).sum := by
  refine ⟨?_, valid_iff, ?_⟩
  · intro others subset superset quantity
    exact ⟨summarize_congr superset subset, summarize_congr subset superset⟩
  · intro quantity summary
    exact ⟨(total_exact summary).1, exists_represents, (total_exact summary).2⟩

/-- The reason of an invalid list depends on its order; a fill without an activity id is refused. -/
theorem reason_by_order :
    let fill (activityId qty : String) : AttributedFillEvidence := ⟨"alpaca", "paper", activityId, some qty, .null⟩
    let malformed := fill "fill-2" "-1"
    [malformed, fill "fill-1" "1", fill "fill-1" "2"].Perm [fill "fill-1" "1", fill "fill-1" "2", malformed] ∧
    summarizeAttributedFillQuantities id [malformed, fill "fill-1" "1", fill "fill-1" "2"] = .error .malformedFill ∧
    summarizeAttributedFillQuantities id [fill "fill-1" "1", fill "fill-1" "2", malformed] =
      .error .conflictingDuplicateIdentity ∧
    (∃ quantity, fillQty (fill " " "1") = some quantity ∧ 0 < quantity.coefficient) ∧
    summarizeAttributedFillQuantities id [fill " " "1"] = .error .malformedFill := by
  refine ⟨@List.perm_append_comm _ [_] [_, _], ?_, ?_, ?_, ?_⟩
  · decide
  · decide
  · exact ⟨⟨1, 0, "1"⟩, by decide, by decide⟩
  · decide

end RemainingExposure

end AiTrader.Exit
