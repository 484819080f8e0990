import Mathlib.Data.List.MinMax
import Mathlib.Data.Prod.Lex

/-! # Latest rows

A query in descending order of a key returns the row with the greatest key. -/

namespace AiTrader.Library

section

variable {Row Key : Type} [LinearOrder Key] {key : Row → Key} {rows : List Row} {row other : Row}

/-- The first row of the table in descending order of the key. -/
def latest (key : Row → Key) (rows : List Row) : Option Row := rows.argmax key

theorem mem_of_latest (found : latest key rows = some row) : row ∈ rows :=
  List.argmax_mem (Option.mem_def.mpr found)

theorem le_of_latest (found : latest key rows = some row) (member : other ∈ rows) : key other ≤ key row :=
  List.le_of_mem_argmax member (Option.mem_def.mpr found)

theorem latest_eq_none_iff : latest key rows = none ↔ rows = [] := List.argmax_eq_none

section

variable (distinct : ∀ first ∈ rows, ∀ second ∈ rows, key first = key second → first = second)
include distinct

/-- Rows of the table that include the latest one have it as their latest. -/
theorem latest_of_subset {some_ : List Row}
    (subset : ∀ row ∈ some_, row ∈ rows) (kept : ∀ row, latest key rows = some row → row ∈ some_) :
    latest key some_ = latest key rows := by
  cases best : latest key rows with
  | none =>
    have empty : some_ = [] := List.eq_nil_iff_forall_not_mem.mpr fun row member => by
      have within := subset row member
      rw [latest_eq_none_iff.mp best] at within
      exact List.not_mem_nil within
    exact latest_eq_none_iff.mpr empty
  | some row =>
    cases found : latest key some_ with
    | none =>
      have listed := kept row best
      rw [latest_eq_none_iff.mp found] at listed
      exact absurd listed List.not_mem_nil
    | some other =>
      have within := subset other (mem_of_latest found)
      have same : key other = key row := le_antisymm (le_of_latest best within) (le_of_latest found (kept row best))
      exact congrArg some (distinct other within row (mem_of_latest best) same)

theorem latest_perm {others : List Row} (perm : others.Perm rows) :
    latest key others = latest key rows :=
  latest_of_subset distinct (fun _ member => perm.mem_iff.mp member) fun _ found => perm.mem_iff.mpr (mem_of_latest found)

end

theorem latest_append (above : ∀ other ∈ rows, key other < key row) : latest key (rows ++ [row]) = some row := by
  unfold latest
  rw [List.argmax_concat]
  cases found : rows.argmax key with
  | none => rfl
  | some best =>
    have below : key best < key row := above best (List.argmax_mem (Option.mem_def.mpr found))
    simp only [below, if_true]

theorem latest_of_ascending (ascending : rows.Pairwise fun first second => key first < key second) :
    latest key rows = rows.getLast? := by
  rcases List.eq_nil_or_concat rows with rfl | ⟨front, last, rfl⟩
  · rfl
  · rw [List.concat_eq_append] at ascending ⊢
    rw [List.getLast?_concat]
    apply latest_append
    intro other member
    exact (List.pairwise_append.mp ascending).2.2 other member last (List.mem_singleton.mpr rfl)

theorem latest_of_numbered {number : Row → Nat} {count : Nat} (numbers : rows.map number = List.range' 1 count) :
    ((latest number rows).map number).getD 0 = count := by
  cases found : latest number rows with
  | none =>
    have none : rows = [] := List.argmax_eq_none.mp found
    rw [none, List.map_nil] at numbers
    exact (List.range'_eq_nil_iff.mp numbers.symm).symm
  | some last =>
    have within : number last ∈ List.range' 1 count := numbers ▸ List.mem_map_of_mem (mem_of_latest found)
    rw [List.mem_range'_1] at within
    have final : count ∈ rows.map number := by
      rw [numbers, List.mem_range'_1]
      omega
    obtain ⟨row, listed, same⟩ := List.mem_map.mp final
    have below := le_of_latest found listed
    show number last = count
    omega

end

section

variable {values : List Int} {instant : Int}

theorem before_min?_iff (nonempty : values ≠ []) :
    values.min?.any (decide <| instant < ·) = true ↔ ∀ value ∈ values, instant < value := by
  cases earliest : values.min? with
  | none => exact absurd (List.min?_eq_none_iff.mp earliest) nonempty
  | some least =>
    rw [Option.any_some, decide_eq_true_eq]
    obtain ⟨member, least_le⟩ := List.min?_eq_some_iff.mp earliest
    constructor
    · intro before value listed
      exact lt_of_lt_of_le before (least_le value listed)
    · intro before
      exact before least member

end

end AiTrader.Library
