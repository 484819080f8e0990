import Mathlib.Data.List.Nodup

/-! # Reading a list page by page

A page has the first rows behind a token, and the token of the next page is the last row of this one. -/

namespace AiTrader.Library

section

variable {Row Id : Type} {rows front rest : List Row} {row last : Row}

/-- What the first rows of a sorted list leave out is above them all, and they are as many as asked for. -/
theorem mem_take_or_above {above : Row → Row → Prop} (sorted : rows.Pairwise above) (member : row ∈ rows) (count : Nat) :
    row ∈ rows.take count ∨ (rows.take count).length = count ∧ ∀ first ∈ rows.take count, above first row := by
  rw [← List.take_append_drop count rows] at member sorted
  obtain taken | left := List.mem_append.mp member
  · exact .inl taken
  · right
    constructor
    · have long := List.length_pos_of_mem left
      rw [List.length_drop] at long
      rw [List.length_take]
      omega
    · exact fun first taken => (List.pairwise_append.mp sorted).2.2 first taken row left

/-- The first rows are all rows, or one of them fails a condition that fewer rows meet. -/
theorem take_all_or_beyond {within : Row → Bool} {count : Nat} (few : (rows.filter within).length < count) :
    rows.take count = rows ∨ ∃ row ∈ rows.take count, within row = false := by
  by_cases short : rows.length ≤ count
  · exact .inl (List.take_of_length_le short)
  · right
    by_contra all
    have inside : (rows.take count).filter within = rows.take count := by
      rw [List.filter_eq_self]
      intro row taken
      by_contra outside
      exact all ⟨row, taken, Bool.eq_false_iff.mpr outside⟩
    have many := ((List.take_sublist count rows).filter within).length_le
    rw [inside, List.length_take] at many
    omega

variable [DecidableEq Id] {identify : Row → Id} {token : Option Id}

/-- The rows behind a token; all of them without one. -/
def behind (identify : Row → Id) (token : Option Id) (rows : List Row) : List Row :=
  match token with
  | none => rows
  | some id => (rows.dropWhile fun row => identify row ≠ id).tail

theorem behind_suffix (token : Option Id) (rows : List Row) : behind identify token rows <:+ rows := by
  cases token with
  | none => exact List.suffix_refl rows
  | some id => exact (List.tail_suffix _).trans (List.dropWhile_suffix _)

/-- Behind a row are the rows after it, as rows have distinct identifiers. -/
theorem behind_split (distinct : ((front ++ last :: rest).map identify).Nodup) :
    behind identify (some (identify last)) (front ++ last :: rest) = rest := by
  have absent : ∀ row ∈ front, identify row ≠ identify last := by
    intro row member same
    rw [List.map_append, List.map_cons, List.nodup_append] at distinct
    exact distinct.2.2 _ (List.mem_map_of_mem member) _ List.mem_cons_self same
  show ((front ++ last :: rest).dropWhile fun row => decide (identify row ≠ identify last)).tail = rest
  rw [List.dropWhile_append_of_pos fun row member => decide_eq_true (absent row member)]
  simp

/-- The step: behind the last row of a page are the rows that the page left out. -/
theorem behind_last {count : Nat} (distinct : (rows.map identify).Nodup)
    (ends : ((behind identify token rows).take count).getLast? = some last) :
    behind identify (some (identify last)) rows = (behind identify token rows).drop count := by
  obtain ⟨front, split⟩ := @behind_suffix _ _ _ identify token rows
  obtain ⟨page, paged⟩ := List.getLast?_eq_some_iff.mp ends
  have whole : rows = (front ++ page) ++ last :: (behind identify token rows).drop count := by
    conv_lhs => rw [← split, ← List.take_append_drop count (behind identify token rows), paged]
    simp
  conv_lhs => rw [whole]
  rw [whole] at distinct
  exact behind_split distinct

end

end AiTrader.Library
