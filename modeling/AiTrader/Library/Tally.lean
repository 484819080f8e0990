import Mathlib.Algebra.BigOperators.Group.List.Basic
import Mathlib.Algebra.GroupWithZero.Nat

/-! # Additive tables

A table with one row for each key, where writing an entry adds it to the row of its key. -/

namespace AiTrader.Library

namespace Tally

variable {Row Key : Type} [DecidableEq Key] (key : Row → Key) (merge : Row → Row → Row)

/-- Add an entry to the row of its key, or append it as a new row. -/
def mergeInto (entry : Row) : List Row → List Row
  | [] => [entry]
  | row :: rest => if key row = key entry then merge row entry :: rest else row :: mergeInto entry rest

/-- Write entries one after the other. -/
def mergeAll (entries rows : List Row) : List Row :=
  entries.foldl (fun table entry => mergeInto key merge entry table) rows

/-- What the rows weigh together. -/
def total (weight : Row → ℕ) (rows : List Row) : ℕ := (rows.map weight).sum

variable {key merge} {weight : Row → ℕ} {rows : List Row}

@[simp] theorem total_cons (row : Row) : total weight (row :: rows) = weight row + total weight rows := rfl

@[simp] theorem total_append (first second : List Row) :
    total weight (first ++ second) = total weight first + total weight second := by
  simp [total]

/-- Writing one entry adds what it carries. -/
theorem sum_mergeInto {M : Type} [AddCommMonoid M] {carried : Row → M} {entry : Row}
    (additive : ∀ row ∈ rows, key row = key entry → carried (merge row entry) = carried row + carried entry) :
    ((mergeInto key merge entry rows).map carried).sum = (rows.map carried).sum + carried entry := by
  induction rows with
  | nil => simp [mergeInto]
  | cons row rest ih =>
    unfold mergeInto
    split
    case isTrue same =>
      rw [List.map_cons, List.map_cons, List.sum_cons, List.sum_cons, additive row List.mem_cons_self same, add_right_comm]
    case isFalse =>
      rw [List.map_cons, List.map_cons, List.sum_cons, List.sum_cons,
        ih fun row member => additive row (List.mem_cons_of_mem _ member), add_assoc]

/-- Each key has one row. -/
theorem nodup_mergeInto {entry : Row} (keeps : ∀ row, key (merge row entry) = key row) (unique : (rows.map key).Nodup) :
    ((mergeInto key merge entry rows).map key).Nodup := by
  have keys : (mergeInto key merge entry rows).map key =
      if key entry ∈ rows.map key then rows.map key else rows.map key ++ [key entry] := by
    clear unique
    induction rows with
    | nil => rfl
    | cons row rest ih =>
      unfold mergeInto
      by_cases same : key row = key entry
      · simp [same, keeps]
      · rw [if_neg same, List.map_cons, ih]
        simp only [List.map_cons, List.mem_cons, Ne.symm same, false_or]
        split <;> rfl
  rw [keys]
  split
  · exact unique
  case isFalse absent => exact List.nodup_append.mpr ⟨unique, List.pairwise_singleton .., by simpa using absent⟩

theorem nodup_mergeAll {entries : List Row} (keeps : ∀ row entry, key (merge row entry) = key row)
    (unique : (rows.map key).Nodup) : ((mergeAll key merge entries rows).map key).Nodup := by
  induction entries generalizing rows with
  | nil => exact unique
  | cons entry later ih => exact ih (nodup_mergeInto (keeps · entry) unique)

/-- Writing entries adds what they carry, each once. -/
theorem sum_mergeAll {M : Type} [AddCommMonoid M] {carried : Row → M}
    (additive : ∀ row entry, key row = key entry → carried (merge row entry) = carried row + carried entry)
    (entries rows : List Row) :
    ((mergeAll key merge entries rows).map carried).sum = (rows.map carried).sum + (entries.map carried).sum := by
  induction entries generalizing rows with
  | nil => exact (add_zero _).symm
  | cons entry later ih =>
    have rest := ih (mergeInto key merge entry rows)
    rw [mergeAll, List.foldl_cons, ← mergeAll, rest, sum_mergeInto fun row _ => additive row entry, List.map_cons, List.sum_cons,
      add_assoc]

section

variable (additive : ∀ row entry, key row = key entry → weight (merge row entry) = weight row + weight entry)
include additive

/-- Writing one entry adds its weight. -/
theorem total_mergeInto (entry : Row) (rows : List Row) :
    total weight (mergeInto key merge entry rows) = total weight rows + weight entry :=
  sum_mergeInto fun row _ => additive row entry

/-- Writing entries adds their weights, each once. -/
theorem total_mergeAll (entries rows : List Row) :
    total weight (mergeAll key merge entries rows) = total weight rows + total weight entries :=
  sum_mergeAll additive entries rows

end

/-- Dropping rows that weigh nothing changes no total. -/
theorem total_filter (kept : Row → Bool) (weightless : ∀ row ∈ rows, kept row = false → weight row = 0) :
    total weight (rows.filter kept) = total weight rows := by
  induction rows with
  | nil => rfl
  | cons row rest ih =>
    have tail := ih fun other member => weightless other (List.mem_cons_of_mem _ member)
    cases keeps : kept row with
    | true => rw [List.filter_cons_of_pos keeps, total_cons, total_cons, tail]
    | false =>
      have empty := weightless row List.mem_cons_self keeps
      rw [List.filter_cons_of_neg (by simp [keeps]), total_cons, tail, empty, Nat.zero_add]

end Tally

end AiTrader.Library
