import Mathlib.Data.List.Basic
import Mathlib.Data.List.Nodup

/-! # Tables with partial unique indexes

A table is a list of rows. -/

namespace AiTrader.Library

namespace Table

variable {Row Key : Type} [DecidableEq Key] {key : Row → Option Key} {rows after : List Row} {row : Row}

section

variable (key : Row → Option Key)

/-- Some row has this key. -/
def indexed (value : Key) (rows : List Row) : Bool :=
  rows.any fun row => key row == some value

/-- No two rows have the same key. -/
def Unique (rows : List Row) : Prop :=
  ∀ value, rows.countP (fun row => key row == some value) ≤ 1

/-- Append a row; `none` when the index refuses it. -/
def insertUnique (row : Row) (rows : List Row) : Option (List Row) :=
  if (key row).any (indexed key · rows) then none else some (rows ++ [row])

end

/-- Update the rows that meet a guard. -/
def updateWhere (guard : Row → Bool) (update : Row → Row) (rows : List Row) : List Row :=
  rows.map fun row => if guard row then update row else row

/-- The identifier the database gives the next row. -/
def nextId (ids : List Nat) : Nat := ids.foldl max 0 + 1

/-- No element is greater than the running maximum. -/
theorem le_foldl_max {number : Nat} {numbers : List Nat} (start : Nat) (bounded : number ∈ numbers ∨ number ≤ start) :
    number ≤ numbers.foldl max start := by
  induction numbers generalizing start with
  | nil => exact bounded.resolve_left List.not_mem_nil
  | cons first later ih =>
    refine ih (max start first) ?_
    rcases bounded with member | early
    · exact (List.mem_cons.mp member).elim (fun same => .inr (same ▸ Nat.le_max_right _ _)) .inl
    · exact .inr (Nat.le_trans early (Nat.le_max_left _ _))

theorem nextId_not_mem (ids : List Nat) : nextId ids ∉ ids := fun member => by
  have bounded := le_foldl_max 0 (.inl member)
  simp only [nextId] at bounded
  omega

theorem unique_nil : Unique key ([] : List Row) := fun _ => by simp

variable {value : Key}

theorem countP_eq_zero_of_not_indexed (free : indexed key value rows = false) :
    rows.countP (fun row => key row == some value) = 0 := by
  rw [List.countP_eq_zero]
  simpa [indexed] using free

theorem Unique.append (unique : Unique key rows) (free : ∀ value, key row = some value → indexed key value rows = false) :
    Unique key (rows ++ [row]) := by
  intro value
  rw [List.countP_append, List.countP_singleton]
  split
  case isTrue same =>
    have none_before := countP_eq_zero_of_not_indexed (free value (by simpa using same))
    omega
  case isFalse => exact unique value

theorem eq_append_of_insertUnique (inserted : insertUnique key row rows = some after) : after = rows ++ [row] := by
  unfold insertUnique at inserted
  split at inserted
  · cases inserted
  · exact (Option.some.inj inserted).symm

theorem Unique.insertUnique (unique : Unique key rows) (inserted : Table.insertUnique key row rows = some after) :
    Unique key after := by
  unfold Table.insertUnique at inserted
  split at inserted
  · cases inserted
  case isFalse admitted =>
    cases inserted
    refine unique.append fun value keyed => ?_
    simpa [keyed] using admitted

variable {guard : Row → Bool} {update : Row → Row}

/-- An update that keeps each row's key, or takes it out of the index, keeps the index unique. -/
theorem Unique.updateWhere_of_mem (unique : Unique key rows)
    (kept : ∀ row ∈ rows, guard row = true → key (update row) = key row ∨ key (update row) = none) :
    Unique key (Table.updateWhere guard update rows) := by
  intro value
  rw [Table.updateWhere, List.countP_map]
  refine Nat.le_trans (List.countP_mono_left fun row member counted => ?_) (unique value)
  simp only [Function.comp_apply] at counted
  split at counted
  case isFalse => exact counted
  case isTrue guarded =>
    rcases kept row member guarded with same | unindexed
    · rwa [same] at counted
    · simp [unindexed] at counted

/-- An update that keeps the key of each row, or takes it out of the index, keeps the index unique. -/
theorem Unique.updateWhere (unique : Unique key rows)
    (kept : ∀ row, guard row = true → key (update row) = key row ∨ key (update row) = none) :
    Unique key (Table.updateWhere guard update rows) :=
  unique.updateWhere_of_mem fun row _ => kept row

theorem Unique.congr {other : Row → Option Key} (unique : Unique key rows) (same : ∀ row ∈ rows, other row = key row) :
    Unique other rows := by
  intro value
  rw [List.countP_congr fun row member => by rw [same row member]]
  exact unique value

/-- A key finds its row and no other. -/
theorem Unique.filter_eq (unique : Unique key rows) (member : row ∈ rows) (keyed : key row = some value) :
    (rows.filter fun row => decide (key row = some value)) = [row] := by
  have few := unique value
  rw [List.countP_eq_length_filter] at few
  have same : (rows.filter fun row => key row == some value) = rows.filter fun row => decide (key row = some value) :=
    List.filter_congr fun row _ => Bool.eq_iff_iff.mpr (by simp)
  rw [same] at few
  have listed : row ∈ rows.filter fun row => decide (key row = some value) := List.mem_filter.mpr ⟨member, by simp [keyed]⟩
  obtain ⟨only, alone⟩ := List.length_eq_one_iff.mp (Nat.le_antisymm few (List.length_pos_of_mem listed))
  rw [alone, List.mem_singleton] at listed
  rw [alone, listed]

/-- A key belongs to one row. -/
theorem Unique.eq_of_key {first second : Row} (unique : Unique key rows) (one : first ∈ rows)
    (other : second ∈ rows) (keyed : key first = some value) (same : key second = some value) : first = second := by
  have found := unique.filter_eq one keyed
  rw [unique.filter_eq other same] at found
  exact (List.singleton_inj.mp found).symm

theorem updateWhere_cons (first : Row) (rest : List Row) : updateWhere guard update (first :: rest) =
      (if guard first then update first else first) :: updateWhere guard update rest := rfl

/-- An update whose guard no row meets changes nothing. -/
theorem updateWhere_of_none (missed : ∀ row ∈ rows, guard row = false) : updateWhere guard update rows = rows := by
  unfold updateWhere
  rw [List.map_congr_left fun row member => if_neg (by simp [missed row member])]
  exact List.map_id' rows

/-- An update keeps a field that it does not change. -/
theorem map_updateWhere {Value : Type} {field : Row → Value}
    (kept : ∀ row, guard row = true → field (update row) = field row) :
    (updateWhere guard update rows).map field = rows.map field := by
  unfold updateWhere
  rw [List.map_map]
  refine List.map_congr_left fun row _ => ?_
  rw [Function.comp_apply]
  split
  case isTrue guarded => exact kept row guarded
  case isFalse => rfl

/-- Rewriting the one row that meets a guard is taking it out and appending the new row, up to order. -/
theorem perm_updateWhere {new : Row} (one : rows.countP guard = 1) :
    (updateWhere guard (fun _ => new) rows).Perm (rows.filter (fun row => !guard row) ++ [new]) := by
  induction rows with
  | nil => cases one
  | cons first rest ih =>
    cases guarded : guard first with
    | true =>
      rw [List.countP_cons_of_pos guarded] at one
      have others : ∀ row ∈ rest, guard row = false := by
        have absent : rest.countP guard = 0 := by omega
        simpa using List.countP_eq_zero.mp absent
      have kept : rest.filter (fun row => !guard row) = rest :=
        List.filter_eq_self.mpr fun row member => by simp [others row member]
      rw [List.filter_cons_of_neg (by simp [guarded]), kept, updateWhere_cons, if_pos guarded, updateWhere_of_none others]
      exact (List.perm_append_singleton new rest).symm
    | false =>
      rw [List.countP_cons_of_neg (by simp [guarded])] at one
      rw [updateWhere_cons, if_neg (by simp [guarded]), List.filter_cons_of_pos (by simp [guarded]), List.cons_append]
      exact (ih one).cons first

theorem nodup_append_new {Value : Type} {field : Row → Value} (distinct : (rows.map field).Nodup)
    (absent : field row ∉ rows.map field) : ((rows ++ [row]).map field).Nodup := by
  rw [List.map_append, List.nodup_append]
  refine ⟨distinct, List.nodup_singleton _, fun value member other listed same => ?_⟩
  rw [List.map_singleton, List.mem_singleton] at listed
  exact absent (listed ▸ same ▸ member)

/-- Rows that share a key only when they share their identifier have the key once. -/
theorem Unique.of_identified {Id : Type} {identify : Row → Id} (distinct : (rows.map identify).Nodup)
    (one : ∀ first ∈ rows, ∀ second ∈ rows, ∀ value, key first = some value → key second = some value →
      identify first = identify second) : Unique key rows := by
  intro value
  rw [List.countP_eq_length_filter]
  by_contra many
  have within : ((rows.filter fun row => key row == some value).map identify).Nodup :=
    distinct.sublist (List.filter_sublist.map identify)
  match listed : rows.filter fun row => key row == some value with
  | [] | [_] => simp [listed] at many
  | first :: second :: rest =>
    rw [listed, List.map_cons, List.nodup_cons] at within
    have mine : first ∈ rows.filter fun row => key row == some value := listed ▸ List.mem_cons_self
    have others : second ∈ rows.filter fun row => key row == some value :=
      listed ▸ List.mem_cons_of_mem _ List.mem_cons_self
    obtain ⟨member, keyed⟩ := List.mem_filter.mp mine
    obtain ⟨present, same⟩ := List.mem_filter.mp others
    have equal := one first member second present value (by simpa using keyed) (by simpa using same)
    exact within.1 (by simp [equal])

theorem indexed_eq_false (absent : ∀ row ∈ rows, key row ≠ some value) : indexed key value rows = false := by
  rw [indexed, List.any_eq_false]
  intro row member
  rw [beq_iff_eq]
  exact absent row member

/-- Uniqueness depends on what the key is read from, row by row. -/
theorem Unique.of_map {View : Type} (view : Row → View) (key : View → Option Key) {others : List Row}
    (unique : Unique (fun row => key (view row)) rows) (same : others.map view = rows.map view) :
    Unique (fun row => key (view row)) others := by
  have counted (rows : List Row) (value : Key) : rows.countP (fun row => key (view row) == some value) =
      (rows.map view).countP fun seen => key seen == some value := by
    rw [List.countP_map]
    rfl
  intro value
  rw [counted, same, ← counted]
  exact unique value

theorem mem_updateWhere :
    row ∈ updateWhere guard update rows ↔ ∃ old ∈ rows, row = if guard old then update old else old := by
  rw [updateWhere, List.mem_map]
  exact ⟨fun ⟨old, member, same⟩ => ⟨old, member, same.symm⟩, fun ⟨old, member, same⟩ => ⟨old, member, same.symm⟩⟩

/-- What an update of one row leaves, where rows have distinct ids. -/
theorem eq_or_mem_of_updateWhere {id : Row → Nat} {later : Row} (distinct : (rows.map id).Nodup) (stored : row ∈ rows)
    (member : later ∈ updateWhere (id · = id row) update rows) : later = update row ∨ later ∈ rows ∧ id later ≠ id row := by
  obtain ⟨old, present, rfl⟩ := mem_updateWhere.mp member
  by_cases own : id old = id row
  · obtain rfl := List.inj_on_of_nodup_map distinct present stored own
    exact .inl (if_pos (decide_eq_true rfl))
  · rw [if_neg (by simpa using own)]
    exact .inr ⟨present, own⟩

end Table

end AiTrader.Library
