import AiTrader.Library.Json

/-! # The canonical text of a signal

Deliveries of one signal are told apart by this text. -/

namespace AiTrader.Signals

open Library Json

def canonicalJson (value : Json) : List Char := (sorted codeUnitOrder value).text

/-- The order of fields of different names, at any depth, says nothing. -/
inductive Reordered : Json → Json → Prop where
  | refl (value) : Reordered value value
  | symm {first second} : Reordered first second → Reordered second first
  | trans {first second third} : Reordered first second → Reordered second third → Reordered first third
  | swap {one other : String × Json} {rest} : one.1 ≠ other.1 →
      Reordered (.object (one :: other :: rest)) (.object (other :: one :: rest))
  | item {first second rest later} : Reordered first second → Reordered (.array rest) (.array later) →
      Reordered (.array (first :: rest)) (.array (second :: later))
  | field {first second rest later} (key) : Reordered first second → Reordered (.object rest) (.object later) →
      Reordered (.object ((key, first) :: rest)) (.object ((key, second) :: later))

abbrev Before (one other : String × Json) : Prop := codeUnitOrder one.1 other.1

theorem reordered_sort (fields : List (String × Json)) :
    Reordered (.object fields) (.object (fields.insertionSort Before)) := by
  induction fields with
  | nil => exact .refl _
  | cons field rest ih =>
    refine (Reordered.field field.1 (.refl field.2) ih).trans ?_
    rw [List.insertionSort_cons]
    induction rest.insertionSort Before with
    | nil => exact .refl _
    | cons next later ih =>
      rw [List.orderedInsert_cons]
      split_ifs with least
      · exact .refl _
      · have other : field.1 ≠ next.1 := fun same => least (le_of_eq (congrArg codeUnits same))
        exact (Reordered.swap other).trans (.field next.1 (.refl next.2) ih)

mutual

theorem reordered_sorted : ∀ value : Json, Reordered value (sorted codeUnitOrder value)
  | .null | .bool _ | .number _ | .string _ => .refl _
  | .array items => reordered_sortedItems items
  | .object fields => (reordered_sortedFields fields).trans (reordered_sort _)

theorem reordered_sortedItems : ∀ items, Reordered (.array items) (.array (sortedItems codeUnitOrder items))
  | [] => .refl _
  | item :: rest => .item (reordered_sorted item) (reordered_sortedItems rest)

theorem reordered_sortedFields : ∀ fields, Reordered (.object fields) (.object (sortedFields codeUnitOrder fields))
  | [] => .refl _
  | (key, value) :: rest => .field key (reordered_sorted value) (reordered_sortedFields rest)

end

theorem orderedInsert_comm {one other : String × Json} (different : one.1 ≠ other.1) (fields : List (String × Json)) :
    (fields.orderedInsert Before other).orderedInsert Before one =
      (fields.orderedInsert Before one).orderedInsert Before other := by
  have total := Std.Total.total (r := codeUnitOrder)
  have trans := IsTrans.trans (r := codeUnitOrder)
  have antisymm := Std.Antisymm.antisymm (r := codeUnitOrder)
  induction fields with
  | nil => grind [List.orderedInsert]
  | cons field rest ih => grind [List.orderedInsert]

theorem Reordered.sorted_eq {first second} (same : Reordered first second) :
    sorted codeUnitOrder first = sorted codeUnitOrder second := by
  induction same with
  | refl value => rfl
  | symm _ ih => exact ih.symm
  | trans _ _ ih next => exact ih.trans next
  | swap different =>
    refine congrArg Json.object (orderedInsert_comm ?_ _)
    exact different
  | item _ _ ih items => exact congrArg Json.array (congrArg₂ List.cons ih (Json.array.inj items))
  | field key _ _ ih fields =>
    refine congrArg Json.object ?_
    exact congrArg₂ (fun value rest => rest.orderedInsert Before (key, value)) ih (Json.object.inj fields)

/-- The text says what the value is, and no more. -/
theorem canonicalJson_eq_iff {first second} : canonicalJson first = canonicalJson second ↔ Reordered first second := by
  constructor
  · intro same
    exact (reordered_sorted first).trans (text_injective same ▸ (reordered_sorted second).symm)
  · intro same
    exact congrArg text same.sorted_eq

end AiTrader.Signals
