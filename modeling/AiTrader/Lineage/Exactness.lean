import Mathlib.Algebra.BigOperators.Group.List.Basic
import Mathlib.Algebra.Order.Field.Basic
import Mathlib.Tactic.Linarith
import Mathlib.Tactic.NormNum
import AiTrader.Lineage.Soundness

/-! # Fills that add up

Persisted quantities are multiples of a unit that the tolerance is half of, so a step within the tolerance is exact, and
the fills of a complete chain add up to the intended quantity. -/

namespace AiTrader.Lineage

open Library

attribute [local instance] exactNumber

/-- A quantity as it is persisted, with nine decimal places. -/
def Persisted (quantity : ℚ) : Prop := ∃ units : ℤ, quantity = units / 10 ^ 9

/-- The quantities of a source are persisted ones. -/
structure PersistedSource (source : EvidenceSource ℚ) : Prop where
  intents : ∀ intent ∈ source.intents, ∀ qty, intent.qty = some qty → Persisted qty
  qty : ∀ intent ∈ source.intents, ∀ fill ∈ intent.fills, ∀ qty, fill.qty = some qty → Persisted qty
  cumQty : ∀ intent ∈ source.intents, ∀ fill ∈ intent.fills, ∀ cumQty, fill.cumQty = some cumQty → Persisted cumQty

/-- The quantity a fill carries. -/
def carried (fill : FillEvidence ℚ) : ℚ := fill.qty.getD 0

/-- The fills add up to the intent, each cumulative quantity to the fills up to its own. -/
structure AddsUp (intent : IntentEvidence ℚ) : Prop where
  known : ∀ fill ∈ intent.fills, fill.qty ≠ none
  total : ∃ qty, intent.qty = some qty ∧ (intent.fills.map carried).sum = |qty|
  cumulative : ∀ before fill after, intent.fills = before ++ fill :: after →
    fill.cumQty = some ((before.map carried).sum + carried fill)

section Units

variable {a b : ℚ}

theorem Persisted.zero : Persisted 0 := ⟨0, by norm_num⟩

theorem Persisted.abs (persisted : Persisted a) : Persisted |a| := by
  obtain ⟨units, rfl⟩ := persisted
  refine ⟨|units|, ?_⟩
  rw [abs_div, Int.cast_abs, abs_of_pos (by norm_num : (0 : ℚ) < 10 ^ 9)]

theorem Persisted.sub (left : Persisted a) (right : Persisted b) : Persisted (a - b) := by
  obtain ⟨units, rfl⟩ := left
  obtain ⟨others, rfl⟩ := right
  exact ⟨units - others, by push_cast; rw [sub_div]⟩

theorem eq_of_qtyEqual (left : Persisted a) (right : Persisted b) (within : qtyEqual a b = true) : a = b := by
  obtain ⟨units, gap⟩ := left.sub right
  have bound : |a - b| ≤ 1 / 2000000000 := of_decide_eq_true within
  rw [gap, abs_div, abs_of_pos (by norm_num : (0 : ℚ) < 10 ^ 9), div_le_iff₀ (by norm_num)] at bound
  have small : ((|units| : ℤ) : ℚ) < 1 := by
    rw [Int.cast_abs]
    linarith
  have zero : units = 0 := Int.abs_lt_one_iff.mp (by exact_mod_cast small)
  rw [zero, Int.cast_zero, zero_div] at gap
  exact sub_eq_zero.mp gap

end Units

section Chain

variable {intended previousCum : ℚ} {fills : List (FillEvidence ℚ)}

theorem quantitiesOf_exact {fill : FillEvidence ℚ} {quantities : ℚ × ℚ × ℚ} (known : quantitiesOf fill = some quantities) :
    fill.qty = some quantities.1 ∧ fill.cumQty = some quantities.2.1 := by
  have finite (value : Option ℚ) : value.filter JsNumber.isFinite = value := by cases value <;> rfl
  unfold quantitiesOf at known
  simp only [finite] at known
  cases qty : fill.qty <;> cases cumQty : fill.cumQty <;> cases leavesQty : fill.leavesQty <;>
    simp [qty, cumQty, leavesQty] at known
  subst known
  exact ⟨rfl, rfl⟩

/-- Steps within the tolerance are exact. -/
theorem telescopes_exact (known : ∀ fill ∈ fills, (quantitiesOf fill).isSome = true)
    (qty : ∀ fill ∈ fills, ∀ qty, fill.qty = some qty → Persisted qty)
    (cumQty : ∀ fill ∈ fills, ∀ cumQty, fill.cumQty = some cumQty → Persisted cumQty)
    (intends : Persisted intended) (starts : Persisted previousCum) (chain : Telescopes intended previousCum (measured fills)) :
    previousCum + (fills.map carried).sum = intended ∧ ∀ before fill after, fills = before ++ fill :: after →
      fill.cumQty = some (previousCum + ((before.map carried).sum + carried fill)) := by
  induction fills generalizing previousCum with
  | nil =>
    refine ⟨?_, fun before fill after split => by simp at split⟩
    rw [List.map_nil, List.sum_nil, add_zero]
    exact eq_of_qtyEqual starts intends chain
  | cons first later ih =>
    obtain ⟨quantities, own⟩ := Option.isSome_iff_exists.mp (known first List.mem_cons_self)
    obtain ⟨ownQty, ownCum⟩ := quantitiesOf_exact own
    have rows : measured (first :: later) = (first.id, quantities) :: measured later := by
      unfold measured
      rw [List.filterMap_cons, own]
      rfl
    rw [rows] at chain
    obtain ⟨step, rest⟩ := chain
    have reached := cumQty first List.mem_cons_self _ ownCum
    have exact_ := eq_of_qtyEqual (reached.sub starts) (qty first List.mem_cons_self _ ownQty) step
    have carries : carried first = quantities.1 := by rw [carried, ownQty, Option.getD_some]
    obtain ⟨total, each⟩ := ih (fun fill member => known fill (List.mem_cons_of_mem first member))
      (fun fill member => qty fill (List.mem_cons_of_mem first member))
      (fun fill member => cumQty fill (List.mem_cons_of_mem first member)) reached rest
    constructor
    · rw [List.map_cons, List.sum_cons, carries]
      linarith
    · intro before fill after split
      cases before with
      | nil =>
        cases split
        rw [ownCum, List.map_nil, List.sum_nil, zero_add, carries]
        congr 1
        linarith
      | cons earlier others =>
        cases split
        rw [each others fill after rfl, List.map_cons, List.sum_cons, carries]
        congr 1
        linarith

end Chain

/-- The fills of a complete chain add up to its intent. -/
theorem CompleteChain.addsUp {letters : Letters} {source : EvidenceSource ℚ} {intent : IntentEvidence ℚ}
    (chain : CompleteChain letters source intent) (persisted : PersistedSource source) : AddsUp intent := by
  have member : intent ∈ source.intents :=
    (List.mem_filter.mp (chain.entry ▸ List.mem_singleton_self intent : intent ∈ entriesOf letters source)).1
  obtain ⟨qty, quantity, -, telescopes⟩ := chain.execution.quantity
  obtain ⟨total, each⟩ := telescopes_exact (fun fill listed => (chain.execution.fills fill listed).2)
    (persisted.qty intent member) (persisted.cumQty intent member) (persisted.intents intent member qty quantity).abs
    Persisted.zero telescopes
  refine ⟨fun fill listed unknown => ?_, ⟨qty, quantity, by rw [← total, zero_add]⟩, fun before fill after split => ?_⟩
  · obtain ⟨quantities, known⟩ := Option.isSome_iff_exists.mp (chain.execution.fills fill listed).2
    rw [(quantitiesOf_exact known).1] at unknown
    cases unknown
  · rw [each before fill after split, zero_add]

end AiTrader.Lineage
