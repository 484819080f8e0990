import Mathlib.Algebra.BigOperators.Fin

/-! # Rings of slots

As many slots as the ring is long, each reused once a round. -/

namespace AiTrader.Library.Ring

variable {size : Nat} [NeZero size]

/-- The slot of a tick. -/
def slot (size : Nat) [NeZero size] (tick : Nat) : Fin size := Fin.ofNat size tick

theorem eq_of_slot {tick other : Nat} (same : slot size tick = slot size other) (early : tick ≤ other)
    (late : other < tick + size) : tick = other := by
  have modulo : other % size = tick % size := congrArg Fin.val same.symm
  have multiple := Nat.sub_mod_eq_zero_of_mod_eq modulo
  rw [Nat.mod_eq_of_lt (by omega)] at multiple
  omega

/-- A slot holds a tick of its own, and each listed tick has its slot for one round. -/
structure Covers (slots : Fin size → Option Nat) (ticks : List Nat) (clock : Nat) : Prop where
  own : ∀ place tick, slots place = some tick → slot size tick = place ∧ tick ≤ clock
  kept : ∀ tick ∈ ticks, tick ≤ clock ∧ (clock < tick + size → slots (slot size tick) = some tick)

variable {slots : Fin size → Option Nat} {ticks : List Nat} {clock now : Nat}

theorem Covers.subset {fewer : List Nat} (covers : Covers slots ticks clock) (subset : fewer ⊆ ticks) :
    Covers slots fewer clock := ⟨covers.own, fun tick member => covers.kept tick (subset member)⟩

/-- The slot of the present tick is taken over from whatever was in it. -/
theorem Covers.touch (covers : Covers slots ticks clock) (later : clock ≤ now) :
    Covers (Function.update slots (slot size now) (some now)) (ticks ++ [now]) now where
  own := by
    intro place tick held
    by_cases same : place = slot size now
    · rw [same, Function.update_self] at held
      cases held
      exact ⟨same.symm, le_refl _⟩
    · rw [Function.update_of_ne same] at held
      obtain ⟨own, before⟩ := covers.own place tick held
      exact ⟨own, before.trans later⟩
  kept := by
    intro tick member
    rcases List.mem_append.mp member with old | new
    · obtain ⟨before, kept⟩ := covers.kept tick old
      refine ⟨before.trans later, fun recent => ?_⟩
      by_cases same : slot size tick = slot size now
      · rw [eq_of_slot same (before.trans later) recent, Function.update_self]
      · rw [Function.update_of_ne same, kept (by omega)]
    · rw [List.mem_singleton.mp new]
      exact ⟨le_refl _, fun _ => Function.update_self ..⟩

theorem Covers.unlisted (covers : Covers slots ticks clock) (later : clock ≤ now)
    (other : slots (slot size now) ≠ some now) : now ∉ ticks := by
  intro listed
  obtain ⟨before, kept⟩ := covers.kept now listed
  exact other (kept (later.trans_lt (Nat.lt_add_of_pos_right (Nat.pos_of_neZero size))))

section Windows

variable {Item M : Type} [AddCommMonoid M] (weight : Item → M)

omit [NeZero size] in
/-- A sum by slots is a sum over the items. -/
theorem sum_slots (place : Item → Fin size) (items : List Item) :
    ∑ index, (items.map fun item => if place item = index then weight item else 0).sum = (items.map weight).sum := by
  induction items with
  | nil => simp
  | cons item rest ih =>
    simp only [List.map_cons, List.sum_cons, Finset.sum_add_distrib, ih, Finset.sum_ite_eq, Finset.mem_univ, if_true]

variable {tickOf : Item → Nat} {items : List Item}

/-- The slots within a window of at most one round tell of all items within it, and of no others. -/
theorem Covers.sum_window (covers : Covers slots (items.map tickOf) clock) (later : clock ≤ now) (within : Nat → Bool)
    (recent : ∀ tick, within tick = true → now < tick + size) :
    ∑ index, ((slots index).filter within).elim 0 (fun tick =>
      ((items.filter fun item => tickOf item == tick).map weight).sum) =
        ((items.filter fun item => within (tickOf item)).map weight).sum := by
  have summed (selected : Item → Bool) : ((items.filter selected).map weight).sum =
      (items.map fun item => if selected item then weight item else 0).sum := by
    clear covers
    induction items with
    | nil => rfl
    | cons item rest ih =>
      by_cases held : selected item = true <;> simp [held, ih]
  rw [summed, ← sum_slots _ fun item => slot size (tickOf item)]
  refine Finset.sum_congr rfl fun index _ => ?_
  cases found : (slots index).filter within with
  | none =>
    have none : ∀ item ∈ items, slot size (tickOf item) = index → within (tickOf item) ≠ true := by
      rintro item member rfl inside
      have held := (covers.kept _ (List.mem_map_of_mem member)).2 (by have := recent _ inside; omega)
      simp [held, inside] at found
    refine (List.sum_eq_zero fun value listed => ?_).symm
    obtain ⟨item, member, rfl⟩ := List.mem_map.mp listed
    split
    case isTrue same => exact if_neg (none item member same)
    case isFalse => rfl
  | some tick =>
    obtain ⟨held, inside⟩ := Option.filter_eq_some_iff.mp found
    obtain ⟨rfl, _⟩ := covers.own index tick held
    rw [Option.elim_some, summed]
    refine congrArg List.sum (List.map_congr_left fun item member => ?_)
    obtain ⟨before, kept⟩ := covers.kept _ (List.mem_map_of_mem member)
    by_cases same : tickOf item = tick
    · simp [same, inside]
    · rw [if_neg (by simpa using same)]
      split
      case isTrue shared =>
        refine (if_neg fun within => same ?_).symm
        have found := kept (by have := recent _ within; omega)
        rw [shared, held] at found
        exact (Option.some.inj found).symm
      case isFalse => rfl

end Windows

end AiTrader.Library.Ring
