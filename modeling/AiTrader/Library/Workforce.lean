import AiTrader.Library.Assurance

/-! # A lock holder among lock-free writers

At most one program holds the lock at a time; any number of others run without it. -/

namespace AiTrader.Library

open Program

variable {S E : Type}

/-- The shared store, the program that holds the lock, and the programs that run without it. -/
structure Workforce (S E : Type) : Type 1 where
  /-- What every program reads and writes. -/
  store : S
  /-- The program that holds the lock. -/
  holder : Option (Program S E Unit)
  /-- The programs that run without the lock. -/
  others : List (Program S E Unit)

/-- One step of the workforce: `locked` programs may take the lock, `free` ones run without it. -/
inductive Workforce.Step (fault : E → Prop) (locked free : Program S E Unit → Prop) :
    Workforce S E → Workforce S E → Prop where
  | acquire {store : S} {others : List (Program S E Unit)} {program : Program S E Unit}
      (listed : locked program) :
      Workforce.Step fault locked free ⟨store, none, others⟩ ⟨store, some program, others⟩
  | start {store : S} {holder : Option (Program S E Unit)} {others : List (Program S E Unit)}
      {program : Program S E Unit} (listed : free program) :
      Workforce.Step fault locked free ⟨store, holder, others⟩ ⟨store, holder, program :: others⟩
  | holder {store after : S} {program next : Program S E Unit} {others : List (Program S E Unit)}
      (step : program.Step fault store next after) :
      Workforce.Step fault locked free ⟨store, some program, others⟩ ⟨after, some next, others⟩
  | other {store after : S} {holder : Option (Program S E Unit)} {program next : Program S E Unit}
      {front back : List (Program S E Unit)} (step : program.Step fault store next after) :
      Workforce.Step fault locked free ⟨store, holder, front ++ program :: back⟩
        ⟨after, holder, front ++ next :: back⟩
  | release {store : S} {program : Program S E Unit} {others : List (Program S E Unit)} :
      Workforce.Step fault locked free ⟨store, some program, others⟩ ⟨store, none, others⟩
  | stop {store : S} {holder : Option (Program S E Unit)} {program : Program S E Unit}
      {front back : List (Program S E Unit)} :
      Workforce.Step fault locked free ⟨store, holder, front ++ program :: back⟩
        ⟨store, holder, front ++ back⟩

/-- Any number of steps, in any order. -/
abbrev Workforce.Run (fault : E → Prop) (locked free : Program S E Unit → Prop) :
    Workforce S E → Workforce S E → Prop :=
  Relation.ReflTransGen (Workforce.Step fault locked free)

/-- Two contracts whose guarantees satisfy each other's assumptions, over one invariant. -/
structure Workforce.Discipline (fault : E → Prop) (locked free : Program S E Unit → Prop) where
  /-- The contract of the lock holder. -/
  holding : Contract S
  /-- The contract of every other program. -/
  sharing : Contract S
  same_invariant : sharing.invariant = holding.invariant
  holding_relies : ∀ {store after}, sharing.guarantee store after → holding.rely store after
  sharing_relies : ∀ {store after}, sharing.guarantee store after → sharing.rely store after
  sharing_relies_holder : ∀ {store after}, holding.guarantee store after → sharing.rely store after
  locked_harmless : ∀ program, locked program → program.Harmless holding fault
  free_harmless : ∀ program, free program → program.Harmless sharing fault

namespace Workforce

variable {locked free : Program S E Unit → Prop}

/-- A program without the lock takes its own steps inside any workforce. -/
theorem run_of_interleaving {fault : E → Prop}
    {program next : Program S E Unit} {store after : S} (holder : Option (Program S E Unit))
    (others : List (Program S E Unit))
    (run : Program.Interleaving fault (fun _ _ => False) (program, store) (next, after)) :
    Run fault locked free ⟨store, holder, program :: others⟩ ⟨after, holder, next :: others⟩ := by
  refine run.lift (fun state => (⟨state.2, holder, [] ++ state.1 :: others⟩ : Workforce S E)) fun _ _ step => ?_
  cases step with
  | own taken => exact .other taken
  | other taken => exact taken.elim

/-- The lock holder takes its own steps inside any workforce. -/
theorem run_of_holder {fault : E → Prop} {program next : Program S E Unit}
    {store after : S} (others : List (Program S E Unit))
    (run : Program.Interleaving fault (fun _ _ => False) (program, store) (next, after)) :
    Run fault locked free ⟨store, some program, others⟩ ⟨after, some next, others⟩ := by
  refine run.lift (fun state => (⟨state.2, some state.1, others⟩ : Workforce S E)) fun _ _ step => ?_
  cases step with
  | own taken => exact .holder taken
  | other taken => exact taken.elim

variable {fault : E → Prop}

/-- The store keeps the invariant and every running program is assured from it. -/
structure Sound (discipline : Discipline fault locked free) (workforce : Workforce S E) : Prop where
  invariant : discipline.holding.invariant workforce.store
  holder : ∀ program, workforce.holder = some program →
    program.Assured discipline.holding fault (fun _ _ => True) workforce.store
  others : ∀ program ∈ workforce.others,
    program.Assured discipline.sharing fault (fun _ _ => True) workforce.store

/-- What any step may do to the store. -/
def Permitted (discipline : Discipline fault locked free) (store after : S) : Prop :=
  discipline.holding.guarantee store after ∨ discipline.sharing.guarantee store after

variable {discipline : Discipline fault locked free}

variable {workforce next : Workforce S E}

theorem Sound.step (sound : Sound discipline workforce) (step : Step fault locked free workforce next) :
    Sound discipline next ∧ Permitted discipline workforce.store next.store := by
  cases step with
  | acquire listed =>
    refine ⟨⟨sound.invariant, ?_, sound.others⟩, .inl (discipline.holding.guarantee_refl _)⟩
    intro program held
    cases held
    exact discipline.locked_harmless _ listed _
  | start listed =>
    refine ⟨⟨sound.invariant, sound.holder, ?_⟩, .inl (discipline.holding.guarantee_refl _)⟩
    intro program member
    rcases List.mem_cons.mp member with rfl | member
    · exact discipline.free_harmless _ listed _
    · exact sound.others program member
  | holder taken =>
    obtain ⟨guaranteed, invariant, assured⟩ := (sound.holder _ rfl).step sound.invariant taken
    refine ⟨⟨invariant, ?_, ?_⟩, .inl guaranteed⟩
    · intro program held
      cases held
      exact assured
    · intro program member
      exact (sound.others program member).stable (fun _ _ _ _ _ => trivial)
        (discipline.sharing_relies_holder guaranteed)
  | @other store after holder program next front back taken =>
    have assured := sound.others program (by simp)
    obtain ⟨guaranteed, invariant, assured⟩ := assured.step (discipline.same_invariant ▸ sound.invariant) taken
    refine ⟨⟨discipline.same_invariant ▸ invariant, ?_, ?_⟩, .inr guaranteed⟩
    · intro program held
      exact (sound.holder program held).stable (fun _ _ _ _ _ => trivial)
        (discipline.holding_relies guaranteed)
    · intro program member
      rw [List.mem_append, List.mem_cons] at member
      rcases member with member | rfl | member
      · exact (sound.others program (by simp [member])).stable (fun _ _ _ _ _ => trivial)
          (discipline.sharing_relies guaranteed)
      · exact assured
      · exact (sound.others program (by simp [member])).stable (fun _ _ _ _ _ => trivial)
          (discipline.sharing_relies guaranteed)
  | release =>
    refine ⟨⟨sound.invariant, ?_, sound.others⟩, .inl (discipline.holding.guarantee_refl _)⟩
    intro program held
    cases held
  | stop =>
    refine ⟨⟨sound.invariant, sound.holder, ?_⟩, .inl (discipline.holding.guarantee_refl _)⟩
    intro program member
    refine sound.others program ?_
    rw [List.mem_append] at member ⊢
    exact member.imp id (List.mem_cons_of_mem _)

theorem Sound.run (sound : Sound discipline workforce) (run : Run fault locked free workforce next) :
    Sound discipline next := by
  induction run with
  | refl => exact sound
  | tail _ step ih => exact (ih.step step).1

/-- A workforce with no program running is sound as soon as its store keeps the invariant. -/
theorem sound_idle (discipline : Discipline fault locked free) {store : S}
    (kept : discipline.holding.invariant store) : Sound discipline ⟨store, none, []⟩ :=
  ⟨kept, nofun, nofun⟩

end Workforce

end AiTrader.Library
