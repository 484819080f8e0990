import AiTrader.Library.Assurance
import Mathlib.Logic.Function.Basic

/-! # Programs that start one after the other

Every member of a crew has a number of its own and runs a program next to the others; it may stop at any step. -/

namespace AiTrader.Library

open Program Function

variable {S E α : Type}

/-- The shared store and what is left of the program of every member that runs. -/
structure Crew (S E α : Type) : Type 1 where
  store : S
  /-- How many members have started. -/
  started : Nat
  running : Nat → Option (Program S E α)

namespace Crew

/-- A crew without members. -/
def idle (store : S) : Crew S E α := ⟨store, 0, fun _ => none⟩

/-- One step of the crew: `job` lists what a member may start, `world` is everybody else. -/
inductive Step (fault : E → Prop) (job : Nat → Program S E α → Prop) (world : S → S → Prop) :
    Crew S E α → Crew S E α → Prop where
  | start {crew : Crew S E α} {program : Program S E α} (listed : job crew.started program) :
      Step fault job world crew
        ⟨crew.store, crew.started + 1, update crew.running crew.started (some program)⟩
  | work {crew : Crew S E α} {member : Nat} {program next : Program S E α} {after : S}
      (runs : crew.running member = some program) (taken : program.Step fault crew.store next after) :
      Step fault job world crew ⟨after, crew.started, update crew.running member (some next)⟩
  | stop {crew : Crew S E α} {member : Nat} :
      Step fault job world crew ⟨crew.store, crew.started, update crew.running member none⟩
  | world {crew : Crew S E α} {after : S} (changed : world crew.store after) :
      Step fault job world crew ⟨after, crew.started, crew.running⟩

/-- Any number of steps, in any order. -/
abbrev Run (fault : E → Prop) (job : Nat → Program S E α → Prop) (world : S → S → Prop) :
    Crew S E α → Crew S E α → Prop :=
  Relation.ReflTransGen (Step fault job world)

/-- A contract for every number, such that what one member guarantees all others may rely on. -/
structure Discipline (fault : E → Prop) (job : Nat → Program S E α → Prop) (world : S → S → Prop) where
  invariant : S → Prop
  contract : Nat → Contract S
  /-- Nobody has acted under the number yet. -/
  unused : Nat → S → Prop
  /-- What the result of a member says about the store. -/
  post : Nat → Except E α → S → Prop
  same_invariant : ∀ member, (contract member).invariant = invariant
  others : ∀ {member other store after}, member ≠ other → (contract member).guarantee store after →
    (contract other).rely store after
  world : ∀ {store after}, invariant store → world store after →
    invariant after ∧ ∀ member, (contract member).rely store after
  unused_stable : ∀ {member store after}, (contract member).rely store after → unused member store →
    unused member after
  post_stable : ∀ {member result store after}, (contract member).rely store after → post member result store →
    post member result after
  assured : ∀ {member program store}, job member program → unused member store →
    program.Assured (contract member) fault (post member) store

variable {fault : E → Prop} {job : Nat → Program S E α → Prop} {world : S → S → Prop}
  {discipline : Discipline fault job world} {crew next : Crew S E α}

/-- The invariant holds, every running program is assured from it, and the numbers to come are unused. -/
structure Sound (discipline : Discipline fault job world) (crew : Crew S E α) : Prop where
  invariant : discipline.invariant crew.store
  unused : ∀ member, crew.started ≤ member → discipline.unused member crew.store
  started : ∀ member program, crew.running member = some program → member < crew.started
  assured : ∀ member program, crew.running member = some program →
    program.Assured (discipline.contract member) fault (discipline.post member) crew.store

/-- What any step may do to the store. -/
def Permitted (discipline : Discipline fault job world) (crew next : Crew S E α) : Prop :=
  next.store = crew.store ∨ world crew.store next.store ∨
    ∃ member < crew.started, (discipline.contract member).guarantee crew.store next.store

theorem sound_idle {store : S} (kept : discipline.invariant store) (unused : ∀ member, discipline.unused member store) :
    Sound discipline (idle store) where
  invariant := kept
  unused := fun member _ => unused member
  started := nofun
  assured := nofun

variable {program : Program S E α} {member : Nat}

/-- A member runs what it was given, or what it ran before. -/
theorem running_update {running : Nat → Option (Program S E α)} {other : Nat} {given : Option (Program S E α)}
    (runs : update running member given other = some program) :
    other = member ∧ given = some program ∨ other ≠ member ∧ running other = some program := by
  by_cases same : other = member
  · rw [same, update_self] at runs
    exact .inl ⟨same, runs⟩
  · rw [update_of_ne same] at runs
    exact .inr ⟨same, runs⟩

theorem Sound.start (sound : Sound discipline crew) (listed : job crew.started program) :
    Sound discipline ⟨crew.store, crew.started + 1, update crew.running crew.started (some program)⟩ where
  invariant := sound.invariant
  unused := fun member later => sound.unused member (Nat.le_of_succ_le later)
  started := fun member other runs => by
    rcases running_update runs with ⟨rfl, _⟩ | ⟨_, ran⟩
    · exact Nat.lt_succ_self _
    · exact Nat.lt_succ_of_lt (sound.started member other ran)
  assured := fun member other runs => by
    rcases running_update runs with ⟨rfl, given⟩ | ⟨_, ran⟩
    · cases given
      exact discipline.assured listed (sound.unused _ (Nat.le_refl _))
    · exact sound.assured member other ran

variable {rest : Program S E α} {after : S}

theorem Sound.work (sound : Sound discipline crew)
    (runs : crew.running member = some program) (taken : program.Step fault crew.store rest after) :
    Sound discipline ⟨after, crew.started, update crew.running member (some rest)⟩ ∧
      (discipline.contract member).guarantee crew.store after := by
  have kept : (discipline.contract member).invariant crew.store := by
    rw [discipline.same_invariant]
    exact sound.invariant
  obtain ⟨guaranteed, invariant, resumed⟩ := (sound.assured member program runs).step kept taken
  rw [discipline.same_invariant] at invariant
  have early := sound.started member program runs
  constructor
  · constructor
    · exact invariant
    · intro other later
      have different : member ≠ other := by
        dsimp only at later
        omega
      exact discipline.unused_stable (discipline.others different guaranteed) (sound.unused other later)
    · intro other left runs
      rcases running_update runs with ⟨rfl, _⟩ | ⟨_, ran⟩
      · exact early
      · exact sound.started other left ran
    · intro other left runs
      rcases running_update runs with ⟨rfl, given⟩ | ⟨different, ran⟩
      · cases given
        exact resumed
      · exact (sound.assured other left ran).stable (fun _ _ _ relied held => discipline.post_stable relied held)
          (discipline.others (Ne.symm different) guaranteed)
  · exact guaranteed

section

variable (sound : Sound discipline crew)
include sound

theorem Sound.stop : Sound discipline ⟨crew.store, crew.started, update crew.running member none⟩ := by
  have still : ∀ other program, update crew.running member none other = some program →
      crew.running other = some program := by
    intro other program runs
    rcases running_update runs with ⟨_, impossible⟩ | ⟨_, ran⟩
    · cases impossible
    · exact ran
  exact ⟨sound.invariant, sound.unused, fun other program runs => sound.started other program (still _ _ runs),
    fun other program runs => sound.assured other program (still _ _ runs)⟩

theorem Sound.change (changed : world crew.store after) : Sound discipline ⟨after, crew.started, crew.running⟩ := by
  obtain ⟨invariant, relied⟩ := discipline.world sound.invariant changed
  constructor
  · exact invariant
  · exact fun member later => discipline.unused_stable (relied member) (sound.unused member later)
  · exact sound.started
  · exact fun member program runs => (sound.assured member program runs).stable
      (fun _ _ _ relied held => discipline.post_stable relied held) (relied member)

theorem Sound.step (step : Step fault job world crew next) : Sound discipline next ∧ Permitted discipline crew next := by
  cases step with
  | start listed => exact ⟨sound.start listed, .inl rfl⟩
  | @work member program _ _ runs taken =>
    obtain ⟨still, guaranteed⟩ := sound.work runs taken
    exact ⟨still, .inr (.inr ⟨member, sound.started member program runs, guaranteed⟩)⟩
  | stop => exact ⟨sound.stop, .inl rfl⟩
  | world changed => exact ⟨sound.change changed, .inr (.inl changed)⟩

theorem Sound.run (run : Run fault job world crew next) : Sound discipline next := by
  induction run with
  | refl => exact sound
  | tail _ step ih => exact (ih.step step).1

theorem Sound.returned {result : Except E α}
    (done : crew.running member = some (.done result)) : discipline.post member result crew.store :=
  sound.assured member _ done

end

/-- A member takes its own steps inside any crew. -/
theorem run_of_interleaving (runs : crew.running member = some program)
    (run : Program.Interleaving fault (fun _ _ => False) (program, crew.store) (rest, after)) :
    Run fault job world crew ⟨after, crew.started, update crew.running member (some rest)⟩ := by
  refine run.invariant ?_ (fun before taken => ?_) fun _ taken => taken.elim
  · rw [← runs, update_eq_self]
  · have worked := before.tail (.work (update_self ..) taken)
    simpa only [update_idem] using worked

/-- A new member runs alone. -/
theorem run_of_call (listed : job crew.started program)
    (run : Program.Interleaving fault (fun _ _ => False) (program, crew.store) (rest, after)) :
    Run fault job world crew ⟨after, crew.started + 1, update crew.running crew.started (some rest)⟩ := by
  have begun : Run fault job world crew
      ⟨crew.store, crew.started + 1, update crew.running crew.started (some program)⟩ := .single (.start listed)
  have worked := begun.trans (run_of_interleaving (update_self ..) run)
  simpa only [update_idem] using worked

section Common

variable {contract : Contract S} {post : Nat → Except E α → S → Prop}

/-- All members meet one contract, whose guarantee is what they rely on. -/
def common (contract : Contract S) (post : Nat → Except E α → S → Prop)
    (relied : ∀ {store after}, contract.guarantee store after → contract.rely store after)
    (kept : ∀ {store after}, contract.invariant store → world store after →
      contract.invariant after ∧ contract.rely store after)
    (stable : ∀ {member result store after}, contract.rely store after → post member result store →
      post member result after)
    (assured : ∀ {member program store}, job member program → program.Assured contract fault (post member) store) :
    Discipline fault job world where
  invariant := contract.invariant
  contract := fun _ => contract
  unused := fun _ _ => True
  post := post
  same_invariant := fun _ => rfl
  others := fun _ => relied
  world := fun invariant changed => ⟨(kept invariant changed).1, fun _ => (kept invariant changed).2⟩
  unused_stable := fun _ _ => trivial
  post_stable := stable
  assured := fun listed _ => assured listed

/-- Members under one contract change the store only as they all rely on. -/
theorem Sound.relied {contract : Contract S} (sound : Sound discipline crew)
    (same : ∀ member, discipline.contract member = contract)
    (relied : ∀ {store after}, contract.guarantee store after → contract.rely store after)
    (run : Run fault job world crew next) : contract.rely crew.store next.store := by
  induction run with
  | refl => exact contract.rely_refl _
  | @tail middle last run step ih =>
    have now := sound.run run
    refine contract.rely_trans ih ?_
    rcases (now.step step).2 with unchanged | changed | ⟨member, _, guaranteed⟩
    · rw [unchanged]
      exact contract.rely_refl _
    · have left := (discipline.world now.invariant changed).2 0
      rwa [same] at left
    · rw [same] at guaranteed
      exact relied guaranteed

end Common

end Crew

end AiTrader.Library
