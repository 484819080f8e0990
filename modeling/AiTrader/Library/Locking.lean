import AiTrader.Library.Assurance
import Mathlib.Data.List.Nodup

/-! # Transactions under advisory locks

A transaction holds the lock of one key until it ends, and its statements read the committed store under its own pending
writes. When each leaves what the other keys see alone, it behaves as if it ran by itself. -/

namespace AiTrader.Library

open Program

variable {S E L K α β : Type}

/-- What a statement of a transaction meets. -/
structure Sight (S : Type) where
  /-- What other transactions have committed. -/
  store : S
  /-- What the transaction has written itself. -/
  writes : S → S

def Sight.visible (sight : Sight S) : S := sight.writes sight.store

/-- What a statement returns, with its update on top of what was written before. -/
def Sight.write (sight : Sight S) : Except E (β × (S → S)) → Except E (β × Sight S)
  | .ok (value, update) => .ok (value, { sight with writes := update ∘ sight.writes })
  | .error error => .error error

/-- The statements of a transaction that are still to run. -/
abbrev Transaction (S E α : Type) : Type 1 := Program (Sight S) E α

namespace Transaction

/-- A statement that reads. -/
def look (view : S → β) : Transaction S E β := .read fun sight => view sight.visible

/-- A statement that reads and may write. -/
def statement (body : S → Except E (β × (S → S))) : Transaction S E β :=
  .commit fun sight => sight.write (body sight.visible)

/-- Go on with a value, or fail. -/
def attain : Except E β → Transaction S E β := .done

end Transaction

/-- A transaction that has begun. -/
structure Ongoing (S E L α : Type) : Type 1 where
  label : L
  writes : S → S
  rest : Transaction S E α

/-- The committed store and the transactions that have begun. -/
structure Locking (S E L α : Type) : Type 1 where
  store : S
  ongoing : List (Ongoing S E L α)

/-- One step: `begins` lists the transactions, `key` their locks, `environment` the other writers. -/
inductive Locking.Step (key : L → K) (begins : L → Transaction S E α → Prop) (environment : S → S → Prop) :
    Locking S E L α → Locking S E L α → Prop where
  | environment {store after : S} {ongoing : List (Ongoing S E L α)} (step : environment store after) :
      Locking.Step key begins environment ⟨store, ongoing⟩ ⟨after, ongoing⟩
  | begin {store : S} {ongoing : List (Ongoing S E L α)} {label : L} {program : Transaction S E α}
      (listed : begins label program) (free : key label ∉ ongoing.map fun transaction => key transaction.label) :
      Locking.Step key begins environment ⟨store, ongoing⟩ ⟨store, ⟨label, id, program⟩ :: ongoing⟩
  | statement {store : S} {front back : List (Ongoing S E L α)} {label : L} {writes written : S → S}
      {program next : Transaction S E α}
      (step : program.Step (fun _ => False) ⟨store, writes⟩ next ⟨store, written⟩) :
      Locking.Step key begins environment ⟨store, front ++ ⟨label, writes, program⟩ :: back⟩
        ⟨store, front ++ ⟨label, written, next⟩ :: back⟩
  | commit {store : S} {front back : List (Ongoing S E L α)} {label : L} {writes : S → S} {value : α} :
      Locking.Step key begins environment ⟨store, front ++ ⟨label, writes, .done (.ok value)⟩ :: back⟩
        ⟨writes store, front ++ back⟩
  | rollback {store : S} {front back : List (Ongoing S E L α)} {transaction : Ongoing S E L α} :
      Locking.Step key begins environment ⟨store, front ++ transaction :: back⟩ ⟨store, front ++ back⟩

/-- Any number of steps, in any order. -/
abbrev Locking.Run (key : L → K) (begins : L → Transaction S E α → Prop) (environment : S → S → Prop) :
    Locking S E L α → Locking S E L α → Prop :=
  Relation.ReflTransGen (Locking.Step key begins environment)

/-- A statement under the lock leaves the committed store, and others change only what its key does not see. -/
def lockContract (kept : S → Prop) (alike : S → S → Prop) (alike_refl : ∀ store, alike store store)
    (alike_trans : ∀ first second third, alike first second → alike second third → alike first third) :
    Contract (Sight S) where
  invariant sight := kept sight.store
  rely before after := after.writes = before.writes ∧ alike before.store after.store
  guarantee before after := after.store = before.store
  rely_refl sight := ⟨rfl, alike_refl sight.store⟩
  rely_trans first second := ⟨second.1.trans first.1, alike_trans _ _ _ first.2 second.2⟩
  guarantee_refl _ := rfl

section Rules

variable {kept : S → Prop} {alike : S → S → Prop} {alike_refl : ∀ store, alike store store}
  {alike_trans : ∀ first second third, alike first second → alike second third → alike first third}
  {store : S} {writes : S → S} {post : Except E α → Sight S → Prop}

variable {next : β → Transaction S E α}

/-- A reading statement goes on from any store that looks the same to the key. -/
theorem assured_lookThen {view : S → β}
    (held : ∀ later, alike store later → kept later → (next (view (writes later))).Assured
      (lockContract kept alike alike_refl alike_trans) (fun _ => False) post ⟨later, writes⟩) :
    (Transaction.look view >>= next).Assured (lockContract kept alike alike_refl alike_trans) (fun _ => False) post
      ⟨store, writes⟩ := by
  refine Assured.readThen ?_
  rintro ⟨later, _⟩ ⟨rfl, seen⟩ invariant
  exact ⟨held later seen invariant, fun _ faulty => faulty.elim⟩

theorem assured_statementThen {body : S → Except E (β × (S → S))} (held : ∀ later, alike store later → kept later →
      (∀ value update, body (writes later) = .ok (value, update) → (next value).Assured
        (lockContract kept alike alike_refl alike_trans) (fun _ => False) post ⟨later, update ∘ writes⟩) ∧
      ∀ error, body (writes later) = .error error → post (.error error) ⟨later, writes⟩) :
    (Transaction.statement body >>= next).Assured (lockContract kept alike alike_refl alike_trans) (fun _ => False) post
      ⟨store, writes⟩ := by
  refine Assured.bind (assured_commit ?_)
  rintro ⟨later, pending⟩ ⟨same, seen⟩ invariant
  obtain rfl : pending = writes := same
  obtain ⟨succeeds, fails⟩ := held later seen invariant
  show (∀ _ _, Sight.write _ (body (pending later)) = _ → _) ∧ (∀ _, Sight.write _ (body (pending later)) = _ → _) ∧ _
  cases result : body (pending later) with
  | ok written =>
    refine ⟨?_, nofun, fun _ faulty => faulty.elim⟩
    rintro value after success
    cases success
    exact ⟨rfl, invariant, succeeds _ _ result, fun _ faulty => faulty.elim⟩
  | error error =>
    refine ⟨nofun, ?_, fun _ faulty => faulty.elim⟩
    rintro other failure
    cases failure
    exact fails _ result

theorem assured_attainThen {attempt : Except E β} (succeeds : ∀ value, attempt = .ok value → (next value).Assured
      (lockContract kept alike alike_refl alike_trans) (fun _ => False) post ⟨store, writes⟩)
    (fails : ∀ error, attempt = .error error → post (.error error) ⟨store, writes⟩) :
    (Transaction.attain attempt >>= next).Assured (lockContract kept alike alike_refl alike_trans) (fun _ => False) post
      ⟨store, writes⟩ := by
  refine Assured.bind ?_
  cases attempt with
  | ok value => exact succeeds value rfl
  | error error => exact fails error rfl

end Rules

/-- An invariant, what each key sees of a store, and what each transaction has achieved at its end. -/
structure Locking.Discipline (key : L → K) (begins : L → Transaction S E α → Prop) (environment : S → S → Prop) where
  kept : S → Prop
  alike : K → S → S → Prop
  achieved : L → Except E α → Sight S → Prop
  alike_refl : ∀ value store, alike value store store
  alike_trans : ∀ value first second third, alike value first second → alike value second third → alike value first third
  environment_kept : ∀ {store after}, environment store after → kept store → kept after
  environment_alike : ∀ {store after} value, environment store after → alike value store after
  achieved_stable : ∀ {label result store after writes}, alike (key label) store after →
    achieved label result ⟨store, writes⟩ → achieved label result ⟨after, writes⟩
  commit_kept : ∀ {label value store writes}, kept store → achieved label (.ok value) ⟨store, writes⟩ → kept (writes store)
  commit_alike : ∀ {label value store writes other}, kept store → achieved label (.ok value) ⟨store, writes⟩ →
    other ≠ key label → alike other store (writes store)
  assured : ∀ {label program store}, begins label program → kept store → program.Assured
    (lockContract kept (alike (key label)) (alike_refl (key label)) (alike_trans (key label)))
    (fun _ => False) (achieved label) ⟨store, id⟩

namespace Locking

variable {key : L → K} {begins : L → Transaction S E α → Prop} {environment : S → S → Prop}

/-- The contract of the transactions of a key. -/
abbrev Discipline.contract (discipline : Discipline key begins environment) (value : K) : Contract (Sight S) :=
  lockContract discipline.kept (discipline.alike value) (discipline.alike_refl value) (discipline.alike_trans value)

/-- The invariant holds, every lock has one holder, and every transaction is assured where it stands. -/
structure Sound (discipline : Discipline key begins environment) (system : Locking S E L α) : Prop where
  kept : discipline.kept system.store
  exclusive : (system.ongoing.map fun transaction => key transaction.label).Nodup
  assured : ∀ transaction ∈ system.ongoing, transaction.rest.Assured (discipline.contract (key transaction.label))
    (fun _ => False) (discipline.achieved transaction.label) ⟨system.store, transaction.writes⟩

variable {discipline : Discipline key begins environment} {system next : Locking S E L α}

/-- An assurance outlives what other keys commit. -/
theorem assured_of_alike {transaction : Ongoing S E L α} {store after : S}
    (assured : transaction.rest.Assured (discipline.contract (key transaction.label)) (fun _ => False)
      (discipline.achieved transaction.label) ⟨store, transaction.writes⟩)
    (alike : discipline.alike (key transaction.label) store after) :
    transaction.rest.Assured (discipline.contract (key transaction.label)) (fun _ => False)
      (discipline.achieved transaction.label) ⟨after, transaction.writes⟩ := by
  refine assured.stable ?_ ⟨rfl, alike⟩
  rintro result ⟨current, writes⟩ ⟨later, _⟩ ⟨rfl, seen⟩ achieved
  exact discipline.achieved_stable seen achieved

theorem Sound.step (sound : Sound discipline system) (step : Step key begins environment system next) :
    Sound discipline next := by
  obtain ⟨kept, exclusive, assured⟩ := sound
  cases step with
  | environment step =>
    refine ⟨discipline.environment_kept step kept, exclusive, fun transaction member => ?_⟩
    exact assured_of_alike (assured transaction member) (discipline.environment_alike _ step)
  | begin listed free =>
    refine ⟨kept, List.nodup_cons.mpr ⟨free, exclusive⟩, fun transaction member => ?_⟩
    rcases List.mem_cons.mp member with rfl | member
    · exact discipline.assured listed kept
    · exact assured transaction member
  | @statement store front back label writes written program rest step =>
    refine ⟨kept, ?_, fun transaction member => ?_⟩
    · rw [List.map_append, List.map_cons] at exclusive ⊢
      exact exclusive
    · rw [List.mem_append, List.mem_cons] at member
      rcases member with member | rfl | member
      · exact assured transaction (List.mem_append_left _ member)
      · exact ((assured ⟨label, writes, program⟩ (by simp)).step kept step).2.2
      · exact assured transaction (List.mem_append_right _ (List.mem_cons_of_mem _ member))
  | @commit store front back label writes value =>
    have achieved : discipline.achieved label (.ok value) ⟨store, writes⟩ :=
      assured ⟨label, writes, .done (.ok value)⟩ (by simp)
    rw [List.map_append, List.map_cons] at exclusive
    have distinct := List.nodup_middle.mp exclusive
    refine ⟨discipline.commit_kept kept achieved, ?_, fun transaction member => ?_⟩
    · rw [List.map_append]
      exact (List.nodup_cons.mp distinct).2
    · have listed : transaction ∈ front ++ ⟨label, writes, .done (.ok value)⟩ :: back := by
        rw [List.mem_append] at member ⊢
        exact member.imp id (List.mem_cons_of_mem _)
      refine assured_of_alike (assured transaction listed) (discipline.commit_alike kept achieved ?_)
      intro same
      apply (List.nodup_cons.mp distinct).1
      rw [← List.map_append, ← same]
      exact List.mem_map_of_mem member
  | @rollback store front back transaction =>
    rw [List.map_append, List.map_cons] at exclusive
    refine ⟨kept, ?_, fun other member => ?_⟩
    · rw [List.map_append]
      exact (List.nodup_cons.mp (List.nodup_middle.mp exclusive)).2
    · refine assured other ?_
      rw [List.mem_append] at member ⊢
      exact member.imp id (List.mem_cons_of_mem _)

theorem Sound.run (sound : Sound discipline system) (run : Run key begins environment system next) :
    Sound discipline next := by
  induction run with
  | refl => exact sound
  | tail _ step ih => exact ih.step step

theorem sound_idle (discipline : Discipline key begins environment) {store : S} (kept : discipline.kept store) :
    Sound discipline ⟨store, []⟩ :=
  ⟨kept, List.nodup_nil, nofun⟩

/-- What a transaction that has run all its statements has achieved. -/
theorem Sound.achieved (sound : Sound discipline system) {transaction : Ongoing S E L α} {result : Except E α}
    (member : transaction ∈ system.ongoing) (finished : transaction.rest = .done result) :
    discipline.achieved transaction.label result ⟨system.store, transaction.writes⟩ := by
  have assured := sound.assured transaction member
  rw [finished] at assured
  exact assured

/-- A transitive relation that every commit and every other writer respects relates the stores of a run. -/
theorem Sound.relates (related : S → S → Prop) (sound : Sound discipline system)
    (run : Run key begins environment system next) (refl : ∀ store, related store store)
    (trans : ∀ first second third, related first second → related second third → related first third)
    (others : ∀ {store after}, environment store after → related store after)
    (commits : ∀ {label value store writes}, discipline.kept store →
      discipline.achieved label (.ok value) ⟨store, writes⟩ → related store (writes store)) :
    related system.store next.store := by
  induction run with
  | refl => exact refl _
  | tail run step ih =>
    have now := sound.run run
    refine trans _ _ _ ih ?_
    cases step with
    | environment step => exact others step
    | begin => exact refl _
    | statement => exact refl _
    | @commit store front back label writes value =>
      exact commits now.kept (@Sound.achieved _ _ _ _ _ _ _ _ _ _ now ⟨label, writes, .done (.ok value)⟩ _ (by simp) rfl)
    | rollback => exact refl _

end Locking

end AiTrader.Library
