import Mathlib.Logic.Relation

/-! # Programs over a shared transactional store

A program is a sequence of atomic transactions with exceptions. The store may change between two of them, one may fail
before it commits, and its reply may be lost afterwards; an `ask` takes any answer. -/

namespace AiTrader.Library

/-- A program over store `S` that throws exceptions `E`. A transaction that throws leaves the store
as it was. -/
inductive Program (S E α : Type) : Type 1 where
  | done (result : Except E α)
  | ask {β : Type} (next : β → Program S E α)
  | transact {β : Type} (body : S → Except E (β × S)) (next : Except E β → Program S E α)

namespace Program

variable {S E α : Type}

/-- Continue with the result of a program, whether it returned or threw. -/
def resume {β : Type} : Program S E α → (Except E α → Program S E β) → Program S E β
  | .done result, next => next result
  | .ask rest, next => .ask fun answer => (rest answer).resume next
  | .transact body rest, next => .transact body fun reply => (rest reply).resume next

/-- Sequencing passes a returned value on and lets an exception through. -/
def andThen {β : Type} (program : Program S E α) (next : α → Program S E β) : Program S E β :=
  program.resume fun
    | .ok value => next value
    | .error error => .done (.error error)

/-- Turn an exception of the program into a value. -/
def attempt (program : Program S E α) : Program S E (Except E α) :=
  program.resume fun result => .done (.ok result)

/-- Run the handler when the program throws. -/
def rescue (program : Program S E α) (handler : E → Program S E α) : Program S E α :=
  program.resume fun
    | .ok value => .done (.ok value)
    | .error error => handler error

instance : Monad (Program S E) where
  pure value := .done (.ok value)
  bind := andThen

instance : MonadExcept E (Program S E) where
  throw error := .done (.error error)
  tryCatch := rescue

/-- One statement that reads the store and writes nothing. -/
def read {β : Type} (view : S → β) : Program S E β :=
  .transact (fun store => .ok (view store, store)) .done

/-- One transaction. -/
def commit {β : Type} (body : S → Except E (β × S)) : Program S E β :=
  .transact body .done

/-- A READ COMMITTED transaction reads first and writes at once; others may commit between the two, so `body` meets what was
seen and the store it commits to. -/
def transaction {β γ : Type} (view : S → β) (body : β → S → Except E (γ × S)) : Program S E γ :=
  (read view).andThen fun seen => commit (body seen)

/-- One statement that always writes. -/
def write (update : S → S) : Program S E Unit :=
  .transact (fun store => .ok ((), update store)) .done

/-- An answer from outside the store. -/
def answer : Program S E α :=
  .ask fun value => .done (.ok value)

/-- One step of a program. `lostReply` commits and reports a fault; `notExecuted` only reports it. -/
inductive Step (fault : E → Prop) : Program S E α → S → Program S E α → S → Prop where
  | ask {β : Type} {next : β → Program S E α} {store : S} (reply : β) :
      Step fault (.ask next) store (next reply) store
  | commit {β : Type} {body : S → Except E (β × S)} {next : Except E β → Program S E α} {store after : S}
      {value : β} (success : body store = .ok (value, after)) :
      Step fault (.transact body next) store (next (.ok value)) after
  | abort {β : Type} {body : S → Except E (β × S)} {next : Except E β → Program S E α} {store : S}
      {error : E} (failure : body store = .error error) :
      Step fault (.transact body next) store (next (.error error)) store
  | lostReply {β : Type} {body : S → Except E (β × S)} {next : Except E β → Program S E α} {store after : S}
      {value : β} {error : E} (success : body store = .ok (value, after)) (faulty : fault error) :
      Step fault (.transact body next) store (next (.error error)) after
  | notExecuted {β : Type} {body : S → Except E (β × S)} {next : Except E β → Program S E α} {store : S}
      {error : E} (faulty : fault error) :
      Step fault (.transact body next) store (next (.error error)) store

/-- One step of a program among other writers, whose own steps are `others`. -/
inductive Interleaved (fault : E → Prop) (others : S → S → Prop) :
    Program S E α × S → Program S E α × S → Prop where
  | own {program next : Program S E α} {store after : S} (step : Step fault program store next after) :
      Interleaved fault others (program, store) (next, after)
  | other {program : Program S E α} {store after : S} (step : others store after) :
      Interleaved fault others (program, store) (program, after)

/-- A program and the other writers taking any number of steps in any order. -/
abbrev Interleaving (fault : E → Prop) (others : S → S → Prop) :
    Program S E α × S → Program S E α × S → Prop :=
  Relation.ReflTransGen (Interleaved fault others)

variable {result : Except E α}

section Sequencing

variable {β : Type} {fault : E → Prop} {others : S → S → Prop} {program : Program S E α}
  {next : α → Program S E β} {final : Program S E β} {store after : S}

@[simp] theorem done_bind (value : α) (next : α → Program S E β) :
    ((.done (.ok value) : Program S E α) >>= next) = next value := rfl

/-- A step of a sequence is a step of its first program, or that program has returned. -/
theorem Step.of_bind (step : Step fault (program >>= next) store final after) :
    (∃ rest, Step fault program store rest after ∧ final = rest >>= next) ∨
    ∃ value, program = .done (.ok value) ∧ Step fault (next value) store final after := by
  cases program with
  | done result =>
    cases result with
    | ok value => exact .inr ⟨value, rfl, step⟩
    | error error => cases step
  | ask rest =>
    left
    cases step with
    | ask reply => exact ⟨rest reply, .ask reply, rfl⟩
  | transact body rest =>
    left
    cases step with
    | commit success => exact ⟨_, .commit success, rfl⟩
    | abort failure => exact ⟨_, .abort failure, rfl⟩
    | lostReply success faulty => exact ⟨_, .lostReply success faulty, rfl⟩
    | notExecuted faulty => exact ⟨_, .notExecuted faulty, rfl⟩

variable {rest : Program S E α}

/-- What holds at the start and stays with every step holds after a run. -/
@[elab_as_elim] theorem Interleaving.invariant {kept : Program S E α → S → Prop}
    (run : Interleaving fault others (program, store) (rest, after)) (start : kept program store)
    (own : ∀ {current moved before later}, kept current before → Step fault current before moved later → kept moved later)
    (other : ∀ {current before later}, kept current before → others before later → kept current later) :
    kept rest after := by
  have reached : ∀ {finish}, Interleaving fault others (program, store) finish → kept finish.1 finish.2 := by
    intro finish run
    induction run with
    | refl => exact start
    | tail _ step ih =>
      cases step with
      | own taken => exact own ih taken
      | other taken => exact other ih taken
  exact reached run

/-- Whatever continues with the result of a program runs that program first. -/
theorem Interleaving.resume (next : Except E α → Program S E β)
    (run : Interleaving fault others (program, store) (rest, after)) :
    Interleaving fault others (program.resume next, store) (rest.resume next, after) := by
  refine run.invariant .refl (fun before taken => before.tail (.own ?_)) fun before taken => before.tail (.other taken)
  cases taken with
  | ask reply => exact .ask reply
  | commit success => exact .commit success
  | abort failure => exact .abort failure
  | lostReply success faulty => exact .lostReply success faulty
  | notExecuted faulty => exact .notExecuted faulty

/-- A sequence runs its first program. -/
theorem Interleaving.bind (next : α → Program S E β) (run : Interleaving fault others (program, store) (rest, after)) :
    Interleaving fault others (program >>= next, store) (rest >>= next, after) :=
  run.resume _

/-- A sequence whose first program has returned goes on with the rest. -/
theorem Interleaving.andThen {value : α} {middle : S}
    (first : Interleaving fault others (program, store) (.done (.ok value), middle))
    (second : Interleaving fault others (next value, middle) (final, after)) :
    Interleaving fault others (program >>= next, store) (final, after) :=
  (first.bind next).trans second

/-- A sequence that begins with a read goes on with what is stored. -/
theorem Interleaving.read {view : S → α} (rest : Interleaving fault others (next (view store), store) (final, after)) :
    Interleaving fault others (read view >>= next, store) (final, after) :=
  .head (.own (.commit rfl)) rest

/-- A sequence that begins with a question goes on with any answer. -/
theorem Interleaving.answer (reply : α) (rest : Interleaving fault others (next reply, store) (final, after)) :
    Interleaving fault others (answer >>= next, store) (final, after) :=
  .head (.own (.ask reply)) rest

/-- A program whose exceptions are caught runs the same way. -/
theorem Interleaving.attempt (run : Interleaving fault others (program, store) (rest, after)) :
    Interleaving fault others (program.attempt, store) (rest.attempt, after) :=
  run.resume _

/-- A program that is done stays as it is. -/
theorem Interleaving.of_done
    (run : Interleaving fault others (.done result, store) (rest, after)) : rest = .done result := by
  refine run.invariant rfl (fun same taken => ?_) fun same _ => same
  subst same
  cases taken

/-- A run of a program whose exceptions are caught is a run of the program. -/
theorem Interleaving.of_attempt_rest {current : Program S E (Except E α)}
    (run : Interleaving fault others (program.attempt, store) (current, after)) :
    ∃ rest, current = rest.attempt ∧ Interleaving fault others (program, store) (rest, after) := by
  refine run.invariant ⟨program, rfl, .refl⟩ ?_ ?_
  · rintro _ moved _ _ ⟨rest, rfl, before⟩ taken
    cases rest with
    | done result => cases taken
    | ask next =>
      cases taken with
      | ask reply => exact ⟨next reply, rfl, before.tail (.own (.ask reply))⟩
    | transact body next =>
      cases taken with
      | commit success => exact ⟨_, rfl, before.tail (.own (.commit success))⟩
      | abort failure => exact ⟨_, rfl, before.tail (.own (.abort failure))⟩
      | lostReply success faulty => exact ⟨_, rfl, before.tail (.own (.lostReply success faulty))⟩
      | notExecuted faulty => exact ⟨_, rfl, before.tail (.own (.notExecuted faulty))⟩
  · rintro _ _ _ ⟨rest, same, before⟩ taken
    exact ⟨rest, same, before.tail (.other taken)⟩

/-- A program whose exceptions are caught ends with the result of the program. -/
theorem Interleaving.of_attempt {caught : Except E (Except E α)}
    (run : Interleaving fault others (program.attempt, store) (.done caught, after)) :
    ∃ result, caught = .ok result ∧ Interleaving fault others (program, store) (.done result, after) := by
  obtain ⟨rest, same, before⟩ := run.of_attempt_rest
  cases rest with
  | done result =>
    cases same
    exact ⟨result, rfl, before⟩
  | ask => cases same
  | transact => cases same

/-- A sequence that is done has thrown in its first program, or gone through both. -/
theorem bind_eq_done {result : Except E β} (done : program >>= next = .done result) :
    (∃ error, program = .done (.error error) ∧ result = .error error) ∨
      ∃ value, program = .done (.ok value) ∧ next value = .done result := by
  cases program with
  | done first =>
    cases first with
    | ok value => exact .inr ⟨value, rfl, done⟩
    | error error =>
      cases done
      exact .inl ⟨error, rfl, rfl⟩
  | ask => cases done
  | transact => cases done

/-- A run of a sequence is still in its first program, or that program returned on the way. -/
theorem Interleaving.of_bind (run : Interleaving fault others (program >>= next, store) (final, after)) :
    (∃ rest, Interleaving fault others (program, store) (rest, after) ∧ final = rest >>= next) ∨
    ∃ value middle, Interleaving fault others (program, store) (.done (.ok value), middle) ∧
      Interleaving fault others (next value, middle) (final, after) := by
  refine run.invariant (.inl ⟨program, .refl, rfl⟩) ?_ ?_
  · rintro _ moved _ _ (⟨rest, before, rfl⟩ | ⟨value, middle, first, second⟩) taken
    · rcases taken.of_bind with ⟨later, moved, rfl⟩ | ⟨value, rfl, moved⟩
      · exact .inl ⟨later, before.tail (.own moved), rfl⟩
      · exact .inr ⟨value, _, before, .single (.own moved)⟩
    · exact .inr ⟨value, middle, first, second.tail (.own taken)⟩
  · rintro _ _ _ (⟨rest, before, rfl⟩ | ⟨value, middle, first, second⟩) taken
    · exact .inl ⟨rest, before.tail (.other taken), rfl⟩
    · exact .inr ⟨value, middle, first, second.tail (.other taken)⟩

/-- A sequence that ends has thrown in its first program, or gone through both. -/
theorem Interleaving.done_of_bind {result : Except E β}
    (run : Interleaving fault others (program >>= next, store) (.done result, after)) :
    (∃ error, Interleaving fault others (program, store) (.done (.error error), after) ∧ result = .error error) ∨
    ∃ value middle, Interleaving fault others (program, store) (.done (.ok value), middle) ∧
      Interleaving fault others (next value, middle) (.done result, after) := by
  rcases run.of_bind with ⟨rest, ran, same⟩ | returned
  · rcases bind_eq_done same.symm with ⟨error, rfl, thrown⟩ | ⟨value, rfl, went⟩
    · exact .inl ⟨error, ran, thrown⟩
    · exact .inr ⟨value, after, ran, went ▸ .refl⟩
  · exact .inr returned

/-- A step of a sequence in the middle of a run is a step of its first program, or that program returned on
the way. -/
theorem Interleaving.of_bind_step {before : S} {later : Program S E β}
    (run : Interleaving fault others (program >>= next, store) (final, before))
    (step : Step fault final before later after) :
    (∃ rest moved, Interleaving fault others (program, store) (rest, before) ∧ Step fault rest before moved after) ∨
    ∃ value middle, Interleaving fault others (program, store) (.done (.ok value), middle) ∧
      Interleaving fault others (next value, middle) (final, before) := by
  rcases run.of_bind with ⟨rest, ran, rfl⟩ | returned
  · rcases step.of_bind with ⟨moved, taken, rfl⟩ | ⟨value, rfl, _⟩
    · exact .inl ⟨rest, moved, ran, taken⟩
    · exact .inr ⟨value, before, ran, .refl⟩
  · exact .inr returned

end Sequencing

/-- The result of a program that runs alone and meets no fault; `none` as soon as it needs an answer. -/
def alone : Program S E α → S → Option (Except E α × S)
  | .done result, store => some (result, store)
  | .ask _, _ => none
  | .transact body next, store =>
    match body store with
    | .ok (value, after) => (next (.ok value)).alone after
    | .error error => (next (.error error)).alone store

variable {β : Type}

theorem alone_transact (body : S → Except E (β × S)) (next : Except E β → Program S E α) (store : S) :
    (transact body next).alone store =
      match body store with
      | .ok (value, after) => (next (.ok value)).alone after
      | .error error => (next (.error error)).alone store := by
  cases success : body store with
  | ok committed => simp only [alone, success]
  | error error => simp only [alone, success]

@[simp] theorem alone_read (view : S → β) (store : S) :
    (read view : Program S E β).alone store = some (.ok (view store), store) := rfl

@[simp] theorem alone_write (update : S → S) (store : S) :
    (write update : Program S E Unit).alone store = some (.ok (), update store) := rfl

@[simp] theorem alone_throw (error : E) (store : S) :
    (throw error : Program S E α).alone store = some (.error error, store) := rfl

/-- A sequence runs alone as its first program does, and then the rest. -/
theorem alone_bind (program : Program S E α) (next : α → Program S E β) (store : S) : (program >>= next).alone store =
      match program.alone store with
      | some (.ok value, after) => (next value).alone after
      | some (.error error, after) => some (.error error, after)
      | none => none := by
  induction program generalizing store with
  | done result =>
    cases result with
    | ok value => rfl
    | error error => rfl
  | ask rest => rfl
  | transact body rest ih =>
    rw [show transact body rest >>= next = transact body fun reply => rest reply >>= next from rfl, alone_transact,
      alone_transact]
    cases body store with
    | ok committed => exact ih _ _
    | error error => exact ih _ _

theorem interleaving_alone {fault : E → Prop} {others : S → S → Prop} {program : Program S E α} {store after : S}
    (finished : program.alone store = some (result, after)) :
    Interleaving fault others (program, store) (.done result, after) := by
  induction program generalizing store with
  | done value =>
    cases finished
    exact .refl
  | ask next => cases finished
  | transact body next ih =>
    unfold alone at finished
    split at finished
    case h_1 success => exact .head (.own (.commit success)) (ih _ finished)
    case h_2 failure => exact .head (.own (.abort failure)) (ih _ finished)

end Program

end AiTrader.Library
