import AiTrader.Library.Assurance

/-! # The stores a run passes through

Where a run of a sequence has been: the program it took each step in, and the store a read has seen. -/

namespace AiTrader.Library.Program

variable {S E α β : Type} {fault : E → Prop} {others : S → S → Prop}

/-- A run that passes through the stores, one after the other. -/
def Through (fault : E → Prop) (others : S → S → Prop) :
    Program S E α × S → List S → Program S E α × S → Prop
  | start, [], finish => Interleaving fault others start finish
  | start, store :: rest, finish =>
    ∃ program, Interleaving fault others start (program, store) ∧ Through fault others (program, store) rest finish

variable {next : α → Program S E β} {rest : Program S E α} {value : α}

section Passages

variable {start middle finish : Program S E α × S} {stores later : List S}

theorem Through.head (first : Interleaving fault others start middle) (second : Through fault others middle stores finish) :
    Through fault others start stores finish := by
  cases stores with
  | nil => exact first.trans second
  | cons store rest =>
    obtain ⟨program, before, after⟩ := second
    exact ⟨program, first.trans before, after⟩

theorem Through.append (first : Through fault others start stores middle)
    (second : Through fault others middle later finish) : Through fault others start (stores ++ later) finish := by
  induction stores generalizing start with
  | nil => exact second.head first
  | cons store rest ih =>
    obtain ⟨program, before, after⟩ := first
    exact ⟨program, before, ih after⟩

theorem Through.tail (first : Through fault others start stores middle) (second : Interleaving fault others middle finish) :
    Through fault others start stores finish := by
  simpa only [List.append_nil] using first.append (show Through fault others middle [] finish from second)

variable {program : Program S E α} {store after : S}

/-- Whatever continues with the result of a program passes through the stores of its run. -/
theorem Through.resume (next : Except E α → Program S E β)
    (through : Through fault others (program, store) stores (rest, after)) :
    Through fault others (program.resume next, store) stores (rest.resume next, after) := by
  induction stores generalizing program store with
  | nil => exact Interleaving.resume next through
  | cons first later ih =>
    obtain ⟨program, before, after⟩ := through
    exact ⟨program.resume next, before.resume next, ih after⟩

/-- A program whose exceptions are caught passes through the same stores. -/
theorem Through.attempt (through : Through fault others (program, store) stores (rest, after)) :
    Through fault others (program.attempt, store) stores (rest.attempt, after) :=
  through.resume _

variable {between : S}

section

variable {rest : Program S E β}

/-- A sequence passes through the stores of its first program and then through those of the rest. -/
theorem Through.andThen
    (first : Through fault others (program, store) stores (.done (.ok value), between))
    (second : Through fault others (next value, between) later (rest, after)) :
    Through fault others (program >>= next, store) (stores ++ later) (rest, after) :=
  (first.resume _).append second

/-- A sequence passes through the stores of its rest. -/
theorem Interleaving.thenThrough
    (first : Interleaving fault others (program, store) (.done (.ok value), between))
    (second : Through fault others (next value, between) later (rest, after)) :
    Through fault others (program >>= next, store) later (rest, after) :=
  second.head (first.bind next)

/-- A sequence passes through the stores of its first program. -/
theorem Through.thenRun
    (first : Through fault others (program, store) stores (.done (.ok value), between))
    (second : Interleaving fault others (next value, between) (rest, after)) :
    Through fault others (program >>= next, store) stores (rest, after) :=
  (first.resume _).tail second

end

end Passages

section Steps

variable {program : Program S E α} {store before after : S}

variable {body : S → Except E (α × S)}

section

variable (run : Interleaving fault others (commit body, store) (.done (.ok value), after))
include run

/-- A transaction that has returned has committed to a store of its run. -/
theorem Interleaving.of_commit :
    ∃ seen later, body seen = .ok (value, later) ∧ Interleaving fault others (commit body, store) (commit body, seen) ∧
      Interleaving fault others ((.done (.ok value) : Program S E α), later) (.done (.ok value), after) := by
  generalize source : (commit body, store) = start at run
  induction run using Relation.ReflTransGen.head_induction_on generalizing store with
  | refl => cases source
  | head step rest ih =>
    cases source
    cases step with
    | other taken =>
      obtain ⟨seen, later, success, before, further⟩ := ih rfl
      exact ⟨seen, later, success, .head (.other taken) before, further⟩
    | own taken =>
      cases taken with
      | commit success =>
        cases Interleaving.of_done rest
        exact ⟨store, _, success, .refl, rest⟩
      | abort failure => cases Interleaving.of_done rest
      | lostReply _ faulty => cases Interleaving.of_done rest
      | notExecuted faulty => cases Interleaving.of_done rest

/-- A transaction that has returned passes through a store that it commits to. -/
theorem through_commit : ∃ seen later, body seen = .ok (value, later) ∧
      Through fault others (commit body, store) [seen] (.done (.ok value), after) := by
  obtain ⟨seen, later, success, before, further⟩ := run.of_commit
  exact ⟨seen, later, success, commit body, before, further.head (.own (.commit success))⟩

end

/-- A program that has returned takes no step. -/
theorem Interleaving.of_done_step {result : Except E α} {next : Program S E α}
    (run : Interleaving fault others (.done result, store) (rest, before)) (step : Step fault rest before next after) :
    False := by
  obtain rfl := run.of_done
  cases step

variable {contract : Contract S}

/-- Every step of a harmless program is as its contract guarantees, whatever the others do. -/
theorem Harmless.guaranteed {next : Program S E α} (harmless : program.Harmless contract fault)
    (free : ∀ current later, contract.rely current later) (kept : ∀ current, contract.invariant current)
    (run : Interleaving fault others (program, store) (rest, before)) (step : Step fault rest before next after) :
    contract.guarantee before after := by
  have still := (harmless store).interleaving (kept store) (fun _ _ _ _ => ⟨free _ _, kept _⟩)
    (fun _ _ _ _ _ => trivial) run
  exact (still.2.step still.1 step).1

/-- A sequence that takes a step which its first program never takes has left that program. -/
theorem Harmless.past {rest moved : Program S E β}
    (harmless : program.Harmless contract fault) (free : ∀ current later, contract.rely current later)
    (kept : ∀ current, contract.invariant current)
    (run : Interleaving fault others (program >>= next, store) (rest, before)) (step : Step fault rest before moved after)
    (broken : ¬ contract.guarantee before after) :
    ∃ value middle, Interleaving fault others (program, store) (.done (.ok value), middle) ∧
      Interleaving fault others (next value, middle) (rest, before) := by
  rcases run.of_bind_step step with ⟨inside, later, ran, taken⟩ | returned
  · exact absurd (harmless.guaranteed free kept ran taken) broken
  · exact returned

end Steps

end AiTrader.Library.Program
