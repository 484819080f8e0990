import Mathlib.Data.List.Basic

/-! # Machines that read a list

A machine reads inputs in order, emits one output for each and may fail. -/

namespace AiTrader.Library

variable {S A B E : Type} {step : S → A → Except E (S × B)} {state : S} {inputs : List A} {outputs : List B}

/-- The outputs of a machine. -/
def emit (step : S → A → Except E (S × B)) : S → List A → Except E (List B)
  | _, [] => .ok []
  | state, input :: rest =>
    match step state input with
    | .error error => .error error
    | .ok (next, output) =>
      match emit step next rest with
      | .error error => .error error
      | .ok outputs => .ok (output :: outputs)

/-- The first step of a machine that does not fail. -/
theorem emit_cons {input : A} {rest : List A} (emitted : emit step state (input :: rest) = .ok outputs) :
    ∃ next output later, step state input = .ok (next, output) ∧ emit step next rest = .ok later ∧
      outputs = output :: later := by
  unfold emit at emitted
  split at emitted
  case h_1 => cases emitted
  case h_2 next output stepped =>
    split at emitted
    case h_1 => cases emitted
    case h_2 later rested =>
      cases emitted
      exact ⟨next, output, later, stepped, rested, rfl⟩

section

variable (emitted : emit step state inputs = .ok outputs)
include emitted

theorem length_emit : outputs.length = inputs.length := by
  induction inputs generalizing state outputs with
  | nil =>
    cases emitted
    rfl
  | cons input rest ih =>
    obtain ⟨next, output, later, _, rested, rfl⟩ := emit_cons emitted
    simp [ih rested]

/-- Every output is told by a step that reads its input. -/
theorem emit_told {index : Nat} {input : A} {output : B}
    (found : inputs[index]? = some input) (told : outputs[index]? = some output) :
    ∃ current next, step current input = .ok (next, output) := by
  induction inputs generalizing state outputs index with
  | nil => cases found
  | cons first rest ih =>
    obtain ⟨next, answer, later, stepped, rested, rfl⟩ := emit_cons emitted
    cases index with
    | zero =>
      cases found
      cases told
      exact ⟨state, next, stepped⟩
    | succ index => exact ih rested found told

theorem emit_mem {output : B} (member : output ∈ outputs) :
    ∃ current input next, step current input = .ok (next, output) := by
  induction inputs generalizing state outputs with
  | nil =>
    cases emitted
    cases member
  | cons input rest ih =>
    obtain ⟨next, first, later, stepped, rested, rfl⟩ := emit_cons emitted
    rcases List.mem_cons.mp member with rfl | further
    · exact ⟨state, input, next, stepped⟩
    · exact ih rested further

end

/-- A shorter input has the same outputs. -/
theorem emit_take (count : Nat) (emitted : emit step state inputs = .ok outputs) :
    emit step state (inputs.take count) = .ok (outputs.take count) := by
  induction inputs generalizing state outputs count with
  | nil =>
    cases emitted
    simp [emit]
  | cons input rest ih =>
    obtain ⟨next, output, later, stepped, rested, rfl⟩ := emit_cons emitted
    cases count with
    | zero => rfl
    | succ count =>
      simp only [List.take_succ_cons]
      unfold emit
      rw [stepped]
      simp only [ih count rested]

/-- A machine that never fails in good states and stays in them emits all its outputs. -/
theorem emit_total {Good : S → Prop} {Admissible : A → Prop}
    (total : ∀ state input, Good state → Admissible input → ∃ next output, step state input = .ok (next, output) ∧ Good next)
    (good : Good state) (admissible : ∀ input ∈ inputs, Admissible input) :
    ∃ outputs, emit step state inputs = .ok outputs := by
  induction inputs generalizing state with
  | nil => exact ⟨[], rfl⟩
  | cons input rest ih =>
    obtain ⟨next, output, stepped, still⟩ := total state input good (admissible input List.mem_cons_self)
    obtain ⟨later, rested⟩ := ih still fun other member => admissible other (List.mem_cons_of_mem _ member)
    refine ⟨output :: later, ?_⟩
    unfold emit
    rw [stepped]
    simp only [rested]

/-- A change of the states and the inputs that every step turns into a change of its output. -/
theorem emit_map {S' A' B' : Type} {step' : S' → A' → Except E (S' × B')} {change : S → S'} {given : A → A'} {told : B → B'}
    (commutes : ∀ state input, step' (change state) (given input) =
      (step state input).map fun (next, output) => (change next, told output)) (state : S) (inputs : List A) :
    emit step' (change state) (inputs.map given) = (emit step state inputs).map (List.map told) := by
  induction inputs generalizing state with
  | nil => rfl
  | cons input rest ih =>
    simp only [List.map_cons, emit, commutes]
    cases step state input with
    | error error => rfl
    | ok answer =>
      simp only [Except.map, ih]
      cases emit step answer.1 rest with
      | error error => rfl
      | ok outputs => rfl

/-- A machine whose outputs tell the inputs and the outputs of another runs the other. -/
theorem emit_projected {S' A' B' : Type} {step' : S' → A' → Except E (S' × B')} (project : S → S') (read : B → A')
    (told : B → B') (projects : ∀ state input next output, step state input = .ok (next, output) →
      step' (project state) (read output) = .ok (project next, told output))
    (emitted : emit step state inputs = .ok outputs) :
    emit step' (project state) (outputs.map read) = .ok (outputs.map told) := by
  induction inputs generalizing state outputs with
  | nil =>
    cases emitted
    rfl
  | cons input rest ih =>
    obtain ⟨next, output, later, stepped, rested, rfl⟩ := emit_cons emitted
    simp only [List.map_cons, emit, projects state input next output stepped, ih rested]

/-- A machine that does in one step what two do in turn gives what they give, where the second never fails. -/
theorem emit_eq_composed {S₁ S₂ C D F : Type} {first : S₁ → A → Except E (S₁ × C)} {second : S₂ → D → Except E (S₂ × F)}
    {tell : C → D} {join : C → F → B} {Related : S → S₁ → S₂ → Prop}
    (simulates : ∀ state one two input, Related state one two →
      (∃ error, step state input = .error error ∧ first one input = .error error) ∨
      ∃ next one' two' told output, first one input = .ok (one', told) ∧ second two (tell told) = .ok (two', output) ∧
        step state input = .ok (next, join told output) ∧ Related next one' two')
    {one : S₁} {two : S₂} (related : Related state one two) :
    emit step state inputs =
      match emit first one inputs with
      | .error error => .error error
      | .ok told =>
        match emit second two (told.map tell) with
        | .error error => .error error
        | .ok outputs => .ok (List.zipWith join told outputs) := by
  induction inputs generalizing state one two with
  | nil => rfl
  | cons input rest ih =>
    rcases simulates state one two input related with ⟨error, failed, alike⟩ |
      ⟨next, one', two', told, output, told_, answered, stepped, still⟩
    · simp only [emit, failed, alike]
    · simp only [emit, stepped, told_, ih still]
      cases emit first one' rest with
      | error error => rfl
      | ok later =>
        simp only [List.map_cons, emit, answered]
        cases emit second two' (later.map tell) with
        | error error => rfl
        | ok outputs => rfl

/-- A property that no step regains and a given output needs held of every state before it. -/
theorem emit_needs {Intact : S → Prop} {Needed : A → Prop} {Sound : B → Prop}
    (needs : ∀ state input next output, step state input = .ok (next, output) → (Sound output → Intact next) ∧
      (Intact next → Intact state ∧ Needed input))
    {count : Nat} {output : B} (emitted : emit step state inputs = .ok outputs) (found : outputs[count]? = some output)
    (sound : Sound output) : Intact state ∧ ∀ input ∈ inputs.take (count + 1), Needed input := by
  induction inputs generalizing state outputs count with
  | nil =>
    cases emitted
    cases found
  | cons input rest ih =>
    obtain ⟨next, first, later, stepped, rested, rfl⟩ := emit_cons emitted
    obtain ⟨intact_of_sound, before⟩ := needs state input next first stepped
    cases count with
    | zero =>
      cases found
      obtain ⟨intact, needed⟩ := before (intact_of_sound sound)
      refine ⟨intact, fun other member => ?_⟩
      rw [List.take_succ_cons, List.take_zero] at member
      exact List.mem_singleton.mp member ▸ needed
    | succ count =>
      obtain ⟨still, needed_later⟩ := ih rested found
      obtain ⟨intact, needed⟩ := before still
      refine ⟨intact, fun other member => ?_⟩
      rw [List.take_succ_cons] at member
      rcases List.mem_cons.mp member with rfl | later
      · exact needed
      · exact needed_later other later

section Avoidance

variable {C D : Type} {error : E}

theorem bind_ne_error {result : Except E C} {next : C → Except E D} (first : result ≠ .error error)
    (rest : ∀ value, next value ≠ .error error) : result >>= next ≠ .error error := by
  cases result with
  | error other => exact fun same => first (congrArg Except.error (Except.error.inj same))
  | ok value => exact rest value

theorem map_ne_error {result : Except E C} {change : C → D} (first : result ≠ .error error) :
    result.map change ≠ .error error := by
  cases result with
  | error other => exact fun same => first (congrArg Except.error (Except.error.inj same))
  | ok value => exact nofun

theorem mapM_ne_error {compute : C → Except E D} (avoids : ∀ value, compute value ≠ .error error) (values : List C) :
    values.mapM compute ≠ .error error := by
  induction values with
  | nil => exact nofun
  | cons value values ih =>
    rw [List.mapM_cons]
    exact bind_ne_error (avoids value) fun _ => bind_ne_error ih fun _ => nofun

/-- A machine that avoids an error in good states and stays in them never tells it. -/
theorem emit_ne_error (Good : S → Prop) (avoids : ∀ state input, Good state → step state input ≠ .error error ∧
      ∀ next output, step state input = .ok (next, output) → Good next) (good : Good state) (inputs : List A) :
    emit step state inputs ≠ .error error := by
  induction inputs generalizing state with
  | nil => exact nofun
  | cons input rest ih =>
    obtain ⟨avoided, stays⟩ := avoids state input good
    intro failed
    unfold emit at failed
    split at failed
    case h_1 other stepped =>
      cases failed
      exact avoided stepped
    case h_2 next output stepped =>
      split at failed
      case h_1 other rested =>
        cases failed
        exact ih (stays next output stepped) rested
      case h_2 => cases failed

end Avoidance

end AiTrader.Library
