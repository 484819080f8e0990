import AiTrader.Library.Program

/-! # Programs that end

A program ends within a number of statements when it does so whatever it is answered and however its transactions end. -/

namespace AiTrader.Library.Program

variable {S E α β : Type} {fault : E → Prop} {others : S → S → Prop}

/-- The program is done after at most `limit` statements. -/
def Within : Program S E α → Nat → Prop
  | .done _, _ => True
  | .ask next, limit => ∃ rest, limit = rest + 1 ∧ ∀ reply, (next reply).Within rest
  | .transact _ next, limit => ∃ rest, limit = rest + 1 ∧ ∀ reply, (next reply).Within rest

/-- A run with the number of its statements, among steps of other writers. -/
inductive Taking (fault : E → Prop) (others : S → S → Prop) (program : Program S E α) (start : S) :
    Nat → Program S E α → S → Prop where
  | start : Taking fault others program start 0 program start
  | own {steps : Nat} {current next : Program S E α} {store after : S}
      (run : Taking fault others program start steps current store) (step : Step fault current store next after) :
      Taking fault others program start (steps + 1) next after
  | other {steps : Nat} {current : Program S E α} {store after : S}
      (run : Taking fault others program start steps current store) (step : others store after) :
      Taking fault others program start steps current after

section Rules

variable {program : Program S E α} {limit more : Nat}

theorem Within.mono (within : program.Within limit) (larger : limit ≤ more) : program.Within more := by
  induction program generalizing limit more with
  | done => trivial
  | ask next ih =>
    obtain ⟨rest, rfl, within⟩ := within
    exact ⟨more - 1, by omega, fun reply => ih reply (within reply) (by omega)⟩
  | transact body next ih =>
    obtain ⟨rest, rfl, within⟩ := within
    exact ⟨more - 1, by omega, fun reply => ih reply (within reply) (by omega)⟩

/-- A sequence takes the statements of both its programs. -/
theorem Within.bind {next : α → Program S E β} (first : program.Within limit)
    (rest : ∀ value, (next value).Within more) : (program >>= next).Within (limit + more) := by
  induction program generalizing limit with
  | done result =>
    cases result with
    | ok value => exact (rest value).mono (Nat.le_add_left _ _)
    | error error => trivial
  | ask following ih =>
    obtain ⟨fewer, rfl, within⟩ := first
    exact ⟨fewer + more, by omega, fun reply => ih reply (within reply)⟩
  | transact body following ih =>
    obtain ⟨fewer, rfl, within⟩ := first
    exact ⟨fewer + more, by omega, fun reply => ih reply (within reply)⟩

/-- Every statement leaves one less. -/
theorem Within.step {next : Program S E α} {store after : S} (within : program.Within limit)
    (step : Step fault program store next after) : ∃ rest, limit = rest + 1 ∧ next.Within rest := by
  cases step with
  | ask reply =>
    obtain ⟨rest, same, within⟩ := within
    exact ⟨rest, same, within reply⟩
  | commit | abort | lostReply | notExecuted =>
    obtain ⟨rest, same, within⟩ := within
    exact ⟨rest, same, within _⟩

theorem Within.taking {steps : Nat} {next : Program S E α} {store after : S} (within : program.Within limit)
    (run : Taking fault others program store steps next after) : ∃ rest, limit = steps + rest ∧ next.Within rest := by
  induction run with
  | start => exact ⟨limit, (Nat.zero_add limit).symm, within⟩
  | own _ step ih =>
    obtain ⟨rest, same, left⟩ := ih
    obtain ⟨fewer, rfl, fewer_left⟩ := left.step step
    exact ⟨fewer, by omega, fewer_left⟩
  | other _ _ ih => exact ih

end Rules

end AiTrader.Library.Program
