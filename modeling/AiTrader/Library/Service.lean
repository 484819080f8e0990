import Mathlib.Init

/-! # Requests served one after the other

A service whose transactions are serializable answers one request after the other. -/

namespace AiTrader.Library

/-- A refused request, with the status and the message it is answered with. -/
structure HttpError where
  status : Nat
  message : String
deriving DecidableEq

/-- Refuse unless the condition holds. -/
def require (held : Bool) (status : Nat) (message : String) : Except HttpError Unit :=
  if held then .ok () else .error ⟨status, message⟩

/-- Refuse unless the value is there. -/
def requireSome {α : Type} (value : Option α) (status : Nat) (message : String) : Except HttpError α :=
  match value with
  | some value => .ok value
  | none => .error ⟨status, message⟩

section Refusals

variable {α β ε : Type} {status : Nat} {message : String}

variable {held : Bool}

theorem require_eq_ok {answer : Unit} : require held status message = .ok answer ↔ held = true := by
  unfold require
  cases held <;> simp

theorem requireSome_eq_ok {given : Option α} {value : α} :
    requireSome given status message = .ok value ↔ given = some value := by
  cases given <;> simp [requireSome]

variable {next : α → Except ε β} {first : Except ε α}

/-- A step that succeeds leaves the rest. -/
theorem bind_eq_of_ok {value : α} {result : Except ε β}
    (done : first = .ok value) (later : next value = result) : (first >>= next) = result := by
  rw [done]
  exact later

theorem require_bind {next : Unit → Except HttpError β} {result : Except HttpError β} (holds : held = true)
    (later : next () = result) : (require held status message >>= next) = result :=
  bind_eq_of_ok (require_eq_ok.mpr holds) later

variable {result : β}

/-- What a transaction that did not fail has gone through. -/
theorem bind_eq_ok : (first >>= next) = .ok result ↔ ∃ value, first = .ok value ∧ next value = .ok result := by
  cases first with
  | error error =>
    constructor
    · intro failed
      cases failed
    · rintro ⟨value, failed, _⟩
      cases failed
  | ok value =>
    constructor
    · intro succeeded
      exact ⟨value, rfl, succeeded⟩
    · rintro ⟨other, same, succeeded⟩
      cases same
      exact succeeded

/-- Where a transaction that failed has failed. -/
theorem bind_eq_error {error : ε} :
    (first >>= next) = .error error ↔ first = .error error ∨ ∃ value, first = .ok value ∧ next value = .error error := by
  cases first with
  | error other =>
    constructor
    · intro failed
      cases failed
      exact .inl rfl
    · rintro (failed | ⟨value, succeeded, _⟩)
      · cases failed
        rfl
      · cases succeeded
  | ok value =>
    constructor
    · intro failed
      exact .inr ⟨value, rfl, failed⟩
    · rintro (failed | ⟨other, same, failed⟩)
      · cases failed
      · cases same
        exact failed

variable {body : α → Except ε β}

/-- A loop that did not fail, over a body that can only return what `make` says. -/
theorem mapM_eq_ok {make : α → β} (made : ∀ value result, body value = .ok result → result = make value)
    {values : List α} {results : List β} (mapped : values.mapM body = .ok results) :
    results = values.map make ∧ ∀ value ∈ values, body value = .ok (make value) := by
  induction values generalizing results with
  | nil =>
    cases mapped
    exact ⟨rfl, nofun⟩
  | cons value rest ih =>
    rw [List.mapM_cons] at mapped
    obtain ⟨result, first, mapped⟩ := bind_eq_ok.mp mapped
    obtain ⟨later, others, mapped⟩ := bind_eq_ok.mp mapped
    cases mapped
    obtain ⟨same, rest_made⟩ := ih others
    have head := made value result first
    refine ⟨by rw [List.map_cons, ← same, ← head], fun other member => ?_⟩
    rcases List.mem_cons.mp member with rfl | member
    · rw [← head]
      exact first
    · exact rest_made other member

/-- A loop that failed did so at one of its values. -/
theorem mapM_eq_error {values : List α} {error : ε} (failed : values.mapM body = .error error) :
    ∃ value ∈ values, body value = .error error := by
  induction values with
  | nil => cases failed
  | cons value rest ih =>
    rw [List.mapM_cons] at failed
    rcases bind_eq_error.mp failed with first | ⟨result, _, failed⟩
    · exact ⟨value, List.mem_cons_self, first⟩
    · rcases bind_eq_error.mp failed with later | ⟨_, _, impossible⟩
      · obtain ⟨other, member, told⟩ := ih later
        exact ⟨other, List.mem_cons_of_mem value member, told⟩
      · cases impossible

theorem mapM_congr {first second : α → Except ε β} {values : List α} (same : ∀ value ∈ values, first value = second value) :
    values.mapM first = values.mapM second := by
  induction values with
  | nil => rfl
  | cons value rest ih =>
    rw [List.mapM_cons, List.mapM_cons, same value List.mem_cons_self,
      ih fun other member => same other (List.mem_cons_of_mem value member)]

/-- A transaction that starts with a check has passed it. -/
theorem require_bind_eq_ok {next : Except HttpError β} :
    (require held status message >>= fun _ => next) = .ok result ↔ held = true ∧ next = .ok result := by
  rw [bind_eq_ok]
  constructor
  · rintro ⟨_, passed, rest⟩
    exact ⟨require_eq_ok.mp passed, rest⟩
  · rintro ⟨passed, rest⟩
    exact ⟨(), require_eq_ok.mpr passed, rest⟩

theorem requireSome_bind_eq_ok {given : Option α} {next : α → Except HttpError β} :
    (requireSome given status message >>= next) = .ok result ↔ ∃ value, given = some value ∧ next value = .ok result := by
  rw [bind_eq_ok]
  simp only [requireSome_eq_ok]

end Refusals

section Runs

variable {State Request : Type}

/-- The histories of accepted requests from a first state. -/
inductive Served (accepts : Request → State → State → Prop) (start : State) : List Request → State → Prop where
  | start : Served accepts start [] start
  | next {requests : List Request} {state after : State} {request : Request} (served : Served accepts start requests state)
      (accepted : accepts request state after) : Served accepts start (requests ++ [request]) after

variable {accepts stricter : Request → State → State → Prop} {start state : State} {requests : List Request}

/-- What every accepted request keeps holds after every history. -/
theorem Served.invariant {holds : State → Prop} (served : Served accepts start requests state) (initial : holds start)
    (kept : ∀ request before after, holds before → accepts request before after → holds after) : holds state := by
  induction served with
  | start => exact initial
  | next _ accepted ih => exact kept _ _ _ ih accepted

theorem Served.mono (served : Served stricter start requests state)
    (weaker : ∀ request before after, stricter request before after → accepts request before after) :
    Served accepts start requests state := by
  induction served with
  | start => exact .start
  | next _ accepted ih => exact ih.next (weaker _ _ _ accepted)

variable {later : List Request}

/-- One history after another is a history. -/
theorem Served.append {middle : State} (first : Served accepts start requests middle)
    (second : Served accepts middle later state) : Served accepts start (requests ++ later) state := by
  induction second with
  | start =>
    rw [List.append_nil]
    exact first
  | next _ accepted ih =>
    rw [← List.append_assoc]
    exact ih.next accepted

theorem Served.split (served : Served accepts start (requests ++ later) state) :
    ∃ middle, Served accepts start requests middle ∧ Served accepts middle later state := by
  generalize whole : requests ++ later = all at served
  induction served generalizing later with
  | start =>
    obtain ⟨rfl, rfl⟩ := List.append_eq_nil_iff.mp whole
    exact ⟨start, .start, .start⟩
  | @next before reached after request first accepted ih =>
    rcases List.eq_nil_or_concat later with rfl | ⟨front, last, rfl⟩
    · rw [List.append_nil] at whole
      exact ⟨after, whole ▸ first.next accepted, .start⟩
    · rw [List.concat_eq_append, ← List.append_assoc] at whole
      obtain ⟨same, one⟩ := List.append_inj' whole rfl
      obtain ⟨middle, early, late⟩ := ih same
      obtain rfl := List.singleton_inj.mp one
      rw [List.concat_eq_append]
      exact ⟨middle, early, late.next accepted⟩

theorem Served.eq_start (served : Served accepts start requests state) (none : requests = []) : state = start := by
  cases served with
  | start => rfl
  | next => exact absurd none (List.append_ne_nil_of_right_ne_nil _ (List.cons_ne_nil _ _))

/-- A history that starts with a request. -/
theorem Served.uncons {request : Request} (served : Served accepts start (request :: requests) state) :
    ∃ middle, accepts request start middle ∧ Served accepts middle requests state := by
  have whole : Served accepts start ([request] ++ requests) state := served
  obtain ⟨middle, first, rest⟩ := whole.split
  refine ⟨middle, ?_, rest⟩
  generalize one : [request] = single at first
  cases first with
  | start => cases one
  | @next before reached _ last early accepted =>
    have single : [] ++ [request] = before ++ [last] := one
    obtain ⟨none, same⟩ := List.append_inj' single rfl
    obtain rfl := List.singleton_inj.mp same
    obtain rfl := early.eq_start none.symm
    exact accepted

end Runs

end AiTrader.Library
