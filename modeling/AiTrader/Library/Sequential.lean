import AiTrader.Library.Locking

/-! # Transactions that run alone

A service that holds a lock on its own tables runs its transactions one after another. -/

namespace AiTrader.Library

variable {S E α β : Type}

namespace Program

/-- The result of a program without interference; a question gets no answer but `silence`. -/
def evaluate (silence : E) : Program S E α → S → Except E α × S
  | .done result, store => (result, store)
  | .ask _, store => (.error silence, store)
  | .transact body next, store =>
    match body store with
    | .ok (value, after) => (next (.ok value)).evaluate silence after
    | .error error => (next (.error error)).evaluate silence store

variable {silence : E} {program : Program S E α} {next : α → Program S E β} {store after : S} {value : β}

theorem evaluate_bind : (program >>= next).evaluate silence store =
    match program.evaluate silence store with
    | (.ok value, after) => (next value).evaluate silence after
    | (.error error, after) => (.error error, after) := by
  induction program generalizing store with
  | done result => cases result <;> rfl
  | ask rest => rfl
  | transact body rest ih =>
    rw [show (transact body rest >>= next) = transact body fun reply => rest reply >>= next from rfl]
    cases returned : body store with
    | ok pair =>
      obtain ⟨value, after⟩ := pair
      simp only [evaluate, returned]
      exact ih (.ok value)
    | error error =>
      simp only [evaluate, returned]
      exact ih (.error error)

theorem evaluate_bind_eq_ok : (program >>= next).evaluate silence store = (.ok value, after) ↔
    ∃ first middle, program.evaluate silence store = (.ok first, middle) ∧
      (next first).evaluate silence middle = (.ok value, after) := by
  rw [evaluate_bind]
  cases returned : program.evaluate silence store with
  | mk result middle =>
    cases result with
    | ok first => simp
    | error error => simp

end Program

namespace Transaction

open Program

variable {silence : E} {sight : Sight S} {value : β}

theorem evaluate_statement {body : S → Except E (β × (S → S))} {after : Sight S} :
    (statement body : Transaction S E β).evaluate silence sight = (.ok value, after) ↔
      ∃ update, body sight.visible = .ok (value, update) ∧ after = { sight with writes := update ∘ sight.writes } := by
  unfold statement Program.commit
  cases returned : body sight.visible with
  | ok pair =>
    obtain ⟨result, update⟩ := pair
    simp only [evaluate, Sight.write, returned]
    constructor
    · intro same
      cases same
      exact ⟨update, rfl, rfl⟩
    · rintro ⟨other, same, rfl⟩
      cases same
      rfl
  | error error =>
    simp only [evaluate, Sight.write, returned]
    constructor
    · intro same
      cases same
    · rintro ⟨other, same, _⟩
      cases same

/-- The transaction from its begin to its end. -/
def alone (silence : E) (transaction : Transaction S E α) (store : S) : Except E α × S :=
  match transaction.evaluate silence ⟨store, id⟩ with
  | (.ok value, sight) => (.ok value, sight.visible)
  | (.error error, _) => (.error error, store)

theorem alone_eq_ok {transaction : Transaction S E α} {store after : S} {value : α} :
    transaction.alone silence store = (.ok value, after) ↔
      ∃ sight, transaction.evaluate silence ⟨store, id⟩ = (.ok value, sight) ∧ sight.visible = after := by
  unfold alone
  cases returned : transaction.evaluate silence ⟨store, id⟩ with
  | mk result sight =>
    cases result with
    | ok other =>
      constructor
      · intro same
        cases same
        exact ⟨sight, rfl, rfl⟩
      · rintro ⟨_, same, rfl⟩
        cases same
        rfl
    | error error =>
      constructor
      · intro same
        cases same
      · rintro ⟨_, same, _⟩
        cases same

end Transaction

/-- A service of several transactions, with exceptions; what was committed before an exception stays. -/
abbrev Sequential (S E α : Type) : Type := ExceptT E (StateM S) α

namespace Sequential

/-- The result of the service and the store it leaves. -/
def exec (service : Sequential S E α) (store : S) : Except E α × S := service.run.run store

/-- A value that was computed or an exception. -/
def attain (attempt : Except E α) : Sequential S E α := fun store => (attempt, store)

/-- A statement that reads. -/
def look (view : S → α) : Sequential S E α := fun store => (.ok (view store), store)

/-- A statement that writes. -/
def update (change : S → S) : Sequential S E Unit := fun store => (.ok (), change store)

/-- A transaction on a part of the store, whose exceptions are passed on. -/
def transact {T F : Type} (part : S → T) (replace : T → S → S) (wrap : F → E) (silence : F) (transaction : Transaction T F α) :
    Sequential S E α := fun store =>
  match transaction.alone silence (part store) with
  | (.ok value, after) => (.ok value, replace after store)
  | (.error error, after) => (.error (wrap error), replace after store)

variable {service : Sequential S E α} {next : α → Sequential S E β} {store after : S}

theorem exec_bind : (service >>= next).exec store =
    match service.exec store with
    | (.ok first, middle) => (next first).exec middle
    | (.error error, middle) => (.error error, middle) := by
  have unfolded : (service >>= next).exec store = ExceptT.bindCont next (service store).1 (service store).2 := rfl
  rw [unfolded, show service.exec store = service store from rfl]
  cases returned : service store with
  | mk result middle => cases result <;> rfl

theorem exec_bind_eq_ok {value : β} : (service >>= next).exec store = (.ok value, after) ↔
    ∃ first middle, service.exec store = (.ok first, middle) ∧ (next first).exec middle = (.ok value, after) := by
  rw [exec_bind]
  cases returned : service.exec store with
  | mk result middle =>
    cases result with
    | ok first => simp
    | error error => simp

@[simp] theorem exec_attain (attempt : Except E α) : (attain attempt : Sequential S E α).exec store = (attempt, store) := rfl

theorem exec_attain_bind_eq_ok {attempt : Except E α} {value : β} : (attain attempt >>= next).exec store = (.ok value, after) ↔
    ∃ first, attempt = .ok first ∧ (next first).exec store = (.ok value, after) := by
  rw [exec_bind, exec_attain]
  cases attempt <;> simp

theorem exec_transact_eq_ok {T F : Type} {part : S → T} {replace : T → S → S} {wrap : F → E} {silence : F}
    {transaction : Transaction T F α} {value : α} :
    (transact part replace wrap silence transaction : Sequential S E α).exec store = (.ok value, after) ↔
      ∃ left, transaction.alone silence (part store) = (.ok value, left) ∧ replace left store = after := by
  have unfolded : (transact part replace wrap silence transaction : Sequential S E α).exec store =
      match transaction.alone silence (part store) with
      | (.ok value, after) => (.ok value, replace after store)
      | (.error error, after) => (.error (wrap error), replace after store) := rfl
  rw [unfolded]
  cases returned : transaction.alone silence (part store) with
  | mk result left => cases result <;> simp [and_assoc]

end Sequential

end AiTrader.Library
