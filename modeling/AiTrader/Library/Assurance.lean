import AiTrader.Library.Program

/-! # Rules for programs under interference

A contract names what others may do between two transactions, what the program's own must do, and the invariant both keep.
-/

namespace AiTrader.Library

/-- What a program relies on between its transactions, and what each transaction guarantees. -/
structure Contract (S : Type) where
  /-- Holds in every store a program meets. -/
  invariant : S → Prop
  /-- What other writers may do between two transactions. -/
  rely : S → S → Prop
  /-- What one transaction of the program does. -/
  guarantee : S → S → Prop
  rely_refl : ∀ store, rely store store
  rely_trans : ∀ {first second third}, rely first second → rely second third → rely first third
  guarantee_refl : ∀ store, guarantee store store

namespace Program

variable {S E α β : Type} {contract : Contract S} {fault : E → Prop}

/-- Every transaction of the program meets the contract, and its result satisfies `post`. -/
def Assured (contract : Contract S) (fault : E → Prop) :
    Program S E α → (Except E α → S → Prop) → S → Prop
  | .done result, post, store => post result store
  | .ask next, post, store => ∀ reply, (next reply).Assured contract fault post store
  | .transact body next, post, store =>
    ∀ current, contract.rely store current → contract.invariant current →
      (∀ value after, body current = .ok (value, after) →
        contract.guarantee current after ∧ contract.invariant after ∧
        (next (.ok value)).Assured contract fault post after ∧
        ∀ error, fault error → (next (.error error)).Assured contract fault post after) ∧
      (∀ error, body current = .error error → (next (.error error)).Assured contract fault post current) ∧
      ∀ error, fault error → (next (.error error)).Assured contract fault post current

variable {next : α → Program S E β} {body : S → Except E (α × S)} {update : S → S} {second first program : Program S E α}
  {condition : Prop} {view : S → α} {post : Except E α → S → Prop} {store : S}

section Rules

variable {other : Except E α → S → Prop} {after : S}

theorem Assured.mono (assured : program.Assured contract fault post store)
    (implies : ∀ result current, post result current → other result current) :
    program.Assured contract fault other store := by
  induction program generalizing store with
  | done result => exact implies result store assured
  | ask next ih => exact fun reply => ih reply (assured reply)
  | transact body next ih =>
    intro current relied kept
    obtain ⟨committed, aborted, failed⟩ := assured current relied kept
    refine ⟨fun value after success => ?_, fun error failure => ih _ (aborted error failure),
      fun error faulty => ih _ (failed error faulty)⟩
    obtain ⟨guaranteed, invariant, resumed, lost⟩ := committed value after success
    exact ⟨guaranteed, invariant, ih _ resumed, fun error faulty => ih _ (lost error faulty)⟩

/-- Other writers do not invalidate an assurance whose postcondition they preserve. -/
theorem Assured.stable (assured : program.Assured contract fault post store)
    (preserved : ∀ result current later, contract.rely current later → post result current → post result later)
    (relied : contract.rely store after) : program.Assured contract fault post after := by
  induction program with
  | done result => exact preserved result store after relied assured
  | ask next ih => exact fun reply => ih reply (assured reply)
  | transact body next => exact fun current later kept => assured current (contract.rely_trans relied later) kept

theorem assured_resume {next : Except E α → Program S E β} {post : Except E β → S → Prop} :
    (program.resume next).Assured contract fault post store ↔
      program.Assured contract fault
        (fun result current => (next result).Assured contract fault post current) store := by
  induction program generalizing store with
  | done result => rfl
  | ask rest ih => simp only [resume, Assured, ih]
  | transact body rest ih => simp only [resume, Assured, ih]

theorem Assured.bind {post : Except E β → S → Prop} (assured : program.Assured contract fault (fun result current =>
      match result with
      | .ok value => (next value).Assured contract fault post current
      | .error error => post (.error error) current) store) :
    (program >>= next).Assured contract fault post store := by
  refine assured_resume.mpr (assured.mono fun result current held => ?_)
  cases result with
  | ok value => exact held
  | error error => exact held

theorem Assured.attempt {post : Except E (Except E α) → S → Prop}
    (assured : program.Assured contract fault (fun result current => post (.ok result) current) store) :
    program.attempt.Assured contract fault post store :=
  assured_resume.mpr assured

theorem assured_answer :
    (answer : Program S E α).Assured contract fault post store ↔ ∀ value, post (.ok value) store := Iff.rfl

theorem assured_ite [Decidable condition] (positive : condition → first.Assured contract fault post store)
    (negative : ¬ condition → second.Assured contract fault post store) :
    (if condition then first else second).Assured contract fault post store := by
  by_cases held : condition
  · rw [if_pos held]
    exact positive held
  · rw [if_neg held]
    exact negative held

/-- A read sees any store the other writers may have produced, and may fail. -/
theorem assured_read (held : ∀ current, contract.rely store current →
      contract.invariant current → post (.ok (view current)) current ∧
        ∀ error, fault error → post (.error error) current) :
    (read view : Program S E α).Assured contract fault post store := by
  intro current relied kept
  obtain ⟨returned, failed⟩ := held current relied kept
  refine ⟨fun value after success => ?_, nofun, failed⟩
  cases success
  exact ⟨contract.guarantee_refl current, kept, returned, failed⟩

/-- Reading and going on: the rest of the program starts from whatever store was read. -/
theorem Assured.readThen {post : Except E β → S → Prop}
    (held : ∀ current, contract.rely store current → contract.invariant current →
      (next (view current)).Assured contract fault post current ∧
        ∀ error, fault error → post (.error error) current) :
    (read view >>= next).Assured contract fault post store :=
  Assured.bind (assured_read held)

/-- A transaction is checked where it commits, not where its program last looked. -/
theorem assured_commit (held : ∀ current, contract.rely store current → contract.invariant current →
      (∀ value after, body current = .ok (value, after) →
        contract.guarantee current after ∧ contract.invariant after ∧ post (.ok value) after ∧
        ∀ error, fault error → post (.error error) after) ∧
      (∀ error, body current = .error error → post (.error error) current) ∧
      ∀ error, fault error → post (.error error) current) :
    (commit body : Program S E α).Assured contract fault post store := held

theorem assured_transaction {view : S → β} {body : β → S → Except E (α × S)}
    (held : ∀ seen current, contract.rely store seen → contract.invariant seen →
      contract.rely seen current → contract.invariant current →
      (∀ value after, body (view seen) current = .ok (value, after) →
        contract.guarantee current after ∧ contract.invariant after ∧ post (.ok value) after ∧
        ∀ error, fault error → post (.error error) after) ∧
      (∀ error, body (view seen) current = .error error → post (.error error) current) ∧
      ∀ error, fault error → post (.error error) current) :
    (transaction view body : Program S E α).Assured contract fault post store := by
  refine Assured.bind (assured_read fun seen relied kept => ⟨?_, ?_⟩)
  · exact assured_commit fun current later invariant => held seen current relied kept later invariant
  · exact fun error faulty => (held seen seen relied kept (contract.rely_refl seen) kept).2.2 error faulty

theorem assured_write {post : Except E Unit → S → Prop}
    (held : ∀ current, contract.rely store current → contract.invariant current →
      contract.guarantee current (update current) ∧ contract.invariant (update current) ∧
      post (.ok ()) (update current) ∧
      (∀ error, fault error → post (.error error) (update current)) ∧
      ∀ error, fault error → post (.error error) current) :
    (write update : Program S E Unit).Assured contract fault post store := by
  intro current relied kept
  obtain ⟨guaranteed, invariant, returned, lost, failed⟩ := held current relied kept
  refine ⟨fun value after success => ?_, nofun, failed⟩
  cases success
  exact ⟨guaranteed, invariant, returned, lost⟩

/-- A write between two stores that both satisfy the postcondition. -/
theorem assured_write_keeps {kept : S → Prop} (held : ∀ current, contract.rely store current →
      contract.invariant current → kept current ∧ contract.guarantee current (update current) ∧
        contract.invariant (update current) ∧ kept (update current)) :
    (write update : Program S E Unit).Assured contract fault (fun _ current => kept current) store :=
  assured_write fun current relied kept =>
    have ⟨before, guaranteed, invariant, after⟩ := held current relied kept
    ⟨guaranteed, invariant, after, fun _ _ => after, fun _ _ => before⟩

end Rules

/-- A program that meets the contract from every store and promises nothing about its result. -/
def Harmless (contract : Contract S) (fault : E → Prop) (program : Program S E α) : Prop :=
  ∀ store, program.Assured contract fault (fun _ _ => True) store

section HarmlessRules

section Frame

variable (assured : program.Assured contract fault post store) (harmless : program.Harmless contract fault)
  (weaker : Contract S) (kept : S → Prop)
  (same_rely : weaker.rely = contract.rely) (same_invariant : weaker.invariant = contract.invariant)
  (weakened : ∀ current after, contract.guarantee current after → weaker.guarantee current after)

section Keeping

variable (relied : ∀ current after, contract.rely current after → kept current → kept after)
  (guaranteed : ∀ current after, contract.guarantee current after → kept current → kept after)

include same_rely same_invariant weakened relied guaranteed

include assured in
/-- A program that meets a contract meets every weaker one and keeps what guarantee and rely keep. -/
theorem Assured.frame (initial : kept store) :
    program.Assured weaker fault (fun result current => post result current ∧ kept current) store := by
  induction program generalizing store with
  | done result => exact ⟨assured, initial⟩
  | ask next ih => exact fun reply => ih reply (assured reply) initial
  | transact body next ih =>
    intro current later invariant
    rw [same_rely] at later
    rw [same_invariant] at invariant
    obtain ⟨committed, aborted, failed⟩ := assured current later invariant
    have held := relied _ _ later initial
    refine ⟨fun value after success => ?_, fun error failure => ih _ (aborted error failure) held,
      fun error faulty => ih _ (failed error faulty) held⟩
    obtain ⟨permitted, invariant, resumed, lost⟩ := committed value after success
    have still := guaranteed _ _ permitted held
    exact ⟨weakened _ _ permitted, same_invariant ▸ invariant, ih _ resumed still,
      fun error faulty => ih _ (lost error faulty) still⟩

include harmless

/-- A harmless program keeps every property its contract keeps. -/
theorem Harmless.frame (initial : kept store) : program.Assured weaker fault (fun _ current => kept current) store :=
  ((harmless store).frame weaker kept same_rely same_invariant weakened relied guaranteed initial).mono
    fun _ _ held => held.2

/-- Harmless steps before a program that needs a property they keep. -/
theorem Harmless.before {post : Except E β → S → Prop} (initial : kept store)
    (rest : ∀ value current, kept current → (next value).Assured weaker fault post current)
    (thrown : ∀ error current, kept current → post (.error error) current) :
    (program >>= next).Assured weaker fault post store :=
  ((harmless.frame weaker kept same_rely same_invariant weakened relied guaranteed initial).mono
    fun result current held => by
      cases result with
      | ok value => exact rest value current held
      | error error => exact thrown error current held).bind

end Keeping

include same_rely same_invariant weakened

include assured in
theorem Assured.weaken : program.Assured weaker fault post store :=
  (assured.frame weaker (fun _ => True) same_rely same_invariant weakened (fun _ _ _ _ => trivial)
    (fun _ _ _ _ => trivial) trivial).mono fun _ _ held => held.1

variable {weaker}

include harmless in
theorem Harmless.weaken : program.Harmless weaker fault := fun store =>
  (harmless store).weaken weaker same_rely same_invariant weakened

end Frame

theorem harmless_pure {value : α} : (pure value : Program S E α).Harmless contract fault := fun _ => trivial

theorem harmless_throw {error : E} : (throw error : Program S E α).Harmless contract fault := fun _ => trivial

theorem harmless_ite [Decidable condition] (positive : first.Harmless contract fault)
    (negative : second.Harmless contract fault) : (if condition then first else second).Harmless contract fault :=
  fun store => assured_ite (fun _ => positive store) fun _ => negative store

theorem harmless_answer : (answer : Program S E α).Harmless contract fault := fun _ _ => trivial

theorem harmless_read {view : S → α} : (read view : Program S E α).Harmless contract fault := fun _ =>
  assured_read fun _ _ _ => ⟨trivial, fun _ _ => trivial⟩

theorem harmless_commit (held : ∀ current value after, contract.invariant current → body current = .ok (value, after) →
      contract.guarantee current after ∧ contract.invariant after) :
    (commit body : Program S E α).Harmless contract fault := fun _ =>
  assured_commit fun current _ kept =>
    ⟨fun value after success =>
      have ⟨guaranteed, invariant⟩ := held current value after kept success
      ⟨guaranteed, invariant, trivial, fun _ _ => trivial⟩,
    fun _ _ => trivial, fun _ _ => trivial⟩

theorem harmless_transaction {view : S → β} {body : β → S → Except E (α × S)}
    (held : ∀ seen current value after, contract.invariant seen → contract.rely seen current →
      contract.invariant current → body (view seen) current = .ok (value, after) →
      contract.guarantee current after ∧ contract.invariant after) :
    (transaction view body : Program S E α).Harmless contract fault := fun _ =>
  assured_transaction fun seen current _ kept relied invariant =>
    ⟨fun value after success =>
      have ⟨guaranteed, later⟩ := held seen current value after kept relied invariant success
      ⟨guaranteed, later, trivial, fun _ _ => trivial⟩,
    fun _ _ => trivial, fun _ _ => trivial⟩

theorem harmless_write (held : ∀ current, contract.invariant current →
      contract.guarantee current (update current) ∧ contract.invariant (update current)) :
    (write update : Program S E Unit).Harmless contract fault := fun _ =>
  assured_write fun current _ kept =>
    have ⟨guaranteed, invariant⟩ := held current kept
    ⟨guaranteed, invariant, trivial, fun _ _ => trivial, fun _ _ => trivial⟩

theorem Harmless.bind (first : program.Harmless contract fault) (rest : ∀ value, (next value).Harmless contract fault) :
    (program >>= next).Harmless contract fault := fun store =>
  ((first store).mono fun result current _ => by
    cases result with
    | ok value => exact rest value current
    | error error => trivial).bind

theorem Harmless.attempt (harmless : program.Harmless contract fault) :
    program.attempt.Harmless contract fault := fun store => (harmless store).attempt

end HarmlessRules

section Exceptions

/-- The contract that asks for nothing and relies on nothing. -/
def Contract.free : Contract S where
  invariant := fun _ => True
  rely := fun _ _ => True
  guarantee := fun _ _ => True
  rely_refl := fun _ => trivial
  rely_trans := fun _ _ => trivial
  guarantee_refl := fun _ => trivial

/-- Every exception that leaves the program is an allowed one, whatever the store does. -/
def Raises (fault allowed : E → Prop) (program : Program S E α) : Prop :=
  ∀ store, program.Assured Contract.free fault (fun result _ => ∀ error, result = .error error → allowed error) store

variable {allowed : E → Prop}

theorem raises_pure {value : α} : (pure value : Program S E α).Raises fault allowed :=
  nofun

theorem raises_throw {error : E} (permitted : allowed error) :
    (throw error : Program S E α).Raises fault allowed := by
  rintro _ _ ⟨⟩
  exact permitted

theorem raises_ite [Decidable condition] (positive : first.Raises fault allowed) (negative : second.Raises fault allowed) :
    (if condition then first else second).Raises fault allowed :=
  fun store => assured_ite (fun _ => positive store) fun _ => negative store

section

variable (faults : ∀ error, fault error → allowed error)
include faults

theorem raises_commit (thrown : ∀ store error, body store = .error error → allowed error) :
    (commit body : Program S E α).Raises fault allowed := fun _ =>
  assured_commit fun current _ _ =>
    ⟨fun _ _ _ => ⟨trivial, trivial, nofun,
      fun error faulty _ same => by cases same; exact faults error faulty⟩,
    fun error failure _ same => by cases same; exact thrown current error failure,
    fun error faulty _ same => by cases same; exact faults error faulty⟩

theorem raises_read : (read view : Program S E α).Raises fault allowed :=
  raises_commit faults nofun

theorem raises_write : (write update : Program S E Unit).Raises fault allowed :=
  raises_commit faults nofun

end

theorem Raises.bind (first : program.Raises fault allowed)
    (rest : ∀ value, (next value).Raises fault allowed) : (program >>= next).Raises fault allowed := fun store =>
  ((first store).mono fun result current permitted => by
    cases result with
    | ok value => exact rest value current
    | error error => exact fun _ same => by cases same; exact permitted error rfl).bind

/-- A caught program raises nothing. -/
theorem raises_attempt : program.attempt.Raises fault allowed := by
  intro store
  refine Assured.attempt ?_
  induction program generalizing store with
  | done result => exact fun _ impossible => by cases impossible
  | ask next ih => exact fun reply => ih reply store
  | transact body next ih =>
    exact fun current _ _ => ⟨fun _ after _ => ⟨trivial, trivial, ih _ after, fun _ _ => ih _ after⟩,
      fun _ _ => ih _ current, fun _ _ => ih _ current⟩

/-- What is known of the result of a program, whatever the store does, is known in every postcondition of it. -/
theorem Assured.knowing {known : Except E α → Prop} (assured : program.Assured contract fault post store)
    (free : program.Assured Contract.free fault (fun result _ => known result) store) :
    program.Assured contract fault (fun result current => post result current ∧ known result) store := by
  induction program generalizing store with
  | done result => exact ⟨assured, free⟩
  | ask next ih => exact fun reply => ih reply (assured reply) (free reply)
  | transact body next ih =>
    intro current relied kept
    obtain ⟨committed, aborted, failed⟩ := assured current relied kept
    obtain ⟨freely, stopped, lost⟩ := free current trivial trivial
    refine ⟨fun value after success => ?_, fun error failure => ih _ (aborted error failure) (stopped error failure),
      fun error faulty => ih _ (failed error faulty) (lost error faulty)⟩
    obtain ⟨guaranteed, invariant, resumed, unanswered⟩ := committed value after success
    obtain ⟨_, _, goes, vanished⟩ := freely value after success
    exact ⟨guaranteed, invariant, ih _ resumed goes, fun error faulty => ih _ (unanswered error faulty) (vanished error faulty)⟩

/-- What a program raises is known in every postcondition of it. -/
theorem Assured.raising (assured : program.Assured contract fault post store) (raises : program.Raises fault allowed) :
    program.Assured contract fault
      (fun result current => post result current ∧ ∀ error, result = .error error → allowed error) store :=
  assured.knowing (raises store)

end Exceptions

section Soundness

variable {next : Program S E α} {after : S}

/-- One step of an assured program stays assured, and changes the store only as guaranteed. -/
theorem Assured.step (assured : program.Assured contract fault post store)
    (kept : contract.invariant store) (step : Step fault program store next after) :
    contract.guarantee store after ∧ contract.invariant after ∧ next.Assured contract fault post after := by
  cases step with
  | ask reply => exact ⟨contract.guarantee_refl store, kept, assured reply⟩
  | commit success =>
    obtain ⟨guaranteed, invariant, resumed, _⟩ := (assured store (contract.rely_refl store) kept).1 _ _ success
    exact ⟨guaranteed, invariant, resumed⟩
  | abort failure =>
    exact ⟨contract.guarantee_refl store, kept, (assured store (contract.rely_refl store) kept).2.1 _ failure⟩
  | lostReply success faulty =>
    obtain ⟨guaranteed, invariant, _, lost⟩ := (assured store (contract.rely_refl store) kept).1 _ _ success
    exact ⟨guaranteed, invariant, lost _ faulty⟩
  | notExecuted faulty =>
    exact ⟨contract.guarantee_refl store, kept, (assured store (contract.rely_refl store) kept).2.2 _ faulty⟩

/-- An assured program stays assured through every interleaving with writers it relies on. -/
theorem Assured.interleaving {others : S → S → Prop} (assured : program.Assured contract fault post store)
    (kept : contract.invariant store)
    (permitted : ∀ before later, contract.invariant before → others before later →
      contract.rely before later ∧ contract.invariant later)
    (preserved : ∀ result current later, contract.rely current later → post result current → post result later)
    (run : Interleaving fault others (program, store) (next, after)) :
    contract.invariant after ∧ next.Assured contract fault post after := by
  refine run.invariant ⟨kept, assured⟩ ?_ ?_
  · rintro _ moved _ _ ⟨invariant, assured⟩ taken
    exact (assured.step invariant taken).2
  · rintro _ _ _ ⟨invariant, assured⟩ taken
    obtain ⟨relied, later⟩ := permitted _ _ invariant taken
    exact ⟨later, assured.stable preserved relied⟩

/-- The contract of a program that runs alone. -/
def Contract.alone : Contract S where
  invariant := fun _ => True
  rely := fun store after => store = after
  guarantee := fun _ _ => True
  rely_refl := fun _ => rfl
  rely_trans := fun early late => early.trans late
  guarantee_refl := fun _ => trivial

/-- What is assured among others is assured alone. -/
theorem Assured.solo (assured : program.Assured contract fault post store) (kept : contract.invariant store) :
    program.Assured Contract.alone fault post store := by
  induction program generalizing store with
  | done result => exact assured
  | ask next ih => exact fun reply => ih reply (assured reply) kept
  | transact body next ih =>
    rintro current rfl _
    obtain ⟨committed, aborted, failed⟩ := assured store (contract.rely_refl store) kept
    refine ⟨fun value after success => ?_, fun error failure => ih _ (aborted error failure) kept,
      fun error faulty => ih _ (failed error faulty) kept⟩
    obtain ⟨_, invariant, resumed, lost⟩ := committed value after success
    exact ⟨trivial, trivial, ih _ resumed invariant, fun error faulty => ih _ (lost error faulty) invariant⟩

/-- A program that runs alone ends as it is assured to. -/
theorem Assured.alone {result : Except E α} (assured : program.Assured Contract.alone fault post store)
    (run : Interleaving fault (fun _ _ => False) (program, store) (.done result, after)) : post result after :=
  (assured.interleaving trivial nofun (fun _ _ _ same held => same ▸ held) run).2

end Soundness

end Program

end AiTrader.Library
