import AiTrader.Library.Crew

/-! # Partial correctness under interference

What holds when a program returns, if it returns. -/

namespace AiTrader.Library

variable {S E α β : Type}

/-- The contract of programs that all keep `kept` and change the store along `grown`. -/
def growth (kept : S → Prop) (grown : S → S → Prop) (refl : ∀ store, grown store store)
    (trans : ∀ {first second third}, grown first second → grown second third → grown first third) : Contract S where
  invariant := kept
  rely := grown
  guarantee := grown
  rely_refl := refl
  rely_trans := trans
  guarantee_refl := refl

namespace Program

variable {contract : Contract S} {fault : E → Prop} {store : S} {held : α → S → Prop}

/-- The program meets the contract, and `held` holds of what it returns. -/
def Returns (contract : Contract S) (fault : E → Prop) (program : Program S E α) (held : α → S → Prop) (store : S) : Prop :=
  program.Assured contract fault (fun result current => ∀ value, result = .ok value → held value current) store

theorem returns_pure {value : α} (here : held value store) :
    (pure value : Program S E α).Returns contract fault held store := fun _ same => Except.ok.inj same ▸ here

theorem returns_throw {error : E} : (throw error : Program S E α).Returns contract fault held store :=
  nofun

theorem returns_done {result : Except E α} (here : ∀ value, result = .ok value → held value store) :
    (done result : Program S E α).Returns contract fault held store := here

theorem Returns.bind {program : Program S E β} {next : β → Program S E α} {middle : β → S → Prop}
    (first : program.Returns contract fault middle store)
    (rest : ∀ value current, middle value current → (next value).Returns contract fault held current) :
    (program >>= next).Returns contract fault held store := by
  refine Assured.bind (Assured.mono first fun result current left => ?_)
  cases result with
  | ok value => exact rest value current (left value rfl)
  | error error => exact nofun

variable {program : Program S E α}

theorem Returns.mono {weaker : α → S → Prop} (returns : program.Returns contract fault held store)
    (implies : ∀ value current, held value current → weaker value current) :
    program.Returns contract fault weaker store :=
  Assured.mono returns fun _ current left value same => implies value current (left value same)

theorem returns_answer (here : ∀ value, held value store) :
    (answer : Program S E α).Returns contract fault held store := fun value _ same => Except.ok.inj same ▸ here value

/-- A read returns what it finds in some later store. -/
theorem returns_read {view : S → α} (here : ∀ current, contract.rely store current → contract.invariant current →
      held (view current) current) : (read view : Program S E α).Returns contract fault held store :=
  assured_read fun current relied kept =>
    ⟨fun _ same => Except.ok.inj same ▸ here current relied kept, nofun⟩

/-- A transaction is checked where it commits. -/
theorem returns_commit {body : S → Except E (α × S)} (run : ∀ current value after, contract.rely store current →
      contract.invariant current → body current = .ok (value, after) →
      contract.guarantee current after ∧ contract.invariant after ∧ held value after) :
    (commit body : Program S E α).Returns contract fault held store :=
  assured_commit fun current relied kept =>
    ⟨fun value after success => by
      obtain ⟨guaranteed, invariant, here⟩ := run current value after relied kept success
      exact ⟨guaranteed, invariant, fun _ same => Except.ok.inj same ▸ here, nofun⟩,
    nofun, nofun⟩

theorem returns_ite {condition : Prop} [Decidable condition] {first second : Program S E α}
    (positive : condition → first.Returns contract fault held store)
    (negative : ¬ condition → second.Returns contract fault held store) :
    (if condition then first else second).Returns contract fault held store :=
  assured_ite positive negative

/-- A read that runs alone finds the store as it is. -/
theorem returns_alone_readThen {view : S → β} {next : β → Program S E α}
    (rest : (next (view store)).Returns Contract.alone fault held store) :
    (read view >>= next).Returns Contract.alone fault held store := by
  have reading : (read view : Program S E β).Returns Contract.alone fault
      (fun value current => value = view store ∧ current = store) store := returns_read fun _ same _ => by
    cases same
    exact ⟨rfl, rfl⟩
  refine reading.bind fun value current found => ?_
  obtain ⟨rfl, rfl⟩ := found
  exact rest

/-- A property that the contract keeps holds after a program as before it, whether it returned or threw. -/
theorem Returns.attempt (returns : program.Returns contract fault held store) {kept : S → Prop}
    (relied : ∀ current after, contract.rely current after → kept current → kept after)
    (guaranteed : ∀ current after, contract.guarantee current after → kept current → kept after) (initial : kept store) :
    program.attempt.Returns contract fault
      (fun result current => kept current ∧ ∀ value, result = .ok value → held value current) store := by
  have framed := Assured.frame returns contract kept rfl rfl (fun _ _ same => same) relied guaranteed initial
  refine Assured.attempt (framed.mono fun result current left value same => ?_)
  cases same
  exact ⟨left.2, left.1⟩

/-- What a program returns holds beside what the contract keeps. -/
theorem Returns.keeping (returns : program.Returns contract fault held store) {kept : S → Prop}
    (relied : ∀ current after, contract.rely current after → kept current → kept after)
    (guaranteed : ∀ current after, contract.guarantee current after → kept current → kept after) (initial : kept store) :
    program.Returns contract fault (fun value current => held value current ∧ kept current) store := by
  have framed := Assured.frame returns contract kept rfl rfl (fun _ _ same => same) relied guaranteed initial
  exact framed.mono fun result current left value same => ⟨left.1 value same, left.2⟩

theorem Harmless.returns (harmless : program.Harmless contract fault)
    (here : ∀ value current, held value current) : program.Returns contract fault held store :=
  (harmless store).mono fun _ current _ value _ => here value current

/-- A program with any postcondition is harmless. -/
theorem Returns.harmless (returns : ∀ store, program.Returns contract fault held store) :
    program.Harmless contract fault := fun store => Assured.mono (returns store) fun _ _ _ => trivial

end Program

namespace Crew

variable {fault : E → Prop} {job : Nat → Program S E α → Prop} {world : S → S → Prop} {crew : Crew S E α} {start : S}
  {kept : S → Prop} {grown : S → S → Prop} {refl : ∀ store, grown store store}
  {trans : ∀ {first second third}, grown first second → grown second third → grown first third}

/-- A run under a growth contract grows the store and keeps the invariant, and what a member returned holds. -/
theorem grown_of_run {held : Nat → α → S → Prop}
    (others : ∀ {store after}, kept store → world store after → kept after ∧ grown store after)
    (lasting : ∀ {member value store after}, grown store after → held member value store → held member value after)
    (returns : ∀ {member program store}, job member program →
      program.Returns (growth kept grown refl trans) fault (held member) store)
    (initial : kept start) (run : Run fault job world (idle start) crew) :
    kept crew.store ∧ grown start crew.store ∧
      ∀ member value, crew.running member = some (.done (.ok value)) → held member value crew.store := by
  let discipline : Discipline fault job world := common (growth kept grown refl trans)
    (fun member result store => ∀ value, result = .ok value → held member value store) id others
    (fun relied left value same => lasting relied (left value same)) returns
  have idle : Sound discipline (idle start) := sound_idle initial fun _ => trivial
  have sound : Sound discipline crew := idle.run run
  refine ⟨sound.invariant, ?_, fun member value done => sound.returned done value rfl⟩
  exact idle.relied (fun _ => rfl) id run

end Crew

end AiTrader.Library
