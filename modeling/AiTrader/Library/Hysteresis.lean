import Mathlib.Data.List.DropRight
import AiTrader.Library.Replay

/-! # Confirmed recovery

A worse reading acts at once; a better one raises the state by one level at the second since the last transition or reset.
Where gaps pause, an unavailable reading between the two does not count; where they reset, it is a reset. -/

namespace AiTrader.Library

/-- One reading of a state that is held, with the confirmations that are pending before and after it. -/
structure Turn (S : Type) where
  (before reading : Option S)
  pending : Nat
  after : Option S
  left : Nat
  moved : Bool

namespace Turn

variable {S : Type} (level : S → Nat) {turn : Turn S}

/-- The reading is better than the state that is held. -/
def improving (turn : Turn S) : Bool :=
  turn.before.any fun held => turn.reading.any fun read => level held < level read

/-- The reading is valid and not better than the state that is held. -/
def contrary (turn : Turn S) : Bool :=
  turn.before.any fun held => turn.reading.any fun read => level read ≤ level held

/-- The state that is held gets better. -/
def improves (turn : Turn S) : Bool :=
  turn.before.any fun held => turn.after.any fun next => level held < level next

/-- A transition or a reset. -/
def breaks (pauses : Bool) (turn : Turn S) : Bool :=
  turn.moved || turn.contrary level || (!pauses && turn.reading.isNone)

/-- What a reading may do. -/
inductive Obeys (pauses : Bool) : Turn S → Prop where
  | gap (held : Option S) (pending : Nat) : Obeys pauses ⟨held, none, pending, held, if pauses then pending else 0, false⟩
  | bootstrap (read : S) : Obeys pauses ⟨none, some read, 0, some read, 0, false⟩
  | contrary {held read next : S} (pending : Nat) (moved : Bool) (worse : level read ≤ level held)
      (fell : level next ≤ level held) : Obeys pauses ⟨some held, some read, pending, some next, 0, moved⟩
  | first {held read : S} (better : level held < level read) :
      Obeys pauses ⟨some held, some read, 0, some held, 1, false⟩
  | second {held read next : S} (better : level held < level read) (one : level next = level held + 1) :
      Obeys pauses ⟨some held, some read, 1, some next, 0, true⟩

variable {level} {pauses : Bool}

section

variable (obeys : Obeys level pauses turn)
include obeys

/-- A state gets better exactly at a better reading with a confirmation pending. -/
theorem Obeys.improves_iff : turn.improves level = true ↔ turn.improving level = true ∧ turn.pending = 1 := by
  cases obeys with
  | gap held pending => cases held <;> simp [improves, improving]
  | bootstrap read => simp [improves, improving]
  | contrary pending moved worse fell => simp [improves, improving, Nat.not_lt.mpr worse, Nat.not_lt.mpr fell]
  | first better => simp [improves, improving]
  | second better one => simp [improves, improving, better, one]

/-- It gets better by one level. -/
theorem Obeys.one_level (improves : turn.improves level = true) : turn.after.map level = turn.before.map (level · + 1) := by
  cases obeys with
  | gap held pending => cases held <;> simp [Turn.improves] at improves
  | bootstrap read => simp [Turn.improves] at improves
  | contrary pending moved worse fell => simp [Turn.improves, Nat.not_lt.mpr fell] at improves
  | first better => simp [Turn.improves] at improves
  | second better one => simp [one]

/-- A transition or a reset leaves nothing pending, and every other better reading adds a confirmation. -/
theorem Obeys.left_eq (bound : turn.pending ≤ 1) :
    turn.left = if turn.breaks level pauses then 0 else turn.pending + if turn.improving level then 1 else 0 := by
  cases obeys with
  | gap held pending => cases pauses <;> cases held <;> simp [breaks, Turn.contrary, improving]
  | bootstrap read => simp [breaks, Turn.contrary, improving]
  | contrary pending moved worse fell => simp [breaks, Turn.contrary, worse]
  | first better => simp [breaks, Turn.contrary, improving, better]
  | second better one => simp [breaks]

/-- At most one confirmation is pending after a turn, and none while no state is held. -/
theorem Obeys.left_le (bound : turn.pending ≤ 1)
    (unheld : turn.before = none → turn.pending = 0) : turn.left ≤ 1 ∧ (turn.after = none → turn.left = 0) := by
  cases obeys with
  | gap held pending => cases pauses <;> simp_all
  | bootstrap read => simp
  | contrary pending moved worse fell => simp
  | first better => simp
  | second better one => simp

end

end Turn

section Runs

variable {S : Type} (level : S → Nat) (pauses : Bool)

/-- The better readings since the last transition or reset. -/
def confirmations (turns : List (Turn S)) : Nat :=
  (turns.rtakeWhile fun turn => !turn.breaks level pauses).countP (·.improving level)

/-- A run from no state, with the state that it holds at its end and the confirmations that are pending. -/
inductive ConfirmedRun : List (Turn S) → Option S → Nat → Prop where
  | start : ConfirmedRun [] none 0
  | next {turns : List (Turn S)} {turn : Turn S} (run : ConfirmedRun turns turn.before turn.pending)
      (obeys : turn.Obeys level pauses) : ConfirmedRun (turns ++ [turn]) turn.after turn.left

/-- In such a run the state gets better exactly at the second better reading since the last transition or reset, by one
level. -/
structure Confirmed (turns : List (Turn S)) : Prop where
  second : ∀ earlier turn later, turns = earlier ++ turn :: later →
    (turn.improves level = true ↔ turn.improving level = true ∧ confirmations level pauses earlier = 1)
  one_level : ∀ turn ∈ turns, turn.improves level = true → turn.after.map level = turn.before.map (level · + 1)
  bounded : ∀ turn ∈ turns, turn.pending ≤ 1 ∧ (turn.before = none → turn.pending = 0) ∧ turn.left ≤ 1 ∧
    (turn.after = none → turn.left = 0)

variable {level pauses} {turns earlier later : List (Turn S)} {turn : Turn S} {held : Option S} {pending : Nat}

theorem confirmations_concat (turns : List (Turn S)) (turn : Turn S) :
    confirmations level pauses (turns ++ [turn]) =
      if turn.breaks level pauses then 0
      else confirmations level pauses turns + if turn.improving level then 1 else 0 := by
  unfold confirmations
  by_cases broken : turn.breaks level pauses = true
  · rw [List.rtakeWhile_concat_neg _ _ _ (by simp [broken])]
    simp [broken]
  · rw [List.rtakeWhile_concat_pos _ _ _ (by simp [broken]), List.countP_append, List.countP_singleton]
    simp [broken]

section

variable (run : ConfirmedRun level pauses turns held pending)
include run

/-- What is pending is the number of better readings since the last transition or reset. -/
theorem ConfirmedRun.pending_eq :
    pending = confirmations level pauses turns ∧ pending ≤ 1 ∧ (held = none → pending = 0) := by
  induction run with
  | start => exact ⟨rfl, Nat.zero_le 1, fun _ => rfl⟩
  | @next turns turn run obeys ih =>
    obtain ⟨same, bound, unheld⟩ := ih
    refine ⟨?_, obeys.left_le bound unheld⟩
    rw [confirmations_concat, obeys.left_eq bound, same]

theorem ConfirmedRun.split (same : turns = earlier ++ turn :: later) :
    ConfirmedRun level pauses earlier turn.before turn.pending ∧ turn.Obeys level pauses := by
  induction run generalizing later with
  | start => simp at same
  | @next turns last run obeys ih =>
    rcases List.eq_nil_or_concat later with rfl | ⟨later, final, rfl⟩
    · obtain ⟨rfl, rfl⟩ := List.append_inj' same rfl |>.imp id List.singleton_inj.mp
      exact ⟨run, obeys⟩
    · rw [List.concat_eq_append, ← List.cons_append, ← List.append_assoc] at same
      exact ih (List.append_inj' same rfl).1

theorem ConfirmedRun.confirmed : Confirmed level pauses turns where
  second := by
    intro earlier turn later same
    obtain ⟨before, obeys⟩ := run.split same
    rw [obeys.improves_iff, before.pending_eq.1]
  one_level := by
    intro turn member
    obtain ⟨earlier, later, same⟩ := List.append_of_mem member
    exact (run.split same).2.one_level
  bounded := by
    intro turn member
    obtain ⟨earlier, later, same⟩ := List.append_of_mem member
    obtain ⟨before, obeys⟩ := run.split same
    obtain ⟨_, bound, unheld⟩ := before.pending_eq
    exact ⟨bound, unheld, obeys.left_le bound unheld⟩

end

end Runs

section Machines

variable {S H T E : Type} {level : S → Nat} {pauses : Bool} {advance : H → Option S → Except E T} {history : T → H}
  {turn : T → Turn S} {Sound : H → Prop} {held : H → Option S} {pending : H → Nat}

/-- The machine that advances from what each transition leaves. -/
def continued (advance : H → Option S → Except E T) (history : T → H) (state : H) (reading : Option S) :
    Except E (H × T) :=
  (advance state reading).map fun transition => (history transition, transition)

/-- At most one confirmation is pending, and none while no state is held. -/
def Bounded (held : H → Option S) (pending : H → Nat) (state : H) : Prop :=
  pending state ≤ 1 ∧ (held state = none → pending state = 0)

/-- What one advance is. -/
structure Advance (level : S → Nat) (pauses : Bool) (history : T → H) (turn : T → Turn S) (held : H → Option S)
    (pending : H → Nat) (state : H) (reading : Option S) (transition : T) : Prop where
  before : (turn transition).before = held state
  pendingBefore : (turn transition).pending = pending state
  reads : (turn transition).reading = reading
  after : (turn transition).after = held (history transition)
  left : (turn transition).left = pending (history transition)
  obeys : (turn transition).Obeys level pauses

theorem Advance.bounded {state : H} {reading : Option S} {transition : T}
    (advance : Advance level pauses history turn held pending state reading transition)
    (bounded : Bounded held pending state) : Bounded held pending (history transition) := by
  obtain ⟨bound, unheld⟩ := bounded
  obtain ⟨fewer, none_left⟩ := advance.obeys.left_le (advance.pendingBefore ▸ bound) fun absent =>
    advance.pendingBefore.trans (unheld (advance.before ▸ absent))
  exact ⟨advance.left ▸ fewer, fun absent => advance.left ▸ none_left (advance.after ▸ absent)⟩

/-- From a sound history an advance never fails, and leaves a sound history. -/
def Advances (level : S → Nat) (pauses : Bool) (advance : H → Option S → Except E T) (history : T → H) (turn : T → Turn S)
    (Sound : H → Prop) (held : H → Option S) (pending : H → Nat) : Prop :=
  ∀ state reading, Sound state → ∃ transition, advance state reading = .ok transition ∧
    Advance level pauses history turn held pending state reading transition ∧ Sound (history transition)

theorem Advances.run_from (advances : Advances level pauses advance history turn Sound held pending) {state : H}
    {earlier : List (Turn S)} (sound : Sound state) (run : ConfirmedRun level pauses earlier (held state) (pending state))
    (readings : List (Option S)) :
    ∃ transitions left, emit (continued advance history) state readings = .ok transitions ∧
      ConfirmedRun level pauses (earlier ++ transitions.map turn) (held left) (pending left) ∧
      transitions.map (fun transition => (turn transition).reading) = readings ∧
      ∀ transition ∈ transitions, ∃ state reading, Sound state ∧ advance state reading = .ok transition := by
  induction readings generalizing state earlier with
  | nil => exact ⟨[], state, rfl, by simpa using run, rfl, by simp⟩
  | cons reading readings ih =>
    obtain ⟨transition, advanced, step, still⟩ := advances state reading sound
    have until_ : ConfirmedRun level pauses earlier (turn transition).before (turn transition).pending := by
      rw [step.before, step.pendingBefore]
      exact run
    have further := until_.next step.obeys
    rw [step.after, step.left] at further
    obtain ⟨transitions, left, emitted, final, read, all⟩ := ih still further
    refine ⟨transition :: transitions, left, ?_, ?_, ?_, ?_⟩
    · have first : continued advance history state reading = .ok (history transition, transition) := by
        simp only [continued, advanced, Except.map]
      simp only [emit, first, emitted]
    · simpa using final
    · simp [step.reads, read]
    · intro other member
      rcases List.mem_cons.mp member with rfl | later
      · exact ⟨state, reading, sound, advanced⟩
      · exact all other later

/-- From the start every sequence of readings is a confirmed run, and none is rejected. -/
theorem Advances.confirmed (advances : Advances level pauses advance history turn Sound held pending) (start : H)
    (sound : Sound start) (unheld : held start = none) (unconfirmed : pending start = 0) (readings : List (Option S)) :
    ∃ transitions, emit (continued advance history) start readings = .ok transitions ∧
      Confirmed level pauses (transitions.map turn) ∧
      transitions.map (fun transition => (turn transition).reading) = readings ∧
      ∀ transition ∈ transitions, ∃ state reading, Sound state ∧ advance state reading = .ok transition := by
  have run : ConfirmedRun level pauses [] (held start) (pending start) := by
    rw [unheld, unconfirmed]
    exact .start
  obtain ⟨transitions, left, emitted, final, read, all⟩ := advances.run_from sound run readings
  exact ⟨transitions, emitted, final.confirmed, read, all⟩

/-- What a run leaves for the next one. -/
def leftBy (history : T → H) (start : H) (transitions : List T) : H := (transitions.getLast?.map history).getD start

/-- Advancing through the readings leaves what the run leaves. -/
theorem foldlM_continued (state : H) (readings : List (Option S)) :
    readings.foldlM (fun state reading => (advance state reading).map history) state =
      (emit (continued advance history) state readings).map (leftBy history state) := by
  induction readings generalizing state with
  | nil => rfl
  | cons reading readings ih =>
    rw [List.foldlM_cons, emit, continued]
    cases advance state reading with
    | error error => rfl
    | ok transition =>
      refine (ih (history transition)).trans ?_
      simp only [Except.map]
      cases emit (continued advance history) (history transition) readings with
      | error error => rfl
      | ok transitions => cases transitions <;> simp [leftBy, List.getLast?_cons]

end Machines

end AiTrader.Library
