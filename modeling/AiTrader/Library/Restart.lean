import Mathlib.Data.List.DropRight
import AiTrader.Library.Replay
import AiTrader.Library.Service

/-! # Series with gaps

A machine that starts over at every gap tells nothing of what came before the last one. -/

namespace AiTrader.Library

variable {index : Nat}

section Restart

variable {S A B E : Type} {step : S → A → Except E (S × B)} {start state : S} {inputs run : List A} {outputs : List B}
  {present : A → Bool}

/-- After every gap the machine goes on as from its start. -/
def Restarts (step : S → A → Except E (S × B)) (start : S) (present : A → Bool) : Prop :=
  ∀ state input next output, present input = false → step state input = .ok (next, output) →
    ∀ run, emit step next run = emit step start run

/-- What follows a gap is told as if nothing preceded it. -/
theorem emit_restart (restarts : Restarts step start present) {earlier : List A} {gap : A} (absent : present gap = false)
    (emitted : emit step state (earlier ++ gap :: run) = .ok outputs) :
    emit step start run = .ok (outputs.drop (earlier.length + 1)) := by
  induction earlier generalizing state outputs with
  | nil =>
    obtain ⟨next, output, later, stepped, rested, rfl⟩ := emit_cons emitted
    rw [restarts state gap next output absent stepped run] at rested
    simpa using rested
  | cons input earlier ih =>
    obtain ⟨next, output, later, _, rested, rfl⟩ := emit_cons emitted
    have tail := ih rested
    simpa using tail

/-- A computation over a series whose outputs depend on the inputs up to them and forget what precedes a gap. -/
structure GapLocal (compute : List A → Except E (List B)) (present : A → Bool) : Prop where
  length : ∀ inputs outputs, compute inputs = .ok outputs → outputs.length = inputs.length
  take : ∀ inputs outputs count, compute inputs = .ok outputs → compute (inputs.take count) = .ok (outputs.take count)
  restart : ∀ earlier gap run outputs, present gap = false → compute (earlier ++ gap :: run) = .ok outputs →
    compute run = .ok (outputs.drop (earlier.length + 1))

theorem Restarts.gapLocal (restarts : Restarts step start present) : GapLocal (emit step start) present where
  length := fun _ _ emitted => length_emit emitted
  take := fun _ _ count emitted => emit_take count emitted
  restart := fun _ _ _ _ absent emitted => emit_restart restarts absent emitted

variable {compute : List A → Except E (List B)}

theorem GapLocal.told (gapLocal : GapLocal compute present) {index : Nat} {input : A}
    (computed : compute inputs = .ok outputs) (found : inputs[index]? = some input) : ∃ output, outputs[index]? = some output := by
  obtain ⟨bound, _⟩ := List.getElem?_eq_some_iff.mp found
  rw [← gapLocal.length inputs outputs computed] at bound
  exact ⟨_, List.getElem?_eq_getElem bound⟩

theorem GapLocal.found (gapLocal : GapLocal compute present) {index : Nat} {output : B}
    (computed : compute inputs = .ok outputs) (told : outputs[index]? = some output) : ∃ input, inputs[index]? = some input := by
  obtain ⟨bound, _⟩ := List.getElem?_eq_some_iff.mp told
  rw [gapLocal.length inputs outputs computed] at bound
  exact ⟨_, List.getElem?_eq_getElem bound⟩

/-- A pass over the outputs of another, which is told of every gap. -/
theorem GapLocal.comp {C : Type} {first : List A → Except E (List B)} {second : List B → Except E (List C)}
    {told : B → Bool} (one : GapLocal first present) (two : GapLocal second told)
    (gaps : ∀ (inputs : List A) (outputs : List B) (index : Nat) (input : A) (output : B), first inputs = .ok outputs →
      inputs[index]? = some input → outputs[index]? = some output → present input = false → told output = false) :
    GapLocal (fun inputs => first inputs >>= second) present where
  length := by
    intro inputs outputs computed
    obtain ⟨middle, firstly, secondly⟩ := bind_eq_ok.mp computed
    exact (two.length middle outputs secondly).trans (one.length inputs middle firstly)
  take := by
    intro inputs outputs count computed
    obtain ⟨middle, firstly, secondly⟩ := bind_eq_ok.mp computed
    exact bind_eq_ok.mpr ⟨_, one.take inputs middle count firstly, two.take middle outputs count secondly⟩
  restart := by
    intro earlier gap run outputs absent computed
    obtain ⟨middle, firstly, secondly⟩ := bind_eq_ok.mp computed
    have length := one.length _ _ firstly
    simp only [List.length_append, List.length_cons] at length
    have at_ : middle[earlier.length]? = some middle[earlier.length] := List.getElem?_eq_getElem (by omega)
    have known := gaps _ _ earlier.length gap _ firstly (by simp) at_ absent
    have split : middle = middle.take earlier.length ++ middle[earlier.length] :: middle.drop (earlier.length + 1) := by
      rw [← List.drop_eq_getElem_cons, List.take_append_drop]
    rw [split] at secondly
    have restarted := two.restart _ _ _ _ known secondly
    rw [List.length_take, Nat.min_eq_left (by omega)] at restarted
    exact bind_eq_ok.mpr ⟨_, one.restart _ _ _ _ absent firstly, restarted⟩

/-- The outputs of a pass beside its inputs. -/
theorem GapLocal.paired (gapLocal : GapLocal compute present) :
    GapLocal (fun inputs => compute inputs >>= fun outputs => .ok (inputs.zip outputs)) present where
  length := by
    intro inputs pairs computed
    obtain ⟨outputs, firstly, same⟩ := bind_eq_ok.mp computed
    cases same
    rw [List.length_zip, gapLocal.length inputs outputs firstly, Nat.min_self]
  take := by
    intro inputs pairs count computed
    obtain ⟨outputs, firstly, same⟩ := bind_eq_ok.mp computed
    cases same
    exact bind_eq_ok.mpr ⟨_, gapLocal.take inputs outputs count firstly, congrArg Except.ok List.take_zipWith.symm⟩
  restart := by
    intro earlier gap run pairs absent computed
    obtain ⟨outputs, firstly, same⟩ := bind_eq_ok.mp computed
    cases same
    refine bind_eq_ok.mpr ⟨_, gapLocal.restart _ _ _ _ absent firstly, congrArg Except.ok ?_⟩
    have later : (earlier ++ gap :: run).drop (earlier.length + 1) = run := by
      rw [← List.drop_drop, List.drop_left]
      rfl
    have pairs : ((earlier ++ gap :: run).zip outputs).drop (earlier.length + 1) =
        run.zip (outputs.drop (earlier.length + 1)) := by
      refine Eq.trans List.drop_zipWith ?_
      rw [later]
      rfl
    exact pairs.symm

/-- The inputs since the last gap, up to an index. -/
def sinceGap (present : A → Bool) (inputs : List A) (index : Nat) : List A := (inputs.take (index + 1)).rtakeWhile present

theorem present_of_mem_sinceGap {input : A} (member : input ∈ sinceGap present inputs index) : present input = true :=
  List.mem_rtakeWhile_imp member

theorem sinceGap_of_absent {input : A} (found : inputs[index]? = some input) (absent : present input = false) :
    sinceGap present inputs index = [] := by
  have last : inputs.take (index + 1) = inputs.take index ++ [input] := by rw [List.take_add_one, found]; rfl
  rw [sinceGap, last]
  exact List.rtakeWhile_concat_neg _ _ _ (by simp [absent])

theorem sinceGap_of_present {input : A} (found : inputs[index]? = some input) (here : present input = true) :
    ∃ earlier, sinceGap present inputs index = earlier ++ [input] := by
  have last : inputs.take (index + 1) = inputs.take index ++ [input] := by rw [List.take_add_one, found]; rfl
  rw [sinceGap, last]
  exact ⟨_, List.rtakeWhile_concat_pos _ _ _ here⟩

theorem sinceGap_map {D : Type} (change : D → A) (inputs : List D) (index : Nat) :
    sinceGap present (inputs.map change) index = (sinceGap (present ∘ change) inputs index).map change := by
  rw [sinceGap, sinceGap, ← List.map_take, List.rtakeWhile, List.rtakeWhile, ← List.map_reverse, List.takeWhile_map,
    List.map_reverse]

/-- Without a gap all inputs are since the last one. -/
theorem sinceGap_of_all (all : ∀ input ∈ inputs, present input = true) :
    sinceGap present inputs (inputs.length - 1) = inputs := by
  rw [sinceGap, List.take_of_length_le (by omega)]
  exact List.rtakeWhile_eq_self_iff.mpr all

/-- The inputs since the last gap are a suffix of the inputs up to the index. -/
theorem sinceGap_eq_drop (present : A → Bool) (inputs : List A) (index : Nat) :
    sinceGap present inputs index =
      (inputs.take (index + 1)).drop ((inputs.take (index + 1)).length - (sinceGap present inputs index).length) :=
  List.suffix_iff_eq_drop.mp (List.rtakeWhile_suffix present _)

theorem length_sinceGap_le (present : A → Bool) (inputs : List A) (index : Nat) :
    (sinceGap present inputs index).length ≤ index + 1 := by
  have suffix := (List.rtakeWhile_suffix present (inputs.take (index + 1))).length_le
  rw [List.length_take] at suffix
  exact suffix.trans (Nat.min_le_left _ _)

/-- What comes at most as many places before an index as the inputs since the last gap is one of them. -/
theorem present_back (places : Nat) (bound : index < inputs.length)
    (near : places < (sinceGap present inputs index).length) :
    ∃ input, inputs[index - places]? = some input ∧ present input = true := by
  have atMost := length_sinceGap_le present inputs index
  have split := sinceGap_eq_drop present inputs index
  rw [List.length_take, Nat.min_eq_left (by omega)] at split
  have found : (sinceGap present inputs index)[(sinceGap present inputs index).length - 1 - places]? =
      inputs[index - places]? := by
    rw [split]
    rw [List.getElem?_drop, ← split, List.getElem?_take_of_lt (by omega)]
    congr 1
    omega
  have inside : (sinceGap present inputs index).length - 1 - places < (sinceGap present inputs index).length := by omega
  exact ⟨_, by rw [← found, List.getElem?_eq_getElem inside], present_of_mem_sinceGap (List.getElem_mem inside)⟩

/-- The outputs since the last gap are those of the inputs since then alone. -/
theorem GapLocal.computed (gapLocal : GapLocal compute present) {index : Nat}
    (bound : index < inputs.length) (computed : compute inputs = .ok outputs) :
    compute (sinceGap present inputs index) =
      .ok ((outputs.take (index + 1)).drop (index + 1 - (sinceGap present inputs index).length)) := by
  have taken := gapLocal.take inputs outputs (index + 1) computed
  have split := List.rdropWhile_append_rtakeWhile (p := present) (l := inputs.take (index + 1))
  have lengths := congrArg List.length split
  rw [List.length_append, List.length_take, Nat.min_eq_left (by omega)] at lengths
  rcases List.eq_nil_or_concat ((inputs.take (index + 1)).rdropWhile present) with none | ⟨earlier, gap, before⟩
  · rw [none, List.nil_append] at split
    rw [none, List.length_nil, Nat.zero_add] at lengths
    rw [sinceGap, lengths, Nat.sub_self, split]
    exact taken
  · have absent : present gap = false := by
      have last := List.rdropWhile_last_not present (inputs.take (index + 1)) (by simp [before])
      simpa [before] using last
    have restarted : compute (sinceGap present inputs index) = .ok ((outputs.take (index + 1)).drop (earlier.length + 1)) := by
      apply gapLocal.restart earlier gap
      · exact absent
      · rw [← taken, ← split, before, List.concat_eq_append, List.append_assoc]
        rfl
    have gapAt : index + 1 - (sinceGap present inputs index).length = earlier.length + 1 := by
      rw [before] at lengths
      simp only [List.concat_eq_append, List.length_append, List.length_singleton] at lengths
      rw [sinceGap]
      omega
    rw [gapAt]
    exact restarted

/-- The output at an index is the last one that the inputs since the last gap alone give. -/
theorem GapLocal.last (gapLocal : GapLocal compute present) {index : Nat} {input : A}
    {output : B} (found : inputs[index]? = some input) (here : present input = true)
    (computed : compute inputs = .ok outputs) (told : outputs[index]? = some output) :
    ∃ alone, compute (sinceGap present inputs index) = .ok alone ∧ alone.getLast? = some output := by
  obtain ⟨bound, _⟩ := List.getElem?_eq_some_iff.mp found
  obtain ⟨earlier, run⟩ := sinceGap_of_present found here
  refine ⟨_, gapLocal.computed bound computed, ?_⟩
  have length := gapLocal.length inputs outputs computed
  have some : (sinceGap present inputs index).length ≠ 0 := by simp [run]
  rw [List.getLast?_drop, List.length_take, length, if_neg (by omega), List.getLast?_take, if_neg (by omega),
    Nat.add_sub_cancel, told]
  rfl

/-- The output at an index is the last one of the inputs since the last gap alone. -/
theorem GapLocal.since (gapLocal : GapLocal compute present) {index : Nat} {input : A}
    {output fallback : B} (found : inputs[index]? = some input) (computed : compute inputs = .ok outputs)
    (told : outputs[index]? = some output) (missing : present input = false → output = fallback) :
    ∃ alone, compute (sinceGap present inputs index) = .ok alone ∧ alone.getLast?.getD fallback = output := by
  cases here : present input with
  | true =>
    obtain ⟨alone, again, last⟩ := gapLocal.last found here computed told
    exact ⟨alone, again, by rw [last]; rfl⟩
  | false =>
    have nothing := gapLocal.take inputs outputs 0 computed
    rw [sinceGap_of_absent found here, missing here]
    exact ⟨[], nothing, rfl⟩

/-- The inputs since the last gap include all that are present in a row. -/
theorem le_length_sinceGap {count : Nat} (inside : count ≤ index + 1)
    (all : ∀ places < count, ∃ input, inputs[index - places]? = some input ∧ present input = true) :
    count ≤ (sinceGap present inputs index).length := by
  induction count generalizing index with
  | zero => omega
  | succ count ih =>
    obtain ⟨input, found, here⟩ := all 0 (by omega)
    rw [Nat.sub_zero] at found
    have last : inputs.take (index + 1) = inputs.take index ++ [input] := by rw [List.take_add_one, found]; rfl
    rw [sinceGap, last, List.rtakeWhile_concat_pos _ _ _ here, List.length_append, List.length_singleton]
    cases index with
    | zero => omega
    | succ index =>
      have before : count ≤ (sinceGap present inputs index).length := by
        apply ih (by omega)
        intro places near
        obtain ⟨other, at_, present⟩ := all (places + 1) (by omega)
        rw [show index + 1 - (places + 1) = index - places by omega] at at_
        exact ⟨other, at_, present⟩
      rw [sinceGap] at before
      omega

/-- What holds of a machine after a number of present inputs, and of what it then tells. -/
theorem emit_counted (Holds : Nat → S → Prop) (Told : Nat → A → B → Prop)
    (steps : ∀ count state input next output, Holds count state → present input = true →
      step state input = .ok (next, output) → Holds (count + 1) next ∧ Told (count + 1) input output)
    {count index : Nat} {input : A} {output : B} (holds : Holds count state) (all : ∀ input ∈ inputs, present input = true)
    (emitted : emit step state inputs = .ok outputs) (found : inputs[index]? = some input)
    (told : outputs[index]? = some output) : Told (count + index + 1) input output := by
  induction inputs generalizing state outputs count index with
  | nil => cases found
  | cons first rest ih =>
    obtain ⟨next, answer, later, stepped, rested, rfl⟩ := emit_cons emitted
    obtain ⟨still, here⟩ := steps count state first next answer holds (all first List.mem_cons_self) stepped
    cases index with
    | zero =>
      cases found
      cases told
      exact here
    | succ index =>
      have tail := ih still (fun other member => all other (List.mem_cons_of_mem _ member)) rested found told
      rwa [show count + (index + 1) + 1 = count + 1 + index + 1 by omega]

/-- The number of inputs that are present in a row, with one more input. -/
def lengthened (present : A → Bool) (count : Nat) (input : A) : Nat := if present input then count + 1 else 0

theorem foldl_lengthened (present : A → Bool) (inputs : List A) :
    inputs.foldl (lengthened present) 0 = (inputs.rtakeWhile present).length := by
  induction inputs using List.reverseRecOn with
  | nil => simp
  | append_singleton inputs input ih =>
    rw [List.foldl_concat, ih]
    by_cases here : present input
    · simp [lengthened, here]
    · simp [lengthened, here]

end Restart

/-- An average that the mean of the first values seeds and every further value advances. -/
structure Smoothing (N E : Type) where
  period : Nat
  invalid : N → Option E
  mean : List N → N
  advance : N → N → N

namespace Smoothing

variable {N E : Type} (smoothing : Smoothing N E)

/-- The average and its seed with one more value, `none` for a gap. -/
def step (memory : Option N × List N) : Option N → Except E ((Option N × List N) × Option N)
  | none => .ok ((none, []), none)
  | some value =>
    match smoothing.invalid value with
    | some error => .error error
    | none =>
      match memory.1 with
      | some average =>
        .ok ((some (smoothing.advance average value), memory.2), some (smoothing.advance average value))
      | none =>
        if (memory.2 ++ [value]).length < smoothing.period then .ok ((none, memory.2 ++ [value]), none)
        else .ok ((some (smoothing.mean (memory.2 ++ [value])), memory.2 ++ [value]),
          some (smoothing.mean (memory.2 ++ [value])))

/-- The averages of a series. -/
def series (values : List (Option N)) : Except E (List (Option N)) := emit smoothing.step (none, []) values

variable {smoothing} {memory next : Option N × List N} {values averages : List (Option N)} {value average : Option N}

theorem restarts : Restarts smoothing.step (none, []) Option.isSome := by
  intro memory value next average absent stepped
  cases value with
  | none =>
    cases stepped
    exact fun _ => rfl
  | some value => cases absent

/-- The seed of an average that is still missing consists of the values since the gap. -/
structure Seeded (smoothing : Smoothing N E) (memory : Option N × List N) (count : Nat) : Prop where
  warm : memory.1.isSome = true ↔ smoothing.period ≤ count
  seed : memory.1 = none → memory.2.length = count

theorem seeded_start (positive : 0 < smoothing.period) : Seeded smoothing (none, []) 0 where
  warm := by simp; omega
  seed := fun _ => rfl

theorem seeded_step {count : Nat} (seeded : Seeded smoothing memory count) (present : value.isSome = true)
    (stepped : smoothing.step memory value = .ok (next, average)) :
    Seeded smoothing next (count + 1) ∧ (average.isSome = true ↔ smoothing.period ≤ count + 1) := by
  obtain ⟨value, rfl⟩ := Option.isSome_iff_exists.mp present
  obtain ⟨current, seed⟩ := memory
  simp only [step] at stepped
  cases invalid : smoothing.invalid value with
  | some error =>
    rw [invalid] at stepped
    cases stepped
  | none =>
    rw [invalid] at stepped
    cases current with
    | some current =>
      have warm : smoothing.period ≤ count := seeded.warm.mp rfl
      cases stepped
      exact ⟨⟨by simp; omega, nofun⟩, by simp; omega⟩
    | none =>
      have length : seed.length = count := seeded.seed rfl
      simp only [List.length_append, List.length_singleton, length] at stepped
      split_ifs at stepped with short
      · cases stepped
        exact ⟨⟨by simp; omega, fun _ => by simp [length]⟩, by simp; omega⟩
      · cases stepped
        exact ⟨⟨by simp; omega, nofun⟩, by simp; omega⟩

/-- In a series without gaps the average is missing until the period is over. -/
theorem isSome_series (positive : 0 < smoothing.period) (present : ∀ value ∈ values, value.isSome = true)
    (computed : smoothing.series values = .ok averages) (found : averages[index]? = some average) :
    average.isSome = true ↔ smoothing.period ≤ index + 1 := by
  obtain ⟨bound, _⟩ := List.getElem?_eq_some_iff.mp found
  rw [length_emit computed] at bound
  have warm := emit_counted (fun count memory => Seeded smoothing memory count)
    (fun count _ average => average.isSome = true ↔ smoothing.period ≤ count)
    (fun _ _ _ _ _ seeded here stepped => seeded_step seeded here stepped)
    (seeded_start positive) present computed (List.getElem?_eq_getElem bound) found
  rwa [Nat.zero_add] at warm

theorem series_gapLocal : GapLocal smoothing.series Option.isSome := restarts.gapLocal

/-- There is no average at a gap. -/
theorem series_gap (computed : smoothing.series values = .ok averages) (found : values[index]? = some none) :
    averages[index]?.join = none := by
  cases told : averages[index]? with
  | none => rfl
  | some average =>
    obtain ⟨_, _, stepped⟩ := emit_told computed found told
    cases stepped
    rfl

/-- An average is there as soon as its period's values since the last gap are. -/
theorem isSome_back (places : Nat) (positive : 0 < smoothing.period) (computed : smoothing.series values = .ok averages)
    (bound : index < values.length) (warm : smoothing.period + places ≤ (sinceGap Option.isSome values index).length) :
    ∃ average, averages[index - places]? = some (some average) := by
  have length := series_gapLocal.length values averages computed
  have alone := series_gapLocal.computed bound computed
  have atMost := length_sinceGap_le Option.isSome values index
  obtain ⟨average, found⟩ : ∃ average, averages[index - places]? = some average :=
    ⟨_, List.getElem?_eq_getElem (by omega)⟩
  have inside : ((averages.take (index + 1)).drop (index + 1 - (sinceGap Option.isSome values index).length))[
      (sinceGap Option.isSome values index).length - 1 - places]? = some average := by
    rw [List.getElem?_drop, List.getElem?_take_of_lt (by omega), ← found]
    congr 1
    omega
  have present := (isSome_series positive (fun _ member => present_of_mem_sinceGap member) alone inside).mpr (by omega)
  obtain ⟨value, rfl⟩ := Option.isSome_iff_exists.mp present
  exact ⟨value, found⟩

/-- A change of the values that the average follows. -/
structure Follows (smoothing : Smoothing N E) (change : N → N) : Prop where
  invalid : ∀ value, smoothing.invalid (change value) = smoothing.invalid value
  mean : ∀ seed, smoothing.mean (seed.map change) = change (smoothing.mean seed)
  advance : ∀ average value, smoothing.advance (change average) (change value) = change (smoothing.advance average value)

theorem step_map {change : N → N} (follows : smoothing.Follows change) (memory : Option N × List N) (value : Option N) :
    smoothing.step (memory.1.map change, memory.2.map change) (value.map change) =
      (smoothing.step memory value).map fun (next, average) =>
        ((next.1.map change, next.2.map change), average.map change) := by
  obtain ⟨average, seed⟩ := memory
  cases value with
  | none => rfl
  | some value =>
    simp only [step, Option.map_some, follows.invalid]
    cases smoothing.invalid value with
    | some error => rfl
    | none =>
      cases average with
      | some average => simp [follows.advance, Except.map]
      | none =>
        have longer : seed.map change ++ [change value] = (seed ++ [value]).map change := by simp
        simp only [Option.map_none, longer, List.length_map, follows.mean]
        split_ifs <;> rfl

theorem series_map {change : N → N} (follows : smoothing.Follows change) (values : List (Option N)) :
    smoothing.series (values.map (Option.map change)) = (smoothing.series values).map (List.map (Option.map change)) :=
  emit_map (fun memory value => step_map follows memory value) (none, []) values

end Smoothing

end AiTrader.Library
