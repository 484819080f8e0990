import AiTrader.Library.Hysteresis
import AiTrader.Market.BreadthV1
import AiTrader.Market.IntradayStress
import AiTrader.Market.Volatility

/-! # Recovery over whole runs

The four dimensions recover by one level at the second better reading since the last transition or reset. -/

namespace AiTrader.Market

open Library JsNumber JsLogarithm

namespace Volatility

/-- The level of a state: the calmer, the higher. -/
def VolatilityState.calm (state : VolatilityState) : Nat := 3 - state.severity

def VolatilityTransition.history (transition : VolatilityTransition) : VolatilityHistory :=
  ⟨transition.effectiveState, transition.confirmationAfter⟩

def VolatilityTransition.turn (transition : VolatilityTransition) : Turn VolatilityState where
  before := transition.previousEffectiveState
  reading := transition.rawState
  pending := transition.confirmationBefore
  after := transition.effectiveState
  left := transition.confirmationAfter
  moved := transition.transitioned

/-- A continuation that `advanceVolatility` accepts. -/
def VolatilityHistory.Accepted : VolatilityHistory → Prop := Bounded (·.effectiveState) (·.confirmation)

variable {history : VolatilityHistory} {transition : VolatilityTransition} {raw : Option VolatilityState}

theorem advanceVolatility_accepted (accepted : history.Accepted) (raw : Option VolatilityState) :
    advanceVolatility history raw = .ok (volatilityTransition history raw) := by
  obtain ⟨bound, unheld⟩ := accepted
  replace bound : history.confirmation ≤ 1 := bound
  unfold advanceVolatility
  rw [if_neg]
  simp only [List.mem_cons, List.not_mem_nil, or_false, not_or, not_and, not_not]
  exact ⟨by omega, unheld⟩

theorem calm_recoveryTarget {read before : VolatilityState} (better : read.severity < before.severity) :
    ∃ target, recoveryTarget (some before) = some target ∧ target.calm = before.calm + 1 ∧
      read.severity ≤ target.severity := by
  cases before <;> cases read <;> first | exact absurd better (by decide) | exact ⟨_, rfl, rfl, by decide⟩

variable {second first : VolatilityState}

theorem calm_lt_calm : first.calm < second.calm ↔ second.severity < first.severity := by
  cases first <;> cases second <;> decide

theorem severity_injective (same : first.severity = second.severity) : first = second := by
  cases first <;> cases second <;> first | rfl | cases same

theorem volatilityTransition_obeys (accepted : history.Accepted) (raw : Option VolatilityState) :
    (volatilityTransition history raw).turn.Obeys VolatilityState.calm true := by
  obtain ⟨effective, confirmation⟩ := history
  obtain ⟨bound, unheld⟩ := accepted
  cases raw with
  | none => exact .gap effective confirmation
  | some raw =>
    cases effective with
    | none =>
      obtain rfl : confirmation = 0 := unheld rfl
      exact .bootstrap raw
    | some before =>
      simp only [volatilityTransition]
      split
      case isTrue worse => exact .contrary confirmation true (le_of_lt (calm_lt_calm.mpr worse)) (le_of_lt (calm_lt_calm.mpr worse))
      case isFalse notWorse =>
        split
        case isTrue same => exact same ▸ .contrary confirmation false le_rfl le_rfl
        case isFalse differs =>
          have better : raw.severity < before.severity :=
            lt_of_le_of_ne (Nat.le_of_not_lt notWorse) fun same => differs (severity_injective same)
          split
          case isTrue confirmed =>
            obtain rfl : confirmation = 1 := confirmed
            obtain ⟨target, recovers, one, _⟩ := calm_recoveryTarget better
            rw [recovers]
            exact .second (calm_lt_calm.mpr better) one
          case isFalse unconfirmed =>
            obtain rfl : confirmation = 0 := by
              have : confirmation ≠ 1 := unconfirmed
              have : confirmation ≤ 1 := bound
              omega
            exact .first (calm_lt_calm.mpr better)

/-- A transition tells what it read. -/
theorem volatilityTransition_told (history : VolatilityHistory) (raw : Option VolatilityState) :
    (volatilityTransition history raw).previousEffectiveState = history.effectiveState ∧
      (volatilityTransition history raw).confirmationBefore = history.confirmation ∧
      (volatilityTransition history raw).rawState = raw := by
  unfold volatilityTransition
  repeat' split
  all_goals exact ⟨rfl, rfl, rfl⟩

theorem advanceVolatility_advances :
    Advances VolatilityState.calm true advanceVolatility VolatilityTransition.history VolatilityTransition.turn
      VolatilityHistory.Accepted (·.effectiveState) (·.confirmation) := by
  intro history raw accepted
  obtain ⟨previous, confirmation, read⟩ := volatilityTransition_told history raw
  have advance : Advance VolatilityState.calm true VolatilityTransition.history VolatilityTransition.turn
      (·.effectiveState) (·.confirmation) history raw (volatilityTransition history raw) :=
    ⟨previous, confirmation, read, rfl, rfl, volatilityTransition_obeys accepted raw⟩
  exact ⟨_, advanceVolatility_accepted accepted raw, advance, advance.bounded accepted⟩

/-- A valid reading leaves a state that is at least as severe. -/
theorem volatilityTransition_severe (history : VolatilityHistory) (read : VolatilityState) :
    ∃ effective, (volatilityTransition history (some read)).effectiveState = some effective ∧
      read.severity ≤ effective.severity := by
  obtain ⟨effective, confirmation⟩ := history
  cases effective with
  | none => exact ⟨read, rfl, le_rfl⟩
  | some before =>
    simp only [volatilityTransition]
    split
    case isTrue worse => exact ⟨read, rfl, le_rfl⟩
    case isFalse notWorse =>
      split
      case isTrue same => exact ⟨before, rfl, same ▸ le_rfl⟩
      case isFalse differs =>
        have better : read.severity < before.severity :=
          lt_of_le_of_ne (Nat.le_of_not_lt notWorse) fun same => differs (severity_injective same)
        split
        case isTrue confirmed =>
          obtain ⟨target, recovers, _, enough⟩ := calm_recoveryTarget better
          exact ⟨target, recovers, enough⟩
        case isFalse unconfirmed => exact ⟨before, rfl, le_of_lt better⟩

end Volatility

section Stress

def IntradayStressState.calm (state : IntradayStressState) : Nat := 3 - state.severity

def IntradayStressTransition.turn (transition : IntradayStressTransition) : Turn IntradayStressState where
  before := transition.previousEffectiveState
  reading := transition.rawState
  pending := transition.confirmationBefore
  after := transition.effectiveState
  left := transition.confirmationAfter
  moved := transition.transitioned

/-- A continuation that `advanceIntradayStress` accepts. -/
def IntradayStressHistory.Accepted : IntradayStressHistory → Prop := Bounded (·.effectiveState) (·.confirmation)

variable {history : IntradayStressHistory} {transition : IntradayStressTransition} {raw : Option IntradayStressState}

variable {second first : IntradayStressState}

theorem stress_calm_lt : first.calm < second.calm ↔ second.severity < first.severity := by
  cases first <;> cases second <;> decide

theorem stress_severity_injective (same : first.severity = second.severity) : first = second := by
  cases first <;> cases second <;> first | rfl | cases same

/-- The state that a recovery leads to. -/
theorem stress_recoveryTarget {read before : IntradayStressState} (better : read.severity < before.severity) :
    before ≠ .normal ∧ (intradayStressState (before.severity - 1)).calm = before.calm + 1 ∧
      read.severity ≤ (intradayStressState (before.severity - 1)).severity := by
  cases before <;> cases read <;> first | exact absurd better (by decide) | exact ⟨nofun, rfl, by decide⟩

/-- An accepted continuation advances, and a valid reading leaves a state that is at least as severe. -/
theorem advanceIntradayStress_accepted (accepted : history.Accepted) (raw : Option IntradayStressState) :
    ∃ transition, advanceIntradayStress history raw = .ok transition ∧
      transition.previousEffectiveState = history.effectiveState ∧ transition.confirmationBefore = history.confirmation ∧
      transition.rawState = raw ∧ transition.turn.Obeys IntradayStressState.calm false ∧
      ∀ read, raw = some read → ∃ effective, transition.effectiveState = some effective ∧ read.severity ≤ effective.severity := by
  obtain ⟨effective, confirmation⟩ := history
  obtain ⟨bound, unheld⟩ := accepted
  have allowed : ¬(1 < confirmation ∨ effective = none ∧ confirmation ≠ 0) := by
    rintro (many | ⟨absent, some_⟩)
    · exact absurd bound (Nat.not_le_of_lt many)
    · exact some_ (unheld absent)
  unfold advanceIntradayStress
  rw [if_neg allowed]
  cases raw with
  | none => exact ⟨_, rfl, rfl, rfl, rfl, .gap effective confirmation, nofun⟩
  | some read =>
    cases effective with
    | none =>
      obtain rfl : confirmation = 0 := unheld rfl
      exact ⟨_, rfl, rfl, rfl, rfl, .bootstrap read, fun _ same => ⟨read, rfl, Option.some.inj same ▸ le_rfl⟩⟩
    | some before =>
      dsimp only
      split
      case isTrue worse =>
        exact ⟨_, rfl, rfl, rfl, rfl, .contrary confirmation true (le_of_lt (stress_calm_lt.mpr worse))
          (le_of_lt (stress_calm_lt.mpr worse)), fun _ same => ⟨read, rfl, Option.some.inj same ▸ le_rfl⟩⟩
      case isFalse notWorse =>
        split
        case isTrue same =>
          subst same
          exact ⟨_, rfl, rfl, rfl, rfl, .contrary confirmation false le_rfl le_rfl,
            fun _ same => ⟨read, rfl, Option.some.inj same ▸ le_rfl⟩⟩
        case isFalse differs =>
          have better : read.severity < before.severity :=
            lt_of_le_of_ne (Nat.le_of_not_lt notWorse) fun same => differs (stress_severity_injective same)
          obtain ⟨recovering, one, enough⟩ := stress_recoveryTarget better
          split
          case isTrue confirmed =>
            obtain rfl : confirmation = 1 := confirmed
            simp only [Option.bind_some, if_neg recovering]
            exact ⟨_, rfl, rfl, rfl, rfl, .second (stress_calm_lt.mpr better) one,
              fun _ same => ⟨_, rfl, Option.some.inj same ▸ enough⟩⟩
          case isFalse unconfirmed =>
            obtain rfl : confirmation = 0 := by
              have : confirmation ≠ 1 := unconfirmed
              have : confirmation ≤ 1 := bound
              omega
            exact ⟨_, rfl, rfl, rfl, rfl, .first (stress_calm_lt.mpr better),
              fun _ same => ⟨before, rfl, Option.some.inj same ▸ le_of_lt better⟩⟩

theorem advanceIntradayStress_advances :
    Advances IntradayStressState.calm false advanceIntradayStress IntradayStressTransition.history
      IntradayStressTransition.turn IntradayStressHistory.Accepted (·.effectiveState) (·.confirmation) := by
  intro history raw accepted
  obtain ⟨transition, advanced, previous, confirmation, read, obeys, _⟩ := advanceIntradayStress_accepted accepted raw
  have advance : Advance IntradayStressState.calm false IntradayStressTransition.history IntradayStressTransition.turn
      (·.effectiveState) (·.confirmation) history raw transition :=
    ⟨previous, confirmation, read, rfl, rfl, obeys⟩
  exact ⟨transition, advanced, advance, advance.bounded accepted⟩

end Stress

namespace Trend

def TransitionEvidence.history (transition : TransitionEvidence) : HysteresisState :=
  ⟨transition.effectiveState, transition.recoveryConfirmation⟩

def TransitionEvidence.turn (transition : TransitionEvidence) : Turn TrendState where
  before := transition.previousEffectiveState
  reading := transition.rawState
  pending := transition.confirmationBefore
  after := transition.effectiveState
  left := transition.recoveryConfirmation
  moved := transition.transitioned

/-- The range of the confirmations of `advanceTrend`, which takes any. -/
def HysteresisState.Accepted : HysteresisState → Prop := Bounded (·.effective) (·.recoveryConfirmation)

variable {history : HysteresisState}

theorem rank_injective {first second : TrendState} (same : first.rank = second.rank) : first = second := by
  cases first <;> cases second <;> first | rfl | cases same

theorem rank_pred_le (before : TrendState) : (trendState (before.rank - 1)).rank ≤ before.rank := by
  cases before <;> decide

theorem rank_nextRecoveryTarget {read before : TrendState} (better : before.rank < read.rank) :
    ∃ target, nextRecoveryTarget (some before) = some target ∧ target.rank = before.rank + 1 := by
  cases before <;> cases read <;> first | exact ⟨_, rfl, rfl⟩ | exact absurd better (by decide)

theorem advanceTrend_obeys (accepted : history.Accepted) (raw : Option TrendState) :
    (advanceTrend history raw).turn.Obeys TrendState.rank true := by
  obtain ⟨effective, confirmation⟩ := history
  obtain ⟨bound, unheld⟩ := accepted
  cases raw with
  | none => exact .gap effective confirmation
  | some raw =>
    cases effective with
    | none =>
      obtain rfl : confirmation = 0 := unheld rfl
      exact .bootstrap raw
    | some before =>
      simp only [advanceTrend]
      split
      case isTrue same => exact same ▸ .contrary confirmation false le_rfl le_rfl
      case isFalse differs =>
        split
        case isTrue worse => exact .contrary confirmation true (le_of_lt worse) (rank_pred_le before)
        case isFalse notWorse =>
          have better : before.rank < raw.rank :=
            lt_of_le_of_ne (Nat.le_of_not_lt notWorse) fun same => differs (rank_injective same.symm)
          have : confirmation ≤ 1 := bound
          split
          case isTrue confirmed =>
            obtain rfl : confirmation = 1 := by omega
            obtain ⟨target, recovers, one⟩ := rank_nextRecoveryTarget better
            rw [recovers]
            exact .second better one
          case isFalse unconfirmed =>
            obtain rfl : confirmation = 0 := by omega
            exact .first better

theorem advanceTrend_told (history : HysteresisState) (raw : Option TrendState) :
    (advanceTrend history raw).previousEffectiveState = history.effective ∧
      (advanceTrend history raw).confirmationBefore = history.recoveryConfirmation ∧
      (advanceTrend history raw).rawState = raw := by
  unfold advanceTrend
  repeat' split
  all_goals exact ⟨rfl, rfl, rfl⟩

theorem advanceTrend_advances :
    Advances TrendState.rank true (fun history raw => (.ok (advanceTrend history raw) : Except TrendError _))
      TransitionEvidence.history TransitionEvidence.turn HysteresisState.Accepted (·.effective)
      (·.recoveryConfirmation) := by
  intro history raw accepted
  obtain ⟨previous, confirmation, read⟩ := advanceTrend_told history raw
  have advance : Advance TrendState.rank true TransitionEvidence.history TransitionEvidence.turn (·.effective)
      (·.recoveryConfirmation) history raw (advanceTrend history raw) :=
    ⟨previous, confirmation, read, rfl, rfl, advanceTrend_obeys accepted raw⟩
  exact ⟨_, rfl, advance, advance.bounded accepted⟩

end Trend

namespace BreadthV1

def BreadthV1Transition.history (transition : BreadthV1Transition) : BreadthV1History :=
  ⟨transition.effectiveState, transition.recoveryConfirmationAfter, transition.mildDeteriorationConfirmationAfter⟩

/-- The recovery of a transition. -/
def BreadthV1Transition.turn (transition : BreadthV1Transition) : Turn BreadthState where
  before := transition.previousEffectiveState
  reading := transition.rawState
  pending := transition.recoveryConfirmationBefore
  after := transition.effectiveState
  left := transition.recoveryConfirmationAfter
  moved := transition.transitioned

/-- A continuation that a run of `advanceBreadthV1` reaches. -/
structure BreadthV1History.Accepted (history : BreadthV1History) : Prop where
  recovery : Bounded (·.effectiveState) (·.recoveryConfirmation) history
  highest : history.effectiveState = some .positive → history.recoveryConfirmation = 0
  mild : history.mildDeteriorationConfirmation ≤ 1
  pendingMild : history.mildDeteriorationConfirmation = 1 →
    history.effectiveState = some .positive ∧ history.recoveryConfirmation = 0

variable {history : BreadthV1History}

theorem BreadthV1History.Accepted.settled (accepted : history.Accepted)
    (lower : history.effectiveState ≠ some .positive) : history.mildDeteriorationConfirmation = 0 := by
  have bound := accepted.mild
  have : history.mildDeteriorationConfirmation ≠ 1 := fun pending => lower (accepted.pendingMild pending).1
  omega

theorem advanceBreadthV1_accepted (accepted : history.Accepted) (raw : Option BreadthState) :
    advanceBreadthV1 history raw = .ok (breadthV1Transition history raw) := by
  have bound : history.recoveryConfirmation ≤ 1 := accepted.recovery.1
  have mild := accepted.mild
  unfold advanceBreadthV1
  rw [if_neg]
  simp only [List.mem_cons, List.not_mem_nil, or_false, not_or, not_and, not_not]
  refine ⟨by omega, by omega, fun unheld => ⟨accepted.recovery.2 unheld, accepted.settled ?_⟩⟩
  rw [unheld]
  exact nofun

theorem breadthV1Transition_told (history : BreadthV1History) (raw : Option BreadthState) :
    (breadthV1Transition history raw).previousEffectiveState = history.effectiveState ∧
      (breadthV1Transition history raw).recoveryConfirmationBefore = history.recoveryConfirmation ∧
      (breadthV1Transition history raw).rawState = raw := by
  unfold breadthV1Transition
  repeat' split
  all_goals exact ⟨rfl, rfl, rfl⟩

/-- What a transition leaves of the mild deterioration. -/
structure MildAfter (transition : BreadthV1Transition) : Prop where
  highest : transition.effectiveState = some .positive → transition.recoveryConfirmationAfter = 0
  mild : transition.mildDeteriorationConfirmationAfter ≤ 1
  pendingMild : transition.mildDeteriorationConfirmationAfter = 1 → transition.effectiveState = some .positive

/-- A transition from an accepted continuation does to the recovery what it may, and leaves an accepted one. -/
theorem breadthV1Transition_obeys (accepted : history.Accepted) (raw : Option BreadthState) :
    (breadthV1Transition history raw).turn.Obeys BreadthState.rank true ∧ MildAfter (breadthV1Transition history raw) := by
  have settled := accepted.settled
  obtain ⟨effective, recovery, mild⟩ := history
  obtain ⟨⟨bound, unheld⟩, highest, mildBound, pendingMild⟩ := accepted
  replace bound : recovery ≤ 1 := bound
  cases raw with
  | none => exact ⟨.gap effective recovery, highest, mildBound, fun pending => (pendingMild pending).1⟩
  | some read =>
    cases effective with
    | none =>
      obtain rfl : recovery = 0 := unheld rfl
      exact ⟨.bootstrap read, fun _ => rfl, Nat.zero_le 1, by rintro ⟨⟩⟩
    | some before =>
      cases before with
      | positive =>
        obtain rfl : recovery = 0 := highest rfl
        cases read with
        | positive => exact ⟨.contrary 0 false le_rfl le_rfl, fun _ => rfl, Nat.zero_le 1, by rintro ⟨⟩⟩
        | negative => exact ⟨.contrary 0 true (by decide) (by decide), fun _ => rfl, Nat.zero_le 1, by rintro ⟨⟩⟩
        | mixed =>
          simp only [breadthV1Transition]
          split
          · exact ⟨.contrary 0 true (by decide) (by decide), fun _ => rfl, Nat.zero_le 1, by rintro ⟨⟩⟩
          · exact ⟨.contrary 0 false (by decide) le_rfl, fun _ => rfl, le_rfl, fun _ => rfl⟩
      | mixed =>
        obtain rfl : mild = 0 := settled (by rintro ⟨⟩)
        cases read with
        | negative => exact ⟨.contrary recovery true (by decide) (by decide), fun _ => rfl, Nat.zero_le 1, by rintro ⟨⟩⟩
        | mixed => exact ⟨.contrary recovery false le_rfl le_rfl, fun _ => rfl, Nat.zero_le 1, by rintro ⟨⟩⟩
        | positive =>
          rcases (by omega : recovery = 0 ∨ recovery = 1) with rfl | rfl
          · exact ⟨.first (by decide), by rintro ⟨⟩, Nat.zero_le 1, by rintro ⟨⟩⟩
          · exact ⟨.second (by decide) rfl, fun _ => rfl, Nat.zero_le 1, by rintro ⟨⟩⟩
      | negative =>
        obtain rfl : mild = 0 := settled (by rintro ⟨⟩)
        cases read with
        | negative => exact ⟨.contrary recovery false le_rfl le_rfl, fun _ => rfl, Nat.zero_le 1, by rintro ⟨⟩⟩
        | mixed | positive =>
          rcases (by omega : recovery = 0 ∨ recovery = 1) with rfl | rfl
          · exact ⟨.first (by decide), by rintro ⟨⟩, Nat.zero_le 1, by rintro ⟨⟩⟩
          · exact ⟨.second (by decide) rfl, by rintro ⟨⟩, Nat.zero_le 1, by rintro ⟨⟩⟩

theorem advanceBreadthV1_advances :
    Advances BreadthState.rank true advanceBreadthV1 BreadthV1Transition.history BreadthV1Transition.turn
      BreadthV1History.Accepted (·.effectiveState) (·.recoveryConfirmation) := by
  intro history raw accepted
  obtain ⟨previous, confirmation, read⟩ := breadthV1Transition_told history raw
  obtain ⟨obeys, highest, mild, pendingMild⟩ := breadthV1Transition_obeys accepted raw
  have advance : Advance BreadthState.rank true BreadthV1Transition.history BreadthV1Transition.turn (·.effectiveState)
      (·.recoveryConfirmation) history raw (breadthV1Transition history raw) :=
    ⟨previous, confirmation, read, rfl, rfl, obeys⟩
  exact ⟨_, advanceBreadthV1_accepted accepted raw, advance, advance.bounded accepted.recovery, highest, mild,
    fun pending => ⟨pendingMild pending, highest (pendingMild pending)⟩⟩

end BreadthV1

section Runs

variable {N : Type}

/-- A run of `advanceVolatility` from no history. -/
structure VolatilityRun (raws : List (Option Volatility.VolatilityState)) (transitions : List Volatility.VolatilityTransition) :
    Prop where
  advanced : emit (continued Volatility.advanceVolatility (·.history)) ⟨none, 0⟩ raws = .ok transitions
  read : transitions.map (·.rawState) = raws
  confirmed : Confirmed Volatility.VolatilityState.calm true (transitions.map (·.turn))
  severe : ∀ transition ∈ transitions, ∀ read, transition.rawState = some read →
    ∃ effective, transition.effectiveState = some effective ∧ read.severity ≤ effective.severity

/-- A run of `advanceIntradayStress` from the start of a session. -/
structure StressRun (raws : List (Option IntradayStressState)) (transitions : List IntradayStressTransition) : Prop where
  advanced : emit (continued advanceIntradayStress (·.history)) .start raws = .ok transitions
  read : transitions.map (·.rawState) = raws
  confirmed : Confirmed IntradayStressState.calm false (transitions.map (·.turn))
  severe : ∀ transition ∈ transitions, ∀ read, transition.rawState = some read →
    ∃ effective, transition.effectiveState = some effective ∧ read.severity ≤ effective.severity

/-- A run of `advanceBreadthV1` from no history. -/
structure BreadthV1HysteresisRun (raws : List (Option BreadthState)) (transitions : List BreadthV1.BreadthV1Transition) :
    Prop where
  advanced : emit (continued BreadthV1.advanceBreadthV1 (·.history)) ⟨none, 0, 0⟩ raws = .ok transitions
  read : transitions.map (·.rawState) = raws
  confirmed : Confirmed BreadthState.rank true (transitions.map (·.turn))
  mild : ∀ transition ∈ transitions, transition.mildDeteriorationConfirmationAfter ≤ 1 ∧
    (transition.mildDeteriorationConfirmationAfter = 1 →
      transition.effectiveState = some .positive ∧ transition.recoveryConfirmationAfter = 0)

/-- A run of `advanceTrend` from no history. -/
structure TrendRun (raws : List (Option Trend.TrendState)) (transitions : List Trend.TransitionEvidence) : Prop where
  advanced : emit (continued (fun history raw => (.ok (Trend.advanceTrend history raw) : Except Trend.TrendError _))
    (·.history)) ⟨none, 0⟩ raws = .ok transitions
  read : transitions.map (·.rawState) = raws
  confirmed : Confirmed Trend.TrendState.rank true (transitions.map (·.turn))

/-- No history is accepted. -/
theorem bounded_start {H S : Type} {held : H → Option S} {pending : H → Nat} {start : H} (unconfirmed : pending start = 0) :
    Bounded held pending start :=
  ⟨unconfirmed ▸ Nat.zero_le 1, fun _ => unconfirmed⟩

theorem volatilityRun (raws : List (Option Volatility.VolatilityState)) : ∃ transitions, VolatilityRun raws transitions := by
  obtain ⟨transitions, advanced, confirmed, read, all⟩ :=
    Volatility.advanceVolatility_advances.confirmed ⟨none, 0⟩ (bounded_start rfl) rfl rfl raws
  refine ⟨transitions, advanced, read, confirmed, fun transition member reading valid => ?_⟩
  obtain ⟨history, raw, accepted, told⟩ := all transition member
  rw [Volatility.advanceVolatility_accepted accepted] at told
  cases told
  obtain rfl : raw = some reading := (Volatility.volatilityTransition_told history raw).2.2.symm.trans valid
  exact Volatility.volatilityTransition_severe history reading

theorem stressRun (raws : List (Option IntradayStressState)) : ∃ transitions, StressRun raws transitions := by
  obtain ⟨transitions, advanced, confirmed, read, all⟩ :=
    advanceIntradayStress_advances.confirmed .start (bounded_start rfl) rfl rfl raws
  refine ⟨transitions, advanced, read, confirmed, fun transition member reading valid => ?_⟩
  obtain ⟨history, raw, accepted, told⟩ := all transition member
  obtain ⟨same, advanced, _, _, rawRead, _, severe⟩ := advanceIntradayStress_accepted accepted raw
  rw [advanced] at told
  cases told
  exact severe reading (rawRead.symm.trans valid)

theorem breadthV1Run (raws : List (Option BreadthState)) : ∃ transitions, BreadthV1HysteresisRun raws transitions := by
  have start : BreadthV1.BreadthV1History.Accepted ⟨none, 0, 0⟩ := ⟨bounded_start rfl, nofun, Nat.zero_le 1, nofun⟩
  obtain ⟨transitions, advanced, confirmed, read, all⟩ :=
    BreadthV1.advanceBreadthV1_advances.confirmed ⟨none, 0, 0⟩ start rfl rfl raws
  refine ⟨transitions, advanced, read, confirmed, fun transition member => ?_⟩
  obtain ⟨history, raw, accepted, told⟩ := all transition member
  rw [BreadthV1.advanceBreadthV1_accepted accepted] at told
  cases told
  obtain ⟨_, highest, mild, pendingMild⟩ := BreadthV1.breadthV1Transition_obeys accepted raw
  exact ⟨mild, fun pending => ⟨pendingMild pending, highest (pendingMild pending)⟩⟩

theorem trendRun (raws : List (Option Trend.TrendState)) : ∃ transitions, TrendRun raws transitions := by
  obtain ⟨transitions, advanced, confirmed, read, _⟩ :=
    Trend.advanceTrend_advances.confirmed ⟨none, 0⟩ (bounded_start rfl) rfl rfl raws
  exact ⟨transitions, advanced, read, confirmed⟩

end Runs

section Calculations

variable {N : Type}

namespace Volatility

variable [JsLogarithm N]

theorem measureStep_continues (memory : List N × Nat) (input : Option (Trend.NormalizedBar N) × Option N) :
    measureStep memory input ≠ .error .invalidContinuation := by
  have classified : ∀ value kind, measurement (N := N) value kind ≠ .error .invalidContinuation := by
    intro value kind
    cases value with
    | none => exact nofun
    | some value =>
      refine bind_ne_error ?_ fun _ => nofun
      unfold classifyVolatility
      split <;> exact nofun
  have deviation : ∀ values : List N, sampleStandardDeviation values ≠ .error .invalidContinuation := by
    intro values
    unfold sampleStandardDeviation
    split <;> exact nofun
  have returned : ∀ window : List N, logReturns window ≠ .error .invalidContinuation := by
    intro window
    refine mapM_ne_error (fun closes => ?_) _
    change logReturn closes.1 closes.2 ≠ _
    unfold logReturn
    split <;> exact nofun
  have realized : ∀ closes period, realizedVolatility (N := N) closes period ≠ .error .invalidContinuation := by
    intro closes period
    unfold realizedVolatility
    split
    · exact nofun
    · exact bind_ne_error (returned _) fun _ => bind_ne_error (deviation _) fun _ => nofun
  exact bind_ne_error (realized _ 10) fun _ => bind_ne_error (realized _ 20) fun _ =>
    bind_ne_error (classified _ _) fun _ => bind_ne_error (classified _ _) fun _ =>
      bind_ne_error (classified _ _) fun _ => nofun

theorem instrumentMeasurements_continues (bars : List (Option (Trend.NormalizedBar N))) :
    instrumentMeasurements bars ≠ .error .invalidContinuation := by
  have ranged : ∀ previous bar, sessionRange (N := N) previous bar ≠ .error .invalidContinuation := by
    intro previous bar
    unfold sessionRange
    split
    · split
      · refine map_ne_error ?_
        unfold trueRange
        split <;> exact nofun
      · exact nofun
    · exact nofun
  have smoothed : ∀ memory range, (wilderSmoothing (N := N)).step memory range ≠ .error .invalidContinuation := by
    intro memory range
    unfold Smoothing.step
    split
    · exact nofun
    · split
      case h_1 error invalid =>
        simp only [wilderSmoothing] at invalid
        split at invalid <;> cases invalid
        exact nofun
      case h_2 =>
        split
        · exact nofun
        · split <;> exact nofun
  refine bind_ne_error (emit_ne_error (fun _ => True) (fun _ _ _ => ⟨map_ne_error (ranged _ _), fun _ _ _ => trivial⟩)
    trivial _) fun _ => bind_ne_error (emit_ne_error (fun _ => True) (fun _ _ _ => ⟨smoothed _ _, fun _ _ _ => trivial⟩)
    trivial _) fun _ => emit_ne_error (fun _ => True) (fun _ _ _ => ⟨measureStep_continues _ _, fun _ _ _ => trivial⟩)
    trivial _

omit [JsLogarithm N] in
/-- One day from an accepted history. -/
theorem volatilityStep_accepted {history : VolatilityHistory} (accepted : history.Accepted)
    (input : String × VolatilityInstrument N × VolatilityInstrument N) :
    ∃ next day, volatilityStep history input = .ok (next, day) ∧ next.Accepted := by
  obtain ⟨transition, advanced, _, sound⟩ :=
    advanceVolatility_advances history (dayRawState input.2.1.rawState input.2.2.rawState) accepted
  exact ⟨transition.history, _, bind_eq_ok.mpr ⟨transition, advanced, rfl⟩, sound⟩

omit [JsLogarithm N] in
theorem volatilityStep_told {history next : VolatilityHistory} {day : VolatilityDay N}
    {input : String × VolatilityInstrument N × VolatilityInstrument N} (stepped : volatilityStep history input = .ok (next, day)) :
    continued advanceVolatility (·.history) history day.rawState = .ok (next, day.hysteresis) ∧
      (day.rawState ≠ none → day.effectiveState = day.hysteresis.effectiveState) := by
  obtain ⟨hysteresis, advanced, same⟩ := bind_eq_ok.mp stepped
  cases same
  exact ⟨by simp only [continued, advanced]; rfl, fun valid => if_neg valid⟩

/-- The days of a calculation are a run, whatever it is given, and no continuation is rejected. -/
theorem calculateVolatility_runs (dates : List String) (spy rsp : List (Option (Trend.NormalizedBar N))) :
    match calculateVolatility dates spy rsp with
    | .error error => error ≠ .invalidContinuation
    | .ok days => VolatilityRun (days.map (·.rawState)) (days.map (·.hysteresis)) ∧ ∀ day ∈ days, ∀ read,
        day.rawState = some read → ∃ effective, day.effectiveState = some effective ∧ read.severity ≤ effective.severity := by
  have continues : calculateVolatility dates spy rsp ≠ .error .invalidContinuation := by
    unfold calculateVolatility
    split
    · exact nofun
    · refine bind_ne_error (instrumentMeasurements_continues spy) fun a =>
        bind_ne_error (instrumentMeasurements_continues rsp) fun b => ?_
      refine emit_ne_error VolatilityHistory.Accepted (fun history input accepted => ?_) (bounded_start rfl) _
      obtain ⟨next, day, stepped, still⟩ := volatilityStep_accepted accepted input
      rw [stepped]
      refine ⟨nofun, fun other output same => ?_⟩
      cases same
      exact still
  split
  case h_1 error failed => exact fun same => continues (same ▸ failed)
  case h_2 days calculated =>
    unfold calculateVolatility at calculated
    split_ifs at calculated
    obtain ⟨a, _, calculated⟩ := bind_eq_ok.mp calculated
    obtain ⟨b, _, emitted⟩ := bind_eq_ok.mp calculated
    have projected := emit_projected id (·.rawState) (·.hysteresis) (fun _ _ _ _ stepped => (volatilityStep_told stepped).1)
      emitted
    obtain ⟨transitions, run⟩ := volatilityRun (days.map (·.rawState))
    obtain rfl : days.map (·.hysteresis) = transitions := Except.ok.inj (projected.symm.trans run.advanced)
    refine ⟨run, fun day member read valid => ?_⟩
    obtain ⟨history, input, next, stepped⟩ := emit_mem emitted member
    have same : day.hysteresis.rawState = day.rawState := List.map_inj_left.mp (List.map_map.symm.trans run.read) day member
    rw [(volatilityStep_told stepped).2 (by simp [valid])]
    exact run.severe day.hysteresis (List.mem_map_of_mem member) read (same.trans valid)

end Volatility

namespace BreadthV1

variable [JsNumber N]

theorem measure_continues (shares : List (Option N)) (consecutive period : Nat) (band : BreadthBand N) :
    measure shares consecutive period band ≠ .error .invalidContinuation := by
  unfold measure
  split
  · exact nofun
  · refine bind_ne_error ?_ fun _ => nofun
    unfold classifyBreadthV1Band
    split
    · exact nofun
    · split
      · exact nofun
      · split <;> exact nofun

variable {run : BreadthV1Run N}

theorem seriesStep_told {next : BreadthV1Run N} {day : BreadthV1Day N}
    {input : String × Option (DailyBreadthObservation N)} (stepped : seriesStep run input = .ok (next, day)) :
    continued advanceBreadthV1 (·.history) run.history day.rawState = .ok (next.history, day.hysteresis) := by
  obtain ⟨_, _, stepped⟩ := bind_eq_ok.mp stepped
  obtain ⟨_, _, stepped⟩ := bind_eq_ok.mp stepped
  obtain ⟨_, _, stepped⟩ := bind_eq_ok.mp stepped
  obtain ⟨hysteresis, advanced, same⟩ := bind_eq_ok.mp stepped
  cases same
  simp only [continued, advanced]
  rfl

theorem seriesStep_continues (accepted : run.history.Accepted) (input : String × Option (DailyBreadthObservation N)) :
    seriesStep run input ≠ .error .invalidContinuation ∧
      ∀ next output, seriesStep run input = .ok (next, output) → next.history.Accepted := by
  constructor
  · refine bind_ne_error (measure_continues _ _ _ _) fun _ => bind_ne_error (measure_continues _ _ _ _) fun _ =>
      bind_ne_error (measure_continues _ _ _ _) fun _ => bind_ne_error ?_ fun _ => nofun
    rw [advanceBreadthV1_accepted accepted]
    exact nofun
  · intro next day stepped
    have told := seriesStep_told stepped
    obtain ⟨transition, advanced, _, sound⟩ := advanceBreadthV1_advances run.history day.rawState accepted
    simp only [continued, advanced, Except.map, Except.ok.injEq, Prod.mk.injEq] at told
    exact told.1 ▸ sound

/-- The days of a series are a run, whatever it is given, and no continuation is rejected. -/
theorem calculateBreadthV1Series_runs (dates : List String) (observations : List (Option (DailyBreadthObservation N))) :
    match calculateBreadthV1Series dates observations with
    | .error error => error ≠ .invalidContinuation
    | .ok days => BreadthV1HysteresisRun (days.map (·.rawState)) (days.map (·.hysteresis)) := by
  have start : BreadthV1History.Accepted ⟨none, 0, 0⟩ := ⟨bounded_start rfl, nofun, Nat.zero_le 1, nofun⟩
  unfold calculateBreadthV1Series
  split
  case h_1 error failed =>
    rintro rfl
    split_ifs at failed
    · cases failed
    · cases failed
    · exact emit_ne_error (fun run : BreadthV1Run N => run.history.Accepted)
        (fun run input accepted => seriesStep_continues accepted input) start _ failed
  case h_2 days calculated =>
    split_ifs at calculated
    have projected := emit_projected (·.history) (·.rawState) (·.hysteresis) (fun _ _ _ _ stepped => seriesStep_told stepped)
      calculated
    obtain ⟨transitions, run⟩ := breadthV1Run (days.map (·.rawState))
    obtain rfl : days.map (·.hysteresis) = transitions := Except.ok.inj (projected.symm.trans run.advanced)
    exact run

end BreadthV1

namespace Trend

variable [JsNumber N]

theorem trendStep_told {thresholds : List N} {history next : HysteresisState} {day : TrendDay N}
    {input : String × InstrumentMeasurements N × InstrumentMeasurements N}
    (stepped : trendStep thresholds history input = .ok (next, day)) :
    continued (fun history raw => (.ok (advanceTrend history raw) : Except TrendError _)) (·.history) history day.rawState =
      .ok (next, day.transition) := by
  obtain ⟨_, _, stepped⟩ := bind_eq_ok.mp stepped
  obtain ⟨_, _, same⟩ := bind_eq_ok.mp stepped
  cases same
  rfl

theorem calculateTrend_runs (dates : List String) (spy rsp : List (Option (NormalizedBar N))) (thresholds : List N) :
    match calculateTrendWithThresholds dates spy rsp thresholds with
    | .error _ => True
    | .ok days => TrendRun (days.map (·.rawState)) (days.map (·.transition)) := by
  split
  case h_1 => trivial
  case h_2 days calculated =>
    unfold calculateTrendWithThresholds at calculated
    split_ifs at calculated
    obtain ⟨a, _, calculated⟩ := bind_eq_ok.mp calculated
    obtain ⟨b, _, emitted⟩ := bind_eq_ok.mp calculated
    have projected := emit_projected id (·.rawState) (·.transition) (fun _ _ _ _ stepped => trendStep_told stepped) emitted
    obtain ⟨transitions, run⟩ := trendRun (days.map (·.rawState))
    obtain rfl : days.map (·.transition) = transitions := Except.ok.inj (projected.symm.trans run.advanced)
    exact run

end Trend

/-- The replay of a session is a run of its targets, and never fails. -/
theorem replayIntradayStress_runs (spy rsp : List (IntradayStressTarget N)) (count : Nat) :
    ∃ transitions, StressRun ((List.zipWith marketRaw spy rsp).take count) transitions ∧
      replayIntradayStress spy rsp count = .ok (leftBy (·.history) .start transitions) := by
  obtain ⟨transitions, run⟩ := stressRun ((List.zipWith marketRaw spy rsp).take count)
  refine ⟨transitions, run, ?_⟩
  unfold replayIntradayStress
  rw [foldlM_continued, run.advanced]
  rfl

/-- Recovery is confirmed in all four dimensions over every sequence of raw states, of which the days and the replay are
runs. -/
theorem recovery_confirmed [JsNumber N] {L : Type} [JsLogarithm L] :
    ((∀ raws, ∃ transitions, VolatilityRun raws transitions) ∧ (∀ raws, ∃ transitions, StressRun raws transitions) ∧
      (∀ raws, ∃ transitions, BreadthV1HysteresisRun raws transitions) ∧ ∀ raws, ∃ transitions, TrendRun raws transitions) ∧
    (∀ (dates : List String) (spy rsp : List (Option (Trend.NormalizedBar L))),
      match Volatility.calculateVolatility dates spy rsp with
      | .error error => error ≠ .invalidContinuation
      | .ok days => VolatilityRun (days.map (·.rawState)) (days.map (·.hysteresis)) ∧ ∀ day ∈ days, ∀ read,
          day.rawState = some read → ∃ effective, day.effectiveState = some effective ∧ read.severity ≤ effective.severity) ∧
    (∀ (spy rsp : List (IntradayStressTarget N)) (count : Nat), ∃ transitions,
      StressRun ((List.zipWith marketRaw spy rsp).take count) transitions ∧
        replayIntradayStress spy rsp count = .ok (leftBy (·.history) .start transitions)) ∧
    (∀ (dates : List String) (observations : List (Option (DailyBreadthObservation N))),
      match BreadthV1.calculateBreadthV1Series dates observations with
      | .error error => error ≠ .invalidContinuation
      | .ok days => BreadthV1HysteresisRun (days.map (·.rawState)) (days.map (·.hysteresis))) ∧
    (∀ (dates : List String) (spy rsp : List (Option (Trend.NormalizedBar N))) (thresholds : List N),
      match Trend.calculateTrendWithThresholds dates spy rsp thresholds with
      | .error _ => True
      | .ok days => TrendRun (days.map (·.rawState)) (days.map (·.transition))) :=
  ⟨⟨volatilityRun, stressRun, breadthV1Run, trendRun⟩, Volatility.calculateVolatility_runs, replayIntradayStress_runs,
    BreadthV1.calculateBreadthV1Series_runs, Trend.calculateTrend_runs⟩

end Calculations

end AiTrader.Market
