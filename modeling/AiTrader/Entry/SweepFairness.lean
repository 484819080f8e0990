import Mathlib.Data.Finset.Card
import Mathlib.Data.Prod.Lex
import Mathlib.Order.Lattice.Nat
import Mathlib.Order.WithBot
import AiTrader.Library.KeyOrder
import AiTrader.Entry.TerminalSweep

/-! # The sweep over the claims of an account

A tick leases at most a batch of the due claims, the oldest attempt first. Other writers may change any claim in between;
a diagnosis is stamped with the clock, a lease with the clock of its tick. -/

namespace AiTrader.Entry

open Library

def entryDispatchRecoveryBatchLimit : Nat := 3

/-- The claims of all accounts with their recovery inputs. -/
structure SweepStore where
  clock : Nat
  claims : List TerminalClaimCandidate

namespace SweepStore

section

variable (store : SweepStore)

/-- The unreleased, position-free claims of the account's terminal intents. -/
def loadTerminalClaimCandidates (tradingAccountId : Nat) : List TerminalClaimCandidate :=
  store.claims.filter fun candidate => candidate.claim.releasedAt.isNone && candidate.claim.trackedPositionId.isNone &&
    terminalEntryIntentStatuses.contains candidate.intent.status &&
    candidate.claim.tradingAccountId == tradingAccountId

def updateClaim (claimId : Nat) (update : EntryExposureClaim → EntryExposureClaim) : SweepStore :=
  { store with claims := store.claims.map fun candidate =>
      if candidate.claim.id = claimId then { candidate with claim := update candidate.claim } else candidate }

/-- The row that a lease would update. -/
def leasable (claimId now : Nat) : Bool :=
  store.claims.any fun candidate => candidate.claim.id == claimId && candidate.claim.releasedAt.isNone &&
    isDue candidate.claim.lastDiagnosedAt now

/-- The update of a lease: one attempt, only if the claim is still due and held. -/
def lease (claimId now : Nat) : SweepStore :=
  store.updateClaim claimId fun claim =>
    if claim.releasedAt.isNone && isDue claim.lastDiagnosedAt now then { claim with lastDiagnosedAt := some now } else claim

/-- The last update of a turn: the attempt time does not regress below the clock of the tick. -/
def settle (claimId now : Nat) : SweepStore :=
  store.updateClaim claimId fun claim =>
    if claim.releasedAt.isNone && claim.lastDiagnosedAt.any (· < now) then { claim with lastDiagnosedAt := some now }
    else claim

end

end SweepStore

/-- `null` is before every date. -/
def attemptOrder : Option Nat → WithBot Nat
  | none => ⊥
  | some time => WithBot.some time

/-- The oldest attempt comes first, and of equal ones the smaller id. -/
def sweepKey (candidate : TerminalClaimCandidate) : WithBot Nat ×ₗ Nat :=
  toLex (attemptOrder candidate.claim.lastDiagnosedAt, candidate.claim.id)

/-- A claim the sweep may attempt at this time. -/
def isActionable (now : Nat) (candidate : TerminalClaimCandidate) : Bool :=
  (classifyTerminalEntryClaim candidate now).state.automatic && isDue candidate.claim.lastDiagnosedAt now

/-- The batch of a tick. -/
def selectedCandidates (tradingAccountId now : Nat) (store : SweepStore) : List TerminalClaimCandidate :=
  (byKey sweepKey ((store.loadTerminalClaimCandidates tradingAccountId).filter (isActionable now))).take
    entryDispatchRecoveryBatchLimit

/-- What others and an attempt do to the claims: none is deleted, a release is final, a diagnosis is stamped with the
clock. -/
structure Evolves (before after : SweepStore) : Prop where
  clock : before.clock ≤ after.clock
  kept : ∀ row ∈ before.claims, ∃ later ∈ after.claims, later.claim.id = row.claim.id ∧
    (row.claim.releasedAt.isSome = true → later.claim.releasedAt.isSome = true) ∧
    (later.claim.lastDiagnosedAt = row.claim.lastDiagnosedAt ∨
      ∃ time, later.claim.lastDiagnosedAt = some time ∧ before.clock ≤ time)
  stamped : ∀ row ∈ after.claims, ∀ time, row.claim.lastDiagnosedAt = some time → time ≤ after.clock
  distinct : (after.claims.map fun row => row.claim.id).Nodup

/-- How the lease of a claim ended: written, no longer due or held, or failed. -/
inductive LeaseOutcome where
  | leased | refused | failed
deriving DecidableEq

/-- The turns of the selected claims; `log` tells how each lease ended. -/
inductive Turns (now : Nat) :
    List TerminalClaimCandidate → SweepStore → List (Nat × LeaseOutcome) → SweepStore → Prop
  | done (store : SweepStore) : Turns now [] store [] store
  | leased {candidate : TerminalClaimCandidate} {rest : List TerminalClaimCandidate}
      {before current attempted settled after : SweepStore} {log : List (Nat × LeaseOutcome)}
      (others : Evolves before current) (leasable : current.leasable candidate.claim.id now = true)
      (attempt : Evolves (current.lease candidate.claim.id now) attempted)
      (final : settled = attempted ∨ settled = attempted.settle candidate.claim.id now)
      (turns : Turns now rest settled log after) :
      Turns now (candidate :: rest) before ((candidate.claim.id, .leased) :: log) after
  | refused {candidate : TerminalClaimCandidate} {rest : List TerminalClaimCandidate}
      {before current after : SweepStore} {log : List (Nat × LeaseOutcome)}
      (others : Evolves before current) (unleasable : current.leasable candidate.claim.id now = false)
      (turns : Turns now rest current log after) :
      Turns now (candidate :: rest) before ((candidate.claim.id, .refused) :: log) after
  | failed {candidate : TerminalClaimCandidate} {rest : List TerminalClaimCandidate}
      {before current after : SweepStore} {log : List (Nat × LeaseOutcome)}
      (others : Evolves before current) (turns : Turns now rest current log after) :
      Turns now (candidate :: rest) before ((candidate.claim.id, .failed) :: log) after

structure SweepTick where
  now : Nat
  /-- The claims when the tick loaded its candidates. -/
  loaded : SweepStore
  log : List (Nat × LeaseOutcome)

/-- The claims a tick attempted. -/
def SweepTick.attempted (tick : SweepTick) : List Nat :=
  (tick.log.filter fun entry => entry.2 == .leased).map Prod.fst

/-- Ticks of one account among writes of others. -/
inductive SweepRun (tradingAccountId : Nat) : SweepStore → List SweepTick → SweepStore → Prop
  | start (store : SweepStore) : SweepRun tradingAccountId store [] store
  | evolve {store current after : SweepStore} {ticks : List SweepTick} (run : SweepRun tradingAccountId store ticks current)
      (others : Evolves current after) : SweepRun tradingAccountId store ticks after
  | tick {store current after : SweepStore} {ticks : List SweepTick} {now : Nat} {log : List (Nat × LeaseOutcome)}
      (run : SweepRun tradingAccountId store ticks current) (past : now ≤ current.clock)
      (turns : Turns now (selectedCandidates tradingAccountId now current) current log after) :
      SweepRun tradingAccountId store (ticks ++ [⟨now, current, log⟩]) after

section Order

variable {store before after : SweepStore} {claimId now bound : Nat} {last other : Option Nat}

theorem attemptOrder_le_iff : attemptOrder last ≤ WithBot.some bound ↔ ∀ time, last = some time → time ≤ bound := by
  cases last with
  | none => simp [attemptOrder]
  | some time => simp [attemptOrder]

theorem isDue_iff : isDue last now = true ↔ ∀ time, last = some time → time + entryDispatchRecoveryRetryMs ≤ now := by
  cases last with
  | none => simp [isDue]
  | some time => simp [isDue]

theorem attemptOrder_le_of_isDue (due : isDue last now = true) : attemptOrder last ≤ WithBot.some now := by
  rw [attemptOrder_le_iff]
  intro time known
  have := isDue_iff.mp due time known
  omega

/-- Ids are unique, and nothing is diagnosed in the future. -/
structure SweepStore.WellTimed (store : SweepStore) : Prop where
  distinct : (store.claims.map fun row => row.claim.id).Nodup
  stamped : ∀ row ∈ store.claims, attemptOrder row.claim.lastDiagnosedAt ≤ WithBot.some store.clock

/-- What holds of the claims of a later store: releases are final and attempt times do not regress. -/
structure Advances (before after : SweepStore) : Prop where
  clock : before.clock ≤ after.clock
  kept : ∀ row ∈ before.claims, ∃ later ∈ after.claims, later.claim.id = row.claim.id ∧
    (row.claim.releasedAt.isSome = true → later.claim.releasedAt.isSome = true) ∧
    attemptOrder row.claim.lastDiagnosedAt ≤ attemptOrder later.claim.lastDiagnosedAt

theorem Advances.refl (store : SweepStore) : Advances store store :=
  ⟨Nat.le_refl _, fun row member => ⟨row, member, rfl, id, le_refl _⟩⟩

theorem Advances.trans {current : SweepStore} (former : Advances before current) (latter : Advances current after) :
    Advances before after := by
  refine ⟨former.clock.trans latter.clock, ?_⟩
  intro row member
  obtain ⟨middle, listed, same, released, later⟩ := former.kept row member
  obtain ⟨final, listed, same_final, released_final, later_final⟩ := latter.kept middle listed
  exact ⟨final, listed, same_final.trans same, released_final ∘ released, later.trans later_final⟩

theorem Evolves.advances (timed : before.WellTimed) (evolves : Evolves before after) : Advances before after := by
  refine ⟨evolves.clock, ?_⟩
  intro row member
  obtain ⟨later, listed, same, released, unchanged | ⟨time, diagnosed, fresh⟩⟩ := evolves.kept row member
  · exact ⟨later, listed, same, released, by rw [unchanged]⟩
  · refine ⟨later, listed, same, released, (timed.stamped row member).trans ?_⟩
    rw [diagnosed]
    exact WithBot.coe_le_coe.mpr fresh

theorem Evolves.wellTimed (evolves : Evolves before after) : after.WellTimed :=
  ⟨evolves.distinct, fun row member => attemptOrder_le_iff.mpr (evolves.stamped row member)⟩

/-- Stamping a claim that was not attempted later moves no attempt time back or into the future. -/
theorem stamp_advances {due : EntryExposureClaim → Bool} (timed : store.WellTimed) (past : now ≤ store.clock)
    (earlier : ∀ claim, due claim = true → attemptOrder claim.lastDiagnosedAt ≤ WithBot.some now) :
    let after := store.updateClaim claimId fun claim =>
      if due claim then { claim with lastDiagnosedAt := some now } else claim
    Advances store after ∧ after.WellTimed := by
  intro after
  have ids : after.claims.map (fun row => row.claim.id) = store.claims.map fun row => row.claim.id := by
    refine List.map_map.trans (List.map_congr_left fun row _ => ?_)
    dsimp only [Function.comp_apply]
    split_ifs <;> rfl
  refine ⟨⟨Nat.le_refl _, ?_⟩, ids ▸ timed.distinct, ?_⟩
  · intro row member
    refine ⟨_, List.mem_map_of_mem member, ?_⟩
    dsimp only
    split_ifs with own stamped
    · exact ⟨rfl, id, earlier row.claim stamped⟩
    · exact ⟨rfl, id, le_refl _⟩
    · exact ⟨rfl, id, le_refl _⟩
  · intro row member
    obtain ⟨former, listed, rfl⟩ := List.mem_map.mp member
    dsimp only
    split_ifs
    · exact WithBot.coe_le_coe.mpr past
    · exact timed.stamped former listed
    · exact timed.stamped former listed

theorem lease_advances (timed : store.WellTimed) (past : now ≤ store.clock) :
    Advances store (store.lease claimId now) ∧ (store.lease claimId now).WellTimed :=
  stamp_advances timed past fun _ due => attemptOrder_le_of_isDue (Bool.and_eq_true_iff.mp due).2

theorem settle_advances (timed : store.WellTimed) (past : now ≤ store.clock) :
    Advances store (store.settle claimId now) ∧ (store.settle claimId now).WellTimed := by
  refine stamp_advances timed past fun claim behind => attemptOrder_le_iff.mpr fun time known => ?_
  rw [Bool.and_eq_true, known] at behind
  exact (decide_eq_true_iff.mp behind.2).le

/-- The claim was attempted at or after a time. -/
def SweepStore.AttemptedSince (store : SweepStore) (claimId time : Nat) : Prop :=
  ∃ row ∈ store.claims, row.claim.id = claimId ∧ WithBot.some time ≤ attemptOrder row.claim.lastDiagnosedAt

/-- The claim is released, or its last attempt is after a time. -/
def SweepStore.Behind (store : SweepStore) (claimId : Nat) (last : Option Nat) : Prop :=
  ∃ row ∈ store.claims, row.claim.id = claimId ∧
    (row.claim.releasedAt.isSome = true ∨ attemptOrder last < attemptOrder row.claim.lastDiagnosedAt)

theorem SweepStore.AttemptedSince.mono (attempted : before.AttemptedSince claimId now) (advances : Advances before after) :
    after.AttemptedSince claimId now := by
  obtain ⟨row, member, same, since⟩ := attempted
  obtain ⟨later, listed, same_later, _, above⟩ := advances.kept row member
  exact ⟨later, listed, same_later.trans same, since.trans above⟩

theorem SweepStore.Behind.mono (behind : before.Behind claimId last) (advances : Advances before after) :
    after.Behind claimId last := by
  obtain ⟨row, member, same, since⟩ := behind
  obtain ⟨later, listed, same_later, released, above⟩ := advances.kept row member
  exact ⟨later, listed, same_later.trans same, since.imp released fun below => below.trans_le above⟩

theorem SweepStore.WellTimed.unique (timed : store.WellTimed) {row other : TerminalClaimCandidate}
    (member : row ∈ store.claims) (listed : other ∈ store.claims) (same : row.claim.id = other.claim.id) : row = other :=
  List.inj_on_of_nodup_map timed.distinct member listed same

theorem leasable_iff : store.leasable claimId now = true ↔ ∃ row ∈ store.claims, row.claim.id = claimId ∧
    row.claim.releasedAt = none ∧ isDue row.claim.lastDiagnosedAt now = true := by
  simp [SweepStore.leasable, and_assoc]

/-- A leased claim was last attempted a retry interval before the clock of the tick. -/
theorem retry_of_leasable (timed : store.WellTimed) (leasable : store.leasable claimId now = true)
    (attempted : store.AttemptedSince claimId bound) : bound + entryDispatchRecoveryRetryMs ≤ now := by
  obtain ⟨row, member, same, _, due⟩ := leasable_iff.mp leasable
  obtain ⟨other, listed, same_other, since⟩ := attempted
  obtain rfl := timed.unique member listed (same.trans same_other.symm)
  cases known : row.claim.lastDiagnosedAt with
  | none =>
    rw [known] at since
    exact absurd since (WithBot.not_coe_le_bot bound)
  | some time =>
    rw [known] at since
    have := WithBot.coe_le_coe.mp since
    have := isDue_iff.mp due time known
    omega

theorem attemptedSince_lease (leasable : store.leasable claimId now = true) :
    (store.lease claimId now).AttemptedSince claimId now := by
  obtain ⟨row, member, same, held, due⟩ := leasable_iff.mp leasable
  refine ⟨_, List.mem_map_of_mem member, ?_⟩
  simp only [same, held, due, Option.isNone_none, Bool.and_true, if_true]
  exact ⟨trivial, le_refl _⟩

theorem behind_of_attemptedSince (attempted : store.AttemptedSince claimId now)
    (before_now : attemptOrder last < WithBot.some now) : store.Behind claimId last := by
  obtain ⟨row, member, same, since⟩ := attempted
  exact ⟨row, member, same, .inr (before_now.trans_le since)⟩

theorem behind_of_unleasable (present : ∃ row ∈ store.claims, row.claim.id = claimId)
    (unleasable : store.leasable claimId now = false) (due : isDue last now = true) : store.Behind claimId last := by
  obtain ⟨row, member, same⟩ := present
  refine ⟨row, member, same, ?_⟩
  by_contra neither
  obtain ⟨held, recent⟩ := not_or.mp neither
  rw [Bool.not_eq_true, Option.isSome_eq_false_iff, Option.isNone_iff_eq_none] at held
  have due_row : isDue row.claim.lastDiagnosedAt now = true := by
    rw [isDue_iff]
    intro time known
    rw [known, not_lt] at recent
    cases last with
    | none => exact absurd recent (WithBot.not_coe_le_bot time)
    | some bound =>
      have := WithBot.coe_le_coe.mp recent
      have := isDue_iff.mp due bound rfl
      omega
  exact Bool.eq_false_iff.mp unleasable (leasable_iff.mpr ⟨row, member, same, held, due_row⟩)

end Order

section Ticks

variable {store before after : SweepStore} {claimId now tradingAccountId : Nat} {selected : List TerminalClaimCandidate}
  {log : List (Nat × LeaseOutcome)} {candidate : TerminalClaimCandidate}

/-- What the turns of a tick do, whatever other writers do in between. -/
structure TurnsDone (now : Nat) (selected : List TerminalClaimCandidate) (before : SweepStore)
    (log : List (Nat × LeaseOutcome)) (after : SweepStore) : Prop where
  advances : Advances before after
  timed : after.WellTimed
  turns : log.map Prod.fst = selected.map fun candidate => candidate.claim.id
  retried : ∀ claimId time, (claimId, .leased) ∈ log → before.AttemptedSince claimId time →
    time + entryDispatchRecoveryRetryMs ≤ now
  attempted : ∀ claimId, (claimId, .leased) ∈ log → after.AttemptedSince claimId now
  refused : ∀ claimId last, (claimId, .refused) ∈ log → (∃ row ∈ before.claims, row.claim.id = claimId) →
    isDue last now = true → after.Behind claimId last

theorem Advances.present (advances : Advances before after) (present : ∃ row ∈ before.claims, row.claim.id = claimId) :
    ∃ row ∈ after.claims, row.claim.id = claimId := by
  obtain ⟨row, member, same⟩ := present
  obtain ⟨later, listed, same_later, _⟩ := advances.kept row member
  exact ⟨later, listed, same_later.trans same⟩

/-- One turn before the rest of them. -/
theorem TurnsDone.cons {current : SweepStore} {outcome : LeaseOutcome} (turn : Advances before current)
    (retried : outcome = .leased → ∀ time, before.AttemptedSince candidate.claim.id time →
      time + entryDispatchRecoveryRetryMs ≤ now)
    (attempted : outcome = .leased → current.AttemptedSince candidate.claim.id now)
    (refused : outcome = .refused → ∀ last, (∃ row ∈ before.claims, row.claim.id = candidate.claim.id) →
      isDue last now = true → current.Behind candidate.claim.id last)
    (rest : TurnsDone now selected current log after) :
    TurnsDone now (candidate :: selected) before ((candidate.claim.id, outcome) :: log) after where
  advances := turn.trans rest.advances
  timed := rest.timed
  turns := by rw [List.map_cons, List.map_cons, rest.turns]
  retried := by
    intro claimId time member since
    obtain same | member := List.mem_cons.mp member
    · obtain ⟨rfl, rfl⟩ := Prod.mk.inj same
      exact retried rfl time since
    · exact rest.retried claimId time member (since.mono turn)
  attempted := by
    intro claimId member
    obtain same | member := List.mem_cons.mp member
    · obtain ⟨rfl, rfl⟩ := Prod.mk.inj same
      exact (attempted rfl).mono rest.advances
    · exact rest.attempted claimId member
  refused := by
    intro claimId last member present due
    obtain same | member := List.mem_cons.mp member
    · obtain ⟨rfl, rfl⟩ := Prod.mk.inj same
      exact (refused rfl last present due).mono rest.advances
    · exact rest.refused claimId last member (turn.present present) due

theorem Turns.done_of (turns : Turns now selected before log after) (timed : before.WellTimed)
    (past : now ≤ before.clock) : TurnsDone now selected before log after := by
  induction turns with
  | done store =>
    exact ⟨Advances.refl store, timed, rfl, nofun, nofun, nofun⟩
  | @leased candidate rest before current attempted settled after log others leasable attempt final turns ih =>
    have evolved := others.advances timed
    have timed_current := others.wellTimed
    have past_current := past.trans evolved.clock
    obtain ⟨leased, timed_leased⟩ := @lease_advances current candidate.claim.id now timed_current past_current
    have attempts := attempt.advances timed_leased
    have timed_attempted := attempt.wellTimed
    have past_attempted := past_current.trans (leased.clock.trans attempts.clock)
    obtain ⟨settles, timed_settled⟩ : Advances attempted settled ∧ settled.WellTimed := by
      obtain rfl | rfl := final
      · exact ⟨Advances.refl _, timed_attempted⟩
      · exact settle_advances timed_attempted past_attempted
    have through := leased.trans (attempts.trans settles)
    apply TurnsDone.cons (evolved.trans through)
    · intro _ time since
      exact retry_of_leasable timed_current leasable (since.mono evolved)
    · intro _
      exact (attemptedSince_lease leasable).mono (attempts.trans settles)
    · exact nofun
    · exact ih timed_settled (past_attempted.trans settles.clock)
  | @refused candidate rest before current after log others unleasable turns ih =>
    have evolved := others.advances timed
    apply TurnsDone.cons evolved
    · exact nofun
    · exact nofun
    · intro _ last present due
      exact behind_of_unleasable (evolved.present present) unleasable due
    · exact ih others.wellTimed (past.trans evolved.clock)
  | @failed candidate rest before current after log others turns ih =>
    have evolved := others.advances timed
    apply TurnsDone.cons evolved
    · exact nofun
    · exact nofun
    · exact nofun
    · exact ih others.wellTimed (past.trans evolved.clock)

theorem mem_selectedCandidates (selected : candidate ∈ selectedCandidates tradingAccountId now store) :
    candidate ∈ store.claims ∧ candidate.claim.releasedAt = none ∧ isActionable now candidate = true := by
  have listed := List.mem_filter.mp (mem_byKey.mp (List.mem_of_mem_take selected))
  have loaded := List.mem_filter.mp listed.1
  simp only [Bool.and_eq_true, Option.isNone_iff_eq_none] at loaded
  exact ⟨loaded.1, loaded.2.1.1.1, listed.2⟩

theorem nodup_selectedCandidates (timed : store.WellTimed) :
    ((selectedCandidates tradingAccountId now store).map fun candidate => candidate.claim.id).Nodup := by
  have taken := (List.take_sublist entryDispatchRecoveryBatchLimit (byKey sweepKey
    ((store.loadTerminalClaimCandidates tradingAccountId).filter (isActionable now)))).map fun candidate => candidate.claim.id
  have filtered : (((store.loadTerminalClaimCandidates tradingAccountId).filter (isActionable now)).map fun candidate =>
      candidate.claim.id).Sublist (store.claims.map fun candidate => candidate.claim.id) :=
    (List.filter_sublist.trans List.filter_sublist).map _
  refine List.Nodup.sublist taken (((perm_byKey sweepKey _).map _).nodup_iff.mpr ?_)
  exact timed.distinct.sublist filtered

/-- A due automatic claim is left out only when the batch is full of claims with no later attempt. -/
theorem passed_over (loaded : candidate ∈ store.loadTerminalClaimCandidates tradingAccountId)
    (actionable : isActionable now candidate = true)
    (omitted : candidate ∉ selectedCandidates tradingAccountId now store) :
    (selectedCandidates tradingAccountId now store).length = entryDispatchRecoveryBatchLimit ∧
      ∀ other ∈ selectedCandidates tradingAccountId now store,
        attemptOrder other.claim.lastDiagnosedAt ≤ attemptOrder candidate.claim.lastDiagnosedAt := by
  obtain taken | ⟨full, above⟩ := mem_take_or_above (pairwise_byKey sweepKey _)
    (mem_byKey.mpr (List.mem_filter.mpr ⟨loaded, actionable⟩)) entryDispatchRecoveryBatchLimit
  · exact absurd taken omitted
  · refine ⟨full, fun other member => ?_⟩
    have ordered := above other member
    rw [sweepKey, sweepKey, Prod.Lex.toLex_le_toLex] at ordered
    exact ordered.elim le_of_lt fun same => same.1.le

variable {ticks : List SweepTick}

/-- Ids, attempt times and the earlier ticks of a run. -/
structure RunDone (tradingAccountId : Nat) (store : SweepStore) (ticks : List SweepTick) (after : SweepStore) : Prop where
  advances : Advances store after
  timed : after.WellTimed
  done : ∀ tick ∈ ticks, tick.loaded.WellTimed ∧
    ∃ finished, TurnsDone tick.now (selectedCandidates tradingAccountId tick.now tick.loaded) tick.loaded tick.log finished
  attempted : ∀ tick ∈ ticks, ∀ claimId ∈ tick.attempted, after.AttemptedSince claimId tick.now
  spaced : ticks.Pairwise fun earlier later => ∀ claimId ∈ earlier.attempted, claimId ∈ later.attempted →
    earlier.now + entryDispatchRecoveryRetryMs ≤ later.now

theorem mem_attempted {tick : SweepTick} : claimId ∈ tick.attempted ↔ (claimId, .leased) ∈ tick.log := by
  simp [SweepTick.attempted]

theorem SweepRun.done_of (run : SweepRun tradingAccountId store ticks after) (timed : store.WellTimed) :
    RunDone tradingAccountId store ticks after := by
  induction run with
  | start =>
    exact ⟨Advances.refl store, timed, nofun, nofun, List.Pairwise.nil⟩
  | @evolve current after ticks run others ih =>
    obtain ⟨advances, timed_current, done, attempted, spaced⟩ := ih
    have evolved := others.advances timed_current
    exact ⟨advances.trans evolved, others.wellTimed, done, fun tick member claimId leased =>
      (attempted tick member claimId leased).mono evolved, spaced⟩
  | @tick current after ticks now log run past turns ih =>
    obtain ⟨advances, timed_current, done, attempted, spaced⟩ := ih
    have finished := turns.done_of timed_current past
    refine ⟨advances.trans finished.advances, finished.timed, ?_, ?_, ?_⟩
    · intro tick member
      obtain member | member := List.mem_append.mp member
      · exact done tick member
      · rw [List.mem_singleton.mp member]
        exact ⟨timed_current, after, finished⟩
    · intro tick member claimId leased
      obtain member | member := List.mem_append.mp member
      · exact (attempted tick member claimId leased).mono finished.advances
      · rw [List.mem_singleton.mp member] at leased ⊢
        exact finished.attempted claimId (mem_attempted.mp leased)
    · rw [List.pairwise_append]
      refine ⟨spaced, List.pairwise_singleton _ _, ?_⟩
      intro earlier member later last claimId leased again
      rw [List.mem_singleton.mp last] at again ⊢
      exact finished.retried claimId earlier.now (mem_attempted.mp again) (attempted earlier member claimId leased)

end Ticks

section Waiting

variable {store after : SweepStore} {tradingAccountId claimId : Nat} {last : Option Nat} {ticks : List SweepTick}

/-- The claim is due and automatic when the tick loads its candidates, undiagnosed since `last`. -/
def SweepTick.Waits (tradingAccountId claimId : Nat) (last : Option Nat) (tick : SweepTick) : Prop :=
  ∃ candidate ∈ tick.loaded.loadTerminalClaimCandidates tradingAccountId, candidate.claim.id = claimId ∧
    candidate.claim.lastDiagnosedAt = last ∧ isActionable tick.now candidate = true

/-- Every lease of the tick was written, or found its claim changed. -/
def SweepTick.Writable (tick : SweepTick) : Prop := ∀ claimId, (claimId, .failed) ∉ tick.log

/-- The lease of the claim was tried. -/
def SweepTick.Tried (claimId : Nat) (tick : SweepTick) : Prop :=
  claimId ∈ tick.attempted ∨ (claimId, .refused) ∈ tick.log

open Classical in
/-- The ids that are neither released nor attempted after `last`. -/
noncomputable def ahead (ids : Finset Nat) (last : Option Nat) (store : SweepStore) : Finset Nat :=
  ids.filter fun claimId => ¬ store.Behind claimId last

open Classical in
theorem mem_ahead {ids : Finset Nat} : claimId ∈ ahead ids last store ↔ claimId ∈ ids ∧ ¬ store.Behind claimId last := by
  exact Finset.mem_filter

theorem ahead_subset (ids : Finset Nat) (last : Option Nat) (advances : Advances store after) :
    ahead ids last after ⊆ ahead ids last store := by
  intro claimId member
  rw [mem_ahead] at member ⊢
  exact ⟨member.1, fun behind => member.2 (behind.mono advances)⟩

/-- The step: a tick that does not try a waiting claim puts a whole batch behind it. -/
theorem ahead_tick {ids : Finset Nat} {tick : SweepTick} {finished : SweepStore} (timed : tick.loaded.WellTimed)
    (listed : ∀ row ∈ tick.loaded.claims, row.claim.id ∈ ids)
    (done : TurnsDone tick.now (selectedCandidates tradingAccountId tick.now tick.loaded) tick.loaded tick.log finished)
    (waits : tick.Waits tradingAccountId claimId last) (writable : tick.Writable) (untried : ¬ tick.Tried claimId) :
    (ahead ids last finished).card + entryDispatchRecoveryBatchLimit ≤ (ahead ids last tick.loaded).card ∧
      entryDispatchRecoveryBatchLimit + 1 ≤ (ahead ids last tick.loaded).card := by
  obtain ⟨candidate, loaded, identified, diagnosed, actionable⟩ := waits
  have present : candidate ∈ tick.loaded.claims := (List.mem_filter.mp loaded).1
  have due : isDue last tick.now = true := diagnosed ▸ (Bool.and_eq_true_iff.mp actionable).2
  have logged : ∀ other ∈ selectedCandidates tradingAccountId tick.now tick.loaded,
      ∃ outcome, (other.claim.id, outcome) ∈ tick.log := by
    intro other member
    have turn := List.mem_map_of_mem (f := fun candidate : TerminalClaimCandidate => candidate.claim.id) member
    rw [← done.turns] at turn
    obtain ⟨⟨_, outcome⟩, entry, rfl⟩ := List.mem_map.mp turn
    exact ⟨outcome, entry⟩
  have omitted : candidate ∉ selectedCandidates tradingAccountId tick.now tick.loaded := by
    intro member
    obtain ⟨outcome, entry⟩ := logged candidate member
    rw [identified] at entry
    cases outcome with
    | leased => exact untried (.inl (mem_attempted.mpr entry))
    | refused => exact untried (.inr entry)
    | failed => exact writable _ entry
  obtain ⟨full, older⟩ := passed_over loaded actionable omitted
  rw [diagnosed] at older
  set batch := ((selectedCandidates tradingAccountId tick.now tick.loaded).map fun candidate => candidate.claim.id).toFinset
    with batch_ids
  have size : batch.card = entryDispatchRecoveryBatchLimit := by
    rw [batch_ids, List.toFinset_card_of_nodup (nodup_selectedCandidates timed), List.length_map, full]
  have batch_ahead : batch ⊆ ahead ids last tick.loaded := by
    intro id member
    obtain ⟨other, selected, rfl⟩ := List.mem_map.mp (List.mem_toFinset.mp member)
    obtain ⟨known, held, _⟩ := mem_selectedCandidates selected
    refine mem_ahead.mpr ⟨listed other known, ?_⟩
    rintro ⟨row, found, same, released | later⟩
    · obtain rfl := timed.unique found known same
      simp [held] at released
    · obtain rfl := timed.unique found known same
      exact absurd later (older row selected).not_gt
  have waiting_ahead : claimId ∈ ahead ids last tick.loaded := by
    refine mem_ahead.mpr ⟨identified ▸ listed candidate present, ?_⟩
    rintro ⟨row, found, same, released | later⟩
    · obtain rfl := timed.unique found present (same.trans identified.symm)
      have held := (List.mem_filter.mp loaded).2
      simp only [Bool.and_eq_true, Option.isNone_iff_eq_none] at held
      simp [held.1.1.1] at released
    · obtain rfl := timed.unique found present (same.trans identified.symm)
      rw [diagnosed] at later
      exact lt_irrefl _ later
  have waiting_apart : claimId ∉ batch := by
    intro member
    obtain ⟨other, selected, same⟩ := List.mem_map.mp (List.mem_toFinset.mp member)
    obtain rfl := timed.unique (mem_selectedCandidates selected).1 present (same.trans identified.symm)
    exact omitted selected
  have batch_behind : ∀ id ∈ batch, finished.Behind id last := by
    intro id member
    obtain ⟨other, selected, rfl⟩ := List.mem_map.mp (List.mem_toFinset.mp member)
    obtain ⟨outcome, entry⟩ := logged other selected
    cases outcome with
    | leased =>
      apply behind_of_attemptedSince (done.attempted _ entry)
      cases last with
      | none => exact WithBot.bot_lt_coe _
      | some time =>
        have interval := isDue_iff.mp due time rfl
        have : 0 < entryDispatchRecoveryRetryMs := by decide
        exact WithBot.coe_lt_coe.mpr (by omega)
    | refused => exact done.refused _ last entry ⟨other, (mem_selectedCandidates selected).1, rfl⟩ due
    | failed => exact absurd entry (writable _)
  have remaining : ahead ids last finished ⊆ ahead ids last tick.loaded \ batch := by
    intro id member
    refine Finset.mem_sdiff.mpr ⟨ahead_subset ids last done.advances member, fun selected => ?_⟩
    exact (mem_ahead.mp member).2 (batch_behind id selected)
  have count := Finset.card_sdiff_add_card_eq_card batch_ahead
  have fewer := Finset.card_le_card remaining
  have more := Finset.card_le_card (Finset.insert_subset waiting_ahead batch_ahead)
  rw [Finset.card_insert_of_notMem waiting_apart] at more
  constructor
  · omega
  · omega

/-- The run: as long as the claim waits untried, every tick puts another batch behind it. -/
theorem SweepRun.batches {ids : Finset Nat} (run : SweepRun tradingAccountId store ticks after) (timed : store.WellTimed)
    (listed : ∀ row ∈ after.claims, row.claim.id ∈ ids)
    (waits : ∀ tick ∈ ticks, tick.Waits tradingAccountId claimId last) (writable : ∀ tick ∈ ticks, tick.Writable)
    (untried : ∀ tick ∈ ticks, ¬ tick.Tried claimId) :
    entryDispatchRecoveryBatchLimit * ticks.length + (ahead ids last after).card ≤ ids.card ∧
      (ticks ≠ [] → entryDispatchRecoveryBatchLimit * ticks.length + 1 ≤ ids.card) := by
  induction run with
  | start =>
    have within : ahead ids last store ⊆ ids := fun claimId member => (mem_ahead.mp member).1
    have count := Finset.card_le_card within
    exact ⟨by simpa using count, fun nonempty => absurd rfl nonempty⟩
  | @evolve current after ticks run others ih =>
    have timed_current := (run.done_of timed).timed
    have evolved := others.advances timed_current
    have listed_current : ∀ row ∈ current.claims, row.claim.id ∈ ids := by
      intro row member
      obtain ⟨later, found, same, _⟩ := evolved.kept row member
      exact same ▸ listed later found
    obtain ⟨counted, positive⟩ := ih listed_current waits writable untried
    have fewer := Finset.card_le_card (ahead_subset ids last evolved)
    exact ⟨by omega, positive⟩
  | @tick current after ticks now log run past turns ih =>
    have timed_current := (run.done_of timed).timed
    have finished := turns.done_of timed_current past
    have listed_current : ∀ row ∈ current.claims, row.claim.id ∈ ids := by
      intro row member
      obtain ⟨later, found, same, _⟩ := finished.advances.kept row member
      exact same ▸ listed later found
    have earlier : ∀ tick ∈ ticks, tick ∈ ticks ++ [⟨now, current, log⟩] := fun tick member =>
      List.mem_append_left _ member
    have newest : (⟨now, current, log⟩ : SweepTick) ∈ ticks ++ [⟨now, current, log⟩] :=
      List.mem_concat_self
    obtain ⟨counted, _⟩ := ih listed_current (fun tick member => waits tick (earlier tick member))
      (fun tick member => writable tick (earlier tick member)) fun tick member => untried tick (earlier tick member)
    obtain ⟨batch, several⟩ := ahead_tick timed_current listed_current finished (waits _ newest) (writable _ newest)
      (untried _ newest)
    rw [List.length_append, List.length_singleton, Nat.mul_add, Nat.mul_one]
    dsimp only at batch several
    exact ⟨by omega, fun _ => by omega⟩

end Waiting

/-- A tick attempts at most a batch, no claim twice within the retry interval, and passes a due automatic claim over only
when its batch is full of claims attempted no later. Such a claim is attempted, or found released or diagnosed by its lease,
once the ticks that can write leases make up a batch for every three claims. -/
theorem recoverTerminalEntryClaims_fair {store after : SweepStore} {tradingAccountId : Nat} {ticks : List SweepTick}
    (run : SweepRun tradingAccountId store ticks after) (timed : store.WellTimed) :
    (∀ tick ∈ ticks, tick.attempted.length ≤ entryDispatchRecoveryBatchLimit ∧ tick.attempted.Nodup) ∧
    (ticks.Pairwise fun earlier later => ∀ claimId ∈ earlier.attempted, claimId ∈ later.attempted →
      earlier.now + entryDispatchRecoveryRetryMs ≤ later.now) ∧
    (∀ tick ∈ ticks, ∀ candidate ∈ tick.loaded.loadTerminalClaimCandidates tradingAccountId,
      isActionable tick.now candidate = true → candidate.claim.id ∉ tick.log.map Prod.fst →
      tick.log.length = entryDispatchRecoveryBatchLimit ∧ ∀ claimId ∈ tick.log.map Prod.fst,
        ∃ other ∈ tick.loaded.claims, other.claim.id = claimId ∧
          attemptOrder other.claim.lastDiagnosedAt ≤ attemptOrder candidate.claim.lastDiagnosedAt) ∧
    ∀ claimId last, (∀ tick ∈ ticks, tick.Waits tradingAccountId claimId last ∧ tick.Writable) → ticks ≠ [] →
      after.claims.length ≤ entryDispatchRecoveryBatchLimit * ticks.length → ∃ tick ∈ ticks, tick.Tried claimId := by
  have done := run.done_of timed
  refine ⟨?_, done.spaced, ?_, ?_⟩
  · intro tick member
    obtain ⟨timed_loaded, finished, turns⟩ := done.done tick member
    have subset : tick.attempted.Sublist (tick.log.map Prod.fst) := List.filter_sublist.map Prod.fst
    rw [turns.turns] at subset
    refine ⟨?_, (nodup_selectedCandidates timed_loaded).sublist subset⟩
    have shorter := subset.length_le
    rw [List.length_map] at shorter
    exact shorter.trans (List.length_take_le ..)
  · intro tick member candidate loaded actionable omitted
    obtain ⟨timed_loaded, finished, turns⟩ := done.done tick member
    rw [turns.turns] at omitted ⊢
    have unselected : candidate ∉ selectedCandidates tradingAccountId tick.now tick.loaded := fun selected =>
      omitted (List.mem_map_of_mem selected)
    obtain ⟨full, older⟩ := passed_over loaded actionable unselected
    have turns_length := congrArg List.length turns.turns
    rw [List.length_map, List.length_map] at turns_length
    refine ⟨turns_length.trans full, ?_⟩
    intro claimId turn
    obtain ⟨other, selected, rfl⟩ := List.mem_map.mp turn
    exact ⟨other, (mem_selectedCandidates selected).1, rfl, older other selected⟩
  · intro claimId last waiting nonempty long
    by_contra untried
    have ids_listed : ∀ row ∈ after.claims, row.claim.id ∈ (after.claims.map fun row => row.claim.id).toFinset :=
      fun row member => List.mem_toFinset.mpr (List.mem_map_of_mem member)
    obtain ⟨_, bound⟩ := run.batches timed ids_listed (fun tick member => (waiting tick member).1)
      (fun tick member => (waiting tick member).2) fun tick member tried => untried ⟨tick, member, tried⟩
    have count := bound nonempty
    rw [List.toFinset_card_of_nodup done.timed.distinct, List.length_map] at count
    omega

/-- A failed entry of the first account without any record of a dispatch. -/
def waitingClaim (id : Nat) (lastDiagnosedAt : Option Nat) : TerminalClaimCandidate :=
  { claim :=
      { id, tradingAccountId := 1, securityId := id, ownerKey := "", status := .entrySubmitting, trackedPositionId := none
        releasedAt := none, releaseReason := none, lastDiagnosedAt, events := [] }
    intent :=
      { id, tradingAccountId := some 1, tradingAccountSubscriptionId := none, subscriptionId := none, symbol := "SPY"
        side := "buy", status := .failed, clientOrderId := none, blockReason := none, environment := none
        liveEntryAcceptanceRunId := none, riskEvaluation := none, updatedAt := 0 }
    records := ⟨none, none, 0, none⟩
    brokerOrders := 0
    events := [] }

theorem isActionable_waitingClaim {id now : Nat} {last : Option Nat} (due : isDue last now = true) :
    isActionable now (waitingClaim id last) = true := by
  rw [isActionable]
  have automatic : (classifyTerminalEntryClaim (waitingClaim id last) now).state.automatic = true := rfl
  rw [automatic]
  exact due

theorem Evolves.refl {store : SweepStore} (timed : store.WellTimed) : Evolves store store :=
  ⟨Nat.le_refl _, fun row member => ⟨row, member, rfl, id, .inl rfl⟩,
    fun row member => attemptOrder_le_iff.mp (timed.stamped row member), timed.distinct⟩

/-- Four claims with the times of their last attempts. -/
def queue (clock first second third fourth : Nat) : SweepStore :=
  ⟨clock, [waitingClaim 1 (some first), waitingClaim 2 (some second), waitingClaim 3 (some third),
    waitingClaim 4 (some fourth)]⟩

/-- Time passes, and another writer may diagnose the fourth claim. -/
theorem evolves_queue {clock later first second third fourth diagnosed : Nat} (passes : clock ≤ later)
    (stamped : first ≤ clock ∧ second ≤ clock ∧ third ≤ clock ∧ diagnosed ≤ later)
    (fresh : diagnosed = fourth ∨ clock ≤ diagnosed) :
    Evolves (queue clock first second third fourth) (queue later first second third diagnosed) where
  clock := passes
  kept := by
    intro row member
    simp only [queue, List.mem_cons, List.not_mem_nil, or_false] at member
    obtain rfl | rfl | rfl | rfl := member
    · exact ⟨waitingClaim 1 (some first), by simp [queue], rfl, id, .inl rfl⟩
    · exact ⟨waitingClaim 2 (some second), by simp [queue], rfl, id, .inl rfl⟩
    · exact ⟨waitingClaim 3 (some third), by simp [queue], rfl, id, .inl rfl⟩
    · refine ⟨waitingClaim 4 (some diagnosed), by simp [queue], rfl, id, ?_⟩
      obtain rfl | fresh := fresh
      · exact .inl rfl
      · exact .inr ⟨diagnosed, rfl, fresh⟩
  stamped := by
    intro row member time known
    simp only [queue, List.mem_cons, List.not_mem_nil, or_false] at member
    obtain rfl | rfl | rfl | rfl := member <;>
    · simp only [waitingClaim, Option.some.injEq] at known
      simp only [queue]
      omega
  distinct := by simp [queue, waitingClaim]

section

variable {clock time now : Nat}

/-- Of four due claims the three with the older attempts are selected. -/
theorem selectedCandidates_queue (due : time + 1 + entryDispatchRecoveryRetryMs ≤ now) :
    selectedCandidates 1 now (queue clock time time time (time + 1)) =
      [waitingClaim 1 (some time), waitingClaim 2 (some time), waitingClaim 3 (some time)] := by
  have loaded : ((queue clock time time time (time + 1)).loadTerminalClaimCandidates 1).filter (isActionable now) =
      (queue clock time time time (time + 1)).claims := by
    apply List.filter_eq_self.mpr
    intro row member
    have listed := (List.mem_filter.mp member).1
    simp only [queue, List.mem_cons, List.not_mem_nil, or_false] at listed
    obtain rfl | rfl | rfl | rfl := listed <;>
    · apply isActionable_waitingClaim
      rw [isDue_iff]
      intro last known
      cases known
      omega
  have ascends (later : Nat) (above : time < later) :
      (queue clock time time time later).claims.Pairwise fun left right => sweepKey left ≤ sweepKey right := by
    simp [queue, sweepKey, waitingClaim, attemptOrder, Prod.Lex.toLex_le_toLex, above]
  rw [selectedCandidates, loaded, byKey, (ascends (time + 1) (Nat.lt_succ_self time)).insertionSort_eq]
  rfl

theorem waits_queue (due : time + 1 + entryDispatchRecoveryRetryMs ≤ now) :
    SweepTick.Waits 1 4 (some (time + 1)) ⟨now, queue clock time time time (time + 1),
      [(1, .leased), (2, .leased), (3, .leased)]⟩ := by
  refine ⟨waitingClaim 4 (some (time + 1)), List.mem_filter.mpr ⟨by simp [queue], rfl⟩, rfl, rfl, ?_⟩
  apply isActionable_waitingClaim
  rw [isDue_iff]
  intro last known
  cases known
  exact due

/-- A tick attempts the first three claims. -/
theorem turns_queue (due : time + 1 + entryDispatchRecoveryRetryMs ≤ now) (past : now ≤ clock) :
    Turns now (selectedCandidates 1 now (queue clock time time time (time + 1)))
      (queue clock time time time (time + 1)) [(1, .leased), (2, .leased), (3, .leased)]
      (queue clock now now now (time + 1)) := by
  have due_time : isDue (some time) now = true := by
    rw [isDue_iff]
    intro last known
    cases known
    omega
  have idle : ∀ first second third : Nat, first ≤ clock ∧ second ≤ clock ∧ third ≤ clock →
      Evolves (queue clock first second third (time + 1)) (queue clock first second third (time + 1)) := by
    intro first second third stamped
    exact evolves_queue (Nat.le_refl _) (by omega) (.inl rfl)
  have first : (queue clock time time time (time + 1)).lease 1 now = queue clock now time time (time + 1) := by
    simp [SweepStore.lease, SweepStore.updateClaim, queue, waitingClaim, due_time]
  have second : (queue clock now time time (time + 1)).lease 2 now = queue clock now now time (time + 1) := by
    simp [SweepStore.lease, SweepStore.updateClaim, queue, waitingClaim, due_time]
  have third : (queue clock now now time (time + 1)).lease 3 now = queue clock now now now (time + 1) := by
    simp [SweepStore.lease, SweepStore.updateClaim, queue, waitingClaim, due_time]
  rw [selectedCandidates_queue due]
  have last_turn : Turns now [waitingClaim 3 (some time)] (queue clock now now time (time + 1)) [(3, .leased)]
      (queue clock now now now (time + 1)) := by
    apply Turns.leased (idle now now time (by omega)) _ _ (.inl rfl) (Turns.done _)
    · simp [SweepStore.leasable, queue, waitingClaim, due_time]
    · exact third.symm ▸ idle now now now (by omega)
  have last_turns : Turns now [waitingClaim 2 (some time), waitingClaim 3 (some time)]
      (queue clock now time time (time + 1)) [(2, .leased), (3, .leased)] (queue clock now now now (time + 1)) := by
    apply Turns.leased (idle now time time (by omega)) _ _ (.inl rfl) last_turn
    · simp [SweepStore.leasable, queue, waitingClaim, due_time]
    · exact second.symm ▸ idle now now time (by omega)
  apply Turns.leased (idle time time time (by omega)) _ _ (.inl rfl) last_turns
  · simp [SweepStore.leasable, queue, waitingClaim, due_time]
  · exact first.symm ▸ idle now time time (by omega)

end

/-- Of four claims the fourth is passed over in one tick, and attempted in the next one. -/
theorem recoverTerminalEntryClaims_fair_sample :
    let first : SweepTick := ⟨60001, queue 60001 0 0 0 1, [(1, .leased), (2, .leased), (3, .leased)]⟩
    let second : SweepTick := ⟨120001, queue 120001 60001 60001 60001 1, [(4, .leased), (1, .leased), (2, .leased)]⟩
    first.Waits 1 4 (some 1) ∧ 4 ∉ first.attempted ∧ ∃ tried ∈ [first, second], tried.Tried 4 := by
  intro first second
  have idle {one two three four : Nat} (stamped : one ≤ 120001 ∧ two ≤ 120001 ∧ three ≤ 120001 ∧ four ≤ 120001) :
      Evolves (queue 120001 one two three four) (queue 120001 one two three four) :=
    evolves_queue (Nat.le_refl _) stamped (.inl rfl)
  have turns : Turns 120001 (selectedCandidates 1 120001 second.loaded) second.loaded second.log
      (queue 120001 120001 120001 60001 120001) :=
    .leased (idle (by decide)) rfl (@idle 60001 60001 60001 120001 (by decide)) (.inl rfl)
      (.leased (idle (by decide)) rfl (@idle 120001 60001 60001 120001 (by decide)) (.inl rfl)
        (.leased (idle (by decide)) rfl (idle (by decide)) (.inl rfl) (.done _)))
  have run : SweepRun 1 first.loaded [first, second] (queue 120001 120001 120001 60001 120001) :=
    .tick (.evolve (.tick (.start _) (Nat.le_refl _) (turns_queue (by decide) (Nat.le_refl _)))
      (evolves_queue (by decide) (by decide) (.inl rfl))) (Nat.le_refl _) turns
  have timed : first.loaded.WellTimed := ⟨by decide, by simp [first, queue, waitingClaim, attemptOrder]⟩
  have earlier : first.Waits 1 4 (some 1) := waits_queue (by decide)
  have later : second.Waits 1 4 (some 1) :=
    ⟨waitingClaim 4 (some 1), List.mem_filter.mpr ⟨by simp [second, queue], rfl⟩, rfl, rfl, rfl⟩
  refine ⟨earlier, by decide, ?_⟩
  apply (recoverTerminalEntryClaims_fair run timed).2.2.2 4 (some 1) _ (List.cons_ne_nil _ _) (by decide)
  simp [earlier, later, first, second, SweepTick.Writable]

/-- A claim is due at every tick and never attempted: no lease can be written, or another writer diagnoses it after every
tick. -/
theorem never_attempted :
    (∀ count, ∃ ticks after, SweepRun 1 ⟨60000, [waitingClaim 1 none]⟩ ticks after ∧ ticks.length = count ∧
      ∀ tick ∈ ticks, tick.Waits 1 1 none ∧ 1 ∉ tick.attempted) ∧
    ∀ count, ∃ ticks after, SweepRun 1 (queue 1 0 0 0 1) ticks after ∧ ticks.length = count ∧
      ∀ tick ∈ ticks, (∃ last, tick.Waits 1 4 last) ∧ tick.Writable ∧ 4 ∉ tick.attempted := by
  constructor
  · have timed : (⟨60000, [waitingClaim 1 none]⟩ : SweepStore).WellTimed :=
      ⟨by decide, by simp [waitingClaim, attemptOrder]⟩
    intro count
    refine ⟨List.replicate count ⟨60000, ⟨60000, [waitingClaim 1 none]⟩, [(1, .failed)]⟩, ⟨60000, [waitingClaim 1 none]⟩,
      ?_, List.length_replicate, ?_⟩
    · induction count with
      | zero => exact SweepRun.start _
      | succ count ih =>
        rw [List.replicate_succ']
        exact SweepRun.tick ih (Nat.le_refl _) (Turns.failed (Evolves.refl timed) (Turns.done _))
    · intro tick member
      obtain rfl := List.eq_of_mem_replicate member
      exact ⟨⟨waitingClaim 1 none, List.mem_cons_self, rfl, rfl, rfl⟩, by decide⟩
  · intro count
    suffices ∃ ticks time, SweepRun 1 (queue 1 0 0 0 1) ticks (queue (time + 1) time time time (time + 1)) ∧
        ticks.length = count ∧ ∀ tick ∈ ticks, (∃ last, tick.Waits 1 4 last) ∧ tick.Writable ∧ 4 ∉ tick.attempted by
      obtain ⟨ticks, time, run⟩ := this
      exact ⟨ticks, _, run⟩
    induction count with
    | zero => exact ⟨[], 0, SweepRun.start _, rfl, nofun⟩
    | succ count ih =>
      obtain ⟨ticks, time, run, length, starved⟩ := ih
      set now := time + 1 + entryDispatchRecoveryRetryMs with interval
      have later := SweepRun.evolve run (@evolves_queue (time + 1) now time time time (time + 1) (time + 1) (by omega)
        (by omega) (.inl rfl))
      have tick := SweepRun.tick later (Nat.le_refl now) (turns_queue (Nat.le_refl _) (Nat.le_refl _))
      have diagnosed := SweepRun.evolve tick (@evolves_queue now (now + 1) now now now (time + 1) (now + 1) (by omega)
        (by omega) (.inr (by omega)))
      refine ⟨_, now, diagnosed, by rw [List.length_append, length, List.length_singleton], ?_⟩
      intro other member
      obtain earlier | newest := List.mem_append.mp member
      · exact starved other earlier
      · obtain rfl := List.mem_singleton.mp newest
        have waits := @waits_queue now time now (Nat.le_refl _)
        refine ⟨⟨some (time + 1), waits⟩, ?_, ?_⟩
        · simp [SweepTick.Writable]
        · simp [SweepTick.attempted]

end AiTrader.Entry
