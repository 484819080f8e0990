import AiTrader.Library.Service
import AiTrader.Arming.LiveAccount

/-! # An arming is consumed once

The transactions of one LIVE account in any order, with the changes other services make to its rows. -/

namespace AiTrader.Arming

open Library Entry

variable {authorization : Authorization}

section Transactions

variable {account after : LiveAccount}

theorem eq_ok_of_require {α : Type} {held : Bool} {status : Nat} {message : String}
    {next : Unit → Except LiveEntryError α} {result : α}
    (succeeded : (require held status message >>= next) = .ok result) : held = true ∧ next () = .ok result := by
  cases held with
  | false => cases succeeded
  | true => exact ⟨rfl, succeeded⟩

/-- The terminations grow, and the upserted one is among them. -/
theorem terminated_terminateArming {termination : LiveEntryArmingTermination} {armingId : Nat} :
    (terminateArming termination account).terminated armingId =
      (account.terminated armingId || termination.liveEntryArmingId == armingId) := by
  unfold terminateArming
  split
  case isTrue present =>
    rw [LiveAccount.terminated, Bool.eq_iff_iff]
    simp only [Bool.or_eq_true, beq_iff_eq, List.any_eq_true, Bool.and_eq_true] at present ⊢
    obtain ⟨row, member, same, _⟩ := present
    refine ⟨.inl, fun ended => ended.elim id fun last => ⟨row, member, same.trans last⟩⟩
  case isFalse => simp [LiveAccount.terminated]

/-- What closing the entry authority does to the bindings of the account. -/
structure AuthorityClosed (account after : LiveAccount) : Prop where
  disarmed : after.disarmed = true
  armings : after.armings = account.armings
  kept : ∀ armingId, account.terminated armingId = true → after.terminated armingId = true
  ended : ∀ armingId, account.activeLiveEntryArmingId = some armingId → after.terminated armingId = true

variable {result : ClosedAuthority} {type : TerminationType}

theorem closed_of_closeEntryAuthority {reason : String}
    (succeeded : closeEntryAuthority reason type account = .ok (result, after)) : AuthorityClosed account after := by
  unfold closeEntryAuthority at succeeded
  split at succeeded
  · cases succeeded
  case h_2 count entries _ =>
    split at succeeded
    case h_1 armingId active =>
      cases succeeded
      refine ⟨?_, ?_, fun other ended => ?_, fun other binding => ?_⟩
      · unfold terminateArming
        split <;> rfl
      · unfold terminateArming
        split <;> rfl
      · rw [terminated_terminateArming]
        exact Bool.or_eq_true_iff.mpr (.inl ended)
      · rw [terminated_terminateArming]
        rw [active] at binding
        simp [Option.some.inj binding]
    case h_2 inactive =>
      cases succeeded
      refine ⟨rfl, rfl, fun _ ended => ended, fun other binding => ?_⟩
      rw [inactive] at binding
      cases binding

theorem AuthorityClosed.of_same (closed : AuthorityClosed account after) {final : LiveAccount}
    (disarmed : final.disarmed = after.disarmed) (armings : final.armings = after.armings)
    (terminations : final.terminations = after.terminations) : AuthorityClosed account final := by
  have same : ∀ armingId, final.terminated armingId = after.terminated armingId := fun _ => by
    rw [LiveAccount.terminated, terminations, LiveAccount.terminated]
  refine ⟨disarmed.trans closed.disarmed, armings.trans closed.armings, fun armingId ended => ?_,
    fun armingId active => ?_⟩
  · rw [same]
    exact closed.kept armingId ended
  · rw [same]
    exact closed.ended armingId active

theorem closed_of_disarm {reason : String}
    (succeeded : disarmLiveEntries reason type account = .ok (result, after)) : AuthorityClosed account after := by
  obtain ⟨_, succeeded⟩ := eq_ok_of_require succeeded
  obtain ⟨⟨_, closed⟩, authority, succeeded⟩ := bind_eq_ok.mp succeeded
  cases succeeded
  exact (closed_of_closeEntryAuthority authority).of_same rfl rfl rfl

theorem closed_of_stage {assignmentId : Nat} {acceptanceRunId : Option Nat} {riskConfigured : Bool}
    (succeeded : stageLiveEntryCanary assignmentId acceptanceRunId riskConfigured account = .ok after) :
    AuthorityClosed account after := by
  obtain ⟨_, succeeded⟩ := eq_ok_of_require succeeded
  obtain ⟨_, _, succeeded⟩ := bind_eq_ok.mp succeeded
  obtain ⟨_, _, succeeded⟩ := bind_eq_ok.mp succeeded
  obtain ⟨_, succeeded⟩ := eq_ok_of_require succeeded
  obtain ⟨_, succeeded⟩ := eq_ok_of_require succeeded
  obtain ⟨⟨_, closed⟩, authority, succeeded⟩ := bind_eq_ok.mp succeeded
  obtain ⟨_, succeeded⟩ := eq_ok_of_require succeeded
  cases succeeded
  exact (closed_of_closeEntryAuthority authority).of_same rfl rfl rfl

variable {arming : LiveEntryArming}

/-- ARM starts from the disarmed posture and binds a new arming. -/
theorem shape_of_arm {input : ArmLiveEntriesInput} (succeeded : armLiveEntries input account = .ok (arming, after)) :
    account.disarmed = true ∧ arming.id = Table.nextId (account.armings.map (·.id)) ∧
      after.armings = account.armings ++ [arming] ∧ after.terminations = account.terminations ∧
      after.activeLiveEntryArmingId = some arming.id := by
  obtain ⟨_, succeeded⟩ := eq_ok_of_require succeeded
  obtain ⟨arming, checked, succeeded⟩ := bind_eq_ok.mp succeeded
  cases succeeded
  obtain ⟨posture, checked⟩ := eq_ok_of_require checked
  obtain ⟨_, checked⟩ := eq_ok_of_require checked
  obtain ⟨_, _, checked⟩ := bind_eq_ok.mp checked
  obtain ⟨_, checked⟩ := eq_ok_of_require checked
  obtain ⟨_, checked⟩ := eq_ok_of_require checked
  obtain ⟨_, _, checked⟩ := bind_eq_ok.mp checked
  obtain ⟨_, checked⟩ := eq_ok_of_require checked
  obtain ⟨_, checked⟩ := eq_ok_of_require checked
  obtain ⟨_, _, checked⟩ := bind_eq_ok.mp checked
  obtain ⟨_, _, checked⟩ := bind_eq_ok.mp checked
  obtain ⟨_, _, checked⟩ := bind_eq_ok.mp checked
  obtain ⟨_, checked⟩ := eq_ok_of_require checked
  obtain ⟨_, checked⟩ := eq_ok_of_require checked
  obtain ⟨_, _, checked⟩ := bind_eq_ok.mp checked
  cases checked
  exact ⟨(Bool.and_eq_true_iff.mp posture).2, rfl, rfl, rfl, rfl⟩

theorem active_of_valid (valid : validateActiveLiveEntryArming account = .ok arming) :
    account.activeLiveEntryArmingId = some arming.id ∧ account.terminated arming.id = false := by
  unfold validateActiveLiveEntryArming at valid
  split at valid
  · cases valid
  case h_2 bound active =>
    split at valid
    · cases valid
    case isFalse unterminated =>
      have same : arming = bound := by
        split_ifs at valid
        split at valid
        · cases valid
        · split at valid
          · exact (Except.ok.inj valid).symm
          · cases valid
      subst same
      refine ⟨?_, by simpa using unterminated⟩
      rw [LiveAccount.activeArming, Option.bind_eq_some_iff] at active
      obtain ⟨id, binding, found⟩ := active
      have identified := List.find?_some found
      rw [binding, beq_iff_eq.mp identified]

/-- A consumption spends the active arming and latches the account. -/
theorem shape_of_consume {context : NewPositionEntryContext}
    (succeeded : authorizeAndConsumeNewPositionEntry context account = .ok (authorization, after)) :
    account.activeLiveEntryArmingId = some authorization.armingId ∧
      account.terminated authorization.armingId = false ∧ AuthorityClosed account after ∧
      ∀ assignment ∈ after.assignments, assignment.entriesEnabled = false := by
  obtain ⟨arming, checked, succeeded⟩ := bind_eq_ok.mp succeeded
  obtain ⟨intent, _, succeeded⟩ := bind_eq_ok.mp succeeded
  obtain ⟨_, succeeded⟩ := eq_ok_of_require succeeded
  obtain ⟨_, succeeded⟩ := eq_ok_of_require succeeded
  cases succeeded
  have valid : validateActiveLiveEntryArming account = .ok arming := by
    cases outcome : validateActiveLiveEntryArming account with
    | error invalidity =>
      rw [outcome] at checked
      cases checked
    | ok bound =>
      rw [outcome] at checked
      rw [show bound = arming from Except.ok.inj checked]
  obtain ⟨active, unterminated⟩ := active_of_valid valid
  refine ⟨active, unterminated, ⟨rfl, ?_, fun other ended => ?_, fun other binding => ?_⟩, ?_⟩
  · unfold terminateArming
    split <;> rfl
  · change (terminateArming _ account).terminated other = true
    rw [terminated_terminateArming, ended, Bool.true_or]
  · change (terminateArming _ account).terminated other = true
    rw [terminated_terminateArming]
    rw [active] at binding
    simp [Option.some.inj binding]
  · simp only [LiveAccount.latch, List.mem_map]
    rintro _ ⟨_, _, rfl⟩
    rfl

end Transactions

section Runs

/-- What one transaction tells the outside. -/
inductive ArmingEvent where
  | quiet
  | armed
  | authorized (authorization : Authorization)

/-- A change of rows that hold no entry authority. -/
structure AuthorityKept (account after : LiveAccount) : Prop where
  disarmed : after.disarmed = account.disarmed
  activeLiveEntryArmingId : after.activeLiveEntryArmingId = account.activeLiveEntryArmingId
  armings : after.armings = account.armings
  terminations : after.terminations = account.terminations

/-- One committed transaction on the account. -/
inductive ArmingStep : LiveAccount → ArmingEvent → LiveAccount → Prop where
  | arm {account after : LiveAccount} {input : ArmLiveEntriesInput} {arming : LiveEntryArming}
      (committed : armLiveEntries input account = .ok (arming, after)) : ArmingStep account .armed after
  | stage {account after : LiveAccount} {assignmentId : Nat} {acceptanceRunId : Option Nat} {riskConfigured : Bool}
      (committed : stageLiveEntryCanary assignmentId acceptanceRunId riskConfigured account = .ok after) :
      ArmingStep account .quiet after
  | disarm {account after : LiveAccount} {reason : String} {type : TerminationType} {result : ClosedAuthority}
      (committed : disarmLiveEntries reason type account = .ok (result, after)) : ArmingStep account .quiet after
  /-- The monitor disarms for an invalidity it found earlier. -/
  | monitor {account after : LiveAccount} {invalidity : ArmingInvalidity} {result : ClosedAuthority}
      (committed : disarmLiveEntries (monitorTermination invalidity).1 (monitorTermination invalidity).2 account =
        .ok (result, after)) : ArmingStep account .quiet after
  | consume {account after : LiveAccount} {context : NewPositionEntryContext} {authorization : Authorization}
      (committed : authorizeAndConsumeNewPositionEntry context account = .ok (authorization, after)) :
      ArmingStep account (.authorized authorization) after
  | other {account after : LiveAccount} (kept : AuthorityKept account after) : ArmingStep account .quiet after

/-- A run with its events, in order. -/
inductive ArmingRun (start : LiveAccount) : List ArmingEvent → LiveAccount → Prop where
  | start : ArmingRun start [] start
  | step {events : List ArmingEvent} {event : ArmingEvent} {account after : LiveAccount}
      (run : ArmingRun start events account) (step : ArmingStep account event after) :
      ArmingRun start (events ++ [event]) after

/-- The arming an event consumed. -/
def ArmingEvent.consumedArming : ArmingEvent → Option Nat
  | .authorized authorization => some authorization.armingId
  | _ => none

/-- What holds after every run. -/
structure OneShot (events : List ArmingEvent) (account : LiveAccount) : Prop where
  identified : (account.armings.map (·.id)).Nodup
  /-- An arming without a termination is the active one. -/
  bound : ∀ arming ∈ account.armings, account.terminated arming.id = false →
    account.activeLiveEntryArmingId = some arming.id
  spent : ∀ armingId ∈ events.filterMap ArmingEvent.consumedArming, account.terminated armingId = true
  distinct : (events.filterMap ArmingEvent.consumedArming).Nodup

variable {start account after : LiveAccount} {events : List ArmingEvent} {event : ArmingEvent}

theorem filterMap_quiet (events : List ArmingEvent) {event : ArmingEvent} (quiet : event.consumedArming = none) :
    (events ++ [event]).filterMap ArmingEvent.consumedArming = events.filterMap ArmingEvent.consumedArming := by
  rw [List.filterMap_append, List.filterMap_cons_none quiet, List.filterMap_nil, List.append_nil]

section

variable (held : OneShot events account)
include held

theorem oneShot_of_closed (closed : AuthorityClosed account after)
    (quiet : event.consumedArming = none) : OneShot (events ++ [event]) after := by
  have same := filterMap_quiet events quiet
  refine ⟨closed.armings ▸ held.identified, fun arming member unterminated => ?_, ?_, same ▸ held.distinct⟩
  · rw [closed.armings] at member
    have open_before : account.terminated arming.id = false := by
      by_contra ended
      rw [closed.kept _ (by simpa using ended)] at unterminated
      cases unterminated
    rw [closed.ended _ (held.bound arming member open_before)] at unterminated
    cases unterminated
  · rw [same]
    exact fun armingId consumed => closed.kept _ (held.spent armingId consumed)

theorem oneShot_of_consume (active : account.activeLiveEntryArmingId = some authorization.armingId)
    (unterminated : account.terminated authorization.armingId = false) (closed : AuthorityClosed account after) :
    OneShot (events ++ [.authorized authorization]) after := by
  have quiet := oneShot_of_closed held closed (show ArmingEvent.quiet.consumedArming = none from rfl)
  have same : (events ++ [ArmingEvent.authorized authorization]).filterMap ArmingEvent.consumedArming =
      events.filterMap ArmingEvent.consumedArming ++ [authorization.armingId] := by
    rw [List.filterMap_append]
    rfl
  refine ⟨quiet.identified, quiet.bound, ?_, ?_⟩
  · rw [same]
    intro armingId consumed
    rcases List.mem_append.mp consumed with earlier | last
    · exact closed.kept _ (held.spent armingId earlier)
    · rw [List.mem_singleton.mp last]
      exact closed.ended _ active
  · rw [same, List.nodup_append]
    refine ⟨held.distinct, List.nodup_singleton _, fun armingId consumed other last same => ?_⟩
    have spent := held.spent armingId consumed
    rw [same, List.mem_singleton.mp last, unterminated] at spent
    cases spent

theorem oneShot_of_step (step : ArmingStep account event after) : OneShot (events ++ [event]) after := by
  cases step with
  | @arm _ input arming committed =>
    obtain ⟨disarmed, fresh, armings, terminations, active⟩ := shape_of_arm committed
    have same : ∀ armingId, after.terminated armingId = account.terminated armingId := fun _ => by
      rw [LiveAccount.terminated, terminations, LiveAccount.terminated]
    have inactive : account.activeLiveEntryArmingId = none := by
      simpa using (Bool.and_eq_true_iff.mp disarmed).2
    have events_same := filterMap_quiet events (show ArmingEvent.armed.consumedArming = none from rfl)
    refine ⟨?_, fun row member unterminated => ?_, ?_, events_same ▸ held.distinct⟩
    · rw [armings, List.map_append, List.nodup_append]
      refine ⟨held.identified, List.nodup_singleton _, fun id member other last clash => ?_⟩
      rw [List.map_singleton, List.mem_singleton] at last
      rw [clash, last, fresh] at member
      exact Table.nextId_not_mem _ member
    · rw [armings] at member
      rcases List.mem_append.mp member with old | new
      · rw [same] at unterminated
        rw [held.bound row old unterminated] at inactive
        cases inactive
      · rw [List.mem_singleton.mp new, active]
    · rw [events_same]
      exact fun armingId consumed => (same armingId).trans (held.spent armingId consumed)
  | stage committed => exact oneShot_of_closed held (closed_of_stage committed) rfl
  | disarm committed => exact oneShot_of_closed held (closed_of_disarm committed) rfl
  | monitor committed => exact oneShot_of_closed held (closed_of_disarm committed) rfl
  | consume committed =>
    obtain ⟨active, unterminated, closed, _⟩ := shape_of_consume committed
    exact oneShot_of_consume held active unterminated closed
  | other kept =>
    have same : ∀ armingId, after.terminated armingId = account.terminated armingId := fun _ => by
      rw [LiveAccount.terminated, kept.terminations, LiveAccount.terminated]
    have events_same := filterMap_quiet events (show ArmingEvent.quiet.consumedArming = none from rfl)
    refine ⟨kept.armings ▸ held.identified, fun arming member unterminated => ?_, ?_, events_same ▸ held.distinct⟩
    · rw [kept.activeLiveEntryArmingId]
      exact held.bound arming (kept.armings ▸ member) ((same _).symm.trans unterminated)
    · rw [events_same]
      exact fun armingId consumed => (same armingId).trans (held.spent armingId consumed)

/-- At most one arming has no termination. -/
theorem OneShot.active : (account.armings.filter fun arming => !account.terminated arming.id).length ≤ 1 := by
  have distinct : ((account.armings.filter fun arming => !account.terminated arming.id).map (·.id)).Nodup :=
    held.identified.sublist (List.filter_sublist.map _)
  cases active : account.activeLiveEntryArmingId with
  | none =>
    have none_open : account.armings.filter (fun arming => !account.terminated arming.id) = [] := by
      rw [List.filter_eq_nil_iff]
      intro arming member unterminated
      rw [held.bound arming member (by simpa using unterminated)] at active
      cases active
    simp [none_open]
  | some armingId =>
    have same : ∀ id ∈ (account.armings.filter fun arming => !account.terminated arming.id).map (·.id),
        id = armingId := by
      intro id member
      obtain ⟨arming, filtered, rfl⟩ := List.mem_map.mp member
      obtain ⟨present, unterminated⟩ := List.mem_filter.mp filtered
      have binding := held.bound arming present (by simpa using unterminated)
      rw [active] at binding
      exact (Option.some.inj binding).symm
    rw [List.eq_replicate_of_mem same, List.nodup_replicate, List.length_map] at distinct
    exact distinct

end

theorem oneShot_of_run (unarmed : start.armings = []) (run : ArmingRun start events account) :
    OneShot events account := by
  induction run with
  | start =>
    refine ⟨by simp [unarmed], fun arming member => ?_, by simp, by simp⟩
    rw [unarmed] at member
    cases member
  | step _ step ih => exact oneShot_of_step ih step

/-- Only ARM leaves the disarmed posture. -/
theorem disarmed_of_step (step : ArmingStep account event after) (unarmed : event ≠ .armed)
    (disarmed : account.disarmed = true) : after.disarmed = true := by
  cases step with
  | arm committed => exact absurd rfl unarmed
  | stage committed => exact (closed_of_stage committed).disarmed
  | disarm committed => exact (closed_of_disarm committed).disarmed
  | monitor committed => exact (closed_of_disarm committed).disarmed
  | consume committed => exact (shape_of_consume committed).2.2.1.disarmed
  | other kept => exact kept.disarmed.trans disarmed

theorem disarmed_of_run (disarmed : start.disarmed = true) (run : ArmingRun start events account)
    (unarmed : .armed ∉ events) : account.disarmed = true := by
  induction run with
  | start => exact disarmed
  | step _ step ih =>
    rw [List.mem_append, not_or, List.mem_singleton] at unarmed
    exact disarmed_of_step step (Ne.symm unarmed.2) (ih unarmed.1)

/-- An arming authorizes one intent at most and none after its termination, at most one arming is active, and a consumption
latches the account off until it is armed anew. -/
theorem one_shot_live_arming (unarmed : start.armings = []) (run : ArmingRun start events account) :
    (events.filterMap ArmingEvent.consumedArming).Nodup ∧
    (account.armings.filter fun arming => !account.terminated arming.id).length ≤ 1 ∧
    ∀ authorization after, ArmingStep account (.authorized authorization) after →
      account.terminated authorization.armingId = false ∧
      (∀ assignment ∈ after.assignments, assignment.entriesEnabled = false) ∧
      ∀ later final, ArmingRun after later final → .armed ∉ later → final.disarmed = true := by
  have held := oneShot_of_run unarmed run
  refine ⟨held.distinct, ?_, fun authorization after step => ?_⟩
  · exact held.active
  · cases step with
    | consume committed =>
      obtain ⟨_, unterminated, closed, entries⟩ := shape_of_consume committed
      exact ⟨unterminated, entries, fun later final run quiet => disarmed_of_run closed.disarmed run quiet⟩

def stagedAssignment : Assignment where
  id := 1
  subscriptionId := 1
  securityId := 7
  key := "rsp_dip_core"
  symbol := "RSP"
  enabled := true
  entriesEnabled := true
  exitsEnabled := true
  hierarchyEnabled := true
  allocation := some ("core_etf", true)

/-- A LIVE account whose canary is staged and whose evidence is current. -/
def stagedAccount : LiveAccount where
  clock := 1000
  environment := .live
  status := .active
  tradingEnabled := false
  killSwitchEnabled := true
  activeLiveEntryArmingId := none
  updatedAt := 900
  credentialEffective := true
  deploymentPolicy := true
  entryApproval := ⟨true, some ⟨1, 1, some 5000⟩⟩
  riskReducingApproval := ⟨true, some ⟨2, 1, none⟩⟩
  approvalFingerprints := some ⟨"configuration", "credential", "policy"⟩
  readinessFingerprints := some ⟨"configuration", "credential", "policy"⟩
  assessments := [⟨1, true, true, 5000, some 900, ⟨"configuration", "credential", "policy"⟩⟩]
  acceptanceRun := none
  assignments := [stagedAssignment]
  armings := []
  terminations := []
  entries := []
  positions := []
  brokerOrders := []

def sampleInput : ArmLiveEntriesInput where
  reason := "first canary"
  typedConfirmation := "ARM LIVE ENTRIES"
  readinessAssessmentId := 1
  tradingAccountSubscriptionId := 1
  entryApprovalId := 1
  entryApprovalRevision := 1
  liveEntryAcceptanceRunId := none
  expectedUpdatedAt := 900

def sampleArming : LiveEntryArming where
  id := 1
  entryApprovalId := 1
  entryApprovalRevision := 1
  riskReducingApprovalId := 2
  riskReducingApprovalRevision := 1
  tradingAccountSubscriptionId := 1
  subscriptionId := 1
  securityId := 7
  configurationFingerprint := "configuration"
  credentialFingerprint := "credential"
  policyFingerprint := "policy"
  entryApprovalExpiresAt := 5000
  liveEntryAcceptanceRunId := none

def armedAccount : LiveAccount :=
  { stagedAccount with
    armings := [sampleArming]
    tradingEnabled := true
    killSwitchEnabled := false
    activeLiveEntryArmingId := some 1 }

def submittingIntent : OrderIntent where
  id := 1
  tradingAccountId := some 1
  tradingAccountSubscriptionId := some 1
  subscriptionId := some 1
  symbol := "RSP"
  side := "buy"
  status := .submitting
  clientOrderId := some "entry-1"
  blockReason := none
  environment := some .live
  liveEntryAcceptanceRunId := none
  riskEvaluation := none
  updatedAt := 1000

/-- The armed account with an entry the worker is about to send. -/
def submittingAccount : LiveAccount :=
  { armedAccount with
    entries := [{ EntryLifecycle.initial 1000 [("RSP", 7)] with intent := some submittingIntent }] }

def consumedAccount : LiveAccount :=
  { submittingAccount with
    tradingEnabled := false
    killSwitchEnabled := true
    activeLiveEntryArmingId := none
    terminations := [⟨1, .consumed, "One-shot authority consumed before outbound broker submission attempt.", some 1,
      some "entry-1"⟩]
    assignments := [{ stagedAssignment with entriesEnabled := false }] }

theorem run_submittingAccount : ArmingRun stagedAccount [.armed, .quiet] submittingAccount := by
  have armed : armLiveEntries sampleInput stagedAccount = .ok (sampleArming, armedAccount) := rfl
  have kept : AuthorityKept armedAccount submittingAccount := ⟨rfl, rfl, rfl, rfl⟩
  exact .step (.step .start (.arm armed)) (.other kept)

/-- The arming of a staged canary authorizes its one intent and latches the account off. -/
theorem one_shot_live_arming_consumed :
    consumedAccount.disarmed = true ∧ submittingAccount.terminated 1 = false := by
  have consumed : authorizeAndConsumeNewPositionEntry ⟨1, 1, 1, "RSP", "entry-1"⟩ submittingAccount =
      .ok (⟨1, 1⟩, consumedAccount) := rfl
  obtain ⟨_, _, once⟩ := one_shot_live_arming (show stagedAccount.armings = [] from rfl) run_submittingAccount
  obtain ⟨unterminated, _, latched⟩ := once _ _ (.consume consumed)
  exact ⟨latched _ _ .start List.not_mem_nil, unterminated⟩

end Runs

end AiTrader.Arming
