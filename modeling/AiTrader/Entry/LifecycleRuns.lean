import AiTrader.Entry.AdmissionContracts

/-! # Runs of the entry lifecycle

The worker, the recoveries and position attachment take turns under the lock; admission, disarm and the writers of other
rows run at any time. -/

namespace AiTrader.Entry

open Library EntryLifecycle

/-- The programs that hold the lifecycle-mutation lock. -/
inductive LockedTurn (fingerprint : EntryClaimAssessment → String) : EntryProgram Unit → Prop where
  | worker : LockedTurn fingerprint (processPendingOrder fingerprint)
  | submittedSync : LockedTurn fingerprint syncSubmittedOrder
  | staleSubmitting : LockedTurn fingerprint (recoverStaleSubmittingIntent fingerprint)
  | terminalSweep : LockedTurn fingerprint (recoverTerminalEntryClaim fingerprint)
  | staleAdmission (tradingAccountId : Nat) :
      LockedTurn fingerprint (recoverStaleAdmissionClaim fingerprint tradingAccountId)
  | attachment (trackedPositionId : Nat) (position : PositionStatus) (expectedOrderIntentId : Option Nat) :
      LockedTurn fingerprint (attachEntryExposureClaimToPosition trackedPositionId position expectedOrderIntentId)

/-- The programs that run without the lock. -/
inductive FreeTurn : EntryProgram Unit → Prop where
  | admission (admission : EntryAdmission) (tradingAccountId : Nat) : FreeTurn (submitOrder admission tradingAccountId)
  | disarm (reason : String) : FreeTurn (disarmEntry reason)
  /-- The clock, and the writers of orders, activities, positions and dispatch records. -/
  | otherRows (update : EntryLifecycle → EntryLifecycle) (kept : ∀ store, Recording store (update store)) :
      FreeTurn (Program.write update)

/-- One step of any program. -/
abbrev LifecycleStep (fingerprint : EntryClaimAssessment → String) :
    Workforce EntryLifecycle EntryError → Workforce EntryLifecycle EntryError → Prop :=
  Workforce.Step EntryFault (LockedTurn fingerprint) FreeTurn

abbrev LifecycleRun (fingerprint : EntryClaimAssessment → String) :
    Workforce EntryLifecycle EntryError → Workforce EntryLifecycle EntryError → Prop :=
  Workforce.Run EntryFault (LockedTurn fingerprint) FreeTurn

/-- The two contracts satisfy each other's assumptions, and every program meets its own. -/
def lifecycleDiscipline (fingerprint : EntryClaimAssessment → String) :
    Workforce.Discipline EntryFault (LockedTurn fingerprint) FreeTurn where
  holding := boundaryContract
  sharing := sharedContract
  same_invariant := rfl
  holding_relies := fun shared => shared.free
  sharing_relies := fun shared => shared.silent.events
  sharing_relies_holder := fun advance => advance.events
  locked_harmless := by
    intro program listed
    cases listed with
    | worker => exact boundary_processPendingOrder fingerprint
    | submittedSync => exact boundary_of_silent silent_syncSubmittedOrder
    | staleSubmitting => exact boundary_of_silent (silent_recoverStaleSubmittingIntent fingerprint)
    | terminalSweep => exact boundary_of_silent (silent_recoverTerminalEntryClaim fingerprint)
    | staleAdmission tradingAccountId =>
      exact boundary_of_silent (silent_recoverStaleAdmissionClaim fingerprint tradingAccountId)
    | attachment trackedPositionId position expectedOrderIntentId =>
      exact boundary_of_silent (silent_of_bookkeeping
        (bookkeeping_attach trackedPositionId position expectedOrderIntentId))
  free_harmless := by
    intro program listed
    cases listed with
    | admission admission tradingAccountId => exact shared_submitOrder admission tradingAccountId
    | disarm reason => exact shared_disarmEntry reason
    | otherRows update kept =>
      exact shared_write fun store consistent => ⟨(kept store).shared, (bookkeeping_of_same consistent
        (kept store).same_claim (kept store).same_intent (kept store).unposted).2⟩

/-- No program runs, and no intent, claim or POST exists. -/
structure Unstarted (workforce : Workforce EntryLifecycle EntryError) : Prop where
  idle : workforce.holder = none ∧ workforce.others = []
  intent : workforce.store.intent = none
  claim : workforce.store.claim = none
  posts : workforce.store.posts = 0

section Runs

variable {fingerprint : EntryClaimAssessment → String} {start middle final : Workforce EntryLifecycle EntryError}

theorem consistent_of_unstarted (unstarted : Unstarted start) : start.store.Consistent := by
  have empty : start.store.log = [] := by simp [log, EntryLifecycle.events, unstarted.claim]
  have closed : ¬ start.store.Waiting := by simp [Waiting, intentStatus, unstarted.intent]
  constructor
  · simp [unstarted.claim]
  · simp [unstarted.posts]
  · exact fun posted => absurd unstarted.posts posted
  · exact fun _ => unstarted.posts
  · exact fun _ _ _ => unstarted.posts
  · exact fun waiting => absurd waiting closed
  · exact fun waiting => absurd waiting closed
  · simp [intentStatus, unstarted.intent]
  · simp [empty]

theorem sound_of_unstarted (unstarted : Unstarted start) :
    Workforce.Sound (lifecycleDiscipline fingerprint) start := by
  obtain ⟨store, holder, others⟩ := start
  obtain ⟨⟨rfl, rfl⟩, _, _, _⟩ := id unstarted
  exact Workforce.sound_idle (lifecycleDiscipline fingerprint) (consistent_of_unstarted unstarted)

/-- What every step of a sound workforce does to the store. -/
theorem advance_of_step (sound : Workforce.Sound (lifecycleDiscipline fingerprint) middle)
    (step : LifecycleStep fingerprint middle final) : Advance middle.store final.store := by
  rcases (sound.step step).2 with advance | shared
  · exact advance
  · exact shared.silent.toAdvance

/-- A property that every step keeps holds to the end of the run. -/
theorem kept_of_run (kept : EntryLifecycle → Prop)
    (sound : Workforce.Sound (lifecycleDiscipline fingerprint) middle)
    (each : ∀ {store after : EntryLifecycle}, store.Consistent → Advance store after → kept store → kept after)
    (initial : kept middle.store) (run : LifecycleRun fingerprint middle final) : kept final.store := by
  induction run with
  | refl => exact initial
  | tail run step ih =>
    have before := sound.run run
    exact each before.invariant (advance_of_step before step) ih

/-- A never-submitted release is final: no POST was issued before it, and none is issued after it. -/
theorem releasedNoBrokerExposure_never_posted (unstarted : Unstarted start)
    (before : LifecycleRun fingerprint start middle) (released : .releasedNoBrokerExposure ∈ middle.store.log)
    (later : LifecycleRun fingerprint middle final) : middle.store.posts = 0 ∧ final.store.posts = 0 := by
  have sound := (sound_of_unstarted unstarted).run before
  refine ⟨(sound.invariant.never_submitted released).1, ?_⟩
  have still : .releasedNoBrokerExposure ∈ final.store.log :=
    kept_of_run (fun store => .releasedNoBrokerExposure ∈ store.log) sound
      (fun _ advance held => advance.recorded held) released later
  exact ((sound.run later).invariant.never_submitted still).1

/-- Before the admission of an entry on LIVE account 1. -/
def beforeAdmission : EntryLifecycle := .initial 1000 [("AAPL", 7)]

def sampleAdmission : EntryAdmission where
  intent :=
    { id := 1
      tradingAccountId := some 1
      tradingAccountSubscriptionId := some 1
      subscriptionId := some 1
      symbol := "AAPL"
      side := "buy"
      status := .received
      clientOrderId := some "entry-1"
      blockReason := none
      environment := some .live
      liveEntryAcceptanceRunId := none
      riskEvaluation := none
      updatedAt := 1000 }
  claimId := 1
  securityId := 7
  ownerKey := "strategy"

/-- The rows of the admission are committed, and its program stopped there. -/
def afterAdmission : EntryLifecycle :=
  (((admitEntryOrderIntent sampleAdmission 1).alone beforeAdmission).map (·.2)).getD beforeAdmission

/-- LIVE disarm then blocked the intent and released its claim. -/
def afterDisarm : EntryLifecycle :=
  (((disarmEntry "operator disarm").alone afterAdmission).map (·.2)).getD afterAdmission

theorem unstarted_beforeAdmission : Unstarted ⟨beforeAdmission, none, []⟩ := ⟨⟨rfl, rfl⟩, rfl, rfl, rfl⟩

/-- Admission stops after its first transaction, and disarm releases the claim. -/
theorem run_disarm : ∃ others, LifecycleRun fingerprint ⟨beforeAdmission, none, []⟩ ⟨afterDisarm, none, others⟩ := by
  have finished : (disarmEntry "operator disarm").alone afterAdmission = some (.ok (), afterDisarm) := rfl
  have started : LifecycleRun fingerprint ⟨beforeAdmission, none, []⟩
      ⟨beforeAdmission, none, [] ++ submitOrder sampleAdmission 1 :: []⟩ :=
    .single (.start (.admission sampleAdmission 1))
  have commit : Program.Step EntryFault (submitOrder sampleAdmission 1) beforeAdmission _ afterAdmission := .commit rfl
  have committed := started.tail (.other commit)
  have stopped := committed.tail .stop
  have disarming := stopped.tail (.start (.disarm "operator disarm"))
  exact ⟨_, disarming.trans (Workforce.run_of_interleaving none _ (Program.interleaving_alone finished))⟩

/-- A disarmed admission never posted. -/
theorem releasedNoBrokerExposure_never_posted_afterDisarm :
    afterDisarm.posts = 0 ∧ .releasedNoBrokerExposure ∈ afterDisarm.log := by
  obtain ⟨others, run⟩ := @run_disarm (fun _ => "")
  have released : .releasedNoBrokerExposure ∈ afterDisarm.log := by decide
  exact ⟨(releasedNoBrokerExposure_never_posted unstarted_beforeAdmission run released .refl).2, released⟩

/-- The claim is released, or ownership is `UNRESOLVED`. -/
def Retired (store : EntryLifecycle) : Prop :=
  store.released = true ∨ store.claimStatus = some .unresolved

theorem Retired.advance {store after : EntryLifecycle} (advance : Advance store after) (retired : Retired store) :
    Retired after := by
  rcases retired with released | unresolved
  · exact .inl (advance.released released)
  · exact (advance.retired unresolved).symm

/-- A step of a retired entry posts nothing. -/
theorem Retired.unposted {store after : EntryLifecycle} (advance : Advance store after) (retired : Retired store) :
    after.posts = store.posts := by
  rcases advance.post with same | ⟨_, _, submitting, unreleased⟩
  · exact same
  · rcases retired with released | unresolved
    · rw [unreleased] at released
      exact absurd released (by decide)
    · rw [submitting] at unresolved
      exact absurd unresolved (by decide)

/-- At most one POST for the intent, none once its claim is retired, and no way back to the worker. -/
theorem at_most_one_post (unstarted : Unstarted start) (before : LifecycleRun fingerprint start middle)
    (later : LifecycleRun fingerprint middle final) :
    final.store.posts ≤ 1 ∧
    (Retired middle.store → final.store.posts = middle.store.posts) ∧
    (∀ status, middle.store.intentStatus = some status → status ≠ .received → status ≠ .pending →
      final.store.intentStatus ≠ some .pending) := by
  have sound := (sound_of_unstarted unstarted).run before
  refine ⟨(sound.run later).invariant.at_most_one, fun retired => ?_, fun status held received pending => ?_⟩
  · exact (kept_of_run (fun store => Retired store ∧ store.posts = middle.store.posts) sound
      (fun _ advance held => ⟨held.1.advance advance, (held.1.unposted advance).trans held.2⟩) ⟨retired, rfl⟩ later).2
  · have settled : ¬ middle.store.Waiting ∧ middle.store.intent.isSome := by
      rw [Waiting, held, ← isSome_intentStatus, held]
      simpa using ⟨received, pending⟩
    have still := kept_of_run (fun store => ¬ store.Waiting ∧ store.intent.isSome) sound
      (fun _ advance held => ⟨fun waiting => held.1 (advance.requeue waiting held.2), advance.present held.2⟩)
      settled later
    exact fun requeued => still.1 (.inr requeued)

set_option maxRecDepth 8000 in
/-- The entry is admitted, and the worker sends its POST. -/
theorem run_posted : ∃ store worker others, LifecycleRun fingerprint ⟨beforeAdmission, none, []⟩ ⟨store, some worker, others⟩ ∧
    store.posts = 1 ∧ store.intentStatus = some .submitting := by
  have admitted : LifecycleRun fingerprint ⟨beforeAdmission, none, []⟩ ⟨_, none, [_]⟩ :=
    .head (.start (.admission sampleAdmission 1)) (Workforce.run_of_interleaving _ [] (by
      iterate 2 refine .head (.own (.commit rfl)) ?_
      refine .head (.own (.ask (.ok .allowed))) ?_
      iterate 3 refine .head (.own (.commit rfl)) ?_
      exact .refl))
  have working := admitted.tail (.acquire .worker)
  exact ⟨_, _, _, working.trans (Workforce.run_of_holder _ (by
    repeat refine .head (.own (.commit rfl)) ?_
    refine .head (.own (.ask (.ok .entry))) (.head (.own (.ask (.ok .allowed))) ?_)
    repeat refine .head (.own (.commit rfl)) ?_
    -- the broker knows no order of this client order id
    refine .head (.own (.ask (.ok none))) ?_
    repeat refine .head (.own (.commit rfl)) ?_
    refine .head (.own (.ask none)) ?_
    repeat refine .head (.own (.commit rfl)) ?_
    -- the arming is consumed
    refine .head (.own (.ask (.ok 1))) ?_
    repeat refine .head (.own (.commit rfl)) ?_
    refine .head (.own (.ask none)) ?_
    exact .single (.own (.commit rfl)))), rfl, rfl⟩

/-- The process ends after the POST, and the next worker finds the intent submitting. -/
theorem at_most_one_post_afterPost : ∃ final, LifecycleRun (fun _ => "") ⟨beforeAdmission, none, []⟩ final ∧
    final.store.posts = 1 ∧ final.store.posts ≤ 1 ∧ final.store.intentStatus ≠ some .pending := by
  obtain ⟨store, worker, others, run, posted, submitting⟩ := @run_posted (fun _ => "")
  have released : LifecycleRun (fun _ => "") ⟨store, some worker, others⟩ ⟨store, none, others⟩ := .single .release
  have later := (released.tail (.acquire .worker)).tail (.holder (.commit rfl))
  obtain ⟨bound, _, settled⟩ := at_most_one_post unstarted_beforeAdmission run later
  exact ⟨_, run.trans later, posted, bound, settled .submitting submitting (by decide) (by decide)⟩

end Runs

end AiTrader.Entry
