import AiTrader.Entry.LifecycleRuns

/-! # Stale-admission recovery against a slow admission

Recovery fails an abandoned intent with not-sent evidence, and the admission may resume at any later point. -/

namespace AiTrader.Entry

open Library EntryLifecycle

def FailedByRecovery (store : EntryLifecycle) : Prop :=
  ∃ event ∈ store.events, event.eventType = .notSentEvidenceRecorded ∧
    event.evidence.source = some .staleAdmissionRecovery

section Recovery

variable {tradingAccountId cutoff : Nat} {store before after : EntryLifecycle}
  {resumed : EntryProgram StaleAdmissionVerdict}

theorem FailedByRecovery.recorded (failed : FailedByRecovery store) : .notSentEvidenceRecorded ∈ store.log := by
  obtain ⟨event, member, notSent, _⟩ := failed
  exact List.mem_map.mpr ⟨event, member, notSent⟩

theorem FailedByRecovery.advance (advance : Advance store after) (failed : FailedByRecovery store) :
    FailedByRecovery after := by
  obtain ⟨event, member, evidence⟩ := failed
  exact ⟨event, advance.events.subset member, evidence⟩

/-- An entry that recovery failed is neither waiting nor at the boundary, and posted nothing. -/
theorem FailedByRecovery.inert (consistent : store.Consistent) (failed : FailedByRecovery store) :
    store.posts = 0 ∧ ¬ store.Waiting ∧ store.intentStatus ≠ some .submitting := by
  have recorded := failed.recorded
  refine ⟨consistent.not_sent recorded, fun waiting => ?_, fun submitting => ?_⟩
  · exact consistent.waiting_undecided waiting recorded
  · exact consistent.submitting_undecided submitting recorded

end Recovery

section Runs

variable {fingerprint : EntryClaimAssessment → String} {start middle final : Workforce EntryLifecycle EntryError}

/-- An intent that recovery failed never becomes executable again and is never sent, and its released claim stays
released. -/
theorem stale_admission_final (unstarted : Unstarted start) (before : LifecycleRun fingerprint start middle)
    (failed : FailedByRecovery middle.store) (later : LifecycleRun fingerprint middle final) :
    final.store.posts = 0 ∧ final.store.intentStatus ≠ some .pending ∧ final.store.intentStatus ≠ some .submitting ∧
    (middle.store.released = true → final.store.released = true ∧
      ∀ allowUnresolved, ∃ message, (requireEntryExposureClaim allowUnresolved).alone final.store =
        some (.error (.conflict .entryExposureUnresolved message), final.store)) := by
  have sound := (sound_of_unstarted unstarted).run before
  have still : FailedByRecovery final.store :=
    kept_of_run FailedByRecovery sound (fun _ advance held => held.advance advance) failed later
  obtain ⟨unposted, unwaiting, unsubmitted⟩ := still.inert (sound.run later).invariant
  refine ⟨unposted, fun pending => unwaiting (.inr pending), unsubmitted, fun released => ?_⟩
  have kept : final.store.released = true :=
    kept_of_run (fun store => store.released = true) sound (fun _ advance held => advance.released held) released later
  refine ⟨kept, fun allowUnresolved => ?_⟩
  obtain ⟨claim, present, isReleased⟩ := (Option.any_eq_true _ _).mp kept
  refine ⟨"Executable entry has no active exposure claim.", ?_⟩
  simp [requireEntryExposureClaim, Program.alone_bind, present, isReleased]

section Sample

/-- Fifteen minutes and more passed since the admission committed its rows. -/
def abandoned : EntryLifecycle := { afterAdmission with clock := 1000 + 20 * 60000 }

/-- Recovery failed the intent and released its claim. -/
def afterRecovery : EntryLifecycle :=
  (((recoverStaleAdmissionClaim (fun _ => "") 1).alone abandoned).map (·.2)).getD abandoned

/-- The admission was allowed, and found its intent failed. -/
def afterResumption : EntryLifecycle := afterRecovery.updateIntent ({ · with riskEvaluation := some ⟨true, none⟩ })

set_option maxRecDepth 8000 in
/-- Admission stops after its first transaction, recovery fails its intent and releases the claim, and admission resumes. -/
theorem run_staleAdmission : ∃ recovered resumed, LifecycleRun (fun _ => "") ⟨beforeAdmission, none, []⟩ recovered ∧
    recovered.store = afterRecovery ∧ LifecycleRun (fun _ => "") recovered resumed ∧ resumed.store = afterResumption := by
  have finished : (recoverStaleAdmissionClaim (fun _ => "") 1).alone abandoned = some (.ok (), afterRecovery) := rfl
  have admitting : LifecycleRun (fun _ => "") ⟨beforeAdmission, none, []⟩
      ⟨beforeAdmission, none, [] ++ submitOrder sampleAdmission 1 :: []⟩ :=
    .single (.start (.admission sampleAdmission 1))
  have commit : Program.Step EntryFault (submitOrder sampleAdmission 1) beforeAdmission _ afterAdmission := .commit rfl
  have committed := admitting.tail (.other commit)
  have waiting := committed.tail (.start (.otherRows (fun store => { store with clock := 1000 + 20 * 60000 })
    fun store => ⟨rfl, rfl, rfl⟩))
  have tick : Program.Step EntryFault (Program.write fun store : EntryLifecycle =>
      { store with clock := 1000 + 20 * 60000 }) afterAdmission (.done (.ok ())) abandoned := .commit rfl
  have elapsed := waiting.trans (Workforce.run_of_interleaving none _ (.single (.own tick)))
  have recovering := (elapsed.tail (@Workforce.Step.stop _ _ _ _ _ _ _ _ [] _)).tail (.acquire (.staleAdmission 1))
  refine ⟨_, ⟨_, _, [_]⟩, recovering.trans (Workforce.run_of_holder _ (Program.interleaving_alone finished)), rfl,
    Workforce.run_of_interleaving _ [] (by
      refine .head (.own (.commit rfl)) (.head (.own (.ask (.ok .allowed))) ?_)
      iterate 2 refine .head (.own (.commit rfl)) ?_
      exact .single (.own (.commit rfl))), rfl⟩

end Sample

/-- Nothing of an abandoned admission is posted, and its released claim stays released when it resumes. -/
theorem stale_admission_final_abandoned : afterResumption.posts = 0 ∧ afterResumption.released = true := by
  obtain ⟨_, _, run, recovered, resumes, resumed⟩ := run_staleAdmission
  have failed : FailedByRecovery afterRecovery ∧ afterRecovery.released = true := by
    unfold FailedByRecovery
    decide +kernel
  rw [← recovered] at failed
  obtain ⟨unposted, _, _, kept⟩ := stale_admission_final unstarted_beforeAdmission run failed.1 resumes
  exact resumed ▸ ⟨unposted, (kept failed.2).1⟩

end Runs

end AiTrader.Entry
