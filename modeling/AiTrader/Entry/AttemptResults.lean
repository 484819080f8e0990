import AiTrader.Entry.SweepAgreement

/-! # The results of recovery attempts in the log of a claim

An attempt is given by what its statements read and which of them fail; what it writes and concludes is computed from
these and the status of the claim. -/

namespace AiTrader.Entry

/-- Recovery attempt results, newest first wins in readiness. -/
inductive AttemptResult where
  | blockedByEvidence | technicalFailure | refused | retained
deriving DecidableEq

/-- The reason recorded with a concluded result. -/
inductive AttemptReason where
  | blockers (blockers : List ReleaseBlocker)
  | outcome (outcome : UnsubmittedReleaseOutcome)
  | outcomeRecordedOperatorInvestigation
  | errorCode (errorCode : String)
deriving DecidableEq

/-- The refusal of a never-submitted release and the facts it names. -/
structure RefusalDetails where
  refusal : EntryError
  claimStatus : ClaimStatus
  rows : SubmissionEvidence
  classifications : List DeliveryClassification
deriving DecidableEq

/-- The evidence of an attempt result, one form for each type. -/
inductive AttemptEvidence where
  | releaseBlocked (basis : Option DispatchReleaseBasis) (blockers : List ReleaseBlocker)
      (brokerOrder : Option AlpacaOrderView) (brokerPosition : Option AlpacaPositionView)
      (openBuyOrderIds : List String) (lookupFailed : Bool)
  | revalidation (revalidation : List ReleaseBlocker)
  | recoveryError (source : RecoverySource) (errorCode : String)
  | attemptFailed (source : RecoverySource) (reason errorCode : String)
  | priorDispatchRecord (reason : String) (source : RecoverySource) (refusal : EntryError)
  | releaseRefused (reason : String) (source : RecoverySource) (details : RefusalDetails)
  | attemptResult (source : RecoverySource) (result : AttemptResult) (reason : AttemptReason)
      (recoveryState : TerminalClaimRecoveryState)
deriving DecidableEq

structure AttemptResultEvent where
  id : Nat
  eventType : ClaimEventType
  evidence : AttemptEvidence

/-- The result that an event names, if its type is one of an attempt result. -/
def attemptResultOf (event : AttemptResultEvent) : Option AttemptResult :=
  match event.eventType with
  | .dispatchRecoveryReleaseBlocked => some .blockedByEvidence
  | .dispatchRecoveryRevalidationBlocked => some .blockedByEvidence
  | .dispatchRecoveryError => some .technicalFailure
  | .recoveryAttemptFailed => some .technicalFailure
  | .unsubmittedReleaseRefused => some .refused
  | .preBoundaryFailureWithPriorDispatchRecord => some .refused
  | .dispatchRecoveryAttemptResult =>
    match event.evidence with
    | .attemptResult _ result _ _ => some result
    | _ => some .retained
  | _ => none

/-- A claim with its log, oldest first; `sequence` is the last event id. -/
structure ResultLog where
  status : ClaimStatus
  released : Bool
  sequence : Nat
  events : List AttemptResultEvent
  numbered : ∀ event ∈ events, event.id ≤ sequence

namespace ResultLog

def append (eventType : ClaimEventType) (evidence : AttemptEvidence) (log : ResultLog) : ResultLog where
  status := log.status
  released := log.released
  sequence := log.sequence + 1
  events := log.events ++ [⟨log.sequence + 1, eventType, evidence⟩]
  numbered := by
    intro event member
    obtain earlier | newest := List.mem_append.mp member
    · exact (log.numbered event earlier).trans (Nat.le_succ _)
    · rw [List.mem_singleton.mp newest]

/-- The newest event of some types. -/
def newestOf (types : List ClaimEventType) (log : ResultLog) : Option AttemptResultEvent :=
  log.events.reverse.find? fun event => types.contains event.eventType

def latestAttemptResultEvent (log : ResultLog) : Option AttemptResultEvent :=
  log.newestOf recoveryAttemptResultEventTypes

/-- A diagnostic is appended only when its evidence changed, compared across all result types. -/
def appendClaimDiagnostic (eventType : ClaimEventType) (evidence : AttemptEvidence) (log : ResultLog) : ResultLog :=
  if log.released then log
  else
    let compared := if recoveryAttemptResultEventTypes.contains eventType
      then recoveryAttemptResultEventTypes else [eventType]
    if (log.newestOf compared).any fun duplicate => duplicate.eventType == eventType && duplicate.evidence == evidence
      then log
    else log.append eventType evidence

/-- `transitionEntryExposureClaim` to `UNRESOLVED`: evidence repeated in that status is not appended again. -/
def transitionUnresolved (eventType : ClaimEventType) (evidence : AttemptEvidence) (log : ResultLog) : ResultLog :=
  if log.released then log
  else if log.status = .unresolved then
    if (log.newestOf [eventType]).any fun prior => prior.evidence == evidence then log else log.append eventType evidence
  else { log.append eventType evidence with status := .unresolved }

def unresolve (log : ResultLog) : ResultLog := { log with status := .unresolved }

def release (log : ResultLog) : ResultLog := { log with released := true }

/-- Keeps the newest attempt result truthful without an event per attempt. -/
def recordAttemptResultIfStale (priorResultEventId : Nat) (attempt : AttemptResult × AttemptReason)
    (state : TerminalClaimRecoveryState) (log : ResultLog) : ResultLog :=
  if log.latestAttemptResultEvent.any fun latest =>
      decide (latest.id > priorResultEventId) || attemptResultOf latest == some attempt.1 then log
  else log.appendClaimDiagnostic .dispatchRecoveryAttemptResult
    (.attemptResult .terminalClaimSweep attempt.1 attempt.2 state)

end ResultLog

section Attempts

/-- What an attempt writes to the claim. -/
inductive ResultWrite where
  | diagnostic (eventType : ClaimEventType) (evidence : AttemptEvidence)
  | refusal (evidence : AttemptEvidence)
  | unresolve
  /-- The claim is released, by the attempt or found so by it. -/
  | release

def ResultWrite.apply : ResultWrite → ResultLog → ResultLog
  | .diagnostic eventType evidence => ResultLog.appendClaimDiagnostic eventType evidence
  | .refusal evidence => ResultLog.transitionUnresolved .unsubmittedReleaseRefused evidence
  | .unresolve => ResultLog.unresolve
  | .release => ResultLog.release

/-- The releasing transaction's own reads. -/
structure Revalidation where
  claim : EntryExposureClaim
  intentStatus : Option OrderStatus
  exposure : LocalExposure
  evidenceEvents : Nat
  records : EntryDispatchRecords

/-- What an attempt reads, in the order of its statements. -/
structure SweepReads where
  candidate : TerminalClaimCandidate
  /-- The claim and its number of delivery events, before not-sent evidence is recorded. -/
  recheck : EntryExposureClaim × Nat
  /-- The claim, its delivery events and the rows of its intent in the never-submitted release. -/
  unsubmitted : EntryExposureClaim × List ClaimEvent × SubmissionEvidence
  /-- The dispatch records after a refusal; `none` when they could not be read. -/
  records : Option EntryDispatchRecords
  assessment : EntryClaimAssessment
  again : Revalidation
  /-- The compare-and-set of a release finds another status than the read before it. -/
  missed : Bool

/-- Which statements of an attempt fail, with the code of the error. -/
structure AttemptFaults where
  /-- A statement before the result is known. -/
  attempt : Option String := none
  /-- The record of not-sent evidence or of an outcome. -/
  recording : Option String := none
  /-- The diagnostic of the result, before it writes anything. -/
  diagnostic : Option String := none
  /-- A statement of the diagnostic after its first write. -/
  stamp : Option String := none
  /-- The read of the claim before a refusal is recorded, whose failure is swallowed. -/
  claim : Bool := false
  /-- The record of an error, whose failure is swallowed. -/
  error : Bool := false
  /-- The sweep's own two statements on the log after the attempt, whose failures are swallowed. -/
  result : Bool := false

/-- An attempt of the sweep on a claim. -/
structure ClaimTick where
  now : Nat
  reads : SweepReads
  faults : AttemptFaults := {}

/-- An attempt: its writes, its conclusion (`none` once released), and whether the sweep's own statements on the log succeed
after it. -/
structure SweepAttempt where
  state : TerminalClaimRecoveryState
  writes : List ResultWrite
  result : Option (AttemptResult × AttemptReason)
  logged : Bool

/-- `DispatchedEntryReleaseResult` with the eligibility of its assessment. -/
structure DispatchedEntryReleaseResult where
  released : Bool
  reason : List ReleaseBlocker
  eligible : Bool

/-- What an attempt concluded from a verified release; `none` once the claim is released. -/
def verified (release : DispatchedEntryReleaseResult) : Option (AttemptResult × AttemptReason) :=
  if release.released then none
  else some (if release.eligible then .retained else .blockedByEvidence, .blockers release.reason)

/-- What an attempt concluded from a never-submitted release. -/
def unsubmitted (outcome : UnsubmittedReleaseOutcome) : Option (AttemptResult × AttemptReason) :=
  if outcome = .released then none
  else some (if outcome = .retryableFailure then .technicalFailure else if outcome = .refusedRetained then .refused
    else .retained, .outcome outcome)

def terminalSweepReason : String := "TERMINAL_INTENT_VERIFIED_NEVER_SUBMITTED"

/-- A claim as a read of the attempt finds it: while it is held it has the status of the log. -/
def heldAs (status : ClaimStatus) (claim : EntryExposureClaim) : EntryExposureClaim :=
  if claim.releasedAt.isSome then claim else { claim with status }

namespace ClaimTick

variable (tick : ClaimTick) (status : ClaimStatus)

/-- `recordRecoveryError` of the sweep. -/
def errorWrites (errorCode : String) : List ResultWrite :=
  if tick.faults.error then []
  else [.diagnostic .dispatchRecoveryError (.recoveryError .terminalClaimSweep errorCode)]

/-- The record of a refused never-submitted release. -/
def refusalWrites (claim : EntryExposureClaim) (refusal : EntryError) : List ResultWrite :=
  let prior : ResultWrite := .diagnostic .preBoundaryFailureWithPriorDispatchRecord
    (.priorDispatchRecord terminalSweepReason .terminalClaimSweep refusal)
  let present := tick.reads.records.any (·.present)
  if tick.faults.claim then []
  else
    match tick.faults.diagnostic, tick.faults.stamp with
    | some errorCode, _ => tick.errorWrites errorCode
    | none, some errorCode => (if present then prior else .unresolve) :: tick.errorWrites errorCode
    | none, none =>
      [if present then prior else .refusal (.releaseRefused terminalSweepReason .terminalClaimSweep
        ⟨refusal, claim.status, tick.reads.unsubmitted.2.2,
          (summarizeDeliveryEvidence tick.reads.unsubmitted.2.1).outcomes.map (·.classification)⟩)]

/-- `releaseUnsubmittedOrRouteToRecovery` for the sweep, which never attempted a dispatch itself. -/
def releaseUnsubmitted : List ResultWrite × UnsubmittedReleaseOutcome :=
  match tick.faults.attempt with
  | some errorCode => (if tick.faults.diagnostic.isSome then [] else [.diagnostic .recoveryAttemptFailed
      (.attemptFailed .terminalClaimSweep terminalSweepReason errorCode)], .retryableFailure)
  | none =>
    let claim := heldAs status tick.reads.unsubmitted.1
    if claim.releasedAt.isSome then ([.release], .alreadyReleased)
    else
      match decideNeverSubmittedRelease claim tick.reads.candidate.intent.blockReason tick.reads.unsubmitted.2.2
          tick.reads.unsubmitted.2.1 with
      | .ok _ => if tick.reads.missed then ([], .notReleased) else ([.release], .released)
      | .error refusal => (tick.refusalWrites claim refusal, .refusedRetained)

/-- The assessment of the claim at this attempt. -/
def assessment : EntryClaimAssessment :=
  { tick.reads.assessment with claim := heldAs status tick.reads.assessment.claim, now := tick.now }

def releaseBlocked : ResultWrite :=
  let assessment := tick.assessment status
  .diagnostic .dispatchRecoveryReleaseBlocked (.releaseBlocked assessment.basis.toOption assessment.blockers
    assessment.broker.order assessment.broker.position (assessment.broker.openBuys.map (·.id))
    assessment.broker.lookupError.isSome)

/-- What the releasing transaction finds against the release. -/
def revalidation : List ReleaseBlocker :=
  revalidationBlockers (tick.assessment status) (heldAs status tick.reads.again.claim) tick.reads.again.intentStatus
    tick.reads.again.exposure tick.reads.again.evidenceEvents tick.reads.again.records

/-- `releaseVerifiedEntryExposureClaim` in `SYSTEM` mode; an error carries what was written before it. -/
def releaseVerified : Except (List ResultWrite × String) (List ResultWrite × DispatchedEntryReleaseResult) :=
  let assessment := tick.assessment status
  match tick.faults.attempt with
  | some errorCode => .error ([], errorCode)
  | none =>
    if !assessment.eligible then
      if assessment.blockers.contains .claimAlreadyReleased then .ok ([.release], ⟨false, assessment.blockers, false⟩)
      else
        match tick.faults.diagnostic, tick.faults.stamp with
        | some errorCode, _ => .error ([], errorCode)
        | none, some errorCode => .error ([tick.releaseBlocked status], errorCode)
        | none, none => .ok ([tick.releaseBlocked status], ⟨false, assessment.blockers, false⟩)
    else if tick.reads.again.claim.releasedAt.isSome then .ok ([.release], ⟨false, [.claimAlreadyReleased], true⟩)
    else if tick.revalidation status ≠ [] then
      -- The diagnostic belongs to the transaction: a failure of it leaves nothing.
      match tick.faults.diagnostic.or tick.faults.stamp with
      | some errorCode => .error ([], errorCode)
      | none => .ok ([.diagnostic .dispatchRecoveryRevalidationBlocked (.revalidation (tick.revalidation status))],
          ⟨false, tick.revalidation status, true⟩)
    else if tick.reads.missed then .ok ([], ⟨false, [.claimStatusChanged], true⟩)
    else .ok ([.release], ⟨true, [], true⟩)

def classification : TerminalClaimClassification :=
  classifyTerminalEntryClaim
    { tick.reads.candidate with claim := { tick.reads.candidate.claim with status } } tick.now

/-- The sweep attempts a held claim with an automatic classification. -/
def attempts (log : ResultLog) : Bool := !log.released && (tick.classification log.status).state.automatic

/-- The attempt records the outcome that is missing, which leaves the claim unresolved. -/
def recordsOutcome : Bool :=
  (tick.classification status).state == .automaticOutcomeRecording && tick.faults.recording.isNone

/-- The `try` of an attempt. -/
def tryAttempt :
    Except (List ResultWrite × String) (List ResultWrite × Option (AttemptResult × AttemptReason)) :=
  let unsubmittedAttempt := (tick.releaseUnsubmitted status).map id unsubmitted
  let verifiedAttempt := fun status => (tick.releaseVerified status).map (Prod.map id verified)
  match (tick.classification status).state with
  | .automaticNeverSubmittedRelease => .ok unsubmittedAttempt
  | .automaticNotSentEvidenceRecording =>
    match tick.faults.recording with
    | some errorCode => .error ([], errorCode)
    | none =>
      let current := heldAs status tick.reads.recheck.1
      if current.releasedAt.isSome then .ok ([.release], unsubmitted .notReleased)
      else if current.status ≠ status ∨ tick.reads.recheck.2 ≠ tick.reads.candidate.events.length then
        .ok ([], unsubmitted .notReleased)
      else .ok unsubmittedAttempt
  | .automaticOutcomeRecording =>
    match tick.faults.recording with
    | some errorCode => .error ([], errorCode)
    | none =>
      if tick.reads.candidate.records.present then verifiedAttempt .unresolved
      else .ok ([], some (.retained, .outcomeRecordedOperatorInvestigation))
  | _ => verifiedAttempt status

/-- The attempt with its `catch`. -/
def attempt : SweepAttempt :=
  let ended := match tick.tryAttempt status with
    | .ok ended => ended
    | .error raised => (raised.1 ++ tick.errorWrites raised.2, some (.technicalFailure, .errorCode raised.2))
  ⟨(tick.classification status).state, ended.1, ended.2, !tick.faults.result⟩

end ClaimTick

def SweepAttempt.run (attempt : SweepAttempt) (log : ResultLog) : ResultLog :=
  let priorResultEventId := log.latestAttemptResultEvent.elim 0 (·.id)
  let ended := attempt.writes.foldl (fun log write => write.apply log) log
  match attempt.result with
  | some result =>
    if attempt.logged then ended.recordAttemptResultIfStale priorResultEventId result attempt.state else ended
  | none => ended

/-- The log when the attempt starts to release the claim. -/
def ClaimTick.begun (tick : ClaimTick) (log : ResultLog) : ResultLog :=
  if tick.recordsOutcome log.status then log.unresolve else log

def ClaimTick.run (tick : ClaimTick) (log : ResultLog) : ResultLog :=
  if tick.attempts log then (tick.attempt log.status).run (tick.begun log) else log

/-- The attempts on a claim in their order. -/
def runTicks (ticks : List ClaimTick) (log : ResultLog) : ResultLog :=
  ticks.foldl (fun log tick => tick.run log) log

end Attempts

variable {event : AttemptResultEvent} {ended log : ResultLog} {attempt : SweepAttempt}

section Settling

variable {eventType : ClaimEventType} {evidence : AttemptEvidence} {result : AttemptResult × AttemptReason}
  {state : TerminalClaimRecoveryState}

/-- The newest attempt result of the log names this result. -/
def ResultLog.Tells (log : ResultLog) (result : AttemptResult) : Prop :=
  ∃ event, log.latestAttemptResultEvent = some event ∧ attemptResultOf event = some result

/-- The newest attempt result of the log has this type and evidence. -/
def ResultLog.Shows (log : ResultLog) (eventType : ClaimEventType) (evidence : AttemptEvidence) : Prop :=
  ∃ id, log.latestAttemptResultEvent = some ⟨id, eventType, evidence⟩

theorem newestOf_append {types : List ClaimEventType} (listed : eventType ∈ types) :
    (log.append eventType evidence).newestOf types = some ⟨log.sequence + 1, eventType, evidence⟩ := by
  simp [ResultLog.newestOf, ResultLog.append, listed]

theorem prior_le_sequence : log.latestAttemptResultEvent.elim 0 (·.id) ≤ log.sequence := by
  cases latest : log.latestAttemptResultEvent with
  | none => exact Nat.zero_le _
  | some event => exact log.numbered event (List.mem_reverse.mp (List.mem_of_find?_eq_some latest))

/-- A result diagnostic of a held claim is then the newest result. -/
theorem appendClaimDiagnostic_cases (held : log.released = false) (listed : eventType ∈ recoveryAttemptResultEventTypes) :
    log.Shows eventType evidence ∧ log.appendClaimDiagnostic eventType evidence = log ∨
      log.appendClaimDiagnostic eventType evidence = log.append eventType evidence := by
  rw [ResultLog.appendClaimDiagnostic, held, if_neg (Bool.false_ne_true)]
  have compared : recoveryAttemptResultEventTypes.contains eventType = true := List.contains_iff_mem.mpr listed
  simp only [compared, if_true]
  split_ifs with duplicate
  · left
    obtain ⟨⟨id, priorType, priorEvidence⟩, newest, same⟩ := Option.any_eq_true _ _ |>.mp duplicate
    simp only [Bool.and_eq_true, beq_iff_eq] at same
    obtain ⟨rfl, rfl⟩ := same
    exact ⟨⟨id, newest⟩, rfl⟩
  · exact .inr rfl

theorem shows_append (listed : eventType ∈ recoveryAttemptResultEventTypes) :
    (log.append eventType evidence).Shows eventType evidence :=
  ⟨log.sequence + 1, newestOf_append listed⟩

theorem ResultLog.Shows.unchanged (shows : log.Shows eventType evidence)
    (listed : eventType ∈ recoveryAttemptResultEventTypes) : log.appendClaimDiagnostic eventType evidence = log := by
  obtain ⟨id, newest⟩ := shows
  rw [ResultLog.latestAttemptResultEvent] at newest
  simp [ResultLog.appendClaimDiagnostic, listed, newest]

theorem ResultLog.Shows.tells {named : AttemptResult} (shows : log.Shows eventType evidence)
    (names : ∀ id, attemptResultOf ⟨id, eventType, evidence⟩ = some named) : log.Tells named := by
  obtain ⟨id, newest⟩ := shows
  exact ⟨_, newest, names id⟩

theorem ResultLog.Tells.unchanged (tells : log.Tells result.1) (prior : Nat) :
    log.recordAttemptResultIfStale prior result state = log := by
  obtain ⟨event, latest, names⟩ := tells
  simp [ResultLog.recordAttemptResultIfStale, latest, names]

theorem unchanged_of_newer {prior : Nat} (latest : log.latestAttemptResultEvent = some event)
    (newer : prior < event.id) : log.recordAttemptResultIfStale prior result state = log := by
  simp [ResultLog.recordAttemptResultIfStale, latest, newer]

theorem recordAttemptResultIfStale_cases (held : log.released = false) :
    log.Tells result.1 ∨ log.recordAttemptResultIfStale (log.latestAttemptResultEvent.elim 0 (·.id)) result state =
      log.append .dispatchRecoveryAttemptResult (.attemptResult .terminalClaimSweep result.1 result.2 state) := by
  have listed : ClaimEventType.dispatchRecoveryAttemptResult ∈ recoveryAttemptResultEventTypes := by decide
  by_cases tells : log.Tells result.1
  · exact .inl tells
  · right
    have stale : (log.latestAttemptResultEvent.any fun latest =>
        decide (latest.id > log.latestAttemptResultEvent.elim 0 (·.id)) || attemptResultOf latest == some result.1) =
          false := by
      cases latest : log.latestAttemptResultEvent with
      | none => rfl
      | some event =>
        have other : attemptResultOf event ≠ some result.1 := fun names => tells ⟨event, latest, names⟩
        simp [other]
    rw [ResultLog.recordAttemptResultIfStale, stale, if_neg Bool.false_ne_true]
    obtain ⟨shows, _⟩ | appended := @appendClaimDiagnostic_cases log .dispatchRecoveryAttemptResult
      (.attemptResult .terminalClaimSweep result.1 result.2 state) held listed
    · exact absurd (shows.tells fun _ => rfl) tells
    · exact appended

theorem tells_recorded : (log.append .dispatchRecoveryAttemptResult
    (.attemptResult .terminalClaimSweep result.1 result.2 state)).Tells result.1 :=
  (shows_append (by decide)).tells fun _ => rfl

/-- What an attempt writes whose records succeed: nothing, its diagnostic, its refusal, or the release. -/
inductive SweepAttempt.Plain (attempt : SweepAttempt) : Prop
  | releasing (writes : attempt.writes = [.release])
  | silent (result : AttemptResult × AttemptReason) (writes : attempt.writes = [])
      (concludes : attempt.result = some result)
  | told (result : AttemptResult × AttemptReason) (eventType : ClaimEventType) (evidence : AttemptEvidence)
      (listed : eventType ∈ recoveryAttemptResultEventTypes) (writes : attempt.writes = [.diagnostic eventType evidence])
      (concludes : attempt.result = some result)
      (names : ∀ id, attemptResultOf ⟨id, eventType, evidence⟩ = some result.1)
  | refusing (reason : AttemptReason) (evidence : AttemptEvidence) (writes : attempt.writes = [.refusal evidence])
      (concludes : attempt.result = some (.refused, reason))

/-- An attempt whose result is told after its own writes appends nothing more. -/
theorem SweepAttempt.run_of_tells (concludes : attempt.result = some result)
    (writes : attempt.writes.foldl (fun log write => write.apply log) log = ended) (tells : ended.Tells result.1) :
    attempt.run log = ended := by
  rw [SweepAttempt.run, concludes, writes]
  cases attempt.logged with
  | false => rfl
  | true => exact tells.unchanged _

theorem SweepAttempt.run_of_logged (concludes : attempt.result = some result) (logged : attempt.logged = true)
    (writes : attempt.writes.foldl (fun log write => write.apply log) log = ended) :
    attempt.run log =
      ended.recordAttemptResultIfStale (log.latestAttemptResultEvent.elim 0 (·.id)) result attempt.state := by
  rw [SweepAttempt.run, concludes, writes, logged]
  rfl

/-- The attempt releases, leaves the log as it is, or appends one event; repeated it leaves the log. -/
inductive SweepAttempt.Settles (attempt : SweepAttempt) (log : ResultLog) : Prop
  | released (released : (attempt.run log).released = true) (same : (attempt.run log).events = log.events)
  | same (same : attempt.run log = log)
  | appended (appended : (attempt.run log).events.length = log.events.length + 1)
      (rests : attempt.run (attempt.run log) = attempt.run log)

/-- What the attempt concluded is told by the newest result after it, unless the claim is released. -/
def SweepAttempt.Told (attempt : SweepAttempt) (log : ResultLog) : Prop :=
  ∀ result, attempt.result = some result → (attempt.run log).released = false → (attempt.run log).Tells result.1

theorem length_append : (log.append eventType evidence).events.length = log.events.length + 1 := by
  simp [ResultLog.append]

/-- Nothing of its own: the result is told, or is appended. -/
theorem settles_silent (held : log.released = false) (logged : attempt.logged = true) (writes : attempt.writes = [])
    (concludes : attempt.result = some result) : attempt.Settles log ∧ (attempt.run log).Tells result.1 := by
  have nothing : ∀ current : ResultLog, attempt.writes.foldl (fun log write => write.apply log) current = current := by
    intro current
    rw [writes]
    rfl
  have recorded := attempt.run_of_logged concludes logged (nothing log)
  obtain tells | appended := @recordAttemptResultIfStale_cases log result attempt.state held
  · have kept := attempt.run_of_tells concludes (nothing log) tells
    exact ⟨.same kept, kept.symm ▸ tells⟩
  · rw [← recorded] at appended
    have tells : (attempt.run log).Tells result.1 := appended.symm ▸ tells_recorded
    exact ⟨.appended (by rw [appended, length_append]) (attempt.run_of_tells concludes (nothing _) tells), tells⟩

/-- The attempt's own diagnostic is the newest result after it, whether it was appended or repeated. -/
theorem settles_told (held : log.released = false) (listed : eventType ∈ recoveryAttemptResultEventTypes)
    (writes : attempt.writes = [.diagnostic eventType evidence]) (concludes : attempt.result = some result)
    (names : ∀ id, attemptResultOf ⟨id, eventType, evidence⟩ = some result.1) :
    attempt.Settles log ∧ (attempt.run log).Tells result.1 := by
  have rested : ∀ {current : ResultLog}, current.Shows eventType evidence → attempt.run current = current := by
    intro current shows
    apply attempt.run_of_tells concludes _ (shows.tells names)
    rw [writes]
    exact shows.unchanged listed
  obtain ⟨shows, unchanged⟩ | appended := @appendClaimDiagnostic_cases log eventType evidence held listed
  · exact ⟨.same (rested shows), (rested shows).symm ▸ shows.tells names⟩
  · have shows : (log.append eventType evidence).Shows eventType evidence := shows_append listed
    have ended : attempt.run log = log.append eventType evidence := by
      apply attempt.run_of_tells concludes _ (shows.tells names)
      rw [writes]
      exact appended
    exact ⟨.appended (by rw [ended, length_append]) (ended.symm ▸ rested shows), ended.symm ▸ shows.tells names⟩

/-- The claim is unresolved, its newest refusal has this evidence, and its newest result is a refusal. -/
structure ResultLog.Refuses (log : ResultLog) (evidence : AttemptEvidence) : Prop where
  unresolved : log.status = .unresolved
  newest : (log.newestOf [.unsubmittedReleaseRefused]).any (fun prior => prior.evidence == evidence) = true
  tells : log.Tells .refused

/-- After a refusal the claim is unresolved, and the event is appended unless the same was the newest. -/
theorem settles_refusing {reason : AttemptReason} (held : log.released = false) (logged : attempt.logged = true)
    (writes : attempt.writes = [.refusal evidence]) (concludes : attempt.result = some (.refused, reason)) :
    attempt.Settles log ∧ (attempt.run log).Tells .refused := by
  have written : ∀ current : ResultLog, attempt.writes.foldl (fun log write => write.apply log) current =
      current.transitionUnresolved .unsubmittedReleaseRefused evidence := by
    intro current
    rw [writes]
    rfl
  have rested : ∀ {current : ResultLog}, current.Refuses evidence → attempt.run current = current := by
    intro current refuses
    apply attempt.run_of_tells concludes _ refuses.tells
    rw [written]
    simp [ResultLog.transitionUnresolved, refuses.unresolved, refuses.newest]
  have appended : ∀ {current : ResultLog}, log.transitionUnresolved .unsubmittedReleaseRefused evidence = current →
      current.status = .unresolved → current.events = (log.append .unsubmittedReleaseRefused evidence).events →
      attempt.Settles log ∧ (attempt.run log).Tells .refused := by
    intro current transition unresolved events
    have newest : ∀ {types : List ClaimEventType}, ClaimEventType.unsubmittedReleaseRefused ∈ types →
        current.newestOf types = some ⟨log.sequence + 1, .unsubmittedReleaseRefused, evidence⟩ := by
      intro types listed
      rw [ResultLog.newestOf, events]
      exact newestOf_append listed
    have refuses : current.Refuses evidence :=
      ⟨unresolved, by simp [newest], ⟨_, newest (by decide), rfl⟩⟩
    have ended := attempt.run_of_tells concludes ((written log).trans transition) refuses.tells
    exact ⟨.appended (by rw [ended, events, length_append]) (ended.symm ▸ rested refuses), ended.symm ▸ refuses.tells⟩
  by_cases unresolved : log.status = .unresolved
  · cases repeated : (log.newestOf [.unsubmittedReleaseRefused]).any fun prior => prior.evidence == evidence with
    | false =>
      have transition : log.transitionUnresolved .unsubmittedReleaseRefused evidence =
          log.append .unsubmittedReleaseRefused evidence := by
        simp [ResultLog.transitionUnresolved, held, unresolved, repeated]
      exact appended transition unresolved rfl
    | true =>
      have transition : log.transitionUnresolved .unsubmittedReleaseRefused evidence = log := by
        simp [ResultLog.transitionUnresolved, held, unresolved, repeated]
      have recorded := attempt.run_of_logged concludes logged ((written log).trans transition)
      obtain tells | stale := @recordAttemptResultIfStale_cases log (.refused, reason) attempt.state held
      · have kept := attempt.run_of_tells concludes ((written log).trans transition) tells
        exact ⟨.same kept, kept.symm ▸ tells⟩
      · rw [← recorded] at stale
        have refuses : (attempt.run log).Refuses evidence := by
          rw [stale]
          refine ⟨unresolved, ?_, tells_recorded⟩
          have other : (log.append .dispatchRecoveryAttemptResult
              (.attemptResult .terminalClaimSweep .refused reason attempt.state)).newestOf
                [.unsubmittedReleaseRefused] = log.newestOf [.unsubmittedReleaseRefused] := by
            simp [ResultLog.newestOf, ResultLog.append]
          exact other.symm ▸ repeated
        exact ⟨.appended (by rw [stale, length_append]) (rested refuses), refuses.tells⟩
  · have transition : log.transitionUnresolved .unsubmittedReleaseRefused evidence =
        { log.append .unsubmittedReleaseRefused evidence with status := .unresolved } := by
      simp [ResultLog.transitionUnresolved, held, unresolved]
    exact appended transition rfl rfl

theorem SweepAttempt.Plain.settles (plain : attempt.Plain) (logged : attempt.logged = true) (held : log.released = false) :
    attempt.Settles log ∧ attempt.Told log := by
  have told : ∀ {result}, attempt.result = some result → attempt.Settles log ∧ (attempt.run log).Tells result.1 →
      attempt.Settles log ∧ attempt.Told log := by
    rintro result concludes ⟨settles, tells⟩
    refine ⟨settles, fun other concluded _ => ?_⟩
    obtain rfl := Option.some.inj (concludes.symm.trans concluded)
    exact tells
  cases plain with
  | releasing writes =>
    have closed : ∀ prior result, log.release.recordAttemptResultIfStale prior result attempt.state = log.release := by
      intro prior result
      rw [ResultLog.recordAttemptResultIfStale, ResultLog.appendClaimDiagnostic]
      exact ite_self _
    have run : attempt.run log = log.release := by
      rw [SweepAttempt.run, writes]
      cases attempt.result with
      | none => rfl
      | some result =>
        cases attempt.logged with
        | false => rfl
        | true => exact closed _ _
    refine ⟨.released (by rw [run]; rfl) (by rw [run]; rfl), fun result _ held => ?_⟩
    rw [run] at held
    cases held
  | silent result writes concludes => exact told concludes (settles_silent held logged writes concludes)
  | told result eventType evidence listed writes concludes names =>
    exact told concludes (settles_told held listed writes concludes names)
  | refusing reason evidence writes concludes => exact told concludes (settles_refusing held logged writes concludes)

theorem status_run (attempt : SweepAttempt) (log : ResultLog) :
    (attempt.run log).status = log.status ∨ (attempt.run log).status = .unresolved := by
  have appended : ∀ {eventType evidence} (current : ResultLog),
      (current.appendClaimDiagnostic eventType evidence).status = current.status := by
    intro eventType evidence current
    unfold ResultLog.appendClaimDiagnostic
    dsimp only
    split_ifs <;> rfl
  have written : ∀ (write : ResultWrite) (current : ResultLog),
      (write.apply current).status = current.status ∨ (write.apply current).status = .unresolved := by
    intro write current
    cases write with
    | diagnostic eventType evidence => exact .inl (appended current)
    | refusal evidence =>
      unfold ResultWrite.apply ResultLog.transitionUnresolved
      dsimp only
      split_ifs
      · exact .inl rfl
      · exact .inl rfl
      · exact .inl rfl
      · exact .inr rfl
    | unresolve => exact .inr rfl
    | release => exact .inl rfl
  have folded : ∀ (writes : List ResultWrite) (current : ResultLog),
      (writes.foldl (fun log write => write.apply log) current).status = current.status ∨
        (writes.foldl (fun log write => write.apply log) current).status = .unresolved := by
    intro writes
    induction writes with
    | nil => exact fun _ => .inl rfl
    | cons write rest ih =>
      intro current
      obtain same | unresolved := ih (write.apply current)
      · exact (written write current).imp same.trans same.trans
      · exact .inr unresolved
  unfold SweepAttempt.run
  dsimp only
  split
  · split_ifs
    · unfold ResultLog.recordAttemptResultIfStale
      split_ifs
      · exact folded _ _
      · rw [appended]
        exact folded _ _
    · exact folded _ _
  · exact folded _ _

end Settling

section Records

variable {tick : ClaimTick} {status : ClaimStatus}

/-- A release finds nothing changed, and no statement that records a result fails. -/
structure ClaimTick.Recorded (tick : ClaimTick) : Prop where
  unchanged : tick.reads.again =
    { claim := tick.reads.assessment.claim
      intentStatus := some tick.reads.assessment.intent.status
      exposure := tick.reads.assessment.exposure
      evidenceEvents := tick.reads.assessment.deliveryEvents.length
      records := tick.reads.assessment.records }
  diagnostic : tick.faults.diagnostic = none
  stamp : tick.faults.stamp = none
  claim : tick.faults.claim = false
  error : tick.faults.error = false
  result : tick.faults.result = false

/-- An eligible assessment is not blocked by facts that did not change. -/
theorem revalidation_of_unchanged (recorded : tick.Recorded) (eligible : (tick.assessment status).eligible = true) :
    tick.revalidation status = [] := by
  have clear : (tick.assessment status).blockers = [] := by
    rw [EntryClaimAssessment.eligible, Bool.and_eq_true] at eligible
    exact List.isEmpty_iff.mp eligible.1
  simp only [EntryClaimAssessment.blockers, List.append_eq_nil_iff] at clear
  obtain ⟨⟨⟨_, terminal⟩, unexposed⟩, _⟩ := clear
  have ended : terminalEntryIntentStatuses.contains tick.reads.assessment.intent.status = true := by
    by_contra live
    rw [Bool.not_eq_true] at live
    have listed : terminalEntryIntentStatuses.contains (tick.assessment status).intent.status = false := live
    rw [listed] at terminal
    cases terminal
  have exposure : tick.reads.assessment.exposure.blockers = [] := unexposed
  simp [ClaimTick.revalidation, recorded.unchanged, revalidationBlockers, ClaimTick.assessment,
    List.contains_iff_mem.mp ended, exposure]

theorem ClaimTick.Recorded.plain (recorded : tick.Recorded) (status : ClaimStatus) : (tick.attempt status).Plain := by
  have noted : ∀ errorCode, tick.errorWrites errorCode =
      [.diagnostic .dispatchRecoveryError (.recoveryError .terminalClaimSweep errorCode)] := by
    intro errorCode
    simp [ClaimTick.errorWrites, recorded.error]
  -- An error raised before anything was written.
  have raised : ∀ errorCode, tick.tryAttempt status = .error ([], errorCode) → (tick.attempt status).Plain := by
    intro errorCode raised
    refine .told (.technicalFailure, .errorCode errorCode) .dispatchRecoveryError
      (.recoveryError .terminalClaimSweep errorCode) (by decide) ?_ ?_ fun _ => rfl
    · simp [ClaimTick.attempt, raised, noted]
    · simp [ClaimTick.attempt, raised]
  have ended : ∀ ended, tick.tryAttempt status = .ok ended →
      (SweepAttempt.mk (tick.classification status).state ended.1 ended.2 (!tick.faults.result)).Plain →
      (tick.attempt status).Plain := by
    intro ended returned plain
    simpa only [ClaimTick.attempt, returned] using plain
  have unsubmitted : ∀ state, (SweepAttempt.mk state (tick.releaseUnsubmitted status).1
      (unsubmitted (tick.releaseUnsubmitted status).2) (!tick.faults.result)).Plain := by
    intro state
    unfold ClaimTick.releaseUnsubmitted
    cases tick.faults.attempt with
    | some errorCode =>
      refine .told (.technicalFailure, .outcome .retryableFailure) .recoveryAttemptFailed
        (.attemptFailed .terminalClaimSweep terminalSweepReason errorCode) (by decide) ?_ rfl fun _ => rfl
      simp [recorded.diagnostic]
    | none =>
      by_cases released : (heldAs status tick.reads.unsubmitted.1).releasedAt.isSome = true
      · simp only [if_pos released]
        exact .releasing rfl
      simp only [if_neg released]
      cases decideNeverSubmittedRelease (heldAs status tick.reads.unsubmitted.1) tick.reads.candidate.intent.blockReason
          tick.reads.unsubmitted.2.2 tick.reads.unsubmitted.2.1 with
      | ok basis =>
        dsimp only
        split_ifs with missed
        · exact .silent _ rfl rfl
        · exact .releasing rfl
      | error refusal =>
        unfold ClaimTick.refusalWrites
        simp only [recorded.claim, recorded.diagnostic, recorded.stamp, Bool.false_eq_true, if_false]
        split_ifs with present
        · exact .told (.refused, .outcome .refusedRetained) _ _ (by decide) rfl rfl fun _ => rfl
        · exact .refusing _ _ rfl rfl
  have verified : ∀ seen, tick.tryAttempt status = (tick.releaseVerified seen).map (Prod.map id verified) →
      (tick.attempt status).Plain := by
    intro seen verifies
    unfold ClaimTick.releaseVerified at verifies
    cases failed : tick.faults.attempt with
    | some errorCode =>
      rw [failed] at verifies
      exact raised errorCode verifies
    | none =>
      simp only [failed, recorded.diagnostic, recorded.stamp] at verifies
      split_ifs at verifies with ineligible released found blocked missed
      · exact ended _ verifies (.releasing rfl)
      · exact ended _ verifies (.told (.blockedByEvidence, _) _ _ (by decide) rfl rfl fun _ => rfl)
      · exact ended _ verifies (.releasing rfl)
      · have eligible : (tick.assessment seen).eligible = true := by simpa using ineligible
        exact absurd (revalidation_of_unchanged recorded eligible) blocked
      · exact ended _ verifies (.silent _ rfl rfl)
      · exact ended _ verifies (.releasing rfl)
  cases classified : (tick.classification status).state with
  | automaticNeverSubmittedRelease =>
    refine ended _ (by simp only [ClaimTick.tryAttempt, classified]; rfl) (unsubmitted _)
  | automaticNotSentEvidenceRecording =>
    cases failed : tick.faults.recording with
    | some errorCode => exact raised errorCode (by simp only [ClaimTick.tryAttempt, classified, failed])
    | none =>
      by_cases released : (heldAs status tick.reads.recheck.1).releasedAt.isSome = true
      · exact ended _ (by simp only [ClaimTick.tryAttempt, classified, failed, if_pos released]; rfl) (.releasing rfl)
      by_cases changed : (heldAs status tick.reads.recheck.1).status ≠ status ∨
          tick.reads.recheck.2 ≠ tick.reads.candidate.events.length
      · exact ended _ (by simp only [ClaimTick.tryAttempt, classified, failed, if_neg released, if_pos changed]; rfl)
          (.silent _ rfl rfl)
      · exact ended _ (by simp only [ClaimTick.tryAttempt, classified, failed, if_neg released, if_neg changed]; rfl)
          (unsubmitted _)
  | automaticOutcomeRecording =>
    cases failed : tick.faults.recording with
    | some errorCode => exact raised errorCode (by simp only [ClaimTick.tryAttempt, classified, failed])
    | none =>
      cases present : tick.reads.candidate.records.present with
      | true => exact verified .unresolved (by simp only [ClaimTick.tryAttempt, classified, failed, present, if_true])
      | false =>
        exact ended _ (by simp only [ClaimTick.tryAttempt, classified, failed, present]; rfl) (.silent _ rfl rfl)
  | automaticVerifiedRelease | operatorInvestigation | protectedExposure =>
    exact verified status (by simp only [ClaimTick.tryAttempt, classified])

/-- After an attempt that does not release, the newest result of the claim tells its result. -/
def ClaimTick.Described (tick : ClaimTick) (log : ResultLog) : Prop :=
  tick.attempts log = true → ∀ result, (tick.attempt log.status).result = some result →
    (tick.run log).released = false → (tick.run log).Tells result.1

theorem held_of_attempts {tick : ClaimTick} (attempted : tick.attempts log = true) : (tick.begun log).released = false := by
  rw [ClaimTick.attempts, Bool.and_eq_true, Bool.not_eq_true'] at attempted
  unfold ClaimTick.begun
  split_ifs
  · exact attempted.1
  · exact attempted.1

theorem ClaimTick.Recorded.settles (recorded : tick.Recorded) (attempted : tick.attempts log = true) :
    (tick.attempt log.status).Settles (tick.begun log) ∧ (tick.attempt log.status).Told (tick.begun log) :=
  (recorded.plain log.status).settles (by simp [ClaimTick.attempt, recorded.result]) (held_of_attempts attempted)

theorem ClaimTick.Recorded.described (recorded : tick.Recorded) (log : ResultLog) : tick.Described log := by
  intro attempted result concluded held
  rw [ClaimTick.run, if_pos attempted] at held ⊢
  exact (recorded.settles attempted).2 result concluded held

end Records

section Runs

variable {first second : ClaimTick}

/-- Both attempts read the same facts, the same statements fail, and no settle window ends between them. -/
structure ClaimTick.Alike (first second : ClaimTick) : Prop where
  reads : first.reads = second.reads
  faults : first.faults = second.faults
  listed : evaluateDispatchReleaseBasis (summarizeDeliveryEvidence first.reads.candidate.events).outcomes first.now =
    evaluateDispatchReleaseBasis (summarizeDeliveryEvidence first.reads.candidate.events).outcomes second.now
  assessed : evaluateDispatchReleaseBasis (summarizeDeliveryEvidence first.reads.assessment.deliveryEvents).outcomes
      first.now =
    evaluateDispatchReleaseBasis (summarizeDeliveryEvidence first.reads.assessment.deliveryEvents).outcomes second.now

theorem ClaimTick.Alike.classification_eq (alike : first.Alike second) (status : ClaimStatus) :
    first.classification status = second.classification status := by
  obtain ⟨now, reads, faults⟩ := first
  obtain ⟨later, _, _⟩ := second
  obtain ⟨rfl, rfl, listed, _⟩ := alike
  dsimp only at listed
  unfold ClaimTick.classification classifyTerminalEntryClaim
  dsimp only
  rw [listed]

theorem ClaimTick.Alike.attempt_eq (alike : first.Alike second) (status : ClaimStatus) :
    first.attempt status = second.attempt status := by
  have classified := alike.classification_eq status
  obtain ⟨now, reads, faults⟩ := first
  obtain ⟨later, _, _⟩ := second
  obtain ⟨rfl, rfl, _, assessed⟩ := alike
  dsimp only at assessed
  have basis : ∀ seen, (ClaimTick.assessment ⟨now, reads, faults⟩ seen).basis =
      (ClaimTick.assessment ⟨later, reads, faults⟩ seen).basis := fun _ => assessed
  have blockers : ∀ seen, (ClaimTick.assessment ⟨now, reads, faults⟩ seen).blockers =
      (ClaimTick.assessment ⟨later, reads, faults⟩ seen).blockers := by
    intro seen
    unfold EntryClaimAssessment.blockers
    rw [basis]
    rfl
  have eligible : ∀ seen, (ClaimTick.assessment ⟨now, reads, faults⟩ seen).eligible =
      (ClaimTick.assessment ⟨later, reads, faults⟩ seen).eligible := by
    intro seen
    rw [EntryClaimAssessment.eligible, EntryClaimAssessment.eligible, basis, blockers]
  have blocked : ∀ seen, ClaimTick.releaseBlocked ⟨now, reads, faults⟩ seen =
      ClaimTick.releaseBlocked ⟨later, reads, faults⟩ seen := by
    intro seen
    unfold ClaimTick.releaseBlocked
    dsimp only
    rw [basis, blockers]
    rfl
  have verified : ∀ seen, ClaimTick.releaseVerified ⟨now, reads, faults⟩ seen =
      ClaimTick.releaseVerified ⟨later, reads, faults⟩ seen := by
    intro seen
    unfold ClaimTick.releaseVerified
    dsimp only
    rw [eligible, blockers, blocked]
    rfl
  unfold ClaimTick.attempt ClaimTick.tryAttempt
  dsimp only
  simp only [classified, verified]
  rfl

theorem ClaimTick.Alike.run (alike : first.Alike second) (log : ResultLog) : first.run log = second.run log := by
  unfold ClaimTick.run ClaimTick.attempts ClaimTick.begun ClaimTick.recordsOutcome
  rw [alike.classification_eq, alike.attempt_eq, alike.faults]

/-- Alike attempts append one event for each status of the claim, its own and unresolved. -/
theorem length_replicate {tick : ClaimTick} (recorded : tick.Recorded) (count : Nat) (log : ResultLog) :
    (runTicks (List.replicate count tick) log).events.length ≤
      log.events.length + if log.status = .unresolved then 1 else 2 := by
  have fixed : ∀ {log : ResultLog} (count : Nat), tick.run log = log → runTicks (List.replicate count tick) log = log := by
    intro log count same
    induction count with
    | zero => rfl
    | succ count ih =>
      rw [List.replicate_succ, runTicks, List.foldl_cons, same]
      exact ih
  induction count generalizing log with
  | zero => exact Nat.le_add_right _ _
  | succ count ih =>
    have step : runTicks (List.replicate (count + 1) tick) log = runTicks (List.replicate count tick) (tick.run log) := rfl
    cases attempted : tick.attempts log with
    | false =>
      have same : tick.run log = log := by rw [ClaimTick.run, attempted, if_neg Bool.false_ne_true]
      rw [fixed _ same]
      exact Nat.le_add_right _ _
    | true =>
      have run : tick.run log = (tick.attempt log.status).run (tick.begun log) := by
        rw [ClaimTick.run, if_pos attempted]
      have begun : (tick.begun log).events = log.events ∧
          (tick.begun log = log ∨ (tick.begun log).status = .unresolved) := by
        unfold ClaimTick.begun
        split_ifs
        · exact ⟨rfl, .inr rfl⟩
        · exact ⟨rfl, .inl rfl⟩
      -- The claim keeps the status it had, or is unresolved from here on.
      have onward : (tick.run log).status = log.status ∨ (tick.run log).status = .unresolved := by
        rw [run]
        obtain same | unresolved := status_run (tick.attempt log.status) (tick.begun log)
        · obtain unchanged | unresolved := begun.2
          · exact .inl (same.trans (congrArg ResultLog.status unchanged))
          · exact .inr (same.trans unresolved)
        · exact .inr unresolved
      have later := ih (tick.run log)
      rw [step]
      obtain ⟨released, events⟩ | same | ⟨appended, rests⟩ := (recorded.settles attempted).1
      · rw [← run] at released events
        have closed : tick.run (tick.run log) = tick.run log := by
          conv_lhs => rw [ClaimTick.run]
          simp [ClaimTick.attempts, released]
        rw [fixed count closed, events, begun.1]
        exact Nat.le_add_right _ _
      · rw [← run] at same
        rw [same] at later ⊢
        rw [begun.1] at later
        obtain unchanged | unresolved := begun.2
        · rw [unchanged] at later ⊢
          exact later
        · rw [if_pos unresolved] at later
          split_ifs <;> omega
      · rw [← run] at appended rests
        rw [begun.1] at appended
        by_cases kept : (tick.run log).status = log.status
        · -- In the same status the attempt repeats itself.
          have again : tick.run (tick.run log) = tick.run log := by
            conv_lhs => rw [ClaimTick.run]
            split_ifs with attempts
            · have unchanged : tick.begun (tick.run log) = tick.run log := by
                unfold ClaimTick.begun
                split_ifs with records
                · rw [kept] at records
                  have unresolved : (tick.run log).status = .unresolved := by
                    rw [run]
                    obtain same | unresolved := status_run (tick.attempt log.status) (tick.begun log)
                    · rw [same, ClaimTick.begun, if_pos records]
                      rfl
                    · exact unresolved
                  rw [ResultLog.unresolve, ← unresolved]
                · rfl
              rw [unchanged, kept]
              exact rests
            · rfl
          rw [fixed count again, appended]
          split_ifs <;> omega
        · have unresolved := onward.resolve_left kept
          have other : log.status ≠ .unresolved := fun same => kept (unresolved.trans same.symm)
          rw [if_pos unresolved, appended] at later
          rw [if_neg other]
          omega

theorem runTicks_alike {tick : ClaimTick} {ticks : List ClaimTick} (alike : ∀ other ∈ ticks, other.Alike tick)
    (log : ResultLog) : runTicks ticks log = runTicks (List.replicate ticks.length tick) log := by
  induction ticks generalizing log with
  | nil => rfl
  | cons first rest ih =>
    rw [List.length_cons, List.replicate_succ, runTicks, runTicks, List.foldl_cons, List.foldl_cons,
      (alike first List.mem_cons_self).run]
    exact ih (fun other member => alike other (List.mem_cons_of_mem _ member)) _

end Runs

/-- When releases find nothing changed and results are recorded, the newest result describes the attempt just made, and while
the facts do not change at most two events are appended. -/
theorem recordAttemptResultIfStale_laws (ticks : List ClaimTick) (recorded : ∀ tick ∈ ticks, tick.Recorded)
    (log : ResultLog) :
    (∀ earlier tick later, ticks = earlier ++ tick :: later → tick.Described (runTicks earlier log)) ∧
    ((∀ first ∈ ticks, ∀ second ∈ ticks, first.Alike second) →
      (runTicks ticks log).events.length ≤ log.events.length + 2) := by
  constructor
  · intro earlier tick later same
    have member : tick ∈ ticks := by
      rw [same]
      exact List.mem_append_right _ List.mem_cons_self
    exact (recorded tick member).described _
  · intro alike
    cases ticks with
    | nil => exact Nat.le_add_right _ _
    | cons tick rest =>
      have bound := length_replicate (recorded tick List.mem_cons_self) (tick :: rest).length log
      rw [runTicks_alike fun other member => alike other member tick List.mem_cons_self]
      split_ifs at bound <;> omega

/-- A held claim without any attempt result. -/
def emptyResultLog : ResultLog := ⟨.entrySubmitting, false, 0, [], by simp⟩

/-- The claim has recorded not-sent evidence, which a broker activity of its intent contradicts. -/
def contradictedReads : SweepReads :=
  let events := stoppedBeforeAdapter.events ++ [⟨2, .notSentEvidenceRecorded, {}, 1000⟩]
  let exposure : LocalExposure := ⟨0, 1, 0, 0, 0, false⟩
  { candidate := { stoppedBeforeAdapter with events }
    recheck := (stoppedBeforeAdapter.claim, 2)
    unsubmitted := (stoppedBeforeAdapter.claim, events, ⟨0, 1, 0, 0, 0, 0, none⟩)
    records := some stoppedBeforeAdapter.records
    assessment := ⟨stoppedBeforeAdapter.claim, stoppedBeforeAdapter.intent, "AAPL", stoppedBeforeAdapter.records, events,
      exposure, .none, 2000⟩
    again := ⟨stoppedBeforeAdapter.claim, some .failed, exposure, 2, stoppedBeforeAdapter.records⟩
    missed := false }

/-- The refusal is recorded once, and then the assessment that the activity blocks. -/
theorem recordAttemptResultIfStale_laws_contradicted :
    (runTicks [⟨2000, contradictedReads, {}⟩] emptyResultLog).Tells .refused ∧
      (runTicks (List.replicate 3 ⟨2000, contradictedReads, {}⟩) emptyResultLog).events.length ≤ 2 := by
  have recorded : ∀ tick ∈ List.replicate 3 (⟨2000, contradictedReads, {}⟩ : ClaimTick), tick.Recorded := by
    intro tick member
    rw [List.eq_of_mem_replicate member]
    exact ⟨rfl, rfl, rfl, rfl, rfl, rfl⟩
  obtain ⟨described, bounded⟩ := recordAttemptResultIfStale_laws _ recorded emptyResultLog
  refine ⟨described [] _ _ rfl (by decide +kernel) (.refused, .outcome .refusedRetained) rfl (by decide +kernel),
    bounded fun first member second other => ?_⟩
  rw [List.eq_of_mem_replicate member, List.eq_of_mem_replicate other]
  exact ⟨rfl, rfl, rfl, rfl⟩

/-- The record of the refusal fails, and this failure is recorded. -/
def refusedTick : ClaimTick := ⟨2000, contradictedReads, { diagnostic := some "P1001" }⟩

theorem attempt_refusedTick : refusedTick.attempt .entrySubmitting =
    ⟨.automaticNeverSubmittedRelease, [.diagnostic .dispatchRecoveryError (.recoveryError .terminalClaimSweep "P1001")],
      some (.refused, .outcome .refusedRetained), true⟩ := rfl

/-- Every refusal whose record fails appends an event, of the failure and of the result in turn. -/
theorem run_refusedTick (held : log.released = false) (submitting : log.status = .entrySubmitting) :
    (refusedTick.run log).events.length = log.events.length + 1 ∧ (refusedTick.run log).released = false ∧
      (refusedTick.run log).status = .entrySubmitting := by
  have run : refusedTick.run log = (log.appendClaimDiagnostic .dispatchRecoveryError
      (.recoveryError .terminalClaimSweep "P1001")).recordAttemptResultIfStale
        (log.latestAttemptResultEvent.elim 0 (·.id)) (.refused, .outcome .refusedRetained)
        .automaticNeverSubmittedRelease := by
    have attempted : refusedTick.attempts log = true := by
      rw [ClaimTick.attempts, held, submitting]
      rfl
    have begun : refusedTick.begun log = log := by
      rw [ClaimTick.begun, submitting]
      rfl
    rw [ClaimTick.run, if_pos attempted, begun, submitting, attempt_refusedTick]
    rfl
  obtain ⟨⟨id, newest⟩, unchanged⟩ | appended := @appendClaimDiagnostic_cases log .dispatchRecoveryError
    (.recoveryError .terminalClaimSweep "P1001") held (by decide)
  · rw [unchanged] at run
    obtain ⟨event, latest, names⟩ | stale := @recordAttemptResultIfStale_cases log
      (.refused, .outcome .refusedRetained) .automaticNeverSubmittedRelease held
    · rw [newest] at latest
      cases latest
      cases names
    · rw [run, stale]
      exact ⟨length_append, held, submitting⟩
  · have latest : (log.append .dispatchRecoveryError
        (.recoveryError .terminalClaimSweep "P1001")).latestAttemptResultEvent = some ⟨_, _, _⟩ :=
      newestOf_append (by decide)
    rw [appended, unchanged_of_newer latest (Nat.lt_succ_of_le prior_le_sequence)] at run
    rw [run]
    exact ⟨length_append, held, submitting⟩

/-- With unchanged facts as many events are appended as attempts are made, and after the refusal the newest names a technical
failure. -/
theorem refusal_alternates : ¬ refusedTick.Described emptyResultLog ∧
    ∀ count, (runTicks (List.replicate count refusedTick) emptyResultLog).events.length = count := by
  constructor
  · intro described
    obtain ⟨event, newest, names⟩ := described rfl (.refused, .outcome .refusedRetained) rfl rfl
    have latest : (refusedTick.run emptyResultLog).latestAttemptResultEvent = some ⟨1, .dispatchRecoveryError, _⟩ := rfl
    rw [latest] at newest
    cases newest
    cases names
  · intro count
    suffices ∀ log : ResultLog, log.released = false → log.status = .entrySubmitting →
        (runTicks (List.replicate count refusedTick) log).events.length = log.events.length + count by
      rw [this emptyResultLog rfl rfl]
      exact Nat.zero_add count
    induction count with
    | zero => exact fun _ _ _ => rfl
    | succ count ih =>
      intro log held submitting
      obtain ⟨grown, held_after, submitting_after⟩ := run_refusedTick held submitting
      have rest := ih _ held_after submitting_after
      rw [List.replicate_succ, runTicks, List.foldl_cons]
      rw [runTicks] at rest
      rw [rest, grown]
      omega

end AiTrader.Entry
