import AiTrader.Library.Workforce
import AiTrader.Market.Composition
import AiTrader.Market.IntradayStress

/-! # Publications of the intraday stress

A publication assesses the target current at its instant, continuing from the last valid assessment of the session.
Publications hold one lock; bars, securities and the calendar change next to them. -/

namespace AiTrader.Market

open Library Program

variable {Fingerprint N : Type}

section Rows

/-- `SYMBOLS` -/
inductive IntradaySymbol where
  | spy | rsp
deriving DecidableEq

/-- A row of `MarketBar` with the timeframe `MINUTE_15`. -/
structure MinuteBarRow where
  securityId : Nat
  barStartAt : Int
  (open_ high low close volume : ℚ)
  provider : DailyProvider
deriving DecidableEq

inductive StressReason where
  | calendarEvidenceUnavailable | priorAtrUnavailable | splitEvidenceUnavailable | missingIntradayEvidence
  | canonicalProviderConflict | tiingoRetentionPaused | rollingContinuityFailure | calculationFailed
deriving DecidableEq

/-- The prior ATR14 percentages of the two instruments. -/
structure StressBaseline (N : Type) where
  (spy rsp : Option N)
deriving DecidableEq

/-- What the fingerprint of an attempt is taken of. -/
structure AttemptIdentity where
  status : DimensionAssessmentStatus
  reasonCode : Option StressReason
  (targetAt sessionDate : Int)
  index : Nat
deriving DecidableEq

/-- What a later publication reads of `evidenceJson`. -/
structure StressEvidence (N Fingerprint : Type) where
  sessionDate : Int
  index : Nat
  effectiveState : Option IntradayStressState
  confirmationAfter : Nat
  baseline : StressBaseline N
  attemptFingerprint : Fingerprint
deriving DecidableEq

/-- A row of `MarketRegimeDimensionAssessment` of the dimension. -/
structure StressAssessment (N Fingerprint : Type) where
  id : Nat
  (sessionDate targetAt : Int)
  attempt : Nat
  status : DimensionAssessmentStatus
  reasonCode : Option StressReason
  (rawState effectiveState : Option IntradayStressState)
  (dataThroughAt validUntil : Option Int)
  previousAssessmentId : Option Nat
  (startedAt completedAt : Int)
  evidence : StressEvidence N Fingerprint
deriving DecidableEq

structure StressStore (N Fingerprint : Type) where
  exceptions : List CalendarException
  securities : List (IntradaySymbol × Nat)
  bars : List MinuteBarRow
  tiingoDailyIngestionPaused : Bool
  assessments : List (StressAssessment N Fingerprint)
deriving DecidableEq

inductive StressPublicationError where
  | driver (message : String)
  /-- `P2002` on the target. -/
  | uniqueViolation (targetAt : Int)
  | calculation (error : StressError)
deriving DecidableEq

/-- A statement fails, or the transaction does not commit. -/
def StressFault (error : StressPublicationError) : Prop := ∃ message, error = .driver message

abbrev StressProgram (N Fingerprint : Type) := Program (StressStore N Fingerprint) StressPublicationError

/-- `IntradayStressPublicationResult` -/
structure StressPublicationResult where
  published : Nat
  (suppressed notDue : Bool)
  blocked : Option AttemptIdentity

/-- `VERIFIED_NYSE_CLOSURES` -/
structure VerifiedClosures where
  (from_ to_ : Int)
  (closedDates earlyCloseDates : List Int)
  earlyCloseTimeMinutesEt : Int

/-- The instant a publication observes and the configured provider of a session. -/
structure StressOptions where
  now : Int
  provider : Int → DailyProvider

/-- The VALID assessments. -/
def StressStore.valid (store : StressStore N Fingerprint) : List (StressAssessment N Fingerprint) :=
  store.assessments.filter (·.status == .valid)

def StressStore.securityId (store : StressStore N Fingerprint) (symbol : IntradaySymbol) : Option Nat :=
  (store.securities.find? (·.1 == symbol)).map (·.2)

/-- The rows of a security within a session. -/
def StressStore.sessionRows (store : StressStore N Fingerprint) (session : MarketSession) (securityId : Nat) :
    List MinuteBarRow :=
  store.bars.filter fun row => row.securityId == securityId &&
    decide (session.openAt ≤ row.barStartAt ∧ row.barStartAt < session.closeAt)

def MinuteBarRow.bar [JsNumber N] (row : MinuteBarRow) : IntradayStressBar N where
  barStartAtMs := row.barStartAt
  open_ := JsNumber.number row.open_
  high := JsNumber.number row.high
  low := JsNumber.number row.low
  close := JsNumber.number row.close
  volume := JsNumber.number row.volume

end Rows

variable (daylight : Int → Bool) (verified : VerifiedClosures)

section Evidence

variable [JsNumber N] (options : StressOptions)

/-- The calendar has every verified change of the last forty days, and the date is verified. -/
def calendarVerified (exceptions : List CalendarException) (date : Int) : Bool :=
  let recent := fun closed : Int => decide (date - 40 ≤ closed ∧ closed ≤ date)
  decide (verified.from_ ≤ date ∧ date ≤ verified.to_) &&
    (verified.closedDates.filter recent).all (fun closed => exceptions.any fun row =>
      row.sessionDate == closed && row.type == .closed && row.closeTimeMinutesEt == none) &&
    (verified.earlyCloseDates.filter recent).all fun early => exceptions.any fun row =>
      row.sessionDate == early && row.type == .earlyClose &&
        row.closeTimeMinutesEt == some verified.earlyCloseTimeMinutesEt

/-- What stops an assessment before any evidence is read. -/
def calendarReason (exceptions : List CalendarException) (date : Int) :
    StressProgram N Fingerprint (Option StressReason) := do
  if ¬ calendarVerified verified exceptions date then pure (some .calendarEvidenceUnavailable)
  else if options.provider date = .tiingo then
    let paused ← read (·.tiingoDailyIngestionPaused)
    pure (if paused then some .tiingoRetentionPaused else none)
  else pure none

/-- Where the session goes on. -/
structure StressContinuation (N : Type) where
  index : Nat
  history : IntradayStressHistory
  baseline : StressBaseline N

/-- `continuationSchema` and the checks of the predecessor. -/
def parseContinuation (predecessor : StressAssessment N Fingerprint) : Option (StressContinuation N) :=
  let evidence := predecessor.evidence
  if predecessor.status = .valid ∧ 1 ≤ evidence.index ∧ evidence.confirmationAfter ≤ 1 ∧
      evidence.baseline.spy.all JsNumber.finitePositive ∧ evidence.baseline.rsp.all JsNumber.finitePositive ∧
      evidence.effectiveState = predecessor.effectiveState then
    some ⟨evidence.index, ⟨evidence.effectiveState, evidence.confirmationAfter⟩, evidence.baseline⟩
  else none

/-- The rows that are canonical and complete by now. -/
def canonicalBars (exceptions : List CalendarException) (date : Int) (rows : List MinuteBarRow) :
    Except StressReason (List (IntradayStressBar N)) :=
  let eligibility := fun row : MinuteBarRow => barEligibility daylight exceptions .minute15 row.barStartAt options.now
  if rows.any (·.provider != options.provider date) then .error .canonicalProviderConflict
  else if rows.any fun row => (eligibility row).toOption.isNone then .error .calculationFailed
  else .ok ((rows.filter fun row => (eligibility row).toOption.any (·.1 == .eligible)).map (·.bar))

def fetchIntradayBars (exceptions : List CalendarException) (date : Int) (symbol : IntradaySymbol) :
    StressProgram N Fingerprint (Except StressReason (List (IntradayStressBar N))) := do
  match ← read (·.securityId symbol) with
  | none => pure (.ok [])
  | some securityId =>
    match marketSession daylight exceptions date with
    | .ok (some session) =>
      let rows ← read (·.sessionRows session securityId)
      pure (canonicalBars daylight options exceptions date rows)
    | _ => pure (.error .calculationFailed)

/-- A target that was replayed. -/
structure ReplayedTarget (N : Type) where
  spy : IntradayStressTarget N
  rsp : IntradayStressTarget N
  raw : Option IntradayStressState
  transition : IntradayStressTransition
deriving DecidableEq

structure StressReplay (N : Type) where
  history : IntradayStressHistory
  final : Option (ReplayedTarget N)
  replayedCount : Nat
deriving DecidableEq

/-- One step of the replay; targets count from one. -/
def replayTarget (spyTargets rspTargets : List (IntradayStressTarget N)) (replay : StressReplay N) (index : Nat) :
    Except StressError (StressReplay N) :=
  match spyTargets[index - 1]?, rspTargets[index - 1]? with
  | some spy, some rsp =>
    match advanceIntradayStress replay.history (marketRaw spy rsp) with
    | .error error => .error error
    | .ok transition =>
      .ok ⟨transition.history, some ⟨spy, rsp, marketRaw spy rsp, transition⟩, replay.replayedCount + 1⟩
  | _, _ => .error .missingTarget

/-- Measure the session and replay the targets after `index` through `through`. -/
def replaySession (exceptions : List CalendarException) (date : Int) (spyBars rspBars : List (IntradayStressBar N))
    (baseline : StressBaseline N) (history : IntradayStressHistory) (index through : Nat) :
    Except StressError (StressReplay N) := do
  let spyTargets ← measureIntradaySession daylight exceptions date spyBars baseline.spy
  let rspTargets ← measureIntradaySession daylight exceptions date rspBars baseline.rsp
  (List.range' (index + 1) (through - index)).foldlM (replayTarget spyTargets rspTargets) ⟨history, none, 0⟩

/-- Why the last replayed target has no raw state. -/
def unavailableReason (final : Option (ReplayedTarget N)) : StressReason :=
  let issues := (final.map fun final => final.spy.issues ++ final.rsp.issues).getD []
  if .priorAtrUnavailable ∈ issues then .priorAtrUnavailable
  else if .missingInvalidOrDuplicateBar ∈ issues ∨ .missingReference ∈ issues ∨ .incompleteSessionPrefix ∈ issues then
    .missingIntradayEvidence
  else if .rollingContinuityFailure ∈ issues then .rollingContinuityFailure
  else .missingIntradayEvidence

/-- What the assessment of a target comes to; it is VALID unless it is blocked. -/
structure StressOutcome (N : Type) where
  blocked : Option (DimensionAssessmentStatus × StressReason)
  baseline : StressBaseline N
  replay : StressReplay N
deriving DecidableEq

/-- What `computeBaseline` returns for the daily bars and splits of the prior session. -/
structure BaselineResult (N : Type) where
  perSymbol : StressBaseline N
  reasonCode : Option StressReason

/-- The baseline of the session, or a new one. -/
def loadBaseline (continuation : Option (StressContinuation N)) :
    StressProgram N Fingerprint (StressBaseline N × Option (DimensionAssessmentStatus × StressReason)) := do
  match continuation with
  | some continuation => pure (continuation.baseline, none)
  | none =>
    match ← (answer : StressProgram N Fingerprint (Except String (BaselineResult N))) with
    | .error _ => pure (⟨none, none⟩, some (.failed, .calculationFailed))
    | .ok computed =>
      pure (computed.perSymbol, computed.reasonCode.map fun reason =>
        (if reason = .splitEvidenceUnavailable then .failed else .unavailable, reason))

/-- The outcome of a replay. -/
def replayOutcome (baseline : StressBaseline N) (history : IntradayStressHistory)
    (replayed : Except StressReason (StressReplay N)) : StressOutcome N :=
  match replayed with
  | .error reason => ⟨some (.failed, reason), baseline, ⟨history, none, 0⟩⟩
  | .ok replay =>
    if (replay.final.bind (·.raw)).isSome then ⟨none, baseline, replay⟩
    else ⟨some (.unavailable, unavailableReason replay.final), baseline, replay⟩

/-- Read the bars and replay the session from its continuation. -/
def assessSession (exceptions : List CalendarException) (target : IntradayTarget) (baseline : StressBaseline N)
    (continuation : Option (StressContinuation N)) : StressProgram N Fingerprint (StressOutcome N) := do
  let history := (continuation.map (·.history)).getD .start
  let spyBars ← (fetchIntradayBars daylight options exceptions target.date .spy :
    StressProgram N Fingerprint (Except StressReason (List (IntradayStressBar N)))).attempt
  let rspBars ← (fetchIntradayBars daylight options exceptions target.date .rsp :
    StressProgram N Fingerprint (Except StressReason (List (IntradayStressBar N)))).attempt
  match spyBars, rspBars with
  | .ok (.ok spyBars), .ok (.ok rspBars) =>
    let index := (continuation.map (·.index)).getD 0
    match replaySession daylight exceptions target.date spyBars rspBars baseline history index target.index with
    | .error _ => pure (replayOutcome baseline history (.error .calculationFailed))
    | .ok replay => pure (replayOutcome baseline history (.ok replay))
  | .ok (.error reason), _ => pure (replayOutcome baseline history (.error reason))
  | _, .ok (.error reason) => pure (replayOutcome baseline history (.error reason))
  | _, _ => pure (replayOutcome baseline history (.error .calculationFailed))

/-- An outcome without evidence. -/
def blockedOutcome (baseline : StressBaseline N) (status : DimensionAssessmentStatus) (reason : StressReason) :
    StressOutcome N :=
  ⟨some (status, reason), baseline, ⟨.start, none, 0⟩⟩

/-- Assess a target after its predecessor. -/
def assessTarget (exceptions : List CalendarException) (predecessor : Option (StressAssessment N Fingerprint))
    (target : IntradayTarget) : StressProgram N Fingerprint (StressOutcome N) := do
  match ← calendarReason verified options exceptions target.date with
  | some reason => pure (blockedOutcome ⟨none, none⟩ .failed reason)
  | none =>
    let continuation := predecessor.bind parseContinuation
    if predecessor.isSome ∧ continuation.isNone then pure (blockedOutcome ⟨none, none⟩ .failed .calculationFailed)
    else
      let sameSession := predecessor.any (·.sessionDate == target.date)
      let continuation := if sameSession then continuation else none
      match ← loadBaseline continuation with
      | (baseline, some (status, reason)) => pure (blockedOutcome baseline status reason)
      | (baseline, none) => assessSession daylight options exceptions target baseline continuation

end Evidence

section Publication

variable [JsNumber N] [DecidableEq Fingerprint] (digest : AttemptIdentity → Fingerprint) (options : StressOptions)

/-- Insert an assessment; its attempt must be new, and a VALID one the only one of its target. -/
def createAssessment (row : StressAssessment N Fingerprint) (store : StressStore N Fingerprint) :
    Except StressPublicationError (Unit × StressStore N Fingerprint) :=
  if store.assessments.any fun other => other.targetAt == row.targetAt &&
      (other.attempt == row.attempt || (other.status == .valid && row.status == .valid)) then
    .error (.uniqueViolation row.targetAt)
  else
    let numbered := { row with id := Table.nextId (store.assessments.map (·.id)) }
    .ok ((), { store with assessments := store.assessments ++ [numbered] })

/-- The row of an outcome. -/
def assessmentRow (target : IntradayTarget) (predecessor priorAttempt : Option (StressAssessment N Fingerprint))
    (outcome : StressOutcome N) (validUntil startedAt completedAt : Int) : StressAssessment N Fingerprint :=
  let status := (outcome.blocked.map (·.1)).getD .valid
  let reasonCode := outcome.blocked.map (·.2)
  let final := if status = .valid then outcome.replay.final else none
  let effectiveState := final.bind (·.transition.effectiveState)
  { id := 0
    sessionDate := target.date
    targetAt := target.targetAt
    attempt := (priorAttempt.map (·.attempt)).getD 0 + 1
    status
    reasonCode
    rawState := final.bind (·.raw)
    effectiveState
    dataThroughAt := if status = .valid then some target.targetAt else none
    validUntil := if status = .valid then some validUntil else none
    previousAssessmentId := predecessor.map (·.id)
    startedAt
    completedAt
    evidence :=
      { sessionDate := target.date
        index := target.index
        effectiveState
        confirmationAfter := match final with
          | some final => final.transition.confirmationAfter
          | none => if predecessor.any (·.sessionDate == target.date) then outcome.replay.history.confirmation else 0
        baseline := ⟨outcome.baseline.spy.bind JsNumber.toJson, outcome.baseline.rsp.bind JsNumber.toJson⟩
        attemptFingerprint := digest ⟨status, reasonCode, target.targetAt, target.date, target.index⟩ } }

/-- Store an outcome unless the window of its target has closed or the last attempt was blocked alike. -/
def storeOutcome (exceptions : List CalendarException) (target : IntradayTarget)
    (predecessor priorAttempt : Option (StressAssessment N Fingerprint)) (startedAt : Int) (outcome : StressOutcome N) :
    StressProgram N Fingerprint StressPublicationResult := do
  match validUntilFor daylight exceptions target.date target.index,
      nextActionableTargetAt daylight exceptions target.date target.index with
  | .error error, _ => throw (.calculation (.calendar error))
  | .ok validUntil, next =>
    let completedAt ← (answer : StressProgram N Fingerprint Int)
    if validUntil ≤ completedAt then pure ⟨0, false, true, none⟩
    else
      match next with
      | .error error => throw (.calculation (.calendar error))
      | .ok _ =>
        let row := assessmentRow digest target predecessor priorAttempt outcome validUntil startedAt completedAt
        let blocked := row.reasonCode.map fun _ =>
          (⟨row.status, row.reasonCode, target.targetAt, target.date, target.index⟩ : AttemptIdentity)
        if blocked.isSome ∧ priorAttempt.any (fun prior => prior.status != .valid &&
            prior.evidence.attemptFingerprint == row.evidence.attemptFingerprint) then
          pure ⟨0, true, false, blocked⟩
        else
          (commit (createAssessment row) : StressProgram N Fingerprint Unit)
          pure ⟨if blocked.isSome then 0 else 1, false, false, blocked⟩

/-- The transaction that owns the lock. -/
def publishUnderLock (startedAt : Int) : StressProgram N Fingerprint StressPublicationResult := do
  let predecessor ← read fun store : StressStore N Fingerprint => latest (·.targetAt) store.valid
  let exceptions ← read (·.exceptions)
  match latestIntradayStressAssessmentTarget daylight exceptions options.now true with
  | .error error => throw (.calculation (.calendar error))
  | .ok none => pure ⟨0, false, true, none⟩
  | .ok (some target) =>
    if predecessor.any fun predecessor => decide (target.targetAt ≤ predecessor.targetAt) then pure ⟨0, false, true, none⟩
    else
      let priorAttempt ← read fun store : StressStore N Fingerprint =>
        latest (·.attempt) (store.assessments.filter (·.targetAt == target.targetAt))
      let outcome ← assessTarget daylight verified options exceptions predecessor target
      storeOutcome daylight digest exceptions target predecessor priorAttempt startedAt outcome

/-- `publishIntradayStressAssessments`: at most one assessment, that of the current target. -/
def publishIntradayStressAssessments : StressProgram N Fingerprint StressPublicationResult := do
  let startedAt ← (answer : StressProgram N Fingerprint Int)
  match ← (publishUnderLock daylight verified digest options startedAt).attempt with
  | .ok result => pure result
  | .error (.uniqueViolation targetAt) =>
    match ← read fun store : StressStore N Fingerprint => store.valid.find? (·.targetAt == targetAt) with
    | some _ => pure ⟨0, true, false, none⟩
    | none => throw (.uniqueViolation targetAt)
  | .error error => throw error

end Publication

/-- `syncMinuteBars` for one missing bar: it starts on an interval of the session of the present date. -/
def syncMinuteBar (now : Int) (row : MinuteBarRow) : StressProgram N Fingerprint Unit := do
  let exceptions ← read (·.exceptions)
  match marketSession daylight exceptions (etDate daylight now) with
  | .ok (some session) =>
    let eligible := (barEligibility daylight exceptions .minute15 row.barStartAt now).toOption.any (·.1 == .eligible)
    if session.openAt ≤ row.barStartAt ∧ row.barStartAt < session.closeAt ∧
        (row.barStartAt - session.openAt) % intervalMs = 0 ∧ eligible then
      commit fun store =>
        match Table.insertUnique (fun row : MinuteBarRow => some (row.securityId, row.barStartAt)) row store.bars with
        | some bars => .ok ((), { store with bars })
        | none => .error (.uniqueViolation row.barStartAt)
    else pure ()
  | _ => pure ()

/-- The calendar is edited. -/
def saveCalendar (exceptions : List CalendarException) : StressProgram N Fingerprint Unit :=
  write fun store => { store with exceptions }

/-- The acquisition is paused or resumed. -/
def pauseTiingo (paused : Bool) : StressProgram N Fingerprint Unit :=
  write fun store => { store with tiingoDailyIngestionPaused := paused }

/-- A security is created. -/
def createSecurity (symbol : IntradaySymbol) (id : Nat) : StressProgram N Fingerprint Unit :=
  write fun store => { store with securities := store.securities ++ [(symbol, id)] }

/-- Everybody who needs no lock. -/
inductive Bystanding : StressProgram N Fingerprint Unit → Prop
  | syncMinuteBar (now row) : Bystanding (syncMinuteBar daylight now row)
  | saveCalendar (exceptions) : Bystanding (saveCalendar exceptions)
  | pauseTiingo (paused) : Bystanding (pauseTiingo paused)
  | createSecurity (symbol id) : Bystanding (createSecurity symbol id)

end AiTrader.Market
