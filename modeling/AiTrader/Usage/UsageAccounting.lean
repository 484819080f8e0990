import Mathlib.Logic.Relation
import AiTrader.Library.Tally

/-! # Alpaca API usage accounting

Completed requests are merged into pending deltas; a persistence run drains them and adds each to its bucket row, and a
failure restores every drained delta. -/

namespace AiTrader.Usage

open Library

inductive CompletionOutcome where
  | success | clientError | serverError | rateLimited | networkError | timeout
deriving DecidableEq

/-- The key of a pending delta and the unique index of a bucket row. -/
structure UsageKey where
  tradingAccountId : Nat
  /-- Milliseconds since the epoch. -/
  bucketStart : Nat
  (operation endpoint method requestClass : String)
deriving DecidableEq

/-- `AlpacaApiUsageAggregateDelta`, and the columns of `AlpacaApiUsageBucket`. -/
structure AggregateDelta where
  key : UsageKey
  (bucketSizeMinutes requestCount successCount failureCount rateLimitCount networkErrorCount : Nat)
  (totalDurationMs maxDurationMs : Nat)
  (lastStatusCode lastRequestAt lastFailureAt lastRateLimitedAt : Option Nat)

/-- A completed request. -/
structure CompletedRequest where
  tradingAccountId : Nat
  (operation endpoint method requestClass : String)
  outcome : CompletionOutcome
  statusCode : Option Nat
  (completedAt durationMs : Nat)

def persistenceBucketMinutes : Nat := 5

def persistenceBucketMs : Nat := persistenceBucketMinutes * 60000

def retentionCheckIntervalMs : Nat := 24 * 60 * 60000

section Delta

/-- `recordPersistenceDelta`: the delta of one request. -/
def requestDelta (request : CompletedRequest) : AggregateDelta :=
  let succeeded := request.outcome = .success
  { key :=
      { tradingAccountId := request.tradingAccountId
        bucketStart := request.completedAt / persistenceBucketMs * persistenceBucketMs
        operation := request.operation
        endpoint := request.endpoint
        method := request.method
        requestClass := request.requestClass }
    bucketSizeMinutes := persistenceBucketMinutes
    requestCount := 1
    successCount := if succeeded then 1 else 0
    failureCount := if succeeded then 0 else 1
    rateLimitCount := if request.outcome = .rateLimited then 1 else 0
    networkErrorCount := if request.outcome = .networkError ∨ request.outcome = .timeout then 1 else 0
    totalDurationMs := request.durationMs
    maxDurationMs := request.durationMs
    lastStatusCode := request.statusCode
    lastRequestAt := some request.completedAt
    lastFailureAt := if succeeded then none else some request.completedAt
    lastRateLimitedAt := if request.outcome = .rateLimited then some request.completedAt else none }

/-- The later of two dates, where a missing one is earlier than any. -/
def latestDate : Option Nat → Option Nat → Option Nat
  | none, right => right
  | left, none => left
  | some left, some right => some (max left right)

/-- Add the counters of a delta to those of the same key; `lastStatusCode` is what the writer takes. -/
def addDelta (lastStatusCode : Option Nat) (existing delta : AggregateDelta) : AggregateDelta :=
  { existing with
    requestCount := existing.requestCount + delta.requestCount
    successCount := existing.successCount + delta.successCount
    failureCount := existing.failureCount + delta.failureCount
    rateLimitCount := existing.rateLimitCount + delta.rateLimitCount
    networkErrorCount := existing.networkErrorCount + delta.networkErrorCount
    totalDurationMs := existing.totalDurationMs + delta.totalDurationMs
    maxDurationMs := max existing.maxDurationMs delta.maxDurationMs
    lastStatusCode
    lastRequestAt := latestDate existing.lastRequestAt delta.lastRequestAt
    lastFailureAt := latestDate existing.lastFailureAt delta.lastFailureAt
    lastRateLimitedAt := latestDate existing.lastRateLimitedAt delta.lastRateLimitedAt }

/-- The in-memory merge keeps a status code a delta does not have. -/
def mergeExisting (existing delta : AggregateDelta) : AggregateDelta :=
  addDelta (delta.lastStatusCode.or existing.lastStatusCode) existing delta

/-- `ON CONFLICT … DO UPDATE` takes the status code of the delta. -/
def updateOnConflict (row delta : AggregateDelta) : AggregateDelta := addDelta delta.lastStatusCode row delta

def mergePendingDelta (delta : AggregateDelta) (pending : List AggregateDelta) : List AggregateDelta :=
  Tally.mergeInto (·.key) mergeExisting delta pending

def restorePendingAggregateDeltas (deltas pending : List AggregateDelta) : List AggregateDelta :=
  Tally.mergeAll (·.key) mergeExisting deltas pending

def persistDelta (delta : AggregateDelta) (table : List AggregateDelta) : List AggregateDelta :=
  Tally.mergeInto (·.key) updateOnConflict delta table

/-- The additive counters. -/
inductive UsageCounter where
  | requestCount | successCount | failureCount | rateLimitCount | networkErrorCount | totalDurationMs

def UsageCounter.of : UsageCounter → AggregateDelta → Nat
  | .requestCount, delta => delta.requestCount
  | .successCount, delta => delta.successCount
  | .failureCount, delta => delta.failureCount
  | .rateLimitCount, delta => delta.rateLimitCount
  | .networkErrorCount, delta => delta.networkErrorCount
  | .totalDurationMs, delta => delta.totalDurationMs

/-- One counter of the selected keys. -/
def weight (counter : UsageCounter) (selected : UsageKey → Bool) (delta : AggregateDelta) : Nat :=
  if selected delta.key then counter.of delta else 0

/-- One counter summed over the rows of the selected keys. -/
def tally (counter : UsageCounter) (selected : UsageKey → Bool) (deltas : List AggregateDelta) : Nat :=
  Tally.total (weight counter selected) deltas

theorem weight_addDelta {counter : UsageCounter} {selected : UsageKey → Bool} {lastStatusCode : Option Nat}
    {existing delta : AggregateDelta} (same : existing.key = delta.key) :
    weight counter selected (addDelta lastStatusCode existing delta) =
      weight counter selected existing + weight counter selected delta := by
  have key : (addDelta lastStatusCode existing delta).key = delta.key := same
  simp only [weight, key, same]
  cases selected delta.key with
  | false => rfl
  | true => cases counter <;> rfl

variable (counter : UsageCounter) (selected : UsageKey → Bool)

theorem tally_mergePendingDelta (delta : AggregateDelta) (pending : List AggregateDelta) :
    tally counter selected (mergePendingDelta delta pending) =
      tally counter selected pending + weight counter selected delta :=
  Tally.total_mergeInto (fun _ _ same => weight_addDelta same) delta pending

theorem tally_restore (deltas pending : List AggregateDelta) :
    tally counter selected (restorePendingAggregateDeltas deltas pending) =
      tally counter selected pending + tally counter selected deltas :=
  Tally.total_mergeAll (fun _ _ same => weight_addDelta same) deltas pending

theorem tally_persistDelta (delta : AggregateDelta) (table : List AggregateDelta) :
    tally counter selected (persistDelta delta table) = tally counter selected table + weight counter selected delta :=
  Tally.total_mergeInto (fun _ _ same => weight_addDelta same) delta table

end Delta

/-- One call of `runAlpacaApiUsagePersistence` between its drain and its end. -/
structure Flush where
  now : Nat
  retentionDue : Bool
  /-- The drained deltas whose upsert has committed. -/
  written : List AggregateDelta
  /-- The drained deltas still to be written. -/
  remaining : List AggregateDelta
  /-- The retention delete of this flush has committed. -/
  retentionRan : Bool

/-- The process memory and the `AlpacaApiUsageBucket` table. -/
structure UsageState where
  (pending table : List AggregateDelta)
  lastRetentionRunAt : Option Nat
  flushes : List Flush
  /-- Every request completed so far, as its delta. -/
  completed : List AggregateDelta
  /-- Every bucket that starts before this may have been deleted. -/
  deletedBefore : Nat

def shouldRunRetention (lastRetentionRunAt : Option Nat) (now : Nat) : Bool :=
  lastRetentionRunAt.all fun last => decide (retentionCheckIntervalMs ≤ now - last)

namespace UsageState

def initial : UsageState := ⟨[], [], none, [], [], 0⟩

def completeRequest (request : CompletedRequest) (state : UsageState) : UsageState :=
  { state with
    pending := mergePendingDelta (requestDelta request) state.pending
    completed := requestDelta request :: state.completed }

/-- `drainPendingAggregateDeltas` at the start of a flush. -/
def startFlush (now : Nat) (state : UsageState) : UsageState :=
  { state with
    pending := []
    flushes := ⟨now, shouldRunRetention state.lastRetentionRunAt now, [], state.pending, false⟩ :: state.flushes }

/-- `DELETE … WHERE "bucketStart" < cutoff`. -/
def runRetention (retentionDays now : Nat) (flushes : List Flush) (state : UsageState) : UsageState :=
  let cutoff := now - retentionDays * 24 * 60 * 60000
  { state with
    table := state.table.filter fun row => decide (cutoff ≤ row.key.bucketStart)
    flushes
    deletedBefore := max state.deletedBefore cutoff }

end UsageState

/-- One step; a flush may throw around any of its statements, and the handler restores every drained delta. -/
inductive UsageStep (retentionDays : Nat) (mayThrow : Flush → Prop) : UsageState → UsageState → Prop where
  | complete {state : UsageState} (request : CompletedRequest) :
      UsageStep retentionDays mayThrow state (state.completeRequest request)
  | start {state : UsageState} (now : Nat) : UsageStep retentionDays mayThrow state (state.startFlush now)
  | upsert {state : UsageState} {front back : List Flush} {now : Nat} {due : Bool} {written remaining : List AggregateDelta}
      {delta : AggregateDelta} {ran : Bool} (running : state.flushes = front ++ ⟨now, due, written, delta :: remaining, ran⟩ :: back) :
      UsageStep retentionDays mayThrow state
        { state with
          table := persistDelta delta state.table
          flushes := front ++ ⟨now, due, written ++ [delta], remaining, ran⟩ :: back }
  | retention {state : UsageState} {front back : List Flush} {now : Nat} {written : List AggregateDelta}
      (running : state.flushes = front ++ ⟨now, true, written, [], false⟩ :: back) :
      UsageStep retentionDays mayThrow state
        (state.runRetention retentionDays now (front ++ ⟨now, true, written, [], true⟩ :: back))
  | finish {state : UsageState} {front back : List Flush} {now : Nat} {due : Bool} {written : List AggregateDelta}
      (running : state.flushes = front ++ ⟨now, due, written, [], due⟩ :: back) :
      UsageStep retentionDays mayThrow state
        { state with
          lastRetentionRunAt := if due then some now else state.lastRetentionRunAt
          flushes := front ++ back }
  | throw {state : UsageState} {front back : List Flush} {flush : Flush}
      (running : state.flushes = front ++ flush :: back) (allowed : mayThrow flush) :
      UsageStep retentionDays mayThrow state
        { state with
          pending := restorePendingAggregateDeltas (flush.written ++ flush.remaining) state.pending
          flushes := front ++ back }

/-- Any number of completed requests and flushes, in any order and interleaved. -/
abbrev UsageRun (retentionDays : Nat) (mayThrow : Flush → Prop) : UsageState → UsageState → Prop :=
  Relation.ReflTransGen (UsageStep retentionDays mayThrow)

section Conservation

variable {retentionDays : Nat} {state next : UsageState} (counter : UsageCounter) (selected : UsageKey → Bool)

/-- What the running flushes have drained and not yet written. -/
def unwritten (flushes : List Flush) : List AggregateDelta := flushes.flatMap (·.remaining)

/-- The selected buckets are none that retention has deleted. -/
def Retained (selected : UsageKey → Bool) (state : UsageState) : Prop :=
  ∀ key, selected key = true → state.deletedBefore ≤ key.bucketStart

/-- Written, drained and pending counts add up to the completed ones. -/
def Conserved (state : UsageState) : Prop :=
  tally counter selected state.table + tally counter selected (unwritten state.flushes) +
    tally counter selected state.pending = tally counter selected state.completed

theorem tally_append (first second : List AggregateDelta) :
    tally counter selected (first ++ second) = tally counter selected first + tally counter selected second :=
  Tally.total_append first second

theorem tally_cons (delta : AggregateDelta) (deltas : List AggregateDelta) :
    tally counter selected (delta :: deltas) = weight counter selected delta + tally counter selected deltas := rfl

theorem unwritten_append (front : List Flush) (flush : Flush) (back : List Flush) :
    tally counter selected (unwritten (front ++ flush :: back)) =
      tally counter selected (unwritten (front ++ back)) + tally counter selected flush.remaining := by
  simp only [unwritten, List.flatMap_append, List.flatMap_cons, tally_append]
  omega

/-- A failing flush restores what it had written as well. -/
theorem tally_throw {front back : List Flush} {flush : Flush} (running : state.flushes = front ++ flush :: back)
    (conserved : Conserved counter selected state) :
    tally counter selected state.table + tally counter selected (unwritten (front ++ back)) +
      tally counter selected (restorePendingAggregateDeltas (flush.written ++ flush.remaining) state.pending) =
    tally counter selected state.completed + tally counter selected flush.written := by
  have drained := unwritten_append counter selected front flush back
  rw [Conserved, running] at conserved
  rw [tally_restore, tally_append]
  omega

theorem Retained.of_le (ordered : state.deletedBefore ≤ next.deletedBefore) (retained : Retained selected next) :
    Retained selected state := fun key chosen => Nat.le_trans ordered (retained key chosen)

theorem deletedBefore_le {mayThrow : Flush → Prop} (step : UsageStep retentionDays mayThrow state next) :
    state.deletedBefore ≤ next.deletedBefore := by
  cases step with
  | retention running => exact Nat.le_max_left _ _
  | complete | start | upsert | finish | throw => exact Nat.le_refl _

/-- Every step conserves the counts of retained buckets, unless a flush throws after its first upsert. -/
theorem Conserved.step (step : UsageStep retentionDays (fun flush => flush.written = []) state next)
    (retained : Retained selected next) (conserved : Conserved counter selected state) :
    Conserved counter selected next := by
  cases step with
  | complete request =>
    have merged := tally_mergePendingDelta counter selected (requestDelta request) state.pending
    have counted := tally_cons counter selected (requestDelta request) state.completed
    simp only [Conserved, UsageState.completeRequest] at conserved ⊢
    omega
  | start now =>
    have drained := tally_append counter selected state.pending (unwritten state.flushes)
    simp only [Conserved, UsageState.startFlush, unwritten, List.flatMap_cons] at conserved drained ⊢
    have empty : tally counter selected [] = 0 := rfl
    omega
  | @upsert front back now due written remaining delta ran running =>
    have persisted := tally_persistDelta counter selected delta state.table
    have before := unwritten_append counter selected front ⟨now, due, written, delta :: remaining, ran⟩ back
    have after := unwritten_append counter selected front ⟨now, due, written ++ [delta], remaining, ran⟩ back
    have moved := tally_cons counter selected delta remaining
    rw [Conserved, running] at conserved
    simp only [Conserved] at conserved before after ⊢
    omega
  | @retention front back now written running =>
    have table : tally counter selected
        (state.table.filter fun row => decide (now - retentionDays * 24 * 60 * 60000 ≤ row.key.bucketStart)) =
          tally counter selected state.table := by
      apply Tally.total_filter
      intro row _ deleted
      have old : row.key.bucketStart < now - retentionDays * 24 * 60 * 60000 :=
        Nat.not_le.mp (of_decide_eq_false deleted)
      by_cases chosen : selected row.key = true
      · have kept := retained row.key chosen
        have reached : now - retentionDays * 24 * 60 * 60000 ≤
            max state.deletedBefore (now - retentionDays * 24 * 60 * 60000) := Nat.le_max_right _ _
        simp only [UsageState.runRetention] at kept
        omega
      · simp [weight, chosen]
    have before := unwritten_append counter selected front ⟨now, true, written, [], false⟩ back
    have after := unwritten_append counter selected front ⟨now, true, written, [], true⟩ back
    rw [Conserved, running] at conserved
    simp only [Conserved, UsageState.runRetention] at conserved before after ⊢
    omega
  | @finish front back now due written running =>
    have before := unwritten_append counter selected front ⟨now, due, written, [], due⟩ back
    have empty : tally counter selected [] = 0 := rfl
    rw [Conserved, running] at conserved
    simp only [Conserved] at conserved before ⊢
    omega
  | throw running untouched =>
    have thrown := tally_throw counter selected running conserved
    have empty : tally counter selected [] = 0 := rfl
    rw [untouched, List.nil_append] at thrown
    simp only [Conserved, untouched, List.nil_append]
    omega

/-- When flushes throw only before their first upsert takes effect, the persisted and pending counts of retained buckets add
up to the completed requests whenever no flush is running. -/
theorem usage_conserved (run : UsageRun retentionDays (fun flush => flush.written = []) .initial state)
    (idle : state.flushes = []) (retained : Retained selected state) :
    tally counter selected state.table + tally counter selected state.pending =
      tally counter selected state.completed := by
  have conserved : Conserved counter selected state := by
    clear idle
    induction run with
    | refl => rfl
    | tail _ step ih =>
      have earlier := Retained.of_le selected (deletedBefore_le step) retained
      exact (ih earlier).step counter selected step retained
  have empty : tally counter selected (unwritten state.flushes) = 0 := by
    rw [idle]
    rfl
  rw [Conserved, empty, Nat.add_zero] at conserved
  exact conserved

end Conservation

/-- One successful request of an operation. -/
def request (operation : String) : CompletedRequest :=
  ⟨1, operation, "GET /v2/orders", "GET", "synchronization_read", .success, some 200, 600000, 40⟩

/-- Two requests of one bucket: the flush of the first fails, the next one writes both. -/
theorem usage_conserved_flushed : ∃ state, UsageRun 30 (fun flush => flush.written = []) .initial state ∧
    tally .requestCount (fun _ => true) state.table = 2 ∧
    tally .requestCount (fun _ => true) state.table + tally .requestCount (fun _ => true) state.pending =
      tally .requestCount (fun _ => true) state.completed := by
  have completed : UsageRun 30 (fun flush => flush.written = []) .initial _ := .single (.complete (request "order_sync"))
  have failed := (completed.tail (.start 600000)).tail (@UsageStep.throw 30 _ _ [] [] _ rfl rfl)
  have started := (failed.tail (.complete (request "order_sync"))).tail (.start 660000)
  have written := started.tail (@UsageStep.upsert 30 _ _ [] [] _ _ _ _ _ _ rfl)
  have deleted := written.tail (@UsageStep.retention 30 _ _ [] [] _ _ rfl)
  have finished := deleted.tail (@UsageStep.finish 30 _ _ [] [] _ _ _ rfl)
  exact ⟨_, finished, rfl, usage_conserved .requestCount (fun _ => true) finished rfl fun _ _ => Nat.zero_le _⟩

/-- The second upsert of a flush fails: the first delta is written and restored, and counts twice. -/
theorem failed_upsert_counts_twice : ¬ ∀ (counter : UsageCounter) (selected : UsageKey → Bool) (state : UsageState),
    UsageRun 30 (fun _ => True) .initial state → state.flushes = [] → Retained selected state →
    tally counter selected state.table + tally counter selected state.pending = tally counter selected state.completed := by
  intro conserved
  have first : UsageRun 30 (fun _ => True) .initial _ := .single (.complete (request "order_sync"))
  have second := first.tail (.complete (request "position_sync"))
  have started := second.tail (.start 600000)
  have written := started.tail (@UsageStep.upsert 30 _ _ [] [] _ _ _ _ _ _ rfl)
  have thrown := written.tail (@UsageStep.throw 30 _ _ [] [] _ rfl trivial)
  have counts := conserved .requestCount (fun _ => true) _ thrown rfl (fun _ _ => Nat.zero_le _)
  exact absurd counts (by decide)

end AiTrader.Usage
