import AiTrader.Library.Ring
import AiTrader.Usage.UsageAccounting

/-! # Rolling windows of the API usage

Sixty slots hold the counters of a minute each. -/

namespace AiTrader.Usage

open Library Function

/-- `CounterValues` -/
structure CounterValues where
  (requestCount successCount failureCount rateLimitCount networkErrorCount totalDurationMs : Nat)
  maxDurationMs : Nat
  (latestRequestAt latestSuccessAt latestFailureAt latestRateLimitedAt : Option Nat)
deriving DecidableEq

def createCounters : CounterValues := ⟨0, 0, 0, 0, 0, 0, 0, none, none, none, none⟩

def addCounters (target source : CounterValues) : CounterValues where
  requestCount := target.requestCount + source.requestCount
  successCount := target.successCount + source.successCount
  failureCount := target.failureCount + source.failureCount
  rateLimitCount := target.rateLimitCount + source.rateLimitCount
  networkErrorCount := target.networkErrorCount + source.networkErrorCount
  totalDurationMs := target.totalDurationMs + source.totalDurationMs
  maxDurationMs := max target.maxDurationMs source.maxDurationMs
  latestRequestAt := latestDate target.latestRequestAt source.latestRequestAt
  latestSuccessAt := latestDate target.latestSuccessAt source.latestSuccessAt
  latestFailureAt := latestDate target.latestFailureAt source.latestFailureAt
  latestRateLimitedAt := latestDate target.latestRateLimitedAt source.latestRateLimitedAt

/-- What `recordCounters` does to each of the counters of a request. -/
def recordRequest (request : CompletedRequest) (counters : CounterValues) : CounterValues :=
  let succeeded := request.outcome = .success
  let limited := request.outcome = .rateLimited
  let at_ := some request.completedAt
  { requestCount := counters.requestCount + 1
    totalDurationMs := counters.totalDurationMs + request.durationMs
    maxDurationMs := max counters.maxDurationMs request.durationMs
    latestRequestAt := at_
    successCount := if succeeded then counters.successCount + 1 else counters.successCount
    latestSuccessAt := if succeeded then at_ else counters.latestSuccessAt
    failureCount := if succeeded then counters.failureCount else counters.failureCount + 1
    latestFailureAt := if succeeded then counters.latestFailureAt else at_
    rateLimitCount := if limited then counters.rateLimitCount + 1 else counters.rateLimitCount
    latestRateLimitedAt := if limited then at_ else counters.latestRateLimitedAt
    networkErrorCount := if request.outcome = .networkError ∨ request.outcome = .timeout then counters.networkErrorCount + 1
      else counters.networkErrorCount }

/-- A `Map` of counters, in the order of insertion. -/
abbrev Groups := List (String × CounterValues)

/-- `getGroupCounters` and the record of a request in them. -/
def recordGroup (request : CompletedRequest) (key : String) (groups : Groups) : Groups :=
  Tally.mergeInto Prod.fst (fun group _ => (group.1, recordRequest request group.2)) (key, recordRequest request createCounters)
    groups

def addGroups (entries : Groups) : Groups :=
  Tally.mergeAll Prod.fst (fun group entry => (group.1, addCounters group.2 entry.2)) entries []

section Registry

def minuteMs : Nat := 60000

def bucketCount : Nat := 60

instance : NeZero bucketCount := ⟨by decide⟩

def toMinuteStartMs (date : Nat) : Nat := date / minuteMs * minuteMs

structure MinuteBucket where
  counters : CounterValues
  minuteStartMs : Nat
  (operations endpoints : Groups)

def MinuteBucket.record (request : CompletedRequest) (bucket : MinuteBucket) : MinuteBucket :=
  { bucket with
    counters := recordRequest request bucket.counters
    operations := recordGroup request request.operation bucket.operations
    endpoints := recordGroup request request.endpoint bucket.endpoints }

/-- The counters of `AlpacaApiUsageRegistry`. -/
structure UsageRegistry where
  buckets : Fin bucketCount → Option MinuteBucket
  sinceStartup : CounterValues

def bucketIndex (date : Nat) : Fin bucketCount := Fin.ofNat 60 (toMinuteStartMs date / minuteMs)

def freshBucket (minuteStartMs : Nat) : MinuteBucket := ⟨createCounters, minuteStartMs, [], []⟩

/-- `getBucket`: the bucket of the minute. -/
def getBucket (date : Nat) (registry : UsageRegistry) : MinuteBucket :=
  ((registry.buckets (bucketIndex date)).filter fun existing => existing.minuteStartMs == toMinuteStartMs date).getD
    (freshBucket (toMinuteStartMs date))

/-- `getBucket`, whose bucket stands in its slot and is then changed. -/
def updateBucket (date : Nat) (change : MinuteBucket → MinuteBucket) (registry : UsageRegistry) : UsageRegistry :=
  { registry with
    buckets := update registry.buckets (bucketIndex date) (some (change (getBucket date registry))) }

def recordCounters (request : CompletedRequest) (registry : UsageRegistry) : UsageRegistry :=
  { updateBucket request.completedAt (·.record request) registry with
    sinceStartup := recordRequest request registry.sinceStartup }

structure UsageWindow where
  overall : CounterValues
  (operations endpoints : Groups)

/-- The buckets that `aggregateWindow` counts. -/
def countedBuckets (minutes now : Nat) (registry : UsageRegistry) : List MinuteBucket :=
  let minimumMinuteStart := toMinuteStartMs now - (minutes - 1) * minuteMs
  (List.finRange bucketCount).filterMap fun index =>
    (registry.buckets index).filter fun bucket => decide (minimumMinuteStart ≤ bucket.minuteStartMs)

def aggregateWindow (minutes now : Nat) (registry : UsageRegistry) : UsageWindow :=
  let counted := countedBuckets minutes now registry
  ⟨counted.foldl (fun overall bucket => addCounters overall bucket.counters) createCounters,
    addGroups (counted.flatMap (·.operations)), addGroups (counted.flatMap (·.endpoints))⟩

/-- The counters of a snapshot. -/
structure UsageSnapshot where
  currentMinute : CounterValues
  (oneMinute fiveMinutes fifteenMinutes sixtyMinutes : UsageWindow)
  sinceStartup : CounterValues

/-- The windows are aggregated before the bucket of the current minute is read. -/
def getSnapshot (now : Nat) (registry : UsageRegistry) : UsageSnapshot × UsageRegistry :=
  (⟨(getBucket now registry).counters, aggregateWindow 1 now registry, aggregateWindow 5 now registry,
    aggregateWindow 15 now registry, aggregateWindow 60 now registry, registry.sinceStartup⟩, updateBucket now id registry)

/-- A registry after some completions and reads, the completions, and the time of the last call. -/
inductive Reached : UsageRegistry → List CompletedRequest → Nat → Prop where
  | started (clock : Nat) : Reached ⟨fun _ => none, createCounters⟩ [] clock
  | completed {registry : UsageRegistry} {log : List CompletedRequest} {clock : Nat} {request : CompletedRequest}
      (reached : Reached registry log clock) (later : clock ≤ request.completedAt) :
      Reached (recordCounters request registry) (log ++ [request]) request.completedAt
  | read {registry : UsageRegistry} {log : List CompletedRequest} {clock now : Nat} (reached : Reached registry log clock)
      (later : clock ≤ now) : Reached (getSnapshot now registry).2 log now

end Registry

section Sums

instance : Zero CounterValues := ⟨createCounters⟩

instance : Add CounterValues := ⟨addCounters⟩

theorem latestDate_assoc (first second third : Option Nat) :
    latestDate (latestDate first second) third = latestDate first (latestDate second third) := by
  cases first <;> cases second <;> cases third <;> simp [latestDate, max_assoc]

theorem latestDate_comm (first second : Option Nat) : latestDate first second = latestDate second first := by
  cases first <;> cases second <;> simp [latestDate, max_comm]

theorem latestDate_none (date : Option Nat) : latestDate none date = date := rfl

instance : AddCommMonoid CounterValues where
  add_assoc first second third := by
    show addCounters (addCounters first second) third = addCounters first (addCounters second third)
    simp only [addCounters, Nat.add_assoc, max_assoc, latestDate_assoc]
  zero_add counters := by
    show addCounters createCounters counters = counters
    simp [addCounters, createCounters, latestDate_none]
  add_zero counters := by
    show addCounters counters createCounters = counters
    simp [addCounters, createCounters, latestDate_comm _ none, latestDate_none]
  add_comm first second := by
    show addCounters first second = addCounters second first
    simp only [addCounters, Nat.add_comm, max_comm, latestDate_comm]
  nsmul := nsmulRec

/-- The counters of one request. -/
def countersOf (request : CompletedRequest) : CounterValues := recordRequest request createCounters

/-- The counters of the selected requests. -/
def counted (selected : CompletedRequest → Bool) (log : List CompletedRequest) : CounterValues :=
  ((log.filter selected).map countersOf).sum

/-- The counters of the selected keys. -/
def groupCounters (selected : String → Bool) (groups : Groups) : CounterValues :=
  (groups.map fun group => if selected group.1 then group.2 else 0).sum

/-- No date of the counters is later. -/
structure CounterValues.Until (counters : CounterValues) (date : Nat) : Prop where
  request : ∀ latest ∈ counters.latestRequestAt, latest ≤ date
  success : ∀ latest ∈ counters.latestSuccessAt, latest ≤ date
  failure : ∀ latest ∈ counters.latestFailureAt, latest ≤ date
  rateLimited : ∀ latest ∈ counters.latestRateLimitedAt, latest ≤ date

variable {request : CompletedRequest} {counters : CounterValues} {date : Nat}

theorem latestDate_of_le {latest : Option Nat} (before : ∀ early ∈ latest, early ≤ date) :
    latestDate latest (some date) = some date := by
  cases latest with
  | none => rfl
  | some early => exact congrArg some (max_eq_right (before early rfl))

theorem recordRequest_eq_add (before : counters.Until request.completedAt) :
    recordRequest request counters = counters + countersOf request := by
  show _ = addCounters counters (recordRequest request createCounters)
  have success := latestDate_of_le before.success
  have failure := latestDate_of_le before.failure
  have limited := latestDate_of_le before.rateLimited
  simp only [recordRequest, addCounters, createCounters, latestDate_of_le before.request, Nat.zero_add]
  split_ifs <;> simp [*, latestDate_comm _ none, latestDate_none]

theorem until_recordRequest (before : counters.Until request.completedAt) :
    (recordRequest request counters).Until request.completedAt := by
  have present : ∀ latest ∈ some request.completedAt, latest ≤ request.completedAt := fun _ same => (Option.some.inj same).ge
  refine ⟨present, ?_, ?_, ?_⟩ <;> simp only [recordRequest] <;> split
  · exact present
  · exact before.success
  · exact before.failure
  · exact present
  · exact present
  · exact before.rateLimited

theorem CounterValues.Until.later {later : Nat} (before : counters.Until date) (onward : date ≤ later) : counters.Until later :=
  ⟨fun latest held => (before.request latest held).trans onward, fun latest held => (before.success latest held).trans onward,
    fun latest held => (before.failure latest held).trans onward,
    fun latest held => (before.rateLimited latest held).trans onward⟩

theorem counted_congr {chosen other : CompletedRequest → Bool} {log : List CompletedRequest}
    (same : ∀ request ∈ log, chosen request = other request) : counted chosen log = counted other log :=
  congrArg (fun kept => (kept.map countersOf).sum) (List.filter_congr same)

theorem counted_none {chosen : CompletedRequest → Bool} {log : List CompletedRequest}
    (none : ∀ request ∈ log, chosen request = false) : counted chosen log = 0 := by
  rw [counted_congr none, counted, List.filter_false]
  rfl

theorem counted_append (selected : CompletedRequest → Bool) (log added : List CompletedRequest) :
    counted selected (log ++ added) = counted selected log + counted selected added := by
  rw [counted, List.filter_append, List.map_append, List.sum_append]
  rfl

end Sums

section Measures

structure MinuteBucket.Until (bucket : MinuteBucket) (date : Nat) : Prop where
  counters : bucket.counters.Until date
  operations : ∀ group ∈ bucket.operations, group.2.Until date
  endpoints : ∀ group ∈ bucket.endpoints, group.2.Until date

/-- What is read off a bucket adds up the selected requests that it records. -/
structure Measures (measure : MinuteBucket → CounterValues) (selected : CompletedRequest → Bool) : Prop where
  fresh : ∀ start, measure (freshBucket start) = 0
  record : ∀ (bucket : MinuteBucket) (request : CompletedRequest), bucket.Until request.completedAt →
    measure (bucket.record request) = measure bucket + counted selected [request]

variable {request : CompletedRequest} {key : String} {groups : Groups} {bucket : MinuteBucket} {selected : String → Bool}
  {date : Nat}

theorem counted_singleton (chosen : CompletedRequest → Bool) :
    counted chosen [request] = if chosen request then countersOf request else 0 := by
  cases held : chosen request <;> simp [counted, held]

theorem until_fresh (start : Nat) : (freshBucket start).Until date := ⟨⟨nofun, nofun, nofun, nofun⟩, nofun, nofun⟩

theorem until_recordGroup (before : ∀ group ∈ groups, group.2.Until request.completedAt) :
    ∀ group ∈ recordGroup request key groups, group.2.Until request.completedAt := by
  have new : (recordRequest request createCounters).Until request.completedAt := until_recordRequest (until_fresh 0).counters
  induction groups with
  | nil => exact List.forall_mem_singleton.mpr new
  | cons group rest ih =>
    obtain ⟨here, there⟩ := List.forall_mem_cons.mp before
    unfold recordGroup Tally.mergeInto
    split
    · exact List.forall_mem_cons.mpr ⟨until_recordRequest here, there⟩
    · exact List.forall_mem_cons.mpr ⟨here, ih there⟩

theorem MinuteBucket.Until.record (before : bucket.Until request.completedAt) : (bucket.record request).Until request.completedAt :=
  ⟨until_recordRequest before.counters, until_recordGroup before.operations, until_recordGroup before.endpoints⟩

theorem groupCounters_recordGroup (before : ∀ group ∈ groups, group.2.Until request.completedAt) :
    groupCounters selected (recordGroup request key groups) =
      groupCounters selected groups + if selected key then countersOf request else 0 := by
  refine Tally.sum_mergeInto fun group member same => ?_
  dsimp only at same ⊢
  rw [same, recordRequest_eq_add (before group member)]
  split
  · rfl
  · exact (add_zero _).symm

theorem measures_counters : Measures (·.counters) fun _ => true where
  fresh := fun _ => rfl
  record := fun bucket request before => by
    rw [counted_singleton, if_pos rfl]
    exact recordRequest_eq_add before.counters

theorem measures_operations : Measures (fun bucket => groupCounters selected bucket.operations) fun request =>
    selected request.operation where
  fresh := fun _ => rfl
  record := fun bucket request before => by
    rw [counted_singleton]
    exact groupCounters_recordGroup before.operations

theorem measures_endpoints : Measures (fun bucket => groupCounters selected bucket.endpoints) fun request =>
    selected request.endpoint where
  fresh := fun _ => rfl
  record := fun bucket request before => by
    rw [counted_singleton]
    exact groupCounters_recordGroup before.endpoints

end Measures

section Runs

def minuteOf (request : CompletedRequest) : Nat := request.completedAt / minuteMs

/-- The slots hold the requests of their minutes, of the last sixty minutes at least. -/
structure Sound (registry : UsageRegistry) (log : List CompletedRequest) (clock : Nat) : Prop where
  ring : Ring.Covers (Option.map (fun bucket : MinuteBucket => bucket.minuteStartMs / minuteMs) ∘ registry.buckets)
    (log.map minuteOf) (clock / minuteMs)
  dated : ∀ index bucket, registry.buckets index = some bucket →
    bucket.minuteStartMs = bucket.minuteStartMs / minuteMs * minuteMs ∧ bucket.Until clock
  told : ∀ measure selected, Measures measure selected → ∀ index bucket, registry.buckets index = some bucket →
    measure bucket = counted (fun request => minuteOf request == bucket.minuteStartMs / minuteMs && selected request) log

variable {registry : UsageRegistry} {log added : List CompletedRequest} {clock date now : Nat} {bucket : MinuteBucket}

theorem bucketIndex_eq (date : Nat) : bucketIndex date = Ring.slot bucketCount (date / minuteMs) := by
  rw [bucketIndex, toMinuteStartMs, Nat.mul_div_cancel _ (by decide)]
  rfl

theorem MinuteBucket.Until.later (before : bucket.Until clock) (onward : clock ≤ date) : bucket.Until date :=
  ⟨before.counters.later onward, fun group member => (before.operations group member).later onward,
    fun group member => (before.endpoints group member).later onward⟩

/-- The bucket of the present minute tells of its requests. -/
theorem Sound.getBucket (sound : Sound registry log clock) (later : clock ≤ date) :
    (getBucket date registry).minuteStartMs = toMinuteStartMs date ∧ (getBucket date registry).Until date ∧
      ∀ measure selected, Measures measure selected → measure (getBucket date registry) =
        counted (fun request => minuteOf request == date / minuteMs && selected request) log := by
  have minute : toMinuteStartMs date / minuteMs = date / minuteMs := Nat.mul_div_cancel _ (by decide)
  cases found : (registry.buckets (bucketIndex date)).filter fun existing => existing.minuteStartMs == toMinuteStartMs date with
  | some existing =>
    obtain ⟨held, own⟩ := Option.filter_eq_some_iff.mp found
    have start : existing.minuteStartMs = toMinuteStartMs date := eq_of_beq own
    rw [Usage.getBucket, found, Option.getD_some]
    refine ⟨start, (sound.dated _ _ held).2.later later, fun measure selected measures => ?_⟩
    rw [sound.told measure selected measures _ _ held, start, minute]
  | none =>
    rw [Usage.getBucket, found, Option.getD_none]
    refine ⟨rfl, until_fresh _, fun measure selected measures => ?_⟩
    have unheld : date / minuteMs ∉ log.map minuteOf := by
      refine sound.ring.unlisted (Nat.div_le_div_right later) fun held => ?_
      rw [← bucketIndex_eq, comp_apply, Option.map_eq_some_iff] at held
      obtain ⟨existing, held, same⟩ := held
      have start := (sound.dated _ _ held).1
      rw [same] at start
      simp [held, start, toMinuteStartMs] at found
    rw [measures.fresh, counted_none]
    intro request member
    exact Bool.and_eq_false_imp.mpr fun same => absurd (eq_of_beq same ▸ List.mem_map_of_mem member) unheld

theorem updateBucket_buckets (change : MinuteBucket → MinuteBucket) : (updateBucket date change registry).buckets =
    update registry.buckets (bucketIndex date) (some (change (getBucket date registry))) := rfl

/-- Changing the bucket of the present minute keeps the others. -/
theorem Sound.update (sound : Sound registry log clock) (later : clock ≤ date) {change : MinuteBucket → MinuteBucket}
    (start : ∀ bucket, (change bucket).minuteStartMs = bucket.minuteStartMs)
    (dated : ∀ bucket, bucket.Until date → (change bucket).Until date)
    (told : ∀ measure selected, Measures measure selected → ∀ bucket, bucket.Until date →
      measure (change bucket) = measure bucket + counted selected added)
    (present : ∀ request ∈ added, request.completedAt = date) :
    Sound (updateBucket date change registry) (log ++ added) date := by
  obtain ⟨minute, until_, tells⟩ := sound.getBucket later
  have own : (change (Usage.getBucket date registry)).minuteStartMs = toMinuteStartMs date := (start _).trans minute
  have tick : toMinuteStartMs date / minuteMs = date / minuteMs := Nat.mul_div_cancel _ (by decide)
  have held : ∀ index bucket, (updateBucket date change registry).buckets index = some bucket →
      index = bucketIndex date ∧ bucket = change (Usage.getBucket date registry) ∨
        index ≠ bucketIndex date ∧ registry.buckets index = some bucket := by
    intro index bucket found
    by_cases same : index = bucketIndex date
    · rw [same, updateBucket_buckets, update_self] at found
      exact .inl ⟨same, (Option.some.inj found).symm⟩
    · rw [updateBucket_buckets, update_of_ne same] at found
      exact .inr ⟨same, found⟩
  refine ⟨?_, ?_, ?_⟩
  · have touched := sound.ring.touch (Nat.div_le_div_right later : _ ≤ date / minuteMs)
    rw [updateBucket_buckets, comp_update, Option.map_some, own, tick, bucketIndex_eq]
    refine touched.subset ?_
    rw [List.map_append]
    refine List.append_subset.mpr ⟨List.subset_append_left .., fun minute member => ?_⟩
    obtain ⟨request, recorded, rfl⟩ := List.mem_map.mp member
    rw [minuteOf, present request recorded]
    exact List.mem_concat_self
  · intro index bucket found
    rcases held index bucket found with ⟨-, rfl⟩ | ⟨-, found⟩
    · rw [own, tick]
      exact ⟨rfl, dated _ until_⟩
    · exact (sound.dated index bucket found).imp_right (·.later later)
  · intro measure selected measures index bucket found
    rw [counted_append]
    rcases held index bucket found with ⟨-, rfl⟩ | ⟨other, found⟩
    · rw [told measure selected measures _ until_, tells measure selected measures, own, tick]
      refine congrArg _ (counted_congr fun request member => ?_)
      simp [minuteOf, present request member]
    · have none : counted (fun request => minuteOf request == bucket.minuteStartMs / minuteMs && selected request) added = 0 := by
        refine counted_none fun request member => Bool.and_eq_false_imp.mpr fun same => ?_
        refine absurd (sound.ring.own index _ (by rw [comp_apply, found, Option.map_some])).1 fun slot => other ?_
        rw [← slot, ← eq_of_beq same, minuteOf, present request member, bucketIndex_eq]
      rw [sound.told measure selected measures index bucket found, none, add_zero]

theorem Reached.sound (reached : Reached registry log clock) : Sound registry log clock := by
  induction reached with
  | started clock => exact ⟨⟨nofun, nofun⟩, nofun, nofun⟩
  | @completed registry log clock request reached later sound =>
    have updated : Sound (updateBucket _ (·.record request) registry) (log ++ [request]) _ := sound.update later (fun _ => rfl) (fun _ before => before.record)
      (fun measure selected measures bucket before => measures.record bucket _ before)
      fun _ member => congrArg _ (List.mem_singleton.mp member)
    exact ⟨updated.ring, updated.dated, updated.told⟩
  | @read registry log clock now reached later sound =>
    have updated : Sound (updateBucket now id registry) (log ++ []) now :=
      sound.update later (fun _ => rfl) (fun _ before => before) (fun _ _ _ _ _ => (add_zero _).symm) nofun
    rwa [List.append_nil] at updated

/-- The minute of the request is one of the last ones. -/
def inWindow (minutes now : Nat) (request : CompletedRequest) : Bool := decide (now / minuteMs < minuteOf request + minutes)

variable {minutes : Nat} {measure : MinuteBucket → CounterValues} {selected : CompletedRequest → Bool}

theorem sum_countedBuckets : ((countedBuckets minutes now registry).map measure).sum =
    ∑ index, ((registry.buckets index).filter fun bucket =>
      decide (toMinuteStartMs now - (minutes - 1) * minuteMs ≤ bucket.minuteStartMs)).elim 0 measure := by
  rw [Fin.sum_univ_def, countedBuckets]
  generalize List.finRange bucketCount = indices
  induction indices with
  | nil => rfl
  | cons index rest ih =>
    rw [List.filterMap_cons, List.map_cons, List.sum_cons, ← ih]
    split
    case h_1 absent => rw [absent, Option.elim_none, zero_add]
    case h_2 present => rw [present, Option.elim_some, List.map_cons, List.sum_cons]

/-- The counted buckets tell of the requests in the window, and of no others. -/
theorem Sound.window (sound : Sound registry log clock) (later : clock ≤ now) (some_ : 1 ≤ minutes) (most : minutes ≤ 60)
    (measures : Measures measure selected) : ((countedBuckets minutes now registry).map measure).sum =
      counted (fun request => inWindow minutes now request && selected request) log := by
  have covers := sound.ring.subset (List.map_subset minuteOf (List.filter_sublist (p := selected)).subset)
  have summed := covers.sum_window countersOf (Nat.div_le_div_right later : _ ≤ now / minuteMs)
    (fun tick => decide (now / minuteMs < tick + minutes)) fun tick inside =>
      (of_decide_eq_true inside).trans_le (Nat.add_le_add_left most tick)
  rw [List.filter_filter] at summed
  refine (sum_countedBuckets.trans (Finset.sum_congr rfl fun index _ => ?_)).trans summed
  rw [comp_apply]
  cases found : registry.buckets index with
  | none => rfl
  | some bucket =>
    have start := (sound.dated index bucket found).1
    have same : toMinuteStartMs now - (minutes - 1) * minuteMs ≤ bucket.minuteStartMs ↔
        now / minuteMs < bucket.minuteStartMs / minuteMs + minutes := by
      unfold toMinuteStartMs minuteMs at *
      omega
    simp only [Option.map_some, Option.filter_some, same]
    split
    · rw [Option.elim_some, Option.elim_some, sound.told measure selected measures index bucket found, List.filter_filter]
      rfl
    · rfl

end Runs

section Windows

/-- The groups of a window hold the requests in it by their keys, each once. -/
structure Grouped (keyOf : CompletedRequest → String) (log : List CompletedRequest) (inside : CompletedRequest → Bool)
    (groups : Groups) : Prop where
  nodup : (groups.map Prod.fst).Nodup
  counters : ∀ key, groupCounters (· == key) groups = counted (fun request => inside request && keyOf request == key) log
  total : groupCounters (fun _ => true) groups = counted inside log

/-- A window counts the requests of its minutes and no others, overall, by operation and by endpoint. -/
structure Exact (log : List CompletedRequest) (minutes now : Nat) (window : UsageWindow) : Prop where
  overall : window.overall = counted (inWindow minutes now) log
  requestCount : window.overall.requestCount = (log.filter (inWindow minutes now)).length
  operations : Grouped (·.operation) log (inWindow minutes now) window.operations
  endpoints : Grouped (·.endpoint) log (inWindow minutes now) window.endpoints

variable {registry : UsageRegistry} {log : List CompletedRequest} {clock now minutes : Nat} {buckets : List MinuteBucket}

theorem requestCount_counted (inside : CompletedRequest → Bool) : (counted inside log).requestCount = (log.filter inside).length := by
  unfold counted
  induction log.filter inside with
  | nil => rfl
  | cons request rest ih =>
    rw [List.map_cons, List.sum_cons, List.length_cons, ← ih]
    exact Nat.add_comm 1 _

theorem overall_aggregateWindow : (aggregateWindow minutes now registry).overall =
    ((countedBuckets minutes now registry).map (·.counters)).sum := by
  rw [List.sum_eq_foldl, List.foldl_map]
  rfl

theorem groupCounters_addGroups (selected : String → Bool) (groupsOf : MinuteBucket → Groups) :
    groupCounters selected (addGroups (buckets.flatMap groupsOf)) =
      (buckets.map fun bucket => groupCounters selected (groupsOf bucket)).sum := by
  have additive : ∀ group entry : String × CounterValues, group.1 = entry.1 →
      (if selected group.1 then addCounters group.2 entry.2 else 0) =
        (if selected group.1 then group.2 else 0) + (if selected entry.1 then entry.2 else 0) := by
    intro group entry same
    rw [same]
    split
    · rfl
    · exact (add_zero _).symm
  unfold groupCounters addGroups
  rw [Tally.sum_mergeAll additive, List.map_nil, List.sum_nil, zero_add, List.map_flatMap, List.flatMap_def, List.sum_flatten,
    List.map_map]
  rfl

theorem Sound.grouped (sound : Sound registry log clock) (later : clock ≤ now) (some_ : 1 ≤ minutes) (most : minutes ≤ 60)
    {groupsOf : MinuteBucket → Groups} {keyOf : CompletedRequest → String}
    (measures : ∀ selected, Measures (fun bucket => groupCounters selected (groupsOf bucket)) fun request => selected (keyOf request)) :
    Grouped keyOf log (inWindow minutes now) (addGroups ((countedBuckets minutes now registry).flatMap groupsOf)) where
  nodup := Tally.nodup_mergeAll (fun _ _ => rfl) List.nodup_nil
  counters := fun key => (groupCounters_addGroups _ _).trans (sound.window later some_ most (measures _))
  total := by
    rw [groupCounters_addGroups, sound.window later some_ most (measures _)]
    exact counted_congr fun _ _ => Bool.and_true _

theorem Sound.exact (sound : Sound registry log clock) (later : clock ≤ now) (some_ : 1 ≤ minutes) (most : minutes ≤ 60) :
    Exact log minutes now (aggregateWindow minutes now registry) := by
  have overall : (aggregateWindow minutes now registry).overall = counted (inWindow minutes now) log := by
    rw [overall_aggregateWindow, sound.window later some_ most measures_counters]
    exact counted_congr fun _ _ => Bool.and_true _
  refine ⟨overall, ?_, sound.grouped later some_ most fun _ => measures_operations,
    sound.grouped later some_ most fun _ => measures_endpoints⟩
  rw [overall, requestCount_counted]

/-- Each window of a snapshot counts the completions of its minutes, whatever was read before. -/
theorem rollingWindows_exact (reached : Reached registry log clock) (later : clock ≤ now) :
    (∀ minutes, 1 ≤ minutes → minutes ≤ 60 → Exact log minutes now (aggregateWindow minutes now registry)) ∧
      Exact log 1 now (getSnapshot now registry).1.oneMinute ∧ Exact log 5 now (getSnapshot now registry).1.fiveMinutes ∧
      Exact log 15 now (getSnapshot now registry).1.fifteenMinutes ∧
      Exact log 60 now (getSnapshot now registry).1.sixtyMinutes := by
  have exact_ (minutes : Nat) (some_ : 1 ≤ minutes) (most : minutes ≤ 60) := reached.sound.exact later some_ most
  exact ⟨exact_, exact_ 1 (by decide) (by decide), exact_ 5 (by decide) (by decide), exact_ 15 (by decide) (by decide),
    exact_ 60 (by decide) (by decide)⟩

def barsRequest (completedAt : Nat) : CompletedRequest :=
  ⟨1, "bars", "data", "GET", "read", .success, some 200, completedAt, 80⟩

/-- An hour after the first request, and after a read, the second one takes its slot. -/
theorem rollingWindows_exact_barsRequest : Exact [barsRequest 59999, barsRequest 3600001] 60 3600002
    (getSnapshot 3600002 (recordCounters (barsRequest 3600001)
      (getSnapshot 3600000 (recordCounters (barsRequest 59999) ⟨fun _ => none, createCounters⟩)).2)).1.sixtyMinutes :=
  (rollingWindows_exact ((((Reached.started 0).completed (Nat.zero_le _)).read (by decide)).completed (by decide))
    (by decide)).2.2.2.2

end Windows

end AiTrader.Usage
