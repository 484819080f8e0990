import AiTrader.Library.Separated
import AiTrader.Alpaca.ActivityImport

/-! # Runs of the activity import

A run stores the first activities from its cursor on, as many as its pages hold, and gets beyond the latest stored one
unless the overlap alone fills its pages. -/

namespace AiTrader.Alpaca

open Library Entry
open Alpaca renaming syncBrokerActivitiesForAccountUnlocked → syncUnlocked

variable {toUpperCase : String → String} {activity : AlpacaAccountActivity} {entry : ActivityEntry}
  {environment : Nat → Option Environment} {inclusive : Bool} {call : ActivitySync}
  {table start : ActivityTable} {mode : String} {tradingAccountId : Nat} {activityType : String} {account : Environment}
  {cursor : ℤ}

section Replay

variable {activities others : List AlpacaAccountActivity} {before current after : ActivityTable}

/-- The activities are stored one after the other. -/
inductive Imported (toUpperCase : String → String) (mode : String) (tradingAccountId : Nat) :
    List AlpacaAccountActivity → ActivityTable → ActivityTable → Prop
  | nothing (table : ActivityTable) : Imported toUpperCase mode tradingAccountId [] table table
  | next {activity : AlpacaAccountActivity} {rest : List AlpacaAccountActivity} {before after : ActivityTable}
      (found : ActivityLookups) (now : ℤ)
      (imported : Imported toUpperCase mode tradingAccountId rest
        (before.upsert toUpperCase found activity mode tradingAccountId now) after) :
      Imported toUpperCase mode tradingAccountId (activity :: rest) before after

theorem Imported.append (first : Imported toUpperCase mode tradingAccountId activities before current)
    (second : Imported toUpperCase mode tradingAccountId others current after) :
    Imported toUpperCase mode tradingAccountId (activities ++ others) before after := by
  induction first with
  | nothing table => exact second
  | next found now _ ih => exact Imported.next found now (ih second)

section

variable (imported : Imported toUpperCase mode tradingAccountId activities before after)
include imported

/-- A key that is stored stays stored. -/
theorem Imported.key_kept (stored : entry ∈ before.entries) : ∃ later ∈ after.entries, later.key = entry.key := by
  induction imported generalizing entry with
  | nothing table => exact ⟨entry, stored, rfl⟩
  | @next activity rest before after found now _ ih =>
    by_cases same : entry.key = (entryOf mode tradingAccountId activity).key
    · rw [same]
      exact ih (before.mem_entries_upsert.mpr (.inl rfl))
    · exact ih (before.mem_entries_upsert.mpr (.inr ⟨stored, same⟩))

theorem Imported.stores
    (member : activity ∈ activities) : ∃ entry ∈ after.entries, entry.key = (entryOf mode tradingAccountId activity).key := by
  induction imported with
  | nothing table => cases member
  | @next first rest before after found now imported ih =>
    obtain rfl | later := List.mem_cons.mp member
    · exact imported.key_kept (before.mem_entries_upsert.mpr (.inl rfl))
    · exact ih later

/-- However often and in whatever order activities are stored, each has exactly one record. -/
theorem Imported.one_record (member : activity ∈ activities) :
    (after.rows.filter (isRecord activity mode tradingAccountId)).length = 1 := by
  obtain ⟨entry, listed, keyed⟩ := imported.stores member
  obtain ⟨row, stored, rfl⟩ := List.mem_map.mp listed
  have alone := after.unique.filter_eq stored keyed
  rw [List.filter_congr (fun row _ => ?_), alone, List.length_singleton]
  exact Bool.eq_iff_iff.mpr (isRecord_iff.trans decide_eq_true_iff.symm)

/-- The entries after activities of one time and type for each id: theirs and the others. -/
theorem Imported.mem_entries
    (agreeing : ∀ first ∈ activities, ∀ second ∈ activities, first.id = second.id → first = second) :
    entry ∈ after.entries ↔ (∃ activity ∈ activities, entry = entryOf mode tradingAccountId activity) ∨
      entry ∈ before.entries ∧ ∀ activity ∈ activities, entry.key ≠ (entryOf mode tradingAccountId activity).key := by
  induction imported with
  | nothing table => simp
  | @next activity rest before after found now _ ih =>
    rw [ih fun first member second also => agreeing first (List.mem_cons_of_mem _ member) second
      (List.mem_cons_of_mem _ also), before.mem_entries_upsert, List.forall_mem_cons, List.exists_mem_cons_iff]
    constructor
    · rintro (later | ⟨rfl | ⟨old, other⟩, unlike⟩)
      · exact .inl (.inr later)
      · exact .inl (.inl rfl)
      · exact .inr ⟨old, other, unlike⟩
    · rintro ((rfl | later) | ⟨old, other, unlike⟩)
      · by_cases again : ∃ later ∈ rest, later.id = activity.id
        · obtain ⟨later, member, same⟩ := again
          refine .inl ⟨later, member, ?_⟩
          rw [agreeing later (List.mem_cons_of_mem _ member) activity List.mem_cons_self same]
        · refine .inr ⟨.inl rfl, fun later member same => again ⟨later, member, ?_⟩⟩
          simp only [ActivityEntry.key, entryOf, Option.map_some, Option.some.injEq, Prod.mk.injEq] at same
          exact same.2.2.2.symm
      · exact .inl later
      · exact .inr ⟨.inr ⟨old, other⟩, unlike⟩

end

end Replay

section Reading

/-- The time of an activity that has one. -/
def AlpacaAccountActivity.time (activity : AlpacaAccountActivity) : ℤ := activity.transactionTime.getD 0

/-- The activities of an account, each with an id and a time of its own, in ascending order of time. -/
structure BrokerHistory where
  activities : List AlpacaAccountActivity
  distinct : (activities.map AlpacaAccountActivity.id).Nodup
  named : ∀ activity ∈ activities, activity.id ≠ ""
  timed : ∀ activity ∈ activities, activity.transactionTime.isSome = true
  ascending : activities.Pairwise fun earlier later => earlier.time ≤ later.time

/-- The activity has the type, and is after the cursor, or at it when the broker includes that. -/
def isShown (inclusive : Bool) (activityType : String) (after : ℤ) (activity : AlpacaAccountActivity) : Bool :=
  activity.activityType == some activityType &&
    (decide (after * 1000000 < activity.time) || inclusive && decide (after * 1000000 = activity.time))

/-- A page has the first of the asked activities behind the token. -/
def Serves (inclusive : Bool) (history : BrokerHistory) (call : ActivitySync) : Prop :=
  ∀ time query page, call.request time query = .ok page →
    page = (behind AlpacaAccountActivity.id query.pageToken
      (history.activities.filter (isShown inclusive query.activityType query.after))).take query.pageSize

variable {history : BrokerHistory} {page listed : List AlpacaAccountActivity} {progress final : ImportProgress}
  {outcome : ImportOutcome} {after : ℤ} {remaining : Nat} {pageToken : Option String}

/-- A run stored the first of the activities, all of them if it did not end with an error. -/
def StoresFirst (toUpperCase : String → String) (mode : String) (tradingAccountId : Nat) (activities : List AlpacaAccountActivity)
    (before : ActivityTable) (outcome : ImportOutcome) : Prop :=
  ∃ taken, taken <+: activities ∧ Imported toUpperCase mode tradingAccountId taken before outcome.table ∧
    ((∃ progress, outcome = .ok progress) → taken = activities)

theorem importActivity_stored (ended : importActivity toUpperCase call mode progress activity = outcome) :
    StoresFirst toUpperCase mode call.tradingAccountId [activity] progress.table outcome := by
  subst ended
  unfold importActivity
  dsimp only
  split
  · exact ⟨[], List.nil_prefix, Imported.nothing _, fun ⟨_, impossible⟩ => by cases impossible⟩
  next found _ =>
    split
    · exact ⟨[activity], List.prefix_refl _, Imported.next found call.now (Imported.nothing _), fun _ => rfl⟩
    · exact ⟨[activity], List.prefix_refl _, Imported.next found call.now (Imported.nothing _), fun _ => rfl⟩

/-- A part of a run and what follows it. -/
theorem StoresFirst.bind {activities others : List AlpacaAccountActivity} {before : ActivityTable}
    {next : ImportProgress → ImportOutcome}
    (first : StoresFirst toUpperCase mode call.tradingAccountId activities before outcome)
    (second : ∀ progress, outcome = .ok progress →
      StoresFirst toUpperCase mode call.tradingAccountId others progress.table (next progress)) :
    StoresFirst toUpperCase mode call.tradingAccountId (activities ++ others) before (outcome >>= next) := by
  obtain ⟨taken, within, imported, complete⟩ := first
  cases outcome with
  | error failure =>
    refine ⟨taken, within.trans (List.prefix_append _ _), imported, ?_⟩
    rintro ⟨_, impossible⟩
    cases impossible
  | ok progress =>
    obtain rfl := complete ⟨progress, rfl⟩
    obtain ⟨further, inside, stored, whole⟩ := second progress rfl
    refine ⟨taken ++ further, (List.prefix_append_right_inj _).mpr inside, imported.append stored, ?_⟩
    intro finished
    rw [whole finished]

theorem foldlM_importActivity_stored (page : List AlpacaAccountActivity) (progress : ImportProgress) :
    StoresFirst toUpperCase mode call.tradingAccountId page progress.table
      (page.foldlM (importActivity toUpperCase call mode) progress) := by
  induction page generalizing progress with
  | nil => exact ⟨[], List.prefix_refl _, Imported.nothing _, fun _ => rfl⟩
  | cons activity rest ih =>
    rw [List.foldlM_cons]
    exact (importActivity_stored rfl).bind fun progress _ => ih progress

theorem StoresFirst.done (progress : ImportProgress) :
    StoresFirst toUpperCase mode call.tradingAccountId [] progress.table (.ok progress) :=
  ⟨[], List.prefix_refl _, Imported.nothing _, fun _ => rfl⟩

theorem StoresFirst.failed {activities : List AlpacaAccountActivity} (message : String) (progress : ImportProgress) :
    StoresFirst toUpperCase mode call.tradingAccountId activities progress.table (.error (message, progress)) :=
  ⟨[], List.nil_prefix, Imported.nothing _, fun ⟨_, impossible⟩ => by cases impossible⟩

/-- What the pages of a run store, whatever was read before them. -/
theorem importPages_stored (served : Serves inclusive history call) (pageToken : Option String)
    (progress : ImportProgress) :
    StoresFirst toUpperCase mode call.tradingAccountId
      ((behind AlpacaAccountActivity.id pageToken
        (history.activities.filter (isShown inclusive call.activityType after))).take (call.pageSize * remaining))
      progress.table (importPages toUpperCase call mode after remaining pageToken progress) := by
  induction remaining generalizing pageToken progress with
  | zero => exact StoresFirst.done progress
  | succ remaining ih =>
    unfold importPages
    split
    next message _ => exact StoresFirst.failed message progress
    next activities answered =>
      have paged := served _ _ _ answered
      dsimp only [activityRequest] at paged
      rw [Nat.mul_succ, Nat.add_comm, List.take_add, ← paged]
      -- A page that is not full is the last one.
      have last_page (short : activities.length < call.pageSize) :
          (behind AlpacaAccountActivity.id pageToken
            (history.activities.filter (isShown inclusive call.activityType after))).drop call.pageSize = [] := by
        rw [paged, List.length_take] at short
        exact List.drop_eq_nil_of_le (by omega)
      have stored : StoresFirst toUpperCase mode call.tradingAccountId activities progress.table
          (activities.foldlM (importActivity toUpperCase call mode)
            { progress with pagesProcessed := progress.pagesProcessed + 1 }) :=
        foldlM_importActivity_stored activities { progress with pagesProcessed := progress.pagesProcessed + 1 }
      split_ifs with empty short
      · have nothing : activities = [] := List.eq_nil_of_length_eq_zero empty
        rw [nothing, List.nil_append]
        by_cases sized : call.pageSize = 0
        · rw [sized, Nat.zero_mul, List.take_zero]
          exact StoresFirst.done { progress with pagesProcessed := progress.pagesProcessed + 1 }
        · rw [last_page (by omega), List.take_nil]
          exact StoresFirst.done { progress with pagesProcessed := progress.pagesProcessed + 1 }
      · rw [last_page short, List.take_nil]
        exact stored.bind fun progress _ => StoresFirst.done progress
      · refine stored.bind fun progress _ => ?_
        have nonempty : activities ≠ [] := fun nothing => empty (List.length_eq_zero_iff.mpr nothing)
        obtain ⟨last, ends⟩ := Option.ne_none_iff_exists'.mp (mt List.getLast?_eq_none_iff.mp nonempty)
        have listed : last ∈ history.activities := by
          have member := List.mem_of_getLast? ends
          rw [paged] at member
          exact (List.mem_filter.mp ((behind_suffix _ _).mem (List.mem_of_mem_take member))).1
        have token : present (activities.getLast?.map AlpacaAccountActivity.id) = some last.id := by
          rw [ends, Option.map_some, present, Option.filter_some, if_pos]
          exact bne_iff_ne.mpr (history.named last listed)
        have advanced := behind_last ((history.distinct).sublist (List.filter_sublist.map _)) (paged ▸ ends)
        rw [token, ← advanced]
        exact ih (some last.id) progress

end Reading

section Cursor

variable {histories : Nat → BrokerHistory} {other : AlpacaAccountActivity} {time : ℤ}

/-- The record of an activity is stored. -/
def isRecorded (mode : String) (tradingAccountId : Nat) (table : ActivityTable) (activity : AlpacaAccountActivity) : Bool :=
  table.rows.any (isRecord activity mode tradingAccountId)

/-- The stored records of the histories' activities have their types and times; an import keeps this. -/
def Faithful (environment : Nat → Option Environment) (histories : Nat → BrokerHistory) (table : ActivityTable) : Prop :=
  ∀ tradingAccountId account, environment tradingAccountId = some account →
    ∀ activity ∈ (histories tradingAccountId).activities, ∀ entry ∈ table.entries,
      entry.key = (entryOf (modeOf account) tradingAccountId activity).key →
        entry = entryOf (modeOf account) tradingAccountId activity

/-- An account stores an activity of a type with this time. -/
def Dated (activityType : String) (tradingAccountId : Nat) (table : ActivityTable) (time : ℤ) : Prop :=
  ∃ entry ∈ table.entries, entry.activityType = activityType ∧ entry.tradingAccountId = some tradingAccountId ∧
    entry.transactionTime = some time

theorem mem_times_iff : time ∈ (table.rows.filter fun row =>
      row.activityType == activityType && row.tradingAccountId == some tradingAccountId).filterMap
        BrokerActivity.transactionTime ↔ Dated activityType tradingAccountId table time := by
  simp only [List.mem_filterMap, List.mem_filter, Bool.and_eq_true, beq_iff_eq]
  constructor
  · rintro ⟨row, ⟨stored, type, owner⟩, timed⟩
    exact ⟨row.entry, List.mem_map_of_mem stored, type, owner, timed⟩
  · rintro ⟨entry, stored, type, owner, timed⟩
    obtain ⟨row, member, rfl⟩ := List.mem_map.mp stored
    exact ⟨row, ⟨member, type, owner⟩, timed⟩

theorem latest_eq_some_iff : latestTransactionTime activityType tradingAccountId table = some time ↔
    Dated activityType tradingAccountId table time ∧
      ∀ stored, Dated activityType tradingAccountId table stored → stored ≤ time := by
  rw [latestTransactionTime, List.max?_eq_some_iff, mem_times_iff]
  refine and_congr_right fun _ => ⟨fun bounded stored dated => ?_, fun bounded stored member => ?_⟩
  · exact bounded stored (mem_times_iff.mpr dated)
  · exact bounded stored (mem_times_iff.mp member)

theorem exists_latest (dated : Dated activityType tradingAccountId table time) :
    ∃ latest, latestTransactionTime activityType tradingAccountId table = some latest ∧ time ≤ latest := by
  cases found : latestTransactionTime activityType tradingAccountId table with
  | none =>
    rw [latestTransactionTime, List.max?_eq_none_iff] at found
    have member := mem_times_iff.mpr dated
    rw [found] at member
    cases member
  | some latest => exact ⟨latest, rfl, (latest_eq_some_iff.mp found).2 time dated⟩

theorem isShown_iff : isShown inclusive activityType cursor activity = true ↔
    activity.activityType = some activityType ∧
      (cursor * 1000000 < activity.time ∨ inclusive = true ∧ cursor * 1000000 = activity.time) := by
  simp [isShown]

/-- An earlier cursor shows no less. -/
theorem isShown_mono {earlier : ℤ} (before : earlier ≤ cursor)
    (isShown_at : isShown inclusive activityType cursor activity = true) :
    isShown inclusive activityType earlier activity = true := by
  rw [isShown_iff] at isShown_at ⊢
  obtain ⟨type, later | ⟨includes, same⟩⟩ := isShown_at
  · exact ⟨type, .inl (by omega)⟩
  · refine ⟨type, ?_⟩
    obtain equal | less := eq_or_lt_of_le before
    · exact .inr ⟨includes, by rw [equal, same]⟩
    · exact .inl (by omega)

theorem isShown_overlap (type : activity.activityType = some activityType) (above : other.time ≤ activity.time) :
    isShown inclusive activityType (subtractMinutes (other.time / 1000000) 5) activity = true := by
  rw [isShown_iff]
  refine ⟨type, .inl ?_⟩
  unfold subtractMinutes
  omega

theorem entryOf_transactionTime (timed : activity.transactionTime.isSome = true) :
    (entryOf mode tradingAccountId activity).transactionTime = some (activity.time / 1000000) := by
  obtain ⟨time, known⟩ := Option.isSome_iff_exists.mp timed
  simp [entryOf, parseNullableDate, AlpacaAccountActivity.time, known]

theorem entryOf_activityType (type : activity.activityType = some activityType) :
    (entryOf mode tradingAccountId activity).activityType = activityType := by
  simp [entryOf, type]

theorem isRecorded_iff : isRecorded mode tradingAccountId table activity = true ↔
    ∃ entry ∈ table.entries, entry.key = (entryOf mode tradingAccountId activity).key := by
  rw [isRecorded, List.any_eq_true]
  constructor
  · rintro ⟨row, stored, record⟩
    exact ⟨row.entry, List.mem_map_of_mem stored, isRecord_iff.mp record⟩
  · rintro ⟨entry, listed, same⟩
    obtain ⟨row, stored, rfl⟩ := List.mem_map.mp listed
    exact ⟨row, stored, isRecord_iff.mpr same⟩

theorem Faithful.isRecorded_iff_mem (faithful : Faithful environment histories table)
    (known : environment tradingAccountId = some account) (member : activity ∈ (histories tradingAccountId).activities) :
    isRecorded (modeOf account) tradingAccountId table activity = true ↔
      entryOf (modeOf account) tradingAccountId activity ∈ table.entries := by
  rw [isRecorded_iff]
  constructor
  · rintro ⟨entry, stored, same⟩
    rwa [← faithful tradingAccountId account known activity member entry stored same]
  · exact fun stored => ⟨_, stored, rfl⟩

/-- What a run asks the broker for. -/
def shownTo (inclusive : Bool) (history : BrokerHistory) (call : ActivitySync) (table : ActivityTable) :
    List AlpacaAccountActivity :=
  history.activities.filter (isShown inclusive call.activityType (call.after table))

/-- The most that a run reads. -/
def ActivitySync.capacity (call : ActivitySync) : Nat := call.pageSize * call.maxPages

/-- A run ends where its pages end, and returns only if they do. -/
theorem syncBrokerActivities_pages (known : environment call.tradingAccountId = some account) :
    let run := syncUnlocked toUpperCase environment call table
    let pages := importPages toUpperCase call (modeOf account) (call.after table) call.maxPages none ⟨table, 0, 0, 0, 0, none⟩
    run.1 = pages.table ∧ (run.2.isOk = true → ∃ progress, pages = .ok progress) := by
  simp only [syncUnlocked, known]
  split
  next message progress ended =>
    rw [ended]
    exact ⟨rfl, nofun⟩
  next ended =>
    rw [ended]
    exact ⟨rfl, fun _ => ⟨_, rfl⟩⟩

/-- A run stores the first activities it asks for, as many as its pages hold unless it fails, and changes no other entry. -/
theorem syncBrokerActivities_entries (toUpperCase : String → String)
    (faithful : Faithful environment histories table)
    (served : Serves inclusive (histories call.tradingAccountId) call)
    (known : environment call.tradingAccountId = some account) :
    let run := syncUnlocked toUpperCase environment call table
    let listed := (shownTo inclusive (histories call.tradingAccountId) call table).take call.capacity
    ∃ taken, taken <+: listed ∧ (run.2.isOk = true → taken = listed) ∧
      ∀ entry, entry ∈ run.1.entries ↔
        (∃ activity ∈ taken, entry = entryOf (modeOf account) call.tradingAccountId activity) ∨ entry ∈ table.entries := by
  intro run listed
  obtain ⟨taken, within, imported, complete⟩ := @importPages_stored toUpperCase inclusive call (modeOf account)
    (histories call.tradingAccountId) (call.after table) call.maxPages served none ⟨table, 0, 0, 0, 0, none⟩
  obtain ⟨ended, returned⟩ := @syncBrokerActivities_pages toUpperCase environment call table account known
  have from_history : ∀ activity ∈ taken, activity ∈ (histories call.tradingAccountId).activities := by
    intro activity member
    exact (List.mem_filter.mp (List.mem_of_mem_take (within.mem member))).1
  have agreeing : ∀ first ∈ taken, ∀ second ∈ taken, first.id = second.id → first = second := by
    intro first member second also same
    exact List.inj_on_of_nodup_map (histories call.tradingAccountId).distinct (from_history first member)
      (from_history second also) same
  refine ⟨taken, within, fun ok => complete (returned ok), fun entry => ?_⟩
  rw [ended, imported.mem_entries agreeing]
  constructor
  · exact Or.imp_right And.left
  · rintro (new | old)
    · exact .inl new
    · by_cases again : ∃ activity ∈ taken, entry.key = (entryOf (modeOf account) call.tradingAccountId activity).key
      · obtain ⟨activity, member, same⟩ := again
        exact .inl ⟨activity, member, faithful _ _ known activity (from_history activity member) entry old same⟩
      · exact .inr ⟨old, fun activity member same => again ⟨activity, member, same⟩⟩

end Cursor

variable {calls : List ActivitySync} {histories : Nat → BrokerHistory}

section Progress

variable (faithful : Faithful environment histories table) (served : Serves inclusive (histories call.tradingAccountId) call)
include faithful served

theorem entries_kept (stored : entry ∈ table.entries) :
    entry ∈ (syncUnlocked toUpperCase environment call table).1.entries := by
  cases known : environment call.tradingAccountId with
  | none =>
    simp only [syncUnlocked, known]
    exact stored
  | some account =>
    obtain ⟨_, _, _, entries⟩ := syncBrokerActivities_entries toUpperCase faithful served known
    exact (entries entry).mpr (.inr stored)

theorem Faithful.sync :
    Faithful environment histories (syncUnlocked toUpperCase environment call table).1 := by
  cases known : environment call.tradingAccountId with
  | none =>
    simp only [syncUnlocked, known]
    exact faithful
  | some runAccount =>
    intro tradingAccountId account owner activity member entry stored same
    obtain ⟨taken, within, _, entries⟩ := syncBrokerActivities_entries toUpperCase faithful served known
    obtain ⟨imported, new, rfl⟩ | old := (entries entry).mp stored
    · simp only [ActivityEntry.key, entryOf, Option.map_some, Option.some.injEq, Prod.mk.injEq] at same
      obtain ⟨rfl, _, _, identified⟩ := same
      obtain rfl : runAccount = account := Option.some.inj (known.symm.trans owner)
      have listed := (List.mem_filter.mp (List.mem_of_mem_take (within.mem new))).1
      rw [List.inj_on_of_nodup_map (histories call.tradingAccountId).distinct listed member identified]
    · exact faithful tradingAccountId account owner activity member entry old same

/-- The run is of an account and a type of activities. -/
def ActivitySync.Concerns (tradingAccountId : Nat) (activityType : String) (call : ActivitySync) : Prop :=
  call.tradingAccountId = tradingAccountId ∧ call.activityType = activityType

theorem dated_of_other (other : ¬call.Concerns tradingAccountId activityType) (time : ℤ)
    (dated : Dated activityType tradingAccountId
      (syncUnlocked toUpperCase environment call table).1 time) :
    Dated activityType tradingAccountId table time := by
  cases known : environment call.tradingAccountId with
  | none =>
    simp only [syncUnlocked, known] at dated
    exact dated
  | some account =>
    obtain ⟨entry, stored, type, owner, timed⟩ := dated
    obtain ⟨taken, within, _, entries⟩ := syncBrokerActivities_entries toUpperCase faithful served known
    obtain ⟨imported, new, rfl⟩ | old := (entries entry).mp stored
    · have listed := (isShown_iff.mp (List.mem_filter.mp (List.mem_of_mem_take (within.mem new))).2).1
      rw [entryOf_activityType listed] at type
      exact absurd ⟨Option.some.inj owner, type⟩ other
    · exact ⟨entry, old, type, owner, timed⟩

/-- Each activity shown at the cursor is stored, or the next run is shown it. -/
def Covered (inclusive : Bool) (history : BrokerHistory) (mode : String) (tradingAccountId : Nat) (activityType : String)
    (cursor : ℤ) (table : ActivityTable) : Prop :=
  ∀ activity ∈ history.activities, isShown inclusive activityType cursor activity = true →
    entryOf mode tradingAccountId activity ∈ table.entries ∨
      ∃ latest, latestTransactionTime activityType tradingAccountId table = some latest ∧
        isShown inclusive activityType (subtractMinutes latest 5) activity = true

/-- The activity is within the overlap: not after the latest stored one. -/
def isOverlap (call : ActivitySync) (table : ActivityTable) (activity : AlpacaAccountActivity) : Bool :=
  (latestTransactionTime call.activityType call.tradingAccountId table).any fun latest =>
    decide (activity.time / 1000000 ≤ latest)

/-- The run starts at its own cursor, and the overlap does not fill its pages. -/
structure Advancing (inclusive : Bool) (history : BrokerHistory) (call : ActivitySync) (table : ActivityTable) : Prop where
  own : call.input.after = none
  room : ((shownTo inclusive history call table).filter (isOverlap call table)).length < call.capacity

/-- The step: what a run is shown and does not store, the next run is shown. -/
theorem shown_after (known : environment call.tradingAccountId = some account)
    (advancing : Advancing inclusive (histories call.tradingAccountId) call table)
    (member : activity ∈ (histories call.tradingAccountId).activities)
    (shown : isShown inclusive call.activityType (call.after table) activity = true)
    (began : (latestTransactionTime call.activityType call.tradingAccountId table).isSome = true ∨
      (syncUnlocked toUpperCase environment call table).2.isOk = true) :
    let after := (syncUnlocked toUpperCase environment call table).1
    entryOf (modeOf account) call.tradingAccountId activity ∈ after.entries ∨
      ∃ latest, latestTransactionTime call.activityType call.tradingAccountId after = some latest ∧
        isShown inclusive call.activityType (subtractMinutes latest 5) activity = true := by
  intro after
  obtain ⟨taken, within, complete, entries⟩ := syncBrokerActivities_entries toUpperCase faithful served known
  set listed := shownTo inclusive (histories call.tradingAccountId) call table with listing
  have asked : activity ∈ listed := List.mem_filter.mpr ⟨member, shown⟩
  have ascending : listed.Pairwise fun earlier later => earlier.time ≤ later.time :=
    (histories call.tradingAccountId).ascending.filter _
  have first_rows : taken = listed.take taken.length :=
    List.prefix_iff_eq_take.mp (within.trans (List.take_prefix _ _))
  obtain stored | ⟨_, above⟩ := mem_take_or_above ascending asked taken.length
  · rw [← first_rows] at stored
    exact .inl ((entries _).mpr (.inl ⟨activity, stored, rfl⟩))
  · right
    rw [← first_rows] at above
    have dated_taken : ∀ other ∈ taken,
        Dated call.activityType call.tradingAccountId after (other.time / 1000000) := by
      intro other new
      obtain ⟨from_history, other_shown⟩ := List.mem_filter.mp (List.mem_of_mem_take (within.mem new))
      refine ⟨_, (entries _).mpr (.inl ⟨other, new, rfl⟩), ?_, rfl, ?_⟩
      · exact entryOf_activityType (isShown_iff.mp other_shown).1
      · exact entryOf_transactionTime ((histories call.tradingAccountId).timed other from_history)
    have dated : ∃ time, Dated call.activityType call.tradingAccountId after time := by
      obtain known_time | returned := began
      · obtain ⟨time, found⟩ := Option.isSome_iff_exists.mp known_time
        obtain ⟨⟨entry, old, timed⟩, _⟩ := latest_eq_some_iff.mp found
        exact ⟨time, entry, (entries entry).mpr (.inr old), timed⟩
      · have nonempty : taken ≠ [] := by
          rw [complete returned, ne_eq, List.take_eq_nil_iff, not_or]
          exact ⟨Nat.ne_zero_of_lt advancing.room, List.ne_nil_of_mem asked⟩
        obtain ⟨other, new⟩ := List.exists_mem_of_ne_nil taken nonempty
        exact ⟨_, dated_taken other new⟩
    obtain ⟨_, dated⟩ := dated
    obtain ⟨latest, found, _⟩ := exists_latest dated
    refine ⟨latest, found, ?_⟩
    obtain ⟨⟨entry, stored, type, owner, timed⟩, _⟩ := latest_eq_some_iff.mp found
    obtain ⟨other, new, rfl⟩ | old := (entries entry).mp stored
    · obtain ⟨from_history, _⟩ := List.mem_filter.mp (List.mem_of_mem_take (within.mem new))
      rw [entryOf_transactionTime ((histories call.tradingAccountId).timed other from_history), Option.some.injEq] at timed
      rw [← timed]
      exact isShown_overlap (isShown_iff.mp shown).1 (above other new)
    · obtain ⟨before, found_before, not_after⟩ := exists_latest ⟨entry, old, type, owner, timed⟩
      refine isShown_mono ?_ shown
      rw [ActivitySync.after, advancing.own, Option.getD_none, getDefaultAfterDate, found_before]
      show latest - _ ≤ before - _
      omega

/-- Everything the broker shows at the cursor is stored. -/
def Complete (inclusive : Bool) (history : BrokerHistory) (mode : String) (tradingAccountId : Nat) (activityType : String)
    (cursor : ℤ) (table : ActivityTable) : Prop :=
  ∀ activity ∈ history.activities, isShown inclusive activityType cursor activity = true →
    isRecorded mode tradingAccountId table activity = true

/-- The step: a run that returns stores an activity that was not stored, or all that it was shown. -/
theorem new_or_all (known : environment call.tradingAccountId = some account)
    (advancing : Advancing inclusive (histories call.tradingAccountId) call table)
    (returned : (syncUnlocked toUpperCase environment call table).2.isOk = true) :
    let after := (syncUnlocked toUpperCase environment call table).1
    (∃ activity ∈ (histories call.tradingAccountId).activities,
      isRecorded (modeOf account) call.tradingAccountId table activity = false ∧
        isRecorded (modeOf account) call.tradingAccountId after activity = true) ∨
      Complete inclusive (histories call.tradingAccountId) (modeOf account) call.tradingAccountId call.activityType
        (call.after table) after := by
  intro after
  obtain ⟨taken, within, complete, entries⟩ := syncBrokerActivities_entries toUpperCase faithful served known
  obtain all | ⟨activity, new, beyond⟩ := take_all_or_beyond advancing.room
  · right
    intro activity member shown
    refine isRecorded_iff.mpr ⟨_, (entries _).mpr (.inl ⟨activity, ?_, rfl⟩), rfl⟩
    rw [complete returned, all]
    exact List.mem_filter.mpr ⟨member, shown⟩
  · left
    obtain ⟨member, shown⟩ := List.mem_filter.mp (List.mem_of_mem_take new)
    rw [← complete returned] at new
    refine ⟨activity, member, ?_, isRecorded_iff.mpr ⟨_, (entries _).mpr (.inl ⟨activity, new, rfl⟩), rfl⟩⟩
    rw [Bool.eq_false_iff, ne_eq, faithful.isRecorded_iff_mem known member]
    intro old
    obtain ⟨latest, found, not_after⟩ := exists_latest ⟨_, old, entryOf_activityType (isShown_iff.mp shown).1, rfl,
      entryOf_transactionTime ((histories call.tradingAccountId).timed activity member)⟩
    rw [isOverlap, found, Option.any_some, decide_eq_false_iff_not] at beyond
    exact beyond not_after

end Progress

variable (history : BrokerHistory)

section Runs

/-- Runs of the import one after the other, of any accounts and types. -/
def runs (toUpperCase : String → String) (environment : Nat → Option Environment) (calls : List ActivitySync)
    (start : ActivityTable) : ActivityTable :=
  calls.foldl (fun table call => (syncBrokerActivitiesForAccountUnlocked toUpperCase environment call table).1) start

/-- The runs of an account and a type that returned. -/
def completedRuns (toUpperCase : String → String) (environment : Nat → Option Environment) (tradingAccountId : Nat)
    (activityType : String) : List ActivitySync → ActivityTable → Nat
  | [], _ => 0
  | call :: rest, table =>
    let run := syncUnlocked toUpperCase environment call table
    (if call.tradingAccountId = tradingAccountId ∧ call.activityType = activityType ∧ run.2.isOk = true then 1 else 0) +
      completedRuns toUpperCase environment tradingAccountId activityType rest run.1

theorem runs_concat (earlier : List ActivitySync) (call : ActivitySync) (start : ActivityTable) :
    runs toUpperCase environment (earlier ++ [call]) start =
      (syncUnlocked toUpperCase environment call (runs toUpperCase environment earlier start)).1 := by
  rw [runs, List.foldl_append]
  rfl

/-- A record stays stored. -/
theorem isRecorded_sync (faithful : Faithful environment histories table)
    (served : Serves inclusive (histories call.tradingAccountId) call)
    (recorded : isRecorded mode tradingAccountId table activity = true) :
    isRecorded mode tradingAccountId
      (syncUnlocked toUpperCase environment call table).1 activity = true := by
  obtain ⟨entry, stored, same⟩ := isRecorded_iff.mp recorded
  exact isRecorded_iff.mpr ⟨entry, entries_kept faithful served stored, same⟩

/-- The invariant of the runs after the first. -/
structure Tracked (environment : Nat → Option Environment) (inclusive : Bool) (histories : Nat → BrokerHistory)
    (mode : String) (tradingAccountId : Nat) (activityType : String) (cursor : ℤ) (table : ActivityTable) : Prop where
  faithful : Faithful environment histories table
  covered : Covered inclusive (histories tradingAccountId) mode tradingAccountId activityType cursor table

theorem latest_of_other (faithful : Faithful environment histories table)
    (served : Serves inclusive (histories call.tradingAccountId) call)
    (other : ¬call.Concerns tradingAccountId activityType) {latest : ℤ}
    (found : latestTransactionTime activityType tradingAccountId table = some latest) :
    latestTransactionTime activityType tradingAccountId
      (syncUnlocked toUpperCase environment call table).1 = some latest := by
  obtain ⟨⟨entry, stored, timed⟩, bound⟩ := latest_eq_some_iff.mp found
  refine latest_eq_some_iff.mpr ⟨⟨entry, entries_kept faithful served stored, timed⟩, fun time dated => ?_⟩
  exact bound time (dated_of_other faithful served other time dated)

theorem after_of_latest (own : call.input.after = none) {latest : ℤ}
    (found : latestTransactionTime call.activityType call.tradingAccountId table = some latest) :
    call.after table = subtractMinutes latest 5 := by
  rw [ActivitySync.after, own, Option.getD_none, getDefaultAfterDate, found]

/-- The step of the invariant. -/
theorem Tracked.sync (known : environment tradingAccountId = some account)
    (tracked : Tracked environment inclusive histories (modeOf account) tradingAccountId activityType cursor table)
    (served : Serves inclusive (histories call.tradingAccountId) call)
    (advancing : call.Concerns tradingAccountId activityType →
      Advancing inclusive (histories tradingAccountId) call table) :
    Tracked environment inclusive histories (modeOf account) tradingAccountId activityType cursor
      (syncUnlocked toUpperCase environment call table).1 := by
  refine ⟨tracked.faithful.sync served, fun activity member shown => ?_⟩
  obtain stored | ⟨latest, found, ahead⟩ := tracked.covered activity member shown
  · exact .inl (entries_kept tracked.faithful served stored)
  · by_cases concerns : call.Concerns tradingAccountId activityType
    · have room := advancing concerns
      obtain ⟨rfl, rfl⟩ := concerns
      rw [← after_of_latest room.own found] at ahead
      exact shown_after tracked.faithful served known room member ahead (.inl (by rw [found]; rfl))
    · exact .inr ⟨latest, latest_of_other tracked.faithful served concerns found, ahead⟩

/-- A run that returns makes progress, or there is none to make. -/
theorem Tracked.new_or_complete (known : environment tradingAccountId = some account)
    (tracked : Tracked environment inclusive histories (modeOf account) tradingAccountId activityType cursor table)
    (served : Serves inclusive (histories call.tradingAccountId) call)
    (concerns : call.Concerns tradingAccountId activityType)
    (advancing : Advancing inclusive (histories tradingAccountId) call table)
    (returned : (syncUnlocked toUpperCase environment call table).2.isOk = true) :
    let after := (syncUnlocked toUpperCase environment call table).1
    (∃ activity ∈ (histories tradingAccountId).activities,
      isRecorded (modeOf account) tradingAccountId table activity = false ∧
        isRecorded (modeOf account) tradingAccountId after activity = true) ∨
      Complete inclusive (histories tradingAccountId) (modeOf account) tradingAccountId activityType cursor after := by
  intro after
  obtain ⟨rfl, rfl⟩ := concerns
  refine (new_or_all tracked.faithful served known advancing returned).imp_right fun all activity member shown => ?_
  obtain stored | ⟨latest, found, ahead⟩ := tracked.covered activity member shown
  · exact isRecorded_sync tracked.faithful served (isRecorded_iff.mpr ⟨_, stored, rfl⟩)
  · rw [← after_of_latest advancing.own found] at ahead
    exact all activity member ahead

/-- The activities of an account that are not stored. -/
def missing (history : BrokerHistory) (mode : String) (tradingAccountId : Nat) (table : ActivityTable) :
    List AlpacaAccountActivity :=
  history.activities.filter fun activity => !isRecorded mode tradingAccountId table activity

variable {after : ActivityTable}

/-- Storing more leaves less missing. -/
theorem missing_of_kept {history : BrokerHistory}
    (kept : ∀ activity, isRecorded mode tradingAccountId table activity = true →
      isRecorded mode tradingAccountId after activity = true) :
    missing history mode tradingAccountId after =
      (missing history mode tradingAccountId table).filter fun activity =>
        !isRecorded mode tradingAccountId after activity := by
  rw [missing, missing, List.filter_filter]
  refine List.filter_congr fun activity _ => ?_
  cases stored : isRecorded mode tradingAccountId table activity with
  | false => simp
  | true => simp [kept activity stored]

theorem length_missing_le (kept : ∀ activity, isRecorded mode tradingAccountId table activity = true →
      isRecorded mode tradingAccountId after activity = true) :
    (missing history mode tradingAccountId after).length ≤ (missing history mode tradingAccountId table).length := by
  rw [missing_of_kept kept]
  exact List.length_filter_le _ _

theorem length_missing_lt {history : BrokerHistory}
    (kept : ∀ activity, isRecorded mode tradingAccountId table activity = true →
      isRecorded mode tradingAccountId after activity = true)
    (member : activity ∈ history.activities) (absent : isRecorded mode tradingAccountId table activity = false)
    (present : isRecorded mode tradingAccountId after activity = true) :
    (missing history mode tradingAccountId after).length < (missing history mode tradingAccountId table).length := by
  rw [missing_of_kept kept, List.length_filter_lt_length_iff_exists]
  exact ⟨activity, List.mem_filter.mpr ⟨member, by simp [absent]⟩, by simp [present]⟩

theorem faithful_runs (faithful : Faithful environment histories start)
    (served : ∀ call ∈ calls, Serves inclusive (histories call.tradingAccountId) call) :
    Faithful environment histories (runs toUpperCase environment calls start) := by
  induction calls generalizing start with
  | nil => exact faithful
  | cons call rest ih =>
    apply ih (faithful.sync (served call List.mem_cons_self))
    exact fun call member => served call (List.mem_cons_of_mem _ member)

theorem isRecorded_runs (faithful : Faithful environment histories start)
    (served : ∀ call ∈ calls, Serves inclusive (histories call.tradingAccountId) call)
    (recorded : isRecorded mode tradingAccountId start activity = true) :
    isRecorded mode tradingAccountId (runs toUpperCase environment calls start) activity = true := by
  induction calls generalizing start with
  | nil => exact recorded
  | cons call rest ih =>
    have served_first := served call List.mem_cons_self
    apply ih (faithful.sync served_first)
    · exact fun call member => served call (List.mem_cons_of_mem _ member)
    · exact isRecorded_sync faithful served_first recorded

section

variable (known : environment tradingAccountId = some account)
  (tracked : Tracked environment inclusive histories (modeOf account) tradingAccountId activityType cursor start)
  (served : ∀ call ∈ calls, Serves inclusive (histories call.tradingAccountId) call)
  (advancing : ∀ earlier call rest, calls = earlier ++ call :: rest → call.Concerns tradingAccountId activityType →
    Advancing inclusive (histories tradingAccountId) call (runs toUpperCase environment earlier start))
include known tracked served advancing

/-- The run of the invariant. -/
theorem tracked_runs :
    Tracked environment inclusive histories (modeOf account) tradingAccountId activityType cursor
      (runs toUpperCase environment calls start) := by
  induction calls generalizing start with
  | nil => exact tracked
  | cons call rest ih =>
    apply ih (tracked.sync known (served call List.mem_cons_self) (advancing [] call rest rfl))
    · exact fun call member => served call (List.mem_cons_of_mem _ member)
    · intro earlier later following split
      exact advancing (call :: earlier) later following (congrArg (call :: ·) split)

/-- The run: each run that returns makes progress, or there is none to make. -/
theorem progress_of_tracked {earlier rest : List ActivitySync} (split : calls = earlier ++ call :: rest)
    (concerns : call.Concerns tradingAccountId activityType)
    (returned : (syncUnlocked toUpperCase environment call
      (runs toUpperCase environment earlier start)).2.isOk = true) :
    (∃ activity ∈ (histories tradingAccountId).activities,
      isRecorded (modeOf account) tradingAccountId (runs toUpperCase environment earlier start) activity = false ∧
        isRecorded (modeOf account) tradingAccountId (runs toUpperCase environment (earlier ++ [call]) start) activity =
          true) ∨
      Complete inclusive (histories tradingAccountId) (modeOf account) tradingAccountId activityType cursor
        (runs toUpperCase environment (earlier ++ [call]) start) := by
  have reached : Tracked environment inclusive histories (modeOf account) tradingAccountId activityType cursor
      (runs toUpperCase environment earlier start) := by
    refine tracked_runs known tracked (fun other member => served other ?_) fun before other after inside => ?_
    · rw [split]
      exact List.mem_append_left _ member
    · refine advancing before other (after ++ call :: rest) ?_
      rw [split, inside, List.append_assoc, List.cons_append]
  rw [runs_concat]
  refine reached.new_or_complete known (served call ?_) concerns (advancing earlier call rest split concerns) returned
  rw [split]
  exact List.mem_append_right _ List.mem_cons_self

/-- The measure of the runs: each that returns stores a missing activity, until none is missing. -/
theorem completedRuns_le_missing :
    completedRuns toUpperCase environment tradingAccountId activityType calls start ≤
        (missing (histories tradingAccountId) (modeOf account) tradingAccountId start).length ∨
      Complete inclusive (histories tradingAccountId) (modeOf account) tradingAccountId activityType cursor
        (runs toUpperCase environment calls start) := by
  induction calls generalizing start with
  | nil => exact .inl (Nat.zero_le _)
  | cons call rest ih =>
    have served_first := served call List.mem_cons_self
    have served_rest : ∀ call ∈ rest, Serves inclusive (histories call.tradingAccountId) call :=
      fun call member => served call (List.mem_cons_of_mem _ member)
    have advancing_first := advancing [] call rest rfl
    have tracked_after := @Tracked.sync toUpperCase _ _ _ _ _ _ _ _ _ known tracked served_first advancing_first
    have kept (activity : AlpacaAccountActivity)
        (recorded : isRecorded (modeOf account) tradingAccountId start activity = true) :
        isRecorded (modeOf account) tradingAccountId
          (syncUnlocked toUpperCase environment call start).1 activity = true :=
      isRecorded_sync tracked.faithful served_first recorded
    obtain few | complete := ih tracked_after served_rest fun earlier later following split =>
      advancing (call :: earlier) later following (congrArg (call :: ·) split)
    · rw [completedRuns]
      split_ifs with counted
      · obtain ⟨owner, type, returned⟩ := counted
        obtain ⟨activity, member, absent, present⟩ | complete :=
          tracked.new_or_complete known served_first ⟨owner, type⟩ (advancing_first ⟨owner, type⟩) returned
        · left
          have less := length_missing_lt kept member absent present
          omega
        · right
          intro activity member shown
          change isRecorded _ _ (runs toUpperCase environment rest _) _ = true
          exact isRecorded_runs tracked_after.faithful served_rest (complete activity member shown)
      · left
        have no_more := length_missing_le (histories tradingAccountId) kept
        omega
    · exact .inr complete

end

/-- After the first run that returns, what it was shown at its cursor is tracked. -/
theorem tracked_of_first (known : environment tradingAccountId = some account)
    (faithful : Faithful environment histories start)
    (served : Serves inclusive (histories call.tradingAccountId) call)
    (concerns : call.Concerns tradingAccountId activityType)
    (advancing : Advancing inclusive (histories tradingAccountId) call start)
    (returned : (syncUnlocked toUpperCase environment call start).2.isOk = true) :
    Tracked environment inclusive histories (modeOf account) tradingAccountId activityType (call.after start)
      (syncUnlocked toUpperCase environment call start).1 := by
  obtain ⟨rfl, rfl⟩ := concerns
  refine ⟨faithful.sync served, fun activity member shown => ?_⟩
  exact shown_after faithful served known advancing member shown (.inr returned)

/-- If each run of this account and type starts at its own cursor and its overlap does not fill its pages, each run that
returns, from the first on, stores a new activity or everything shown at the first cursor is stored, which is so once more of
them returned than the history is long. A record stays stored, exactly once. -/
theorem syncBrokerActivities_progress {first : ActivitySync} {later : List ActivitySync}
    (known : environment tradingAccountId = some account) (faithful : Faithful environment histories start)
    (served : ∀ call ∈ first :: later, Serves inclusive (histories call.tradingAccountId) call)
    (concerns : first.Concerns tradingAccountId activityType)
    (returned : (syncBrokerActivitiesForAccountUnlocked toUpperCase environment first start).2.isOk = true)
    (advancing : ∀ earlier call rest, first :: later = earlier ++ call :: rest →
      call.Concerns tradingAccountId activityType →
        Advancing inclusive (histories tradingAccountId) call (runs toUpperCase environment earlier start)) :
    let history := histories tradingAccountId
    let reached calls := runs toUpperCase environment calls start
    let complete calls := Complete inclusive history (modeOf account) tradingAccountId activityType (first.after start)
      (reached calls)
    (∀ earlier call rest, first :: later = earlier ++ call :: rest → call.Concerns tradingAccountId activityType →
      (syncBrokerActivitiesForAccountUnlocked toUpperCase environment call (reached earlier)).2.isOk = true →
        (∃ activity ∈ history.activities,
          isRecorded (modeOf account) tradingAccountId (reached earlier) activity = false ∧
            isRecorded (modeOf account) tradingAccountId (reached (earlier ++ [call])) activity = true) ∨
          complete (earlier ++ [call])) ∧
    (history.activities.length <
        completedRuns toUpperCase environment tradingAccountId activityType (first :: later) start →
      complete (first :: later)) ∧
    (∀ earlier rest, first :: later = earlier ++ rest → ∀ mode owner activity,
      isRecorded mode owner (reached earlier) activity = true →
        isRecorded mode owner (reached (first :: later)) activity = true) ∧
    ∀ mode owner activities before after, Imported toUpperCase mode owner activities before after →
      ∀ activity ∈ activities, (after.rows.filter (isRecord activity mode owner)).length = 1 := by
  intro history reached complete
  have served_first := served first List.mem_cons_self
  have served_later : ∀ call ∈ later, Serves inclusive (histories call.tradingAccountId) call :=
    fun call member => served call (List.mem_cons_of_mem _ member)
  have advancing_first := advancing [] first later rfl concerns
  have tracked := tracked_of_first known faithful served_first concerns advancing_first returned
  have first_step : (∃ activity ∈ history.activities,
      isRecorded (modeOf account) tradingAccountId start activity = false ∧
        isRecorded (modeOf account) tradingAccountId (reached [first]) activity = true) ∨ complete [first] := by
    obtain ⟨rfl, rfl⟩ := concerns
    exact new_or_all faithful served_first known advancing_first returned
  have advancing_later : ∀ earlier call rest, later = earlier ++ call :: rest →
      call.Concerns tradingAccountId activityType →
        Advancing inclusive history call (runs toUpperCase environment earlier (reached [first])) :=
    fun earlier call rest split => advancing (first :: earlier) call rest (congrArg (first :: ·) split)
  refine ⟨?_, ?_, ?_, fun _ _ _ _ _ imported _ => imported.one_record⟩
  · intro earlier call rest split concerned ok
    cases earlier with
    | nil =>
      obtain ⟨rfl, rfl⟩ := List.cons.inj split
      exact first_step
    | cons head earlier =>
      obtain ⟨rfl, later_split⟩ := List.cons.inj split
      exact progress_of_tracked known tracked served_later advancing_later later_split concerned ok
  · intro long
    have first_counts : completedRuns toUpperCase environment tradingAccountId activityType (first :: later) start ≤
        1 + completedRuns toUpperCase environment tradingAccountId activityType later (reached [first]) := by
      rw [completedRuns]
      apply Nat.add_le_add_right
      split_ifs
      · exact Nat.le_refl 1
      · exact Nat.zero_le 1
    have measured : completedRuns toUpperCase environment tradingAccountId activityType later (reached [first]) ≤
        (missing history (modeOf account) tradingAccountId (reached [first])).length ∨ complete (first :: later) :=
      completedRuns_le_missing known tracked served_later advancing_later
    have stays (all : complete [first]) : complete (first :: later) := by
      intro activity member shown
      change isRecorded _ _ (runs toUpperCase environment later (reached [first])) _ = true
      exact isRecorded_runs tracked.faithful served_later (all activity member shown)
    refine measured.elim (fun few => first_step.elim ?_ stays) id
    rintro ⟨activity, member, absent, present⟩
    have less : (missing history (modeOf account) tradingAccountId (reached [first])).length <
        (missing history (modeOf account) tradingAccountId start).length :=
      length_missing_lt (fun activity => isRecorded_sync faithful served_first) member absent present
    have within : (missing history (modeOf account) tradingAccountId start).length ≤ history.activities.length :=
      List.length_filter_le _ _
    omega
  · intro earlier rest split mode owner activity recorded
    rw [split] at served
    have reached_faithful : Faithful environment histories (reached earlier) :=
      faithful_runs faithful fun call member => served call (List.mem_append_left _ member)
    have joined : reached (first :: later) = runs toUpperCase environment rest (reached earlier) := by
      simp only [reached, runs, split, List.foldl_append]
    rw [joined]
    exact isRecorded_runs reached_faithful (fun call member => served call (List.mem_append_right _ member)) recorded

end Runs

section Stalling

variable {after : ActivityTable} {capacity : Nat}

/-- All that runs of a capacity are shown is stored already. -/
def Stalled (inclusive : Bool) (history : BrokerHistory) (mode : String) (tradingAccountId : Nat) (activityType : String)
    (capacity : Nat) (table : ActivityTable) : Prop :=
  ∃ latest, latestTransactionTime activityType tradingAccountId table = some latest ∧
    ∀ activity ∈ (history.activities.filter (isShown inclusive activityType (subtractMinutes latest 5))).take capacity,
      entryOf mode tradingAccountId activity ∈ table.entries

theorem latest_congr (same : ∀ entry, entry ∈ after.entries ↔ entry ∈ table.entries) :
    latestTransactionTime activityType tradingAccountId after = latestTransactionTime activityType tradingAccountId table := by
  have dated (time : ℤ) : Dated activityType tradingAccountId after time ↔ Dated activityType tradingAccountId table time := by
    simp only [Dated, same]
  refine Option.ext fun time => ?_
  simp only [latest_eq_some_iff, dated]

/-- A run that does not get beyond what is stored stores nothing. -/
theorem Stalled.sync (known : environment tradingAccountId = some account) (faithful : Faithful environment histories table)
    (stalled : Stalled inclusive (histories tradingAccountId) (modeOf account) tradingAccountId activityType capacity table)
    (served : Serves inclusive (histories tradingAccountId) call) (concerns : call.Concerns tradingAccountId activityType)
    (own : call.input.after = none) (within : call.capacity ≤ capacity) :
    entry ∈ (syncUnlocked toUpperCase environment call table).1.entries ↔
      entry ∈ table.entries := by
  obtain ⟨rfl, rfl⟩ := concerns
  obtain ⟨latest, found, stored⟩ := stalled
  obtain ⟨taken, first_rows, _, entries⟩ := syncBrokerActivities_entries toUpperCase faithful served known
  rw [entries]
  refine ⟨fun new_or_old => new_or_old.elim ?_ id, .inr⟩
  rintro ⟨activity, new, rfl⟩
  apply stored
  have listed := first_rows.mem new
  rw [shownTo, after_of_latest own found] at listed
  exact (List.take_prefix_take_left within).mem listed

/-- Nor does any run after it. -/
theorem stalled_runs (known : environment tradingAccountId = some account) (faithful : Faithful environment histories start)
    (stalled : Stalled inclusive (histories tradingAccountId) (modeOf account) tradingAccountId activityType capacity start)
    (repeated : ∀ call ∈ calls, Serves inclusive (histories tradingAccountId) call ∧
      call.Concerns tradingAccountId activityType ∧ call.input.after = none ∧ call.capacity ≤ capacity) :
    entry ∈ (runs toUpperCase environment calls start).entries ↔ entry ∈ start.entries := by
  induction calls generalizing start with
  | nil => exact Iff.rfl
  | cons call rest ih =>
    obtain ⟨served, concerns, own, within⟩ := repeated call List.mem_cons_self
    have unchanged (entry : ActivityEntry) :
        entry ∈ (syncUnlocked toUpperCase environment call start).1.entries ↔
          entry ∈ start.entries := stalled.sync known faithful served concerns own within
    have still : Stalled inclusive (histories tradingAccountId) (modeOf account) tradingAccountId activityType capacity
        (syncUnlocked toUpperCase environment call start).1 := by
      obtain ⟨latest, found, stored⟩ := stalled
      refine ⟨latest, (latest_congr unchanged).trans found, fun activity member => ?_⟩
      exact (unchanged _).mpr (stored activity member)
    rw [← unchanged]
    exact ih (faithful.sync (concerns.1 ▸ served)) still fun call member => repeated call (List.mem_cons_of_mem _ member)

end Stalling

section Bursts

/-- The requests and statements of the call succeed. -/
structure Undisturbed (call : ActivitySync) : Prop where
  lookups : ∀ time activity, (call.lookups time activity).isOk = true
  request : ∀ time query, (call.request time query).isOk = true
  createSystemEvent : ∀ event, (call.createSystemEvent event).isOk = true

theorem exists_of_isOk {α : Type} {outcome : Except String α} (ok : outcome.isOk = true) : ∃ value, outcome = .ok value := by
  cases outcome with
  | error message => cases ok
  | ok value => exact ⟨value, rfl⟩

theorem foldlM_importActivity_ok (undisturbed : Undisturbed call) (page : List AlpacaAccountActivity)
    (progress : ImportProgress) : ∃ final, page.foldlM (importActivity toUpperCase call mode) progress = .ok final := by
  induction page generalizing progress with
  | nil => exact ⟨progress, rfl⟩
  | cons activity rest ih =>
    obtain ⟨found, looked⟩ := exists_of_isOk (undisturbed.lookups (progress.seen + 1) activity)
    rw [List.foldlM_cons, importActivity]
    simp only [looked]
    split
    · exact ih _
    · exact ih _

theorem importPages_ok (undisturbed : Undisturbed call) (remaining : Nat) (pageToken : Option String)
    (progress : ImportProgress) :
    ∃ final, importPages toUpperCase call mode cursor remaining pageToken progress = .ok final := by
  induction remaining generalizing pageToken progress with
  | zero => exact ⟨progress, rfl⟩
  | succ remaining ih =>
    obtain ⟨page, answered⟩ :=
      exists_of_isOk (undisturbed.request progress.pagesProcessed (activityRequest call cursor pageToken))
    obtain ⟨next, folded⟩ := @foldlM_importActivity_ok toUpperCase call mode undisturbed page
      { progress with pagesProcessed := progress.pagesProcessed + 1 }
    unfold importPages
    simp only [answered]
    split_ifs
    · exact ⟨_, rfl⟩
    · rw [folded]
      exact ⟨next, rfl⟩
    · rw [folded]
      dsimp only [bind, Except.bind]
      split
      · exact ⟨next, rfl⟩
      · exact ih _ next

/-- An undisturbed run returns. -/
theorem syncBrokerActivities_ok (known : environment call.tradingAccountId = some account) (undisturbed : Undisturbed call) :
    (syncUnlocked toUpperCase environment call table).2.isOk = true := by
  obtain ⟨final, read⟩ := @importPages_ok toUpperCase call (modeOf account) (call.after table) undisturbed call.maxPages none
    ⟨table, 0, 0, 0, 0, none⟩
  simp only [syncUnlocked, known, read]
  split_ifs
  · obtain ⟨_, recorded⟩ := exists_of_isOk (undisturbed.createSystemEvent
      ⟨modeOf account, call.tradingAccountId, call.activityType, call.after table, final.seen, final.created, final.updated⟩)
    rw [recorded]
    rfl
  · rfl

def emptyTable : ActivityTable := ⟨[], List.nodup_nil, Table.unique_nil⟩

theorem faithful_empty (histories : Nat → BrokerHistory) : Faithful environment histories emptyTable :=
  fun _ _ _ _ _ _ stored => by cases stored

/-- One of the fills of a burst: they have the same time. -/
def burstFill (number : Nat) : AlpacaAccountActivity :=
  { id := toString number
    activityType := some "FILL"
    type := some "partial_fill"
    symbol := some "SPY"
    side := some "buy"
    qty := some 1
    cumQty := none
    leavesQty := none
    price := none
    netAmount := none
    orderId := none
    transactionTime := some 1000000000000
    body := "" }

theorem burstFill_inj {first second : Nat} (same : (burstFill first).id = (burstFill second).id) : first = second :=
  Separated.toString_inj (congrArg String.toList same)

/-- A history of fills at one time. -/
def burst (count : Nat) : BrokerHistory where
  activities := (List.range count).map burstFill
  distinct := by
    rw [List.map_map]
    exact List.nodup_range.map fun _ _ same => burstFill_inj same
  named := by
    intro activity member
    obtain ⟨number, _, rfl⟩ := List.mem_map.mp member
    exact Nat.repr_ne_empty
  timed := by
    intro activity member
    obtain ⟨number, _, rfl⟩ := List.mem_map.mp member
    rfl
  ascending := by
    rw [List.pairwise_map]
    exact List.pairwise_of_forall fun _ _ => Int.le_refl _

/-- An undisturbed import of fills, from a broker that serves a history. -/
def fillImport (history : BrokerHistory) (pageSize maxPages : Nat) : ActivitySync :=
  { tradingAccountId := 1
    input := ⟨some "FILL", none, some pageSize, some maxPages⟩
    threeDaysAgo := 0
    now := 0
    lookups := fun _ _ => .ok ⟨none, none⟩
    request := fun _ query => .ok ((behind AlpacaAccountActivity.id query.pageToken
      (history.activities.filter (isShown true query.activityType query.after))).take query.pageSize)
    createSystemEvent := fun _ => .ok () }

variable {pageSize maxPages : Nat}

theorem serves_fillImport : Serves true history (fillImport history pageSize maxPages) :=
  fun _ _ _ answered => (Except.ok.inj answered).symm

theorem undisturbed_fillImport : Undisturbed (fillImport history pageSize maxPages) :=
  ⟨fun _ _ => rfl, fun _ _ => rfl, fun _ => rfl⟩

/-- Three runs over a burst of two fills store it. -/
theorem syncBrokerActivities_progress_burst :
    let call := fillImport (burst 2) 100 3
    Complete true (burst 2) "paper" 1 "FILL" 0 (runs id (fun _ => some .paper) [call, call, call] emptyTable) := by
  intro call
  have returned (table : ActivityTable) :
      (syncUnlocked id (fun _ => some .paper) call table).2.isOk = true :=
    syncBrokerActivities_ok rfl (undisturbed_fillImport _)
  have served : ∀ other ∈ [call, call, call], Serves true (burst 2) other := by
    intro other member
    obtain rfl : other = call := by simpa using member
    exact serves_fillImport _
  have advancing : ∀ earlier other rest, [call, call, call] = earlier ++ other :: rest → other.Concerns 1 "FILL" →
      Advancing true (burst 2) other (runs id (fun _ => some .paper) earlier emptyTable) := by
    intro earlier other rest split _
    have member : other ∈ [call, call, call] := split ▸ List.mem_append_right _ List.mem_cons_self
    obtain rfl : other = call := by simpa using member
    refine ⟨rfl, Nat.lt_of_le_of_lt ((List.length_filter_le _ _).trans (List.length_filter_le _ _)) ?_⟩
    decide
  refine (@syncBrokerActivities_progress id (fun _ => some .paper) true emptyTable 1 "FILL" .paper (fun _ => burst 2) call
    [call, call] rfl (faithful_empty _) served ⟨rfl, rfl⟩ (returned emptyTable) advancing).2.1 ?_
  decide

variable {count : Nat}

theorem filter_burst (before : cursor < 1000000) :
    (burst count).activities.filter (isShown true "FILL" cursor) = (burst count).activities := by
  rw [List.filter_eq_self]
  intro activity member
  obtain ⟨number, _, rfl⟩ := List.mem_map.mp member
  refine isShown_iff.mpr ⟨rfl, .inl ?_⟩
  show cursor * 1000000 < 1000000000000
  omega

theorem mem_take_burst {capacity : Nat} {activity : AlpacaAccountActivity} :
    activity ∈ (burst count).activities.take capacity ↔ ∃ number < min capacity count, activity = burstFill number := by
  rw [burst, ← List.map_take, List.take_range, List.mem_map]
  simp only [List.mem_range]
  exact ⟨fun ⟨number, below, same⟩ => ⟨number, below, same.symm⟩, fun ⟨number, below, same⟩ => ⟨number, below, same.symm⟩⟩

/-- The first run over a burst stores what its pages hold, and stalls the later ones. -/
theorem stalled_burst {count pageSize maxPages : Nat} (room : 0 < pageSize * maxPages) (some_fill : 0 < count)
    (known : environment 1 = some account) :
    let first := (syncUnlocked toUpperCase environment
      (fillImport (burst count) pageSize maxPages) emptyTable).1
    (∀ entry, entry ∈ first.entries ↔
      ∃ number < min (pageSize * maxPages) count, entry = entryOf (modeOf account) 1 (burstFill number)) ∧
      Stalled true (burst count) (modeOf account) 1 "FILL" (pageSize * maxPages) first := by
  intro first
  obtain ⟨taken, _, complete, entries⟩ := @syncBrokerActivities_entries environment true
    (fillImport (burst count) pageSize maxPages) emptyTable account (fun _ => burst count) toUpperCase (faithful_empty _)
    (serves_fillImport _) known
  have all := complete (syncBrokerActivities_ok known (undisturbed_fillImport _))
  change taken = ((burst count).activities.filter (isShown true "FILL" 0)).take (pageSize * maxPages) at all
  rw [filter_burst (by decide)] at all
  have stored (entry : ActivityEntry) : entry ∈ first.entries ↔
      ∃ number < min (pageSize * maxPages) count, entry = entryOf (modeOf account) 1 (burstFill number) := by
    rw [entries, all]
    constructor
    · rintro (⟨activity, member, rfl⟩ | old)
      · obtain ⟨number, below, rfl⟩ := mem_take_burst.mp member
        exact ⟨number, below, rfl⟩
      · cases old
    · rintro ⟨number, below, rfl⟩
      exact .inl ⟨burstFill number, mem_take_burst.mpr ⟨number, below, rfl⟩, rfl⟩
  refine ⟨stored, 1000000, ?_, ?_⟩
  · refine latest_eq_some_iff.mpr ⟨⟨_, (stored _).mpr ⟨0, by omega, rfl⟩, rfl, rfl, rfl⟩, ?_⟩
    rintro time ⟨entry, member, _, _, timed⟩
    obtain ⟨number, _, rfl⟩ := (stored entry).mp member
    exact le_of_eq (Option.some.inj timed).symm
  · rw [filter_burst (by decide)]
    intro activity member
    obtain ⟨number, below, rfl⟩ := mem_take_burst.mp member
    exact (stored _).mpr ⟨number, below, rfl⟩

/-- However often a burst is imported, what the pages of one run hold is stored. -/
theorem mem_entries_burst (room : 0 < pageSize * maxPages) (some_fill : 0 < count)
    (known : environment 1 = some account) (repetitions : Nat) (entry : ActivityEntry) :
    entry ∈ (runs toUpperCase environment (List.replicate (repetitions + 1) (fillImport (burst count) pageSize maxPages))
      emptyTable).entries ↔
      ∃ number < min (pageSize * maxPages) count, entry = entryOf (modeOf account) 1 (burstFill number) := by
  obtain ⟨stored, stalled⟩ := @stalled_burst toUpperCase environment account count pageSize maxPages room some_fill known
  have served : Serves true (burst count) (fillImport (burst count) pageSize maxPages) := serves_fillImport _
  have faithful : Faithful environment (fun _ => burst count)
      (syncUnlocked toUpperCase environment (fillImport (burst count) pageSize maxPages)
        emptyTable).1 := (faithful_empty _).sync served
  rw [← stored entry, List.replicate_succ]
  apply stalled_runs known faithful stalled
  intro call member
  rw [List.eq_of_mem_replicate member]
  exact ⟨served, ⟨rfl, rfl⟩, rfl, Nat.le_refl _⟩

/-- Of a burst of 301 fills one is never stored, although every run, of three pages of a hundred, returns. -/
theorem burst_never_imported :
    let history := burst 301
    let call := fillImport history 100 3
    let reached count := runs id (fun _ => some .paper) (List.replicate count call) emptyTable
    Serves true history call ∧ Faithful (fun _ => some .paper) (fun _ => history) emptyTable ∧
      ∀ count, (syncBrokerActivitiesForAccountUnlocked id (fun _ => some .paper) call (reached (count + 1))).2.isOk = true ∧
        (∀ activity, isRecorded "paper" 1 (reached (count + 2)) activity = isRecorded "paper" 1 (reached (count + 1)) activity) ∧
        burstFill 300 ∈ history.activities ∧ isShown true "FILL" (call.after emptyTable) (burstFill 300) = true ∧
        isRecorded "paper" 1 (reached (count + 1)) (burstFill 300) = false := by
  intro history call reached
  have stored (count : Nat) (entry : ActivityEntry) : entry ∈ (reached (count + 1)).entries ↔
      ∃ number < min (100 * 3) 301, entry = entryOf (modeOf .paper) 1 (burstFill number) :=
    mem_entries_burst (by decide) (by decide) rfl count entry
  refine ⟨serves_fillImport _, faithful_empty _, fun count => ⟨?_, fun activity => ?_, ?_, ?_, ?_⟩⟩
  · exact syncBrokerActivities_ok rfl (undisturbed_fillImport _)
  · rw [Bool.eq_iff_iff, isRecorded_iff, isRecorded_iff]
    simp only [stored]
  · exact List.mem_map_of_mem (List.mem_range.mpr (by decide))
  · exact isShown_iff.mpr ⟨rfl, .inl (show (0 : ℤ) * 1000000 < 1000000000000 by decide)⟩
  · rw [Bool.eq_false_iff, ne_eq, isRecorded_iff]
    rintro ⟨entry, member, same⟩
    obtain ⟨number, below, rfl⟩ := (stored count entry).mp member
    simp only [ActivityEntry.key, entryOf, Option.map_some, Option.some.injEq, Prod.mk.injEq] at same
    have equal := burstFill_inj same.2.2.2
    omega

end Bursts

end AiTrader.Alpaca
