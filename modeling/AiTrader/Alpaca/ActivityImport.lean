import Mathlib.Algebra.Order.Group.Unbundled.Abs
import Mathlib.Algebra.Order.Ring.Rat
import AiTrader.Library.Table
import AiTrader.Alpaca.OpenOrders

/-! # The import of broker activities

Activities are read in ascending order of time, from five minutes before the latest stored one, and each is stored under
its identity. -/

namespace AiTrader.Alpaca

open Library Entry Table

/-- An activity as the broker sends it; numbers and times (in nanoseconds) are absent when their texts denote none. -/
structure AlpacaAccountActivity where
  id : String
  (activityType type symbol side : Option String)
  (qty cumQty leavesQty price netAmount : Option ℚ)
  orderId : Option String
  transactionTime : Option ℤ
  body : String

inductive BrokerActivityTrackedPositionLinkSource where
  | brokerOrder | exitStateTrailingOrder | closeOrderSubmission | reconciliationDiscoveredClose | manualReview

/-- A stored activity; times are in milliseconds. -/
structure BrokerActivity where
  id : Nat
  (broker mode : String)
  tradingAccountId : Option Nat
  (activityId activityType : String)
  (activityCategory symbol side : Option String)
  (qty cumQty leavesQty price netAmount : Option ℚ)
  orderId : Option String
  (brokerOrderRecordId orderIntentId trackedPositionId : Option Nat)
  trackedPositionLinkSource : Option BrokerActivityTrackedPositionLinkSource
  trackedPositionLinkedAt : Option ℤ
  transactionTime : Option ℤ
  rawBrokerJson : AlpacaAccountActivity

/-- A broker order with what its intent says. -/
structure LinkedBrokerOrder where
  (id orderIntentId : Nat)
  (trackedPositionId intentTrackedPositionId : Option Nat)
  intentSource : String
  intentQty : Option ℚ

/-- What the database holds about the order of an activity. -/
structure ActivityLookups where
  brokerOrder : Option LinkedBrokerOrder
  /-- The position whose exit state has the order as its trailing order. -/
  exitStatePosition : Option Nat

def fullFillTolerance : ℚ := 1 / 1000000

/-- A time in whole milliseconds. -/
def parseNullableDate (value : Option ℤ) : Option ℤ := value.map fun time => time / 1000000

def subtractMinutes (date minutes : ℤ) : ℤ := date - minutes * 60000

/-- `toUpperCase` is that of strings. -/
def isAuthoritativeFullFill (toUpperCase : String → String) (activityType : Option String)
    (cumulativeQty leavesQty orderQty : Option ℚ) : Bool :=
  match activityType, orderQty, cumulativeQty, leavesQty with
  | some activityType, some orderQty, some cumulativeQty, some leavesQty =>
    toUpperCase activityType == "FILL" && decide (|(|cumulativeQty| - |orderQty|)| ≤ fullFillTolerance) &&
      decide (|leavesQty| ≤ fullFillTolerance)
  | _, _, _, _ => false

def findLinkedBrokerOrder (activity : AlpacaAccountActivity) (found : ActivityLookups) : Option LinkedBrokerOrder :=
  (present activity.orderId).bind fun _ => found.brokerOrder

/-- The position of an activity, and how it was found. -/
def findTrackedPositionLink (activity : AlpacaAccountActivity) (found : ActivityLookups) :
    Option (Nat × BrokerActivityTrackedPositionLinkSource) :=
  let linkedBrokerOrder := findLinkedBrokerOrder activity found
  match linkedBrokerOrder.bind fun order => order.trackedPositionId.or order.intentTrackedPositionId with
  | some trackedPositionId =>
    if linkedBrokerOrder.any fun order => order.intentSource == "close-position" then
      some (trackedPositionId, .closeOrderSubmission)
    else some (trackedPositionId, .brokerOrder)
  | none => (present activity.orderId).bind fun _ =>
      found.exitStatePosition.map fun trackedPositionId => (trackedPositionId, .exitStateTrailingOrder)

section Upsert

variable (toUpperCase : String → String) (found : ActivityLookups) (activity : AlpacaAccountActivity) (mode : String)
  (tradingAccountId : Nat) (now : ℤ)

/-- What a full fill writes to the activities; order, intent and claim are written with them. -/
def terminalizeImportedFullFill (trackedPositionId : Option Nat) (rows : List BrokerActivity) : List BrokerActivity :=
  match findLinkedBrokerOrder activity found, trackedPositionId with
  | some order, some trackedPositionId =>
    if isAuthoritativeFullFill toUpperCase (activity.activityType.or activity.type) activity.cumQty activity.leavesQty
        order.intentQty then
      updateWhere (fun row => row.tradingAccountId == some tradingAccountId &&
          row.brokerOrderRecordId == some order.id && row.activityType == "FILL")
        (fun row => { row with
          trackedPositionId := some trackedPositionId
          trackedPositionLinkSource := some .brokerOrder
          trackedPositionLinkedAt := some now }) rows
    else rows
  | _, _ => rows

def activityData (existing : Option BrokerActivity) (id : Nat) : BrokerActivity :=
  let linkedBrokerOrder := findLinkedBrokerOrder activity found
  let trackedPositionLink := findTrackedPositionLink activity found
  let linkedBefore := existing.bind BrokerActivity.trackedPositionLinkedAt
  { id
    broker := "alpaca"
    mode
    tradingAccountId := some tradingAccountId
    activityId := activity.id
    activityType := (activity.activityType.or activity.type).getD "UNKNOWN"
    activityCategory := activity.type
    symbol := activity.symbol
    side := activity.side
    qty := activity.qty
    cumQty := activity.cumQty
    leavesQty := activity.leavesQty
    price := activity.price
    netAmount := activity.netAmount
    orderId := activity.orderId
    brokerOrderRecordId := linkedBrokerOrder.map LinkedBrokerOrder.id
    orderIntentId := linkedBrokerOrder.map LinkedBrokerOrder.orderIntentId
    trackedPositionId := (trackedPositionLink.map Prod.fst).or (existing.bind BrokerActivity.trackedPositionId)
    trackedPositionLinkSource :=
      (trackedPositionLink.map Prod.snd).or (existing.bind BrokerActivity.trackedPositionLinkSource)
    trackedPositionLinkedAt := if trackedPositionLink.isSome then linkedBefore.or (some now) else linkedBefore
    transactionTime := parseNullableDate activity.transactionTime
    rawBrokerJson := activity }

inductive UpsertResult where
  | created | updated

/-- The row is the record of the activity. -/
def isRecord (row : BrokerActivity) : Bool :=
  row.tradingAccountId == some tradingAccountId && row.broker == "alpaca" && row.mode == mode &&
    row.activityId == activity.id

def upsertBrokerActivity (rows : List BrokerActivity) : List BrokerActivity × UpsertResult :=
  let existing := rows.find? (isRecord activity mode tradingAccountId)
  let data := activityData found activity mode tradingAccountId now existing
  let link := (findTrackedPositionLink activity found).map Prod.fst
  match existing with
  | some existing =>
    (terminalizeImportedFullFill toUpperCase found activity tradingAccountId now (link.or existing.trackedPositionId)
      (updateWhere (fun row => row.id == existing.id) (fun _ => data existing.id) rows), .updated)
  | none =>
    (terminalizeImportedFullFill toUpperCase found activity tradingAccountId now link
      (rows ++ [data (nextId (rows.map BrokerActivity.id))]), .created)

end Upsert

section Ledger

/-- What the import reads of a stored activity. -/
structure ActivityEntry where
  tradingAccountId : Option Nat
  (broker mode activityId activityType : String)
  transactionTime : Option ℤ

namespace ActivityEntry

/-- The value of the unique index over the activities of accounts. -/
def key (entry : ActivityEntry) : Option (Nat × String × String × String) :=
  entry.tradingAccountId.map fun account => (account, entry.broker, entry.mode, entry.activityId)

end ActivityEntry

namespace BrokerActivity

def entry (row : BrokerActivity) : ActivityEntry :=
  { tradingAccountId := row.tradingAccountId
    broker := row.broker
    mode := row.mode
    activityId := row.activityId
    activityType := row.activityType
    transactionTime := row.transactionTime }

def key (row : BrokerActivity) : Option (Nat × String × String × String) := row.entry.key

end BrokerActivity

/-- The entry under which an activity is stored. -/
def entryOf (mode : String) (tradingAccountId : Nat) (activity : AlpacaAccountActivity) : ActivityEntry :=
  { tradingAccountId := some tradingAccountId
    broker := "alpaca"
    mode
    activityId := activity.id
    activityType := (activity.activityType.or activity.type).getD "UNKNOWN"
    transactionTime := parseNullableDate activity.transactionTime }

/-- The stored activities under the primary key and the unique index of the database. -/
structure ActivityTable where
  rows : List BrokerActivity
  identified : (rows.map BrokerActivity.id).Nodup
  unique : Unique BrokerActivity.key rows

variable {toUpperCase : String → String} {found : ActivityLookups} {activity : AlpacaAccountActivity} {mode : String}
  {tradingAccountId : Nat} {now : ℤ} {rows : List BrokerActivity} {row existing : BrokerActivity}
  {trackedPositionId : Option Nat}

theorem isRecord_iff : isRecord activity mode tradingAccountId row = true ↔
    row.key = (entryOf mode tradingAccountId activity).key := by
  simp only [isRecord, Bool.and_eq_true, beq_iff_eq, BrokerActivity.key, ActivityEntry.key, BrokerActivity.entry, entryOf,
    Option.map_some]
  constructor
  · rintro ⟨⟨⟨account, broker⟩, mode⟩, id⟩
    rw [account, broker, mode, id, Option.map_some]
  · intro same
    obtain ⟨account, known, fields⟩ := Option.map_eq_some_iff.mp same
    simp only [Prod.mk.injEq] at fields
    obtain ⟨rfl, broker, mode, id⟩ := fields
    exact ⟨⟨⟨known, broker⟩, mode⟩, id⟩

@[simp] theorem entry_activityData (existing : Option BrokerActivity) (id : Nat) :
    (activityData found activity mode tradingAccountId now existing id).entry = entryOf mode tradingAccountId activity := rfl

@[simp] theorem id_activityData (existing : Option BrokerActivity) (id : Nat) :
    (activityData found activity mode tradingAccountId now existing id).id = id := rfl

/-- A full fill writes nothing but the position of a stored activity. -/
theorem map_terminalizeImportedFullFill {Value : Type} {field : BrokerActivity → Value}
    (untouched : ∀ row trackedPositionId source linkedAt, field { row with
      trackedPositionId := trackedPositionId
      trackedPositionLinkSource := source
      trackedPositionLinkedAt := linkedAt } = field row) :
    (terminalizeImportedFullFill toUpperCase found activity tradingAccountId now trackedPositionId rows).map field =
      rows.map field := by
  unfold terminalizeImportedFullFill
  split
  · split
    · exact map_updateWhere fun row _ => untouched row _ _ _
    · rfl
  · rfl

/-- The record is appended, or takes the place of the one that there is. -/
def writeRecord (found : ActivityLookups) (activity : AlpacaAccountActivity) (mode : String) (tradingAccountId : Nat)
    (now : ℤ) (rows : List BrokerActivity) : List BrokerActivity :=
  let existing := rows.find? (isRecord activity mode tradingAccountId)
  let data := activityData found activity mode tradingAccountId now existing
  match existing with
  | some existing => updateWhere (fun row => row.id == existing.id) (fun _ => data existing.id) rows
  | none => rows ++ [data (nextId (rows.map BrokerActivity.id))]

theorem map_upsertBrokerActivity {Value : Type} {field : BrokerActivity → Value}
    (untouched : ∀ row trackedPositionId source linkedAt, field { row with
      trackedPositionId := trackedPositionId
      trackedPositionLinkSource := source
      trackedPositionLinkedAt := linkedAt } = field row) :
    (upsertBrokerActivity toUpperCase found activity mode tradingAccountId now rows).1.map field =
      (writeRecord found activity mode tradingAccountId now rows).map field := by
  unfold upsertBrokerActivity writeRecord
  dsimp only
  split
  · exact map_terminalizeImportedFullFill untouched
  · exact map_terminalizeImportedFullFill untouched

theorem absent_of_find?_none (absent : rows.find? (isRecord activity mode tradingAccountId) = none) :
    ∀ row ∈ rows, row.key ≠ (entryOf mode tradingAccountId activity).key := by
  intro row member same
  exact List.find?_eq_none.mp absent row member (isRecord_iff.mpr same)

section

variable (table : ActivityTable)

theorem ActivityTable.id_eq_iff
    (found : table.rows.find? (isRecord activity mode tradingAccountId) = some existing) (member : row ∈ table.rows) :
    row.id = existing.id ↔ row.key = (entryOf mode tradingAccountId activity).key := by
  have stored := List.mem_of_find?_eq_some found
  have keyed := isRecord_iff.mp (List.find?_some found)
  constructor
  · intro same
    rw [List.inj_on_of_nodup_map table.identified member stored same, keyed]
  · intro same
    rw [table.unique.eq_of_key member stored same keyed]

theorem ActivityTable.identified_writeRecord :
    ((writeRecord found activity mode tradingAccountId now table.rows).map BrokerActivity.id).Nodup := by
  unfold writeRecord
  dsimp only
  split
  next existing _ =>
    rw [map_updateWhere fun row guarded => ?_]
    · exact table.identified
    · rw [id_activityData, eq_of_beq guarded]
  next => exact nodup_append_new table.identified (nextId_not_mem _)

theorem ActivityTable.unique_writeRecord :
    Unique BrokerActivity.key (writeRecord found activity mode tradingAccountId now table.rows) := by
  unfold writeRecord
  dsimp only
  split
  next existing present =>
    refine table.unique.updateWhere_of_mem fun row member guarded => .inl ?_
    exact ((table.id_eq_iff present member).mp (eq_of_beq guarded)).symm
  next absent =>
    refine table.unique.append fun value keyed => ?_
    refine indexed_eq_false fun row member => ?_
    rw [← keyed]
    exact absent_of_find?_none absent row member

end

/-- An upsert in a table that keeps its constraints. -/
def ActivityTable.upsert (toUpperCase : String → String) (found : ActivityLookups) (activity : AlpacaAccountActivity)
    (mode : String) (tradingAccountId : Nat) (now : ℤ) (table : ActivityTable) : ActivityTable where
  rows := (upsertBrokerActivity toUpperCase found activity mode tradingAccountId now table.rows).1
  identified := by
    rw [map_upsertBrokerActivity fun _ _ _ _ => rfl]
    exact table.identified_writeRecord
  unique := Unique.of_map BrokerActivity.entry ActivityEntry.key table.unique_writeRecord
    (map_upsertBrokerActivity fun _ _ _ _ => rfl)

def ActivityTable.entries (table : ActivityTable) : List ActivityEntry := table.rows.map BrokerActivity.entry

/-- An upsert leaves the entry of the activity as its record, and the other records as they were. -/
theorem ActivityTable.mem_entries_upsert (table : ActivityTable) {entry : ActivityEntry} :
    entry ∈ (table.upsert toUpperCase found activity mode tradingAccountId now).entries ↔
      entry = entryOf mode tradingAccountId activity ∨
        entry ∈ table.entries ∧ entry.key ≠ (entryOf mode tradingAccountId activity).key := by
  have written : (table.upsert toUpperCase found activity mode tradingAccountId now).entries =
      (writeRecord found activity mode tradingAccountId now table.rows).map BrokerActivity.entry := by
    apply map_upsertBrokerActivity
    exact fun _ _ _ _ => rfl
  rw [written, ActivityTable.entries, writeRecord]
  split
  next existing present =>
    have stored := List.mem_of_find?_eq_some present
    constructor
    · intro member
      obtain ⟨row, listed, rfl⟩ := List.mem_map.mp member
      obtain ⟨old, kept, rfl⟩ := mem_updateWhere.mp listed
      split_ifs with same
      · exact .inl rfl
      · right
        refine ⟨List.mem_map_of_mem kept, fun keyed => same ?_⟩
        exact beq_iff_eq.mpr ((table.id_eq_iff present kept).mpr keyed)
    · rintro (rfl | ⟨member, other⟩)
      · refine List.mem_map.mpr ⟨_, mem_updateWhere.mpr ⟨existing, stored, rfl⟩, ?_⟩
        rw [if_pos (beq_iff_eq.mpr rfl), entry_activityData]
      · obtain ⟨row, kept, rfl⟩ := List.mem_map.mp member
        refine List.mem_map.mpr ⟨row, mem_updateWhere.mpr ⟨row, kept, ?_⟩, rfl⟩
        rw [if_neg]
        intro same
        exact other ((table.id_eq_iff present kept).mp (eq_of_beq same))
  next absent =>
    rw [List.map_append, List.mem_append, List.map_singleton, List.mem_singleton, entry_activityData, or_comm]
    refine or_congr_right ⟨fun member => ⟨member, ?_⟩, And.left⟩
    obtain ⟨row, kept, rfl⟩ := List.mem_map.mp member
    exact absent_of_find?_none absent row kept

end Ledger

section Import

structure SyncBrokerActivitiesInput where
  activityType : Option String
  after : Option ℤ
  (pageSize maxPages : Option Nat)

structure ActivityRequest where
  activityType : String
  after : ℤ
  direction : String
  pageSize : Nat
  pageToken : Option String
  tradingAccountId : Nat

/-- The event of a run that created a record. -/
structure SyncedEvent where
  mode : String
  tradingAccountId : Nat
  activityType : String
  after : ℤ
  (seen created updated : Nat)

structure SyncResult where
  mode : String
  tradingAccountId : Nat
  activityType : String
  after : ℤ
  cursorEnd : Option String
  (pagesProcessed seen created updated : Nat)

/-- One call of the import, with what its requests and statements meet. -/
structure ActivitySync where
  tradingAccountId : Nat
  input : SyncBrokerActivitiesInput
  /-- Three days before the call, by the calendar of the server. -/
  threeDaysAgo : ℤ
  now : ℤ
  lookups : Nat → AlpacaAccountActivity → Except String ActivityLookups
  request : Nat → ActivityRequest → Except String (List AlpacaAccountActivity)
  createSystemEvent : SyncedEvent → Except String Unit

structure ImportProgress where
  table : ActivityTable
  (created updated seen pagesProcessed : Nat)
  cursorEnd : Option String

/-- An error leaves what is stored by then. -/
abbrev ImportOutcome := Except (String × ImportProgress) ImportProgress

/-- What is stored at the end, also when an error ended the run. -/
def ImportOutcome.table : ImportOutcome → ActivityTable
  | .ok progress => progress.table
  | .error (_, progress) => progress.table

def latestTransactionTime (activityType : String) (tradingAccountId : Nat) (table : ActivityTable) : Option ℤ :=
  ((table.rows.filter fun row => row.activityType == activityType && row.tradingAccountId == some tradingAccountId).filterMap
    BrokerActivity.transactionTime).max?

def getDefaultAfterDate (activityType : String) (tradingAccountId : Nat) (defaultInitialAfterDate : ℤ)
    (table : ActivityTable) : ℤ :=
  match latestTransactionTime activityType tradingAccountId table with
  | none => defaultInitialAfterDate
  | some transactionTime => subtractMinutes transactionTime 5

/-- `environment.toLowerCase()` -/
def modeOf : Environment → String
  | .paper => "paper"
  | .live => "live"

section Run

variable (toUpperCase : String → String) (environment : Nat → Option Environment) (call : ActivitySync)

namespace ActivitySync

def activityType : String := call.input.activityType.getD "FILL"

def pageSize : Nat := call.input.pageSize.getD 100

def maxPages : Nat := call.input.maxPages.getD 5

def after (table : ActivityTable) : ℤ :=
  call.input.after.getD (getDefaultAfterDate call.activityType call.tradingAccountId call.threeDaysAgo table)

end ActivitySync

def importActivity (mode : String) (progress : ImportProgress) (activity : AlpacaAccountActivity) : ImportOutcome :=
  let progress := { progress with seen := progress.seen + 1, cursorEnd := some activity.id }
  match call.lookups progress.seen activity with
  | .error message => .error (message, progress)
  | .ok found =>
    let table := progress.table.upsert toUpperCase found activity mode call.tradingAccountId call.now
    match (upsertBrokerActivity toUpperCase found activity mode call.tradingAccountId call.now progress.table.rows).2 with
    | .created => .ok { progress with table, created := progress.created + 1 }
    | .updated => .ok { progress with table, updated := progress.updated + 1 }

def activityRequest (after : ℤ) (pageToken : Option String) : ActivityRequest :=
  { activityType := call.activityType
    after
    direction := "asc"
    pageSize := call.pageSize
    pageToken
    tradingAccountId := call.tradingAccountId }

def importPages (mode : String) (after : ℤ) (remaining : Nat) (pageToken : Option String) (progress : ImportProgress) :
    ImportOutcome :=
  match remaining with
  | 0 => .ok progress
  | remaining + 1 =>
    match call.request progress.pagesProcessed (activityRequest call after pageToken) with
    | .error message => .error (message, progress)
    | .ok activities => do
      let progress := { progress with pagesProcessed := progress.pagesProcessed + 1 }
      if activities.length = 0 then return progress
      let progress ← activities.foldlM (importActivity toUpperCase call mode) progress
      if activities.length < call.pageSize then return progress
      match present (activities.getLast?.map AlpacaAccountActivity.id) with
      | none => return progress
      | some pageToken => importPages mode after remaining (some pageToken) progress

def syncBrokerActivitiesForAccountUnlocked (table : ActivityTable) : ActivityTable × Except String SyncResult :=
  let after := call.after table
  match environment call.tradingAccountId with
  | none => (table, .error "No TradingAccount found")
  | some account =>
    let mode := modeOf account
    match importPages toUpperCase call mode after call.maxPages none ⟨table, 0, 0, 0, 0, none⟩ with
    | .error (message, progress) => (progress.table, .error message)
    | .ok ⟨table, created, updated, seen, pagesProcessed, cursorEnd⟩ =>
      let recorded := if 0 < created then
          call.createSystemEvent ⟨mode, call.tradingAccountId, call.activityType, after, seen, created, updated⟩
        else .ok ()
      (table, recorded.map fun _ =>
        ⟨mode, call.tradingAccountId, call.activityType, after, cursorEnd, pagesProcessed, seen, created, updated⟩)

end Run

end Import

end AiTrader.Alpaca
