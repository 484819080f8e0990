import AiTrader.Library.Paging
import AiTrader.Entry.ExposureClaim

/-! # The complete inventory of open BUY orders

Release decisions rest on the absence of open BUY orders, so the inventory is read page by page until a page is short. -/

namespace AiTrader.Alpaca

open Entry

/-- A member of a page, a field absent when missing or `null`; `body` is the rest of the order. -/
structure OpenOrderRecord where
  (id symbol side status : Option String)
  body : String
deriving DecidableEq

/-- The id, empty when it is absent. -/
def OpenOrderRecord.orderId (order : OpenOrderRecord) : String := order.id.getD ""

inductive PageResponse where
  | malformed
  | orders (page : List OpenOrderRecord)

structure OpenOrdersQuery where
  (status direction : String)
  limit : Nat
  side : String
  (symbols beforeOrderId : Option String)

/-- The queries sent, in order, and what the call returned or threw. -/
structure PagedRead where
  queries : List OpenOrdersQuery
  result : Except String (List OpenOrderRecord)

/-- The orders collected so far, and their ids. -/
structure Inventory where
  orders : List OpenOrderRecord
  seenIds : List String

def completeOpenOrderPageSize : Nat := 500

def completeOpenOrderMaxPages : Nat := 20

/-- A text that is neither absent nor empty. -/
def present (text : Option String) : Option String := text.filter fun text => text != ""

section Reading

variable (toUpperCase toLowerCase : String → String) (request : Nat → OpenOrdersQuery → Except String PageResponse)
  (canonicalSymbol : Option String)

/-- `symbol.trim().toUpperCase()` -/
def canonicalOf (symbol : String) : String := toUpperCase (String.ofList (trim symbol))

def addOrder (inventory : Inventory) (order : OpenOrderRecord) : Except String Inventory :=
  match present order.id, present order.symbol, present order.side, present order.status with
  | some id, some symbol, some side, some _ =>
    if inventory.seenIds.contains id then .error "Alpaca open-order pagination repeated an order identity."
    else if ((present canonicalSymbol).any fun canonical => canonicalOf toUpperCase symbol != canonical) ||
        toLowerCase side != "buy" then
      .error "Alpaca open-order filtering returned a conflicting order identity."
    else .ok ⟨inventory.orders ++ [order], inventory.seenIds ++ [id]⟩
  | _, _, _, _ => .error "Alpaca returned an incomplete open-order record."

/-- The cursor of the next page; none after a short page. -/
def nextCursor (page : List OpenOrderRecord) (beforeOrderId : Option String) : Except String (Option String) :=
  if page.length < completeOpenOrderPageSize then .ok none
  else
    match page.getLast?.bind fun order => present order.id with
    | none => .error "Alpaca open-order pagination did not advance."
    | some cursor =>
      if beforeOrderId = some cursor then .error "Alpaca open-order pagination did not advance."
      else .ok (some cursor)

def openOrdersQuery (beforeOrderId : Option String) : OpenOrdersQuery :=
  { status := "open"
    direction := "desc"
    limit := completeOpenOrderPageSize
    side := "buy"
    symbols := present canonicalSymbol
    beforeOrderId }

/-- One page: the inventory with its orders, and the cursor of the next page. -/
def readPage (pageNumber : Nat) (beforeOrderId : Option String) (inventory : Inventory) :
    Except String (Inventory × Option String) := do
  match ← request pageNumber (openOrdersQuery canonicalSymbol beforeOrderId) with
  | .malformed => throw "Alpaca returned malformed open-order evidence."
  | .orders page =>
    let inventory ← page.foldlM (addOrder toUpperCase toLowerCase canonicalSymbol) inventory
    let cursor ← nextCursor page beforeOrderId
    return (inventory, cursor)

def readPages (remaining pageNumber : Nat) (beforeOrderId : Option String) (inventory : Inventory) : PagedRead :=
  match remaining with
  | 0 => ⟨[], .error "Alpaca open-order evidence exceeded the bounded pagination limit."⟩
  | remaining + 1 =>
    let query := openOrdersQuery canonicalSymbol beforeOrderId
    match readPage toUpperCase toLowerCase request canonicalSymbol pageNumber beforeOrderId inventory with
    | .error message => ⟨[query], .error message⟩
    | .ok (inventory, none) => ⟨[query], .ok inventory.orders⟩
    | .ok (inventory, some cursor) =>
      let rest := readPages remaining (pageNumber + 1) (some cursor) inventory
      ⟨query :: rest.queries, rest.result⟩

def getCompleteOpenAlpacaBuyOrders : PagedRead :=
  readPages toUpperCase toLowerCase request canonicalSymbol completeOpenOrderMaxPages 0 none ⟨[], []⟩

end Reading

section Paging

/-- A BUY, of the symbol when there is one. -/
def IsBuyOf (toUpperCase toLowerCase : String → String) (canonicalSymbol : Option String) (order : OpenOrderRecord) : Prop :=
  (present order.side).map toLowerCase = some "buy" ∧
    ∀ canonical, present canonicalSymbol = some canonical →
      (present order.symbol).map (canonicalOf toUpperCase) = some canonical

variable {toUpperCase toLowerCase : String → String} {request : Nat → OpenOrdersQuery → Except String PageResponse}
  {canonicalSymbol : Option String} {book listed : Nat → List OpenOrderRecord} {submitted : String → Nat}

/-- Of the orders open at a request the broker lists at least the BUYs asked for, newest first, and serves the first ones
submitted before the cursor. -/
structure DocumentedPaging (toUpperCase toLowerCase : String → String) (canonicalSymbol : Option String)
    (book listed : Nat → List OpenOrderRecord) (submitted : String → Nat)
    (request : Nat → OpenOrdersQuery → Except String PageResponse) : Prop where
  isOpen : ∀ time, listed time ⊆ book time
  complete : ∀ time, ∀ order ∈ book time, IsBuyOf toUpperCase toLowerCase canonicalSymbol order → order ∈ listed time
  descending : ∀ time, (listed time).Pairwise fun newer older => submitted older.orderId < submitted newer.orderId
  page : ∀ time query page, request time query = .ok (.orders page) →
    page = ((listed time).filter fun order => query.beforeOrderId.all fun cursor =>
      decide (submitted order.orderId < submitted cursor)).take query.limit

/-- The order with an id is a BUY of the book. -/
def OpenBuyIn (toUpperCase toLowerCase : String → String) (canonicalSymbol : Option String)
    (book : List OpenOrderRecord) (id : String) : Prop :=
  ∃ order ∈ book, order.orderId = id ∧ IsBuyOf toUpperCase toLowerCase canonicalSymbol order

/-- The ids of the orders that were collected. -/
def Inventory.Sound (inventory : Inventory) : Prop :=
  inventory.seenIds = inventory.orders.map OpenOrderRecord.orderId ∧ inventory.seenIds.Nodup

variable {inventory after : Inventory} {order : OpenOrderRecord} {page orders : List OpenOrderRecord}
  {beforeOrderId cursor : Option String} {pageNumber remaining : Nat}

theorem present_eq_some {text : Option String} {value : String} (given : present text = some value) :
    text = some value :=
  (Option.filter_eq_some_iff.mp given).1

theorem addOrder_ok (added : addOrder toUpperCase toLowerCase canonicalSymbol inventory order = .ok after) :
    ∃ id, order.id = some id ∧ id ∉ inventory.seenIds ∧ IsBuyOf toUpperCase toLowerCase canonicalSymbol order ∧
      after = ⟨inventory.orders ++ [order], inventory.seenIds ++ [id]⟩ := by
  unfold addOrder at added
  split at added
  next id symbol side status identified named sided _ =>
    split_ifs at added with repeated conflicting
    rw [Bool.or_eq_true, not_or, bne_iff_ne, not_not] at conflicting
    refine ⟨id, present_eq_some identified, by simpa using repeated, ⟨?_, ?_⟩, (Except.ok.inj added).symm⟩
    · rw [sided, Option.map_some, conflicting.2]
    · intro canonical wanted
      have same := conflicting.1
      rw [wanted, Option.any_some, bne_iff_ne, not_not] at same
      rw [named, Option.map_some, same]
  next => cases added

theorem foldlM_addOrder_ok (sound : inventory.Sound)
    (added : page.foldlM (addOrder toUpperCase toLowerCase canonicalSymbol) inventory = .ok after) :
    after.orders = inventory.orders ++ page ∧ after.Sound ∧
      ∀ order ∈ page, IsBuyOf toUpperCase toLowerCase canonicalSymbol order := by
  induction page generalizing inventory with
  | nil =>
    rw [← Except.ok.inj added, List.append_nil]
    exact ⟨rfl, sound, nofun⟩
  | cons order rest ih =>
    rw [List.foldlM_cons] at added
    cases first : addOrder toUpperCase toLowerCase canonicalSymbol inventory order with
    | error message =>
      rw [first] at added
      cases added
    | ok next =>
      rw [first] at added
      obtain ⟨id, identified, fresh, buy, rfl⟩ := addOrder_ok first
      have kept : Inventory.Sound ⟨inventory.orders ++ [order], inventory.seenIds ++ [id]⟩ := by
        constructor
        · simp [sound.1, OpenOrderRecord.orderId, identified]
        · change (inventory.seenIds ++ [id]).Nodup
          rw [← List.concat_eq_append]
          exact sound.2.concat fresh
      obtain ⟨collected, sound_after, buys⟩ := ih kept added
      refine ⟨by rw [collected, List.append_assoc, List.singleton_append], sound_after, ?_⟩
      exact List.forall_mem_cons.mpr ⟨buy, buys⟩

theorem nextCursor_ok (advanced : nextCursor page beforeOrderId = .ok cursor) :
    cursor = none ∧ page.length < completeOpenOrderPageSize ∨
    completeOpenOrderPageSize ≤ page.length ∧ ∃ last id, page.getLast? = some last ∧ last.orderId = id ∧ cursor = some id := by
  unfold nextCursor at advanced
  split_ifs at advanced with short
  · exact .inl ⟨(Except.ok.inj advanced).symm, short⟩
  · right
    refine ⟨Nat.le_of_not_lt short, ?_⟩
    split at advanced
    · cases advanced
    next id found =>
      split_ifs at advanced
      obtain ⟨last, latest, identified⟩ := Option.bind_eq_some_iff.mp found
      refine ⟨last, id, latest, ?_, (Except.ok.inj advanced).symm⟩
      rw [OpenOrderRecord.orderId, present_eq_some identified, Option.getD_some]

theorem readPage_ok
    (read : readPage toUpperCase toLowerCase request canonicalSymbol pageNumber beforeOrderId inventory = .ok (after, cursor)) :
    ∃ page, request pageNumber (openOrdersQuery canonicalSymbol beforeOrderId) = .ok (.orders page) ∧
      page.foldlM (addOrder toUpperCase toLowerCase canonicalSymbol) inventory = .ok after ∧
      nextCursor page beforeOrderId = .ok cursor := by
  unfold readPage at read
  cases answered : request pageNumber (openOrdersQuery canonicalSymbol beforeOrderId) with
  | error message =>
    rw [answered] at read
    cases read
  | ok response =>
    rw [answered] at read
    cases response with
    | malformed => cases read
    | orders page =>
      cases added : page.foldlM (addOrder toUpperCase toLowerCase canonicalSymbol) inventory with
      | error message =>
        change (page.foldlM (addOrder toUpperCase toLowerCase canonicalSymbol) inventory >>= _) = _ at read
        rw [added] at read
        cases read
      | ok next =>
        change (page.foldlM (addOrder toUpperCase toLowerCase canonicalSymbol) inventory >>= _) = _ at read
        rw [added] at read
        cases advanced : nextCursor page beforeOrderId with
        | error message =>
          rw [advanced] at read
          cases read
        | ok following =>
          rw [advanced] at read
          cases read
          exact ⟨page, rfl, added, advanced⟩

/-- An order open at a request and older than the cursor is on the page, or older than the next cursor. -/
theorem page_covers (paging : DocumentedPaging toUpperCase toLowerCase canonicalSymbol book listed submitted request)
    (answered : request pageNumber (openOrdersQuery canonicalSymbol beforeOrderId) = .ok (.orders page))
    (advanced : nextCursor page beforeOrderId = .ok cursor) {id : String}
    (isOpen : OpenBuyIn toUpperCase toLowerCase canonicalSymbol (book pageNumber) id)
    (older : ∀ before, beforeOrderId = some before → submitted id < submitted before) :
    (∃ order ∈ page, order.orderId = id) ∨ ∃ next, cursor = some next ∧ submitted id < submitted next := by
  have served := paging.page pageNumber _ page answered
  subst served
  obtain ⟨order, booked, rfl, buy⟩ := isOpen
  have beyond : order ∈ (listed pageNumber).filter fun order => beforeOrderId.all fun cursor =>
      decide (submitted order.orderId < submitted cursor) := by
    refine List.mem_filter.mpr ⟨paging.complete pageNumber order booked buy, ?_⟩
    rw [Option.all_eq_true]
    intro before given
    exact decide_eq_true (older before given)
  have descending := (paging.descending pageNumber).filter fun order => beforeOrderId.all fun cursor =>
    decide (submitted order.orderId < submitted cursor)
  obtain taken | ⟨long, below⟩ := Library.mem_take_or_above descending beyond completeOpenOrderPageSize
  · exact .inl ⟨order, taken, rfl⟩
  · right
    obtain ⟨_, short⟩ | ⟨_, last, next, latest, rfl, rfl⟩ := nextCursor_ok advanced
    · exact absurd short (Nat.not_lt.mpr (Nat.le_of_eq long.symm))
    · exact ⟨_, rfl, below last (List.mem_of_getLast? latest)⟩

theorem length_queries_le (inventory : Inventory) :
    (readPages toUpperCase toLowerCase request canonicalSymbol remaining pageNumber beforeOrderId inventory).queries.length ≤
      remaining := by
  induction remaining generalizing pageNumber beforeOrderId inventory with
  | zero => exact Nat.le_refl 0
  | succ remaining ih =>
    unfold readPages
    split
    · simp
    · simp
    next following cursor _ =>
      rw [List.length_cons]
      exact Nat.succ_le_succ (ih following)

/-- A list returned after some requests has what was collected before and every older BUY that is open at all of them,
nothing twice and nothing else. -/
theorem readPages_complete (paging : DocumentedPaging toUpperCase toLowerCase canonicalSymbol book listed submitted request)
    (sound : inventory.Sound) {read : PagedRead}
    (run : readPages toUpperCase toLowerCase request canonicalSymbol remaining pageNumber beforeOrderId inventory = read)
    (returned : read.result = .ok orders) :
    (orders.map OpenOrderRecord.orderId).Nodup ∧ inventory.orders ⊆ orders ∧
    (∀ order ∈ orders, order ∈ inventory.orders ∨ IsBuyOf toUpperCase toLowerCase canonicalSymbol order ∧
      ∃ time, pageNumber ≤ time ∧ time < pageNumber + read.queries.length ∧ order ∈ book time) ∧
    ∀ id, (∀ time, pageNumber ≤ time → time < pageNumber + read.queries.length →
        OpenBuyIn toUpperCase toLowerCase canonicalSymbol (book time) id) →
      (∀ before, beforeOrderId = some before → submitted id < submitted before) → ∃ order ∈ orders, order.orderId = id := by
  induction remaining generalizing pageNumber beforeOrderId inventory read with
  | zero =>
    subst run
    cases returned
  | succ remaining ih =>
    unfold readPages at run
    cases outcome : readPage toUpperCase toLowerCase request canonicalSymbol pageNumber beforeOrderId inventory with
    | error message =>
      rw [outcome] at run
      subst run
      cases returned
    | ok following =>
      obtain ⟨after, cursor⟩ := following
      rw [outcome] at run
      obtain ⟨page, answered, added, advanced⟩ := readPage_ok outcome
      obtain ⟨collected, sound_after, buys⟩ := foldlM_addOrder_ok sound added
      have from_book : ∀ order ∈ page, order ∈ book pageNumber := by
        intro order member
        rw [paging.page pageNumber _ page answered] at member
        exact paging.isOpen pageNumber (List.mem_filter.mp (List.mem_of_mem_take member)).1
      cases cursor with
      | none =>
        subst run
        cases returned
        refine ⟨sound_after.1 ▸ sound_after.2, by rw [collected]; exact List.subset_append_left _ _, ?_, ?_⟩
        · intro order member
          rw [collected] at member
          refine (List.mem_append.mp member).imp_right fun on_page => ?_
          exact ⟨buys order on_page, pageNumber, Nat.le_refl _, Nat.lt_succ_self _, from_book order on_page⟩
        · intro id isOpen older
          have now := isOpen pageNumber (Nat.le_refl _) (Nat.lt_succ_self _)
          obtain ⟨order, on_page, identified⟩ | ⟨next, impossible, _⟩ := page_covers paging answered advanced now older
          · exact ⟨order, by rw [collected]; exact List.mem_append_right _ on_page, identified⟩
          · cases impossible
      | some next =>
        subst run
        dsimp only at returned ⊢
        obtain ⟨distinct, kept, sources, complete⟩ := ih sound_after rfl returned
        rw [List.length_cons]
        refine ⟨distinct, ?_, ?_, ?_⟩
        · rw [collected] at kept
          exact List.Subset.trans (List.subset_append_left _ _) kept
        · intro order member
          obtain known | ⟨buy, time, from_time, before, booked⟩ := sources order member
          · rw [collected] at known
            refine (List.mem_append.mp known).imp_right fun on_page => ?_
            exact ⟨buys order on_page, pageNumber, Nat.le_refl _, by omega, from_book order on_page⟩
          · exact .inr ⟨buy, time, by omega, by omega, booked⟩
        · intro id isOpen older
          have now := isOpen pageNumber (Nat.le_refl _) (by omega)
          obtain ⟨order, on_page, identified⟩ | ⟨_, same, below⟩ := page_covers paging answered advanced now older
          · refine ⟨order, kept ?_, identified⟩
            rw [collected]
            exact List.mem_append_right _ on_page
          · cases same
            refine complete id (fun time from_time before => isOpen time (by omega) (by omega)) ?_
            rintro _ ⟨⟩
            exact below

/-- The inventory takes at most 20 requests; when returned it has every BUY that is open throughout, once, and only BUYs that
were open at a request. -/
theorem getCompleteOpenAlpacaBuyOrders_complete
    (paging : DocumentedPaging toUpperCase toLowerCase canonicalSymbol book listed submitted request) :
    let read := getCompleteOpenAlpacaBuyOrders toUpperCase toLowerCase request canonicalSymbol
    read.queries.length ≤ completeOpenOrderMaxPages ∧
    ∀ orders, read.result = .ok orders →
      (orders.map OpenOrderRecord.orderId).Nodup ∧
      (∀ order ∈ orders, IsBuyOf toUpperCase toLowerCase canonicalSymbol order ∧
        ∃ time < read.queries.length, order ∈ book time) ∧
      (∀ id, (∀ time < read.queries.length, OpenBuyIn toUpperCase toLowerCase canonicalSymbol (book time) id) →
        ∃ order ∈ orders, order.orderId = id) ∧
      ∀ snapshot, (∀ time, book time = snapshot) →
        ∀ order, order ∈ orders ↔ order ∈ snapshot ∧ IsBuyOf toUpperCase toLowerCase canonicalSymbol order := by
  refine ⟨length_queries_le _, ?_⟩
  intro orders returned
  have empty : Inventory.Sound ⟨[], []⟩ := ⟨rfl, List.nodup_nil⟩
  obtain ⟨distinct, _, sources, complete⟩ := readPages_complete paging empty rfl returned
  simp only [Nat.zero_add, List.not_mem_nil, false_or] at sources complete
  refine ⟨distinct, ?_, ?_, ?_⟩
  · intro order member
    obtain ⟨buy, time, _, before, booked⟩ := sources order member
    exact ⟨buy, time, before, booked⟩
  · intro id isOpen
    exact complete id (fun time _ before => isOpen time before) nofun
  · intro snapshot unchanged order
    constructor
    · intro member
      obtain ⟨buy, time, _, _, booked⟩ := sources order member
      exact ⟨unchanged time ▸ booked, buy⟩
    · rintro ⟨booked, buy⟩
      obtain ⟨found, member, same⟩ := complete order.orderId
        (fun time _ _ => ⟨order, unchanged time ▸ booked, rfl, buy⟩) nofun
      obtain ⟨found_buy, time, _, _, found_booked⟩ := sources found member
      have booked_then : order ∈ book time := by rwa [unchanged time]
      -- The list descends strictly, so an id is listed once.
      have listed_once : ((listed time).map OpenOrderRecord.orderId).Nodup := by
        refine List.pairwise_map.mpr ((paging.descending time).imp ?_)
        intro newer older below same
        rw [same] at below
        exact Nat.lt_irrefl _ below
      have one : found = order := List.inj_on_of_nodup_map listed_once
        (paging.complete time found found_booked found_buy) (paging.complete time order booked_then buy) same
      exact one ▸ member

/-- The BUY with this number, the higher the older. -/
def numbered (number : Nat) : OpenOrderRecord :=
  ⟨some (String.ofList (List.replicate (number + 1) 'b')), some "SPY", some "buy", some "new", ""⟩

/-- The BUYs before a number, as collected. -/
def collected (number : Nat) : Inventory :=
  ⟨(List.range number).map numbered, (List.range number).map fun number => (numbered number).orderId⟩

/-- The broker's answer from a book with 501 BUYs. -/
def twoPages (_ : Nat) (query : OpenOrdersQuery) : Except String PageResponse :=
  .ok (.orders (((collected 501).orders.filter fun order => query.beforeOrderId.all fun cursor =>
    decide (501 - order.orderId.length < 501 - cursor.length)).take query.limit))

theorem length_numbered (number : Nat) : (numbered number).orderId.length = number + 1 := by
  simp [numbered, OpenOrderRecord.orderId]

theorem present_numbered (number : Nat) : present (numbered number).id = some (numbered number).orderId := by
  simp [present, numbered, OpenOrderRecord.orderId, ← String.length_eq_zero_iff]

theorem addOrder_numbered (number : Nat) :
    addOrder id id (some "SPY") (collected number) (numbered number) = .ok (collected (number + 1)) := by
  have fresh : (collected number).seenIds.contains (numbered number).orderId = false := by
    rw [← Bool.not_eq_true, List.contains_iff_mem, collected, List.mem_map]
    rintro ⟨other, before, same⟩
    have equal := congrArg String.length same
    rw [length_numbered, length_numbered] at equal
    exact absurd (List.mem_range.mp before) (by omega)
  unfold addOrder
  rw [present_numbered]
  change (if (collected number).seenIds.contains _ then _ else if _ then _ else _) = _
  rw [fresh]
  simp [collected, List.range_succ]
  rfl

theorem foldlM_numbered (start count : Nat) :
    ((List.range' start count).map numbered).foldlM (addOrder id id (some "SPY")) (collected start) =
      .ok (collected (start + count)) := by
  induction count generalizing start with
  | zero => rfl
  | succ count ih =>
    rw [List.range'_succ, List.map_cons, List.foldlM_cons, addOrder_numbered]
    exact (ih (start + 1)).trans (by rw [Nat.add_right_comm, Nat.add_assoc])

theorem readPage_numbered (start count : Nat) (before : Option Nat)
    (served : ((List.range 501).filter fun number => before.all fun last =>
      decide (501 - (number + 1) < 501 - (last + 1))).take 500 = List.range' start count)
    (advanced : nextCursor ((List.range' start count).map numbered) (before.map (numbered · |>.orderId)) = .ok cursor) :
    readPage id id twoPages (some "SPY") pageNumber (before.map (numbered · |>.orderId)) (collected start) =
      .ok (collected (start + count), cursor) := by
  unfold readPage twoPages openOrdersQuery
  simp only [collected, List.filter_map, Function.comp_def, length_numbered, Option.all_map, completeOpenOrderPageSize,
    ← List.map_take, served]
  change (((List.range' start count).map numbered).foldlM (addOrder id id (some "SPY")) (collected start) >>= _) = _
  rw [foldlM_numbered]
  change (nextCursor _ _ >>= _) = _
  rw [advanced]
  rfl

theorem result_of_pages {next : String}
    (first : readPage toUpperCase toLowerCase request canonicalSymbol 0 none ⟨[], []⟩ = .ok (inventory, some next))
    (second : readPage toUpperCase toLowerCase request canonicalSymbol 1 (some next) inventory = .ok (after, none)) :
    (getCompleteOpenAlpacaBuyOrders toUpperCase toLowerCase request canonicalSymbol).result = .ok after.orders := by
  unfold getCompleteOpenAlpacaBuyOrders completeOpenOrderMaxPages readPages
  rw [first]
  dsimp only
  unfold readPages
  rw [second]

/-- A SELL and 501 BUYs, served on a full page and a second one. -/
theorem getCompleteOpenAlpacaBuyOrders_complete_sample :
    let book := ⟨some "c", some "SPY", some "sell", some "new", ""⟩ :: (collected 501).orders
    (getCompleteOpenAlpacaBuyOrders id id twoPages (some "SPY")).result = .ok (collected 501).orders ∧
    ∀ order, order ∈ (collected 501).orders ↔ order ∈ book ∧ IsBuyOf id id (some "SPY") order := by
  intro book
  have first : readPage id id twoPages (some "SPY") 0 none ⟨[], []⟩ =
      .ok (collected 500, some (numbered 499).orderId) := by
    refine readPage_numbered 0 500 none (by decide +kernel) ?_
    simp [nextCursor, completeOpenOrderPageSize, List.getLast?_range', present_numbered]
  have second : readPage id id twoPages (some "SPY") 1 (some (numbered 499).orderId) (collected 500) =
      .ok (collected 501, none) := by
    refine readPage_numbered 500 1 (some 499) (by decide +kernel) ?_
    simp [nextCursor, completeOpenOrderPageSize]
  have returned := result_of_pages first second
  have paging : DocumentedPaging id id (some "SPY") (fun _ => book) (fun _ => (collected 501).orders)
      (fun id => 501 - id.length) twoPages := by
    refine ⟨fun _ => List.subset_cons_self _ _, fun _ order booked buys => ?_, fun _ => ?_, fun _ query page answered => ?_⟩
    · obtain rfl | listed := List.mem_cons.mp booked
      · exact absurd buys.1 (by decide)
      · exact listed
    · simp only [collected, List.pairwise_map, length_numbered]
      refine List.pairwise_lt_range.imp_of_mem fun _ last before => ?_
      have := List.mem_range.mp last
      omega
    · exact (PageResponse.orders.inj (Except.ok.inj answered)).symm
  exact ⟨returned, ((getCompleteOpenAlpacaBuyOrders_complete paging).2 _ returned).2.2.2 book fun _ => rfl⟩

end Paging

end AiTrader.Alpaca
