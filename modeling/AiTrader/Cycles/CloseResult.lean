import AiTrader.Cycles.TradeCycles

/-! # The result of a closed trade

A long position is bought by one fill and sold by several; position syncs between them write the remaining quantity over
the tracked one. -/

namespace AiTrader.Cycles

open Library Decimal

section Runs

structure TradeFill where
  activityId : String
  qty : JsDecimal
  price : ℚ

inductive TradeEvent where
  | closingFill (fill : TradeFill)
  | positionSync (now : Int) (avgEntryPrice : ℚ)

/-- The tracked position, and what the broker still holds of it. -/
structure OpenTrade where
  tracked : TrackedPosition
  remaining : JsDecimal

/-- The broker reports a position while something of it remains. -/
def brokerPosition (remaining : JsDecimal) (avgEntryPrice : ℚ) : Option BrokerPosition :=
  if remaining.coefficient = 0 then none else some ⟨remaining, avgEntryPrice⟩

def OpenTrade.step (trade : OpenTrade) : TradeEvent → OpenTrade
  | .closingFill fill => { trade with remaining := trade.remaining.minus fill.qty }
  | .positionSync now avgEntryPrice =>
    { trade with tracked := syncTrackedPosition now (brokerPosition trade.remaining avgEntryPrice) trade.tracked }

def OpenTrade.run (trade : OpenTrade) (events : List TradeEvent) : OpenTrade := events.foldl OpenTrade.step trade

def fillsOf (events : List TradeEvent) : List TradeFill :=
  events.filterMap fun event =>
    match event with
    | .closingFill fill => some fill
    | .positionSync _ _ => none

def soldQty (fills : List TradeFill) : ℚ := (fills.map fun fill => fill.qty.magnitude).sum

variable (rounding : Rounding)

/-- A position that one fill bought and that the closing fills sell exactly. -/
structure ClosedTrade where
  position : TrackedPosition
  entry : TradeFill
  events : List TradeEvent
  long : position.side.toLower ≠ "short"
  active : position.status = .open_
  tracked : position.qty = entry.qty
  positive : ∀ fill ∈ entry :: fillsOf events, fill.qty.negative = false ∧ 0 < number rounding fill.qty
  sold : soldQty (fillsOf events) = entry.qty.magnitude
  identified : ∀ fill ∈ entry :: fillsOf events, fill.activityId ≠ ""
  distinct : ((entry :: fillsOf events).map (·.activityId)).Nodup

namespace ClosedTrade

variable {rounding} (trade : ClosedTrade rounding)

/-- The position after the sync that no longer finds it at the broker. -/
def closed (now : Int) (avgEntryPrice : ℚ) : TrackedPosition :=
  (OpenTrade.run ⟨trade.position, trade.entry.qty⟩ (trade.events ++ [.positionSync now avgEntryPrice])).tracked

def fillActivity (side : String) (fill : TradeFill) : BrokerActivity where
  id := 0
  activityId := fill.activityId
  activityType := "FILL"
  side := some side
  qty := some fill.qty
  price := some fill.price

/-- The activities of the trade, one for each fill. -/
def activities : List BrokerActivity :=
  fillActivity "buy" trade.entry :: (fillsOf trade.events).map (fillActivity "sell")

/-- An activity without the number of its record. -/
def content (activity : BrokerActivity) : BrokerActivity := { activity with id := 0 }

/-- The fills of one side, as a summary keeps them. -/
abbrev entryFills (delivered : List BrokerActivity) : List BrokerActivity := (uniqueActivities delivered).filter (isFill "buy")

abbrev closeFills (delivered : List BrokerActivity) : List BrokerActivity := (uniqueActivities delivered).filter (isFill "sell")

/-- Every activity is delivered at least once, in any order, and nothing else. -/
def Delivered (delivered : List BrokerActivity) : Prop :=
  ∀ activity, activity ∈ delivered.map content ↔ activity ∈ trade.activities

/-- The summary of the closed position after a delivery of its activities. -/
def summary (now : Int) (avgEntryPrice : ℚ) (delivered : List BrokerActivity) (systemEvents : List PositionEvent) :
    CycleSummary :=
  buildCycleSummary rounding { trade.closed now avgEntryPrice with brokerActivities := delivered } systemEvents

def quantities : List ℚ := (fillsOf trade.events).map fun fill => number rounding fill.qty

def notionals : List ℚ := (fillsOf trade.events).map fun fill => rounding.mul (number rounding fill.qty) fill.price

/-- The average of the closing fills, over sums that are not rounded. -/
def avgExitPrice : ℚ := rounding.div trade.notionals.sum trade.quantities.sum

def avgEntryPrice : ℚ :=
  rounding.div (rounding.mul (number rounding trade.entry.qty) trade.entry.price) (number rounding trade.entry.qty)

/-- The difference of the averages, times the quantity bought. -/
def result : ℚ := rounding.mul (rounding.sub trade.avgExitPrice trade.avgEntryPrice) (number rounding trade.entry.qty)

/-- No sum of quantities or of notionals of closing fills has to be rounded. -/
def AddsExactly : Prop := rounding.SumsFit trade.quantities ∧ rounding.SumsFit trade.notionals

/-- No position sync falls between two closing fills. -/
def SyncsOutsideClosing : Prop :=
  ∀ before now avgEntryPrice after, trade.events = before ++ .positionSync now avgEntryPrice :: after →
    fillsOf before = [] ∨ fillsOf after = []

/-- Every quantity is printed without an exponent. -/
def PlainQuantities : Prop := ∀ fill ∈ trade.entry :: fillsOf trade.events, fill.qty.plain = true

end ClosedTrade

end Runs

variable {rounding : Rounding}

open ClosedTrade

section Delivery

variable {seen : List String} {activities : List BrokerActivity} {activity : BrokerActivity}

theorem mem_unseen (member : activity ∈ unseen seen activities) : activity ∈ activities ∧ activityKey activity ∉ seen := by
  induction activities generalizing seen with
  | nil => exact absurd member List.not_mem_nil
  | cons first rest hypothesis =>
    unfold unseen at member
    split at member
    case isTrue known =>
      obtain ⟨listed, fresh⟩ := hypothesis member
      exact ⟨List.mem_cons_of_mem _ listed, fresh⟩
    case isFalse fresh =>
      rcases List.mem_cons.mp member with rfl | member
      · exact ⟨List.mem_cons_self, fresh⟩
      · obtain ⟨listed, fresh⟩ := hypothesis member
        exact ⟨List.mem_cons_of_mem _ listed, fun known => fresh (List.mem_cons_of_mem _ known)⟩

theorem nodup_unseen (seen : List String) (activities : List BrokerActivity) :
    ((unseen seen activities).map activityKey).Nodup := by
  induction activities generalizing seen with
  | nil => exact List.nodup_nil
  | cons first rest hypothesis =>
    unfold unseen
    split
    · exact hypothesis seen
    · rw [List.map_cons, List.nodup_cons]
      refine ⟨?_, hypothesis _⟩
      intro again
      obtain ⟨other, member, same⟩ := List.mem_map.mp again
      exact (mem_unseen member).2 (same ▸ List.mem_cons_self)

theorem unseen_covers (listed : activity ∈ activities) (fresh : activityKey activity ∉ seen) :
    ∃ kept ∈ unseen seen activities, activityKey kept = activityKey activity := by
  induction activities generalizing seen with
  | nil => exact absurd listed List.not_mem_nil
  | cons first rest hypothesis =>
    unfold unseen
    rcases List.mem_cons.mp listed with rfl | listed
    · rw [if_neg fresh]
      exact ⟨activity, List.mem_cons_self, rfl⟩
    · split
      · exact hypothesis listed fresh
      · by_cases same : activityKey activity = activityKey first
        · exact ⟨first, List.mem_cons_self, same.symm⟩
        · obtain ⟨kept, member, key⟩ := hypothesis listed fun known =>
            (List.mem_cons.mp known).elim same fresh
          exact ⟨kept, List.mem_cons_of_mem _ member, key⟩

variable {trade : ClosedTrade rounding} {delivered : List BrokerActivity}

theorem ClosedTrade.activityIds :
    trade.activities.map (·.activityId) = (trade.entry :: fillsOf trade.events).map (·.activityId) := by
  unfold ClosedTrade.activities
  rw [List.map_cons, List.map_cons, List.map_map]
  rfl

/-- However the activities were delivered, each is kept once. -/
theorem ClosedTrade.uniqueActivities_perm (delivers : trade.Delivered delivered) :
    ((uniqueActivities delivered).map content).Perm trade.activities := by
  have original : ∀ activity ∈ delivered, content activity ∈ trade.activities := fun activity member =>
    (delivers _).mp (List.mem_map_of_mem member)
  have identified : ∀ activity ∈ delivered, activityKey activity = activity.activityId := by
    intro activity member
    have listed := List.mem_map_of_mem (f := (·.activityId)) (original activity member)
    rw [trade.activityIds] at listed
    obtain ⟨fill, known, same⟩ := List.mem_map.mp listed
    exact if_neg (same ▸ trade.identified fill known)
  have distinct : (trade.activities.map (·.activityId)).Nodup := trade.activityIds ▸ trade.distinct
  have kept : ((uniqueActivities delivered).map content).Nodup := by
    have keys := nodup_unseen [] delivered
    rw [List.map_congr_left fun activity member => identified activity (mem_unseen member).1] at keys
    refine List.Nodup.of_map (·.activityId) ?_
    rw [List.map_map]
    exact keys
  refine (List.perm_ext_iff_of_nodup kept (List.Nodup.of_map _ distinct)).mpr fun activity => ?_
  constructor
  · intro member
    obtain ⟨source, listed, rfl⟩ := List.mem_map.mp member
    exact original source (mem_unseen listed).1
  · intro member
    obtain ⟨source, listed, rfl⟩ := List.mem_map.mp ((delivers activity).mpr member)
    obtain ⟨other, present, key⟩ := @unseen_covers [] delivered source listed List.not_mem_nil
    have otherListed := (mem_unseen present).1
    rw [identified other otherListed, identified source listed] at key
    have same := List.inj_on_of_nodup_map distinct (original other otherListed) member key
    exact same ▸ List.mem_map_of_mem present

/-- What a summary reads of the kept activities of one side is what the fills of that side say. -/
theorem ClosedTrade.map_perm {Value : Type} (delivers : trade.Delivered delivered) (side : String)
    (read : BrokerActivity → Value) (reads : ∀ activity, read (content activity) = read activity) :
    (((uniqueActivities delivered).filter (isFill side)).map read).Perm ((trade.activities.filter (isFill side)).map read) := by
  have perm := ((uniqueActivities_perm delivers).filter (isFill side)).map read
  have sameRead : read ∘ content = read := funext reads
  rw [List.filter_map, List.map_map, sameRead] at perm
  exact perm

theorem ClosedTrade.filter_buy : trade.activities.filter (isFill "buy") = [fillActivity "buy" trade.entry] := by
  unfold ClosedTrade.activities
  rw [List.filter_cons_of_pos rfl, List.filter_eq_nil_iff.mpr]
  intro activity member
  obtain ⟨fill, -, rfl⟩ := List.mem_map.mp member
  simp [isFill, fillActivity]

theorem ClosedTrade.filter_sell :
    trade.activities.filter (isFill "sell") = (fillsOf trade.events).map (fillActivity "sell") := by
  unfold ClosedTrade.activities
  rw [List.filter_cons_of_neg (by simp [isFill, fillActivity]), List.filter_eq_self]
  intro activity member
  obtain ⟨fill, -, rfl⟩ := List.mem_map.mp member
  rfl

theorem fillQty_fillActivity (side : String) {fill : TradeFill} (unsigned : fill.qty.negative = false) :
    fillQty (fillActivity side fill) = fill.qty := by
  change fill.qty.abs = fill.qty
  unfold JsDecimal.abs
  rw [← unsigned]

theorem ClosedTrade.read_sell (trade : ClosedTrade rounding) (fill : TradeFill) (member : fill ∈ fillsOf trade.events) :
    fillQty (fillActivity "sell" fill) = fill.qty :=
  fillQty_fillActivity "sell" (trade.positive fill (List.mem_cons_of_mem _ member)).1

theorem ClosedTrade.magnitude_pos (trade : ClosedTrade rounding) (fill : TradeFill)
    (member : fill ∈ trade.entry :: fillsOf trade.events) : 0 < fill.qty.magnitude := by
  obtain ⟨unsigned, positive⟩ := trade.positive fill member
  by_contra none
  have least := rounding.monotone (not_lt.mp none)
  rw [rounding.round_zero, ← JsDecimal.value_of_nonneg unsigned] at least
  exact absurd positive (not_lt.mpr least)

section

variable (delivers : trade.Delivered delivered)
include delivers

theorem ClosedTrade.averageFillPrice_entry :
    averageFillPrice rounding (entryFills delivered) = some trade.avgEntryPrice := by
  have total := map_perm delivers "buy" (fun fill => number rounding (fillQty fill)) fun _ => rfl
  have worth := map_perm delivers "buy" (fun fill => rounding.mul (number rounding (fillQty fill)) (fill.price.getD 0))
    fun _ => rfl
  obtain ⟨unsigned, positive⟩ := trade.positive trade.entry List.mem_cons_self
  have read : fillQty (fillActivity "buy" trade.entry) = trade.entry.qty := fillQty_fillActivity "buy" unsigned
  rw [trade.filter_buy, List.map_singleton, List.perm_singleton, read] at total worth
  have quantity : totalQty rounding (entryFills delivered) = number rounding trade.entry.qty := by
    unfold totalQty
    rw [total]
    exact Rounding.sum_singleton (rounding.round_round _)
  have price : notional rounding (entryFills delivered) =
      rounding.mul (number rounding trade.entry.qty) trade.entry.price := by
    unfold notional
    rw [worth]
    exact Rounding.sum_singleton (rounding.round_round _)
  unfold averageFillPrice
  rw [quantity, price, if_neg positive.ne']
  rfl

/-- The closing fills, as a summary reads their quantities and prices. -/
theorem ClosedTrade.closeFills_perm {Value : Type} (read : JsDecimal → Option ℚ → Value) :
    ((closeFills delivered).map fun fill => read (fillQty fill) fill.price).Perm
      ((fillsOf trade.events).map fun fill => read fill.qty fill.price) := by
  have perm := map_perm delivers "sell" (fun fill => read (fillQty fill) fill.price) fun _ => rfl
  rw [trade.filter_sell, List.map_map] at perm
  exact perm.trans (.of_eq <| List.map_congr_left fun fill member => congrArg (read · fill.price) (trade.read_sell fill member))

theorem ClosedTrade.quantities_perm :
    ((closeFills delivered).map fun fill => number rounding (fillQty fill)).Perm
      trade.quantities := closeFills_perm delivers fun qty _ => number rounding qty

theorem ClosedTrade.notionals_perm :
    ((closeFills delivered).map fun fill =>
      rounding.mul (number rounding (fillQty fill)) (fill.price.getD 0)).Perm trade.notionals :=
  closeFills_perm delivers fun qty price => rounding.mul (number rounding qty) (price.getD 0)

/-- However the sums are rounded, something was sold. -/
theorem ClosedTrade.totalQty_close : 0 < totalQty rounding (closeFills delivered) := by
  have perm := quantities_perm delivers
  refine Rounding.sum_pos (fun value member => ?_) ?_
  · obtain ⟨fill, listed, rfl⟩ := List.mem_map.mp (perm.mem_iff.mp member)
    exact ⟨(trade.positive fill (List.mem_cons_of_mem _ listed)).2, rounding.round_round _⟩
  · intro none
    rw [none, List.nil_perm, quantities, List.map_eq_nil_iff] at perm
    have sold := trade.sold
    have bought := trade.magnitude_pos trade.entry List.mem_cons_self
    rw [perm] at sold
    exact bought.ne sold

theorem ClosedTrade.averageFillPrice_close (exact_ : trade.AddsExactly) :
    averageFillPrice rounding (closeFills delivered) = some trade.avgExitPrice := by
  have total : totalQty rounding (closeFills delivered) = trade.quantities.sum :=
    Rounding.sum_eq_of_perm exact_.1 (quantities_perm delivers)
  have worth : notional rounding (closeFills delivered) = trade.notionals.sum :=
    Rounding.sum_eq_of_perm exact_.2 (notionals_perm delivers)
  unfold averageFillPrice
  rw [if_neg (totalQty_close delivers).ne', worth, total]
  rfl

/-- The closing fills equal a quantity when all are plain and it is the bought one. -/
theorem ClosedTrade.quantitiesExactlyEqual_iff (target : JsDecimal) :
    quantitiesExactlyEqual ((closeFills delivered).map fun fill => some (fillQty fill)) target =
        true ↔
      target.plain = true ∧ (∀ fill ∈ fillsOf trade.events, fill.qty.plain = true) ∧
        trade.entry.qty.magnitude = target.magnitude := by
  have perm := map_perm delivers "sell" fillQty fun _ => rfl
  rw [trade.filter_sell, List.map_map] at perm
  have values : ((closeFills delivered).map fun fill => some (fillQty fill)) =
      ((closeFills delivered).map fillQty).map some := by
    rw [List.map_map]
    rfl
  have unsigned : ∀ value ∈ (closeFills delivered).map fillQty, value.negative = false := by
    intro value member
    obtain ⟨fill, -, rfl⟩ := List.mem_map.mp member
    rfl
  have sum : (((closeFills delivered).map fillQty).map JsDecimal.magnitude).sum =
      trade.entry.qty.magnitude := by
    rw [(perm.map JsDecimal.magnitude).sum_eq, List.map_map]
    exact trade.sold
  rw [values, Cycles.quantitiesExactlyEqual_iff unsigned, sum]
  refine and_congr_right fun _ => and_congr_left fun _ => ?_
  constructor
  · intro plain fill member
    exact plain fill.qty.abs (perm.mem_iff.mpr (List.mem_map.mpr ⟨fill, member, rfl⟩))
  · intro plain value member
    obtain ⟨fill, listed, rfl⟩ := List.mem_map.mp (perm.mem_iff.mp member)
    exact plain fill listed

end

end Delivery

section Syncs

variable {start : OpenTrade} {events : List TradeEvent} {position : TrackedPosition} {bought : JsDecimal}

theorem OpenTrade.run_append (start : OpenTrade) (events : List TradeEvent) (event : TradeEvent) :
    start.run (events ++ [event]) = (start.run events).step event := by
  unfold OpenTrade.run
  rw [List.foldl_append]
  rfl

theorem fillsOf_append (first second : List TradeEvent) : fillsOf (first ++ second) = fillsOf first ++ fillsOf second :=
  List.filterMap_append

theorem soldQty_append (first second : List TradeFill) : soldQty (first ++ second) = soldQty first + soldQty second := by
  unfold soldQty
  rw [List.map_append, List.sum_append]

theorem soldQty_nonneg (fills : List TradeFill) : 0 ≤ soldQty fills :=
  List.sum_nonneg fun quantity member => by
    obtain ⟨fill, -, rfl⟩ := List.mem_map.mp member
    exact fill.qty.magnitude_nonneg

theorem soldQty_pos {fills : List TradeFill} (positive : ∀ fill ∈ fills, 0 < fill.qty.magnitude) (some_ : fills ≠ []) :
    0 < soldQty fills := by
  obtain ⟨first, rest, rfl⟩ := List.exists_cons_of_ne_nil some_
  have first_pos := positive first List.mem_cons_self
  have rest_nonneg := soldQty_nonneg rest
  unfold soldQty at rest_nonneg ⊢
  rw [List.map_cons, List.sum_cons]
  exact add_pos_of_pos_of_nonneg first_pos rest_nonneg

/-- A position sync has seen the position partly sold. -/
def SeenPartly (bought : JsDecimal) (events : List TradeEvent) : Prop :=
  ∃ before now avgEntryPrice after, events = before ++ .positionSync now avgEntryPrice :: after ∧
    0 < soldQty (fillsOf before) ∧ soldQty (fillsOf before) < bought.magnitude

theorem seenPartly_append_fill (events : List TradeEvent) (fill : TradeFill) :
    SeenPartly bought (events ++ [.closingFill fill]) ↔ SeenPartly bought events := by
  constructor
  · rintro ⟨before, now, avgEntryPrice, after, split, partly⟩
    rcases List.eq_nil_or_concat after with rfl | ⟨front, last, rfl⟩
    · have same := (List.append_inj' split rfl).2
      cases same
    · rw [List.concat_eq_append, ← List.cons_append, ← List.append_assoc] at split
      exact ⟨before, now, avgEntryPrice, front, (List.append_inj' split rfl).1, partly⟩
  · rintro ⟨before, now, avgEntryPrice, after, rfl, partly⟩
    exact ⟨before, now, avgEntryPrice, after ++ [.closingFill fill], by simp, partly⟩

theorem seenPartly_append_sync (events : List TradeEvent) (now : Int) (avgEntryPrice : ℚ) :
    SeenPartly bought (events ++ [.positionSync now avgEntryPrice]) ↔
      SeenPartly bought events ∨ 0 < soldQty (fillsOf events) ∧ soldQty (fillsOf events) < bought.magnitude := by
  constructor
  · rintro ⟨before, syncedAt, price, after, split, partly⟩
    rcases List.eq_nil_or_concat after with rfl | ⟨front, last, rfl⟩
    · rw [(List.append_inj' split rfl).1]
      exact .inr partly
    · rw [List.concat_eq_append, ← List.cons_append, ← List.append_assoc] at split
      exact .inl ⟨before, syncedAt, price, front, (List.append_inj' split rfl).1, partly⟩
  · rintro (⟨before, syncedAt, price, after, rfl, partly⟩ | partly)
    · exact ⟨before, syncedAt, price, after ++ [.positionSync now avgEntryPrice], by simp, partly⟩
    · exact ⟨events, now, avgEntryPrice, [], rfl, partly⟩

/-- After any part of a trade the tracked quantity is the bought one unless a sync has seen the position partly sold. -/
structure Tracks (position : TrackedPosition) (bought : JsDecimal) (events : List TradeEvent) (trade : OpenTrade) : Prop where
  remaining : trade.remaining.magnitude = bought.magnitude - soldQty (fillsOf events)
  unsigned : trade.tracked.qty.negative = false ∧ trade.remaining.negative = false
  closed : trade.tracked.status = .closed → soldQty (fillsOf events) = bought.magnitude
  quantity : trade.tracked.qty.magnitude = bought.magnitude ↔ ¬ SeenPartly bought events
  side : trade.tracked.side = position.side

theorem coefficient_eq_zero_iff {number : JsDecimal} : number.coefficient = 0 ↔ number.magnitude = 0 := by
  have positive := @scaled_pos_iff number.coefficient number.scale
  have nonneg := number.magnitude_nonneg
  unfold JsDecimal.magnitude at nonneg ⊢
  constructor
  · intro zero
    rw [zero]
    simp [scaled]
  · intro zero
    by_contra counted
    exact absurd zero (positive.mpr (Nat.pos_of_ne_zero counted)).ne'

theorem tracks_step_fill {fill : TradeFill} {trade : OpenTrade} (tracks : Tracks position bought events trade)
    (within : soldQty (fillsOf (events ++ [.closingFill fill])) ≤ bought.magnitude) (positive : 0 < fill.qty.magnitude) :
    Tracks position bought (events ++ [.closingFill fill]) (trade.step (.closingFill fill)) := by
  have sold : soldQty (fillsOf (events ++ [.closingFill fill])) = soldQty (fillsOf events) + fill.qty.magnitude := by
    rw [fillsOf_append, soldQty_append]
    exact congrArg _ (add_zero _)
  rw [sold] at within
  have smaller : fill.qty.magnitude ≤ trade.remaining.magnitude := by
    rw [tracks.remaining]
    linarith
  refine ⟨?_, ⟨tracks.unsigned.1, rfl⟩, ?_, ?_, tracks.side⟩
  · rw [sold]
    change (trade.remaining.minus fill.qty).magnitude = _
    rw [JsDecimal.magnitude_minus smaller, tracks.remaining]
    ring
  · intro closed
    have all := tracks.closed closed
    linarith
  · rw [seenPartly_append_fill]
    exact tracks.quantity

theorem tracks_step_sync {trade : OpenTrade} (tracks : Tracks position bought events trade) (now : Int) (avgEntryPrice : ℚ) :
    Tracks position bought (events ++ [.positionSync now avgEntryPrice]) (trade.step (.positionSync now avgEntryPrice)) := by
  have sold : soldQty (fillsOf (events ++ [.positionSync now avgEntryPrice])) = soldQty (fillsOf events) := by
    rw [fillsOf_append, soldQty_append]
    exact add_zero _
  have nonneg := soldQty_nonneg (fillsOf events)
  have held := trade.remaining.magnitude_nonneg
  rw [tracks.remaining] at held
  unfold OpenTrade.step syncTrackedPosition brokerPosition
  dsimp only
  split
  case isTrue closed =>
    -- a closed position is left alone, and nothing of it remains
    have all := tracks.closed closed
    refine ⟨by rw [sold]; exact tracks.remaining, tracks.unsigned, fun _ => sold.trans all, ?_, tracks.side⟩
    rw [seenPartly_append_sync, tracks.quantity, all]
    simp
  case isFalse active =>
    by_cases gone : trade.remaining.coefficient = 0
    · have all : soldQty (fillsOf events) = bought.magnitude := by
        have zero := (coefficient_eq_zero_iff).mp gone
        rw [tracks.remaining] at zero
        linarith
      rw [if_pos gone]
      refine ⟨by rw [sold]; exact tracks.remaining, tracks.unsigned, fun _ => sold.trans all, ?_, tracks.side⟩
      rw [seenPartly_append_sync, all]
      simpa using tracks.quantity
    · have some_ : soldQty (fillsOf events) < bought.magnitude := by
        have nonzero := mt (coefficient_eq_zero_iff).mpr gone
        rw [tracks.remaining] at nonzero
        exact lt_of_le_of_ne (by linarith) fun all => nonzero (by rw [all, sub_self])
      rw [if_neg gone]
      refine ⟨by rw [sold]; exact tracks.remaining, ⟨tracks.unsigned.2, tracks.unsigned.2⟩,
        nofun, ?_, tracks.side⟩
      rw [seenPartly_append_sync, tracks.remaining]
      constructor
      · intro whole
        rintro (⟨before, at_, price, after, split, soldBefore, -⟩ | ⟨soldNow, -⟩)
        · -- what was sold before an earlier sync is still sold
          have more : soldQty (fillsOf before) ≤ soldQty (fillsOf events) := by
            rw [split, fillsOf_append, soldQty_append]
            exact le_add_of_nonneg_right (soldQty_nonneg _)
          linarith
        · linarith
      · intro never
        have none : ¬ 0 < soldQty (fillsOf events) := fun soldNow => never (.inr ⟨soldNow, some_⟩)
        linarith

/-- Every part of a trade that does not oversell tracks the position. -/
theorem tracks_run (active : position.status = .open_) (tracked : position.qty = bought) (unsigned : bought.negative = false)
    (positive : ∀ fill ∈ fillsOf events, 0 < fill.qty.magnitude) (within : soldQty (fillsOf events) ≤ bought.magnitude) :
    Tracks position bought events (OpenTrade.run ⟨position, bought⟩ events) := by
  induction events using List.reverseRecOn with
  | nil =>
    refine ⟨(sub_zero _).symm, ⟨tracked ▸ unsigned, unsigned⟩, ?_, ?_, rfl⟩
    · intro closed
      rw [show (OpenTrade.run ⟨position, bought⟩ []).tracked = position from rfl, active] at closed
      cases closed
    · refine iff_of_true (congrArg JsDecimal.magnitude tracked) ?_
      rintro ⟨before, now, price, after, split, -⟩
      exact absurd split.symm (by simp)
  | append_singleton events event hypothesis =>
    rw [fillsOf_append] at positive
    have less : soldQty (fillsOf events) ≤ bought.magnitude := by
      rw [fillsOf_append, soldQty_append] at within
      exact le_trans (le_add_of_nonneg_right (soldQty_nonneg _)) within
    have tracks := hypothesis (fun fill member => positive fill (List.mem_append_left _ member)) less
    rw [OpenTrade.run_append]
    cases event with
    | closingFill fill => exact tracks_step_fill tracks within (positive fill (List.mem_concat_self))
    | positionSync now avgEntryPrice => exact tracks_step_sync tracks now avgEntryPrice

end Syncs

section Result

variable {trade : ClosedTrade rounding} {delivered : List BrokerActivity}

theorem ClosedTrade.syncsOutsideClosing_iff : trade.SyncsOutsideClosing ↔ ¬ SeenPartly trade.entry.qty trade.events := by
  have parts {before after : List TradeEvent} {now : Int} {price : ℚ}
      (split : trade.events = before ++ .positionSync now price :: after) :
      soldQty (fillsOf before) + soldQty (fillsOf after) = trade.entry.qty.magnitude ∧
        (∀ fill ∈ fillsOf before, 0 < fill.qty.magnitude) ∧ ∀ fill ∈ fillsOf after, 0 < fill.qty.magnitude := by
    have fills : fillsOf trade.events = fillsOf before ++ fillsOf after := by
      rw [split, fillsOf_append]
      rfl
    refine ⟨by rw [← trade.sold, fills, soldQty_append], fun fill member => ?_, fun fill member => ?_⟩
    · exact trade.magnitude_pos fill (List.mem_cons_of_mem _ (fills ▸ List.mem_append_left _ member))
    · exact trade.magnitude_pos fill (List.mem_cons_of_mem _ (fills ▸ List.mem_append_right _ member))
  constructor
  · rintro outside ⟨before, now, price, after, split, some_, partly⟩
    obtain ⟨total, -, -⟩ := parts split
    rcases outside before now price after split with none | none
    · rw [none] at some_
      exact lt_irrefl _ some_
    · rw [none] at total
      exact absurd partly (by rw [← total]; simp [soldQty])
  · intro never before now price after split
    obtain ⟨total, positiveBefore, positiveAfter⟩ := parts split
    by_contra both
    rw [not_or] at both
    have soldBefore := soldQty_pos positiveBefore both.1
    have soldAfter := soldQty_pos positiveAfter both.2
    exact never ⟨before, now, price, after, split, soldBefore, by linarith⟩

/-- The state of the position when its cycle is closed. -/
theorem ClosedTrade.closed_spec (now : Int) (avgEntryPrice : ℚ) :
    (trade.closed now avgEntryPrice).status = .closed ∧ (trade.closed now avgEntryPrice).side = trade.position.side ∧
      (trade.closed now avgEntryPrice).qty.negative = false ∧
      ((trade.closed now avgEntryPrice).qty.magnitude = trade.entry.qty.magnitude ↔ trade.SyncsOutsideClosing) := by
  have unsigned := (trade.positive trade.entry List.mem_cons_self).1
  have tracks := tracks_run trade.active trade.tracked unsigned
    (fun fill member => trade.magnitude_pos fill (List.mem_cons_of_mem _ member)) (le_of_eq trade.sold)
  have after := tracks_step_sync tracks now avgEntryPrice
  have gone : (OpenTrade.run ⟨trade.position, trade.entry.qty⟩ trade.events).remaining.coefficient = 0 := by
    rw [coefficient_eq_zero_iff, tracks.remaining, trade.sold, sub_self]
  unfold ClosedTrade.closed
  rw [OpenTrade.run_append]
  refine ⟨?_, after.side, after.unsigned.1, ?_⟩
  · unfold OpenTrade.step syncTrackedPosition brokerPosition
    dsimp only
    rw [if_pos gone]
    split
    case isTrue closed => exact closed
    case isFalse => rfl
  · rw [after.quantity, seenPartly_append_sync, trade.sold, trade.syncsOutsideClosing_iff]
    simp

/-- The result of a closed trade, by the comparison with the quantity that the last sync left. -/
theorem ClosedTrade.realizedPnl_eq (now : Int) (avgEntryPrice : ℚ) (delivers : trade.Delivered delivered)
    (systemEvents : List PositionEvent) :
    (trade.summary now avgEntryPrice delivered systemEvents).realizedPnl =
      if quantitiesExactlyEqual
          ((closeFills delivered).map fun fill => some (fillQty fill))
          (trade.closed now avgEntryPrice).qty then
        (averageFillPrice rounding (closeFills delivered)).map fun avgExitPrice =>
          rounding.mul (rounding.sub avgExitPrice trade.avgEntryPrice) |number rounding (trade.closed now avgEntryPrice).qty|
      else none := by
  obtain ⟨closed, side, unsigned, -⟩ := trade.closed_spec now avgEntryPrice
  have long : (trade.closed now avgEntryPrice).side.toLower ≠ "short" := side ▸ trade.long
  have sold := totalQty_close delivers
  have total : sumFillQty rounding (closeFills delivered) =
      some (totalQty rounding (closeFills delivered)) := if_pos sold
  have average : averageFillPrice rounding (closeFills delivered) =
      some (rounding.div (notional rounding (closeFills delivered))
        (totalQty rounding (closeFills delivered))) := if_neg sold.ne'
  unfold ClosedTrade.summary buildCycleSummary getRealizedPnl
  simp only [getEntrySide, getCloseSide, if_neg long, averageFillPrice_entry delivers, average, total, closed,
    Option.isSome_some, if_true, Option.getD_some, Option.some_or, beq_self_eq_true, Bool.true_and, Option.map_some]

/-- The closing fills add up to what the last sync left when none came between them and all quantities are plain. -/
theorem ClosedTrade.complete_iff (now : Int) (avgEntryPrice : ℚ) (delivers : trade.Delivered delivered) :
    quantitiesExactlyEqual ((closeFills delivered).map fun fill => some (fillQty fill))
        (trade.closed now avgEntryPrice).qty = true ↔
      trade.SyncsOutsideClosing ∧ trade.PlainQuantities := by
  obtain ⟨-, -, -, quantity⟩ := trade.closed_spec now avgEntryPrice
  rw [quantitiesExactlyEqual_iff delivers, ← quantity]
  constructor
  · rintro ⟨plainTracked, plainFills, same⟩
    refine ⟨same.symm, fun fill member => ?_⟩
    rcases List.mem_cons.mp member with rfl | member
    · rw [JsDecimal.plain_iff] at plainTracked ⊢
      rwa [same]
    · exact plainFills fill member
  · rintro ⟨same, plain⟩
    have plainEntry := plain trade.entry List.mem_cons_self
    refine ⟨?_, fun fill member => plain fill (List.mem_cons_of_mem _ member), same.symm⟩
    rw [JsDecimal.plain_iff] at plainEntry ⊢
    rwa [same]

/-- A closed trade shows a result exactly when no position sync fell between two closing fills and every quantity is printed
without an exponent; where no sum of its fills has to be rounded, it is the same for every delivery. -/
theorem ClosedTrade.realizedPnl_iff (rounding : Rounding) (trade : ClosedTrade rounding) (now : Int) (avgEntryPrice : ℚ)
    (systemEvents : List PositionEvent) :
    (trade.SyncsOutsideClosing ∧ trade.PlainQuantities ∧ trade.AddsExactly → ∀ delivered, trade.Delivered delivered →
      (trade.summary now avgEntryPrice delivered systemEvents).realizedPnl = some trade.result) ∧
    ∀ delivered, trade.Delivered delivered →
      ((trade.summary now avgEntryPrice delivered systemEvents).realizedPnl.isSome = true ↔
        trade.SyncsOutsideClosing ∧ trade.PlainQuantities) := by
  obtain ⟨-, -, unsigned, quantity⟩ := trade.closed_spec now avgEntryPrice
  obtain ⟨unsignedEntry, positive⟩ := trade.positive trade.entry List.mem_cons_self
  constructor
  · rintro ⟨outside, plain, exact_⟩ delivered delivers
    have bought : number rounding (trade.closed now avgEntryPrice).qty = number rounding trade.entry.qty := by
      unfold number
      rw [JsDecimal.value_of_nonneg unsigned, JsDecimal.value_of_nonneg unsignedEntry, quantity.mpr outside]
    rw [trade.realizedPnl_eq now avgEntryPrice delivers,
      if_pos ((trade.complete_iff now avgEntryPrice delivers).mpr ⟨outside, plain⟩), averageFillPrice_close delivers exact_,
      bought, abs_of_pos positive]
    rfl
  · intro delivered delivers
    rw [trade.realizedPnl_eq now avgEntryPrice delivers, ← trade.complete_iff now avgEntryPrice delivers, averageFillPrice,
      if_neg (totalQty_close delivers).ne']
    split
    case isTrue equal => exact iff_of_true rfl equal
    case isFalse unequal => exact iff_of_false Bool.false_ne_true unequal

/-- Four bought at 100 and sold in two halves, with a position sync between them or without. -/
def halves (synced : Bool) : ClosedTrade .exact where
  position :=
    { id := 1, side := "long", qty := .ofScaled 4 0, avgEntryPrice := 100, status := .open_, openedAt := 0, closedAt := none
      brokerActivities := [] }
  entry := ⟨"entry", .ofScaled 4 0, 100⟩
  events := .closingFill ⟨"exit-1", .ofScaled 2 0, 105⟩ ::
    ((if synced then [.positionSync 5 100] else []) ++ [.closingFill ⟨"exit-2", .ofScaled 2 0, 107⟩])
  long := by decide +kernel
  active := rfl
  tracked := rfl
  positive := by
    cases synced <;>
      simp [fillsOf, number, Rounding.exact, scaled, JsDecimal.ofScaled, JsDecimal.value, JsDecimal.magnitude, reduce]
  sold := by cases synced <;> norm_num [fillsOf, soldQty, scaled, List.filterMap]
  identified := by cases synced <;> simp [fillsOf]
  distinct := by cases synced <;> simp [fillsOf]

theorem delivered_halves {synced : Bool} : (halves synced).Delivered (halves synced).activities := by
  have same : (halves synced).activities.map content = (halves synced).activities := by cases synced <;> rfl
  intro activity
  rw [same]

theorem plain_halves (synced : Bool) : (halves synced).PlainQuantities := by
  have fills : (halves synced).entry :: fillsOf (halves synced).events =
      [⟨"entry", .ofScaled 4 0, 100⟩, ⟨"exit-1", .ofScaled 2 0, 105⟩, ⟨"exit-2", .ofScaled 2 0, 107⟩] := by
    cases synced <;> rfl
  unfold PlainQuantities
  rw [fills]
  decide

theorem ClosedTrade.realizedPnl_iff_halves :
    ((halves false).summary 9 100 (halves false).activities.reverse []).realizedPnl = some (halves false).result := by
  refine (ClosedTrade.realizedPnl_iff .exact (halves false) 9 100 []).1 ⟨?_, plain_halves false, ?_⟩ _ ?_
  · intro before now price after split
    have member : TradeEvent.positionSync now price ∈ (halves false).events := split ▸ by simp
    simp [halves] at member
  · exact ⟨fun _ _ => rfl, fun _ _ => rfl⟩
  · intro activity
    rw [List.map_reverse, List.mem_reverse]
    exact delivered_halves activity

/-- The sync between the halves leaves a quantity of two, which the fills do not add up to. -/
theorem ClosedTrade.realizedPnl_lost : ¬ ∀ (rounding : Rounding) (trade : ClosedTrade rounding) (now : Int)
    (avgEntryPrice : ℚ) (delivered : List BrokerActivity), trade.Delivered delivered →
      ∀ systemEvents : List PositionEvent,
        (trade.summary now avgEntryPrice delivered systemEvents).realizedPnl = some trade.result := by
  intro shown
  have result := shown .exact (halves true) 9 100 _ (delivered_halves) []
  rw [(halves true).realizedPnl_eq 9 100 (delivered_halves), if_neg] at result
  · cases result
  · rw [(halves true).complete_iff 9 100 (delivered_halves)]
    rintro ⟨outside, -⟩
    rcases outside [.closingFill ⟨"exit-1", .ofScaled 2 0, 105⟩] 5 100
      [.closingFill ⟨"exit-2", .ofScaled 2 0, 107⟩] rfl with none | none <;> cases none

end Result

end AiTrader.Cycles
