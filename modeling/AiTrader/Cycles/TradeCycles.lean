import AiTrader.Library.JsDecimal
import AiTrader.Library.Latest
import AiTrader.Library.Rounded
import AiTrader.Library.Table

/-! # Trade cycles

The summary of a tracked position from its attributed broker activities. Every operation on numbers rounds. -/

namespace AiTrader.Cycles

open Library Decimal

structure BrokerActivity where
  id : Nat
  (activityId activityType : String)
  side : Option String
  qty : Option JsDecimal
  price : Option ℚ

inductive CycleStatus where
  | open_ | closing | closed
deriving DecidableEq

structure TrackedPosition where
  id : Nat
  side : String
  qty : JsDecimal
  avgEntryPrice : ℚ
  status : CycleStatus
  openedAt : Int
  closedAt : Option Int
  brokerActivities : List BrokerActivity

/-- A system event of the position, with the numbers of its payload. -/
structure PositionEvent where
  type : String
  createdAt : Int
  closePrice : Option ℚ
  closeQty : Option JsDecimal

structure CycleSummary where
  id : Nat
  side : String
  status : CycleStatus
  openedAt : Int
  closedAt : Option Int
  quantity : JsDecimal
  avgEntryPrice : ℚ
  (avgExitPrice realizedPnl returnPct : Option ℚ)
  holdingDurationMs : Option Int
  (entryFillQty closeFillQty : Option ℚ)

section Summary

variable (rounding : Rounding)

/-- The number of a text. -/
def number (text : JsDecimal) : ℚ := rounding.round text.value

def getCloseSide (positionSide : String) : String := if positionSide.toLower = "short" then "buy" else "sell"

def getEntrySide (positionSide : String) : String := if positionSide.toLower = "short" then "sell" else "buy"

/-- `Math.abs(fill.qty ?? 0)` -/
def fillQty (fill : BrokerActivity) : JsDecimal := (fill.qty.getD .zero).abs

section

variable (fills : List BrokerActivity)

def totalQty : ℚ := rounding.sum (fills.map fun fill => number rounding (fillQty fill))

def notional : ℚ :=
  rounding.sum (fills.map fun fill => rounding.mul (number rounding (fillQty fill)) (fill.price.getD 0))

def averageFillPrice : Option ℚ :=
  if totalQty rounding fills = 0 then none else some (rounding.div (notional rounding fills) (totalQty rounding fills))

end

structure ExactQuantity where
  (coefficient scale : Nat)

/-- The coefficient and the scale of a numeral. -/
def parseNumeral (letters : List Char) : Option ExactQuantity :=
  let (whole, fraction) := split letters
  if (whole = ['0'] ∨ whole ≠ [] ∧ whole.head? ≠ some '0') ∧ whole.all Char.isDigit ∧ fraction.all Char.isDigit ∧
      (letters.contains '.' → fraction ≠ []) then
    let trimmedFraction := fraction.rdropWhile (· == '0')
    some ⟨natural (whole ++ trimmedFraction), trimmedFraction.length⟩
  else none

def parseExactQuantity (value : Option JsDecimal) : Option ExactQuantity :=
  match value with
  | none => none
  | some value => if value.isNegative then none else parseNumeral value.text

def quantitiesExactlyEqual (values : List (Option JsDecimal)) (target : JsDecimal) : Bool :=
  let parsedValues := values.map parseExactQuantity
  match parseExactQuantity (some target.abs) with
  | none => false
  | some parsedTarget =>
    if parsedValues.any (·.isNone) then false
    else
      let quantities := parsedValues.filterMap id
      let scale := (quantities.map (·.scale)).foldl max parsedTarget.scale
      let total := (quantities.map fun value => aligned value.coefficient value.scale scale).sum
      total == aligned parsedTarget.coefficient parsedTarget.scale scale

def activityKey (activity : BrokerActivity) : String :=
  if activity.activityId = "" then "record:" ++ toString activity.id else activity.activityId

/-- The activities whose key has not been seen. -/
def unseen (seen : List String) : List BrokerActivity → List BrokerActivity
  | [] => []
  | activity :: rest =>
    if activityKey activity ∈ seen then unseen seen rest else activity :: unseen (activityKey activity :: seen) rest

def uniqueActivities (activities : List BrokerActivity) : List BrokerActivity := unseen [] activities

def sumFillQty (fills : List BrokerActivity) : Option ℚ :=
  if 0 < totalQty rounding fills then some (totalQty rounding fills) else none

def getRealizedPnl (side : String) (qty avgEntryPrice : ℚ) (avgExitPrice : Option ℚ) : Option ℚ :=
  avgExitPrice.map fun avgExitPrice =>
    if side.toLower = "short" then rounding.mul (rounding.sub avgEntryPrice avgExitPrice) |qty|
    else rounding.mul (rounding.sub avgExitPrice avgEntryPrice) |qty|

def getReturnPct (side : String) (avgEntryPrice : ℚ) (avgExitPrice : Option ℚ) : Option ℚ :=
  match avgExitPrice with
  | none => none
  | some avgExitPrice =>
    if avgEntryPrice = 0 then none
    else some (if side.toLower = "short" then rounding.div (rounding.sub avgEntryPrice avgExitPrice) avgEntryPrice
      else rounding.div (rounding.sub avgExitPrice avgEntryPrice) avgEntryPrice)

def getHoldingDurationMs (openedAt : Int) (closedAt : Option Int) : Option Int :=
  closedAt.map fun closedAt => max 0 (closedAt - openedAt)

/-- The newest event of the closing. -/
def getLatestPositionClosedEvent (events : List PositionEvent) : Option PositionEvent :=
  latest (·.createdAt) (events.filter (·.type == "position.closed"))

def isFill (side : String) (activity : BrokerActivity) : Bool := activity.activityType == "FILL" && activity.side == some side

def buildCycleSummary (position : TrackedPosition) (systemEvents : List PositionEvent) : CycleSummary :=
  let attributedActivities := uniqueActivities position.brokerActivities
  let entryFills := attributedActivities.filter (isFill (getEntrySide position.side))
  let closeFills := attributedActivities.filter (isFill (getCloseSide position.side))
  let avgEntryPrice := (averageFillPrice rounding entryFills).getD position.avgEntryPrice
  let closedEvent := getLatestPositionClosedEvent systemEvents
  let eventCloseQty := closedEvent.bind (·.closeQty)
  let avgExitPrice := (averageFillPrice rounding closeFills).or (closedEvent.bind (·.closePrice))
  let fillCloseQty := sumFillQty rounding closeFills
  let lifecycleComplete := position.status == .closed &&
    (if fillCloseQty.isSome then quantitiesExactlyEqual (closeFills.map fun fill => some (fillQty fill)) position.qty
      else eventCloseQty.any fun qty => quantitiesExactlyEqual [some qty.abs] position.qty)
  { id := position.id
    side := position.side
    status := position.status
    openedAt := position.openedAt
    closedAt := position.closedAt
    quantity := position.qty
    avgEntryPrice
    avgExitPrice
    realizedPnl :=
      if lifecycleComplete then getRealizedPnl rounding position.side (number rounding position.qty) avgEntryPrice avgExitPrice
      else none
    returnPct := if lifecycleComplete then getReturnPct rounding position.side avgEntryPrice avgExitPrice else none
    holdingDurationMs := getHoldingDurationMs position.openedAt position.closedAt
    entryFillQty := sumFillQty rounding entryFills
    closeFillQty := fillCloseQty.or (eventCloseQty.map (number rounding)) }

end Summary

section Exact

variable {letters whole fraction : List Char} {number target : JsDecimal} {values : List JsDecimal}

theorem parseNumeral_written (isWhole : IsWhole whole) (isDigits : IsDigits fraction) (written : Written letters whole fraction) :
    parseNumeral letters =
      some ⟨natural (whole ++ fraction.rdropWhile (· == '0')), (fraction.rdropWhile (· == '0')).length⟩ := by
  have accepted := @parts_iff letters
  unfold parseNumeral
  rw [(split_written isWhole.isDigits written).1] at accepted ⊢
  exact if_pos (accepted.mpr ⟨isWhole, isDigits, written⟩)

theorem isNumeral_of_parseNumeral {quantity : ExactQuantity} (parsed : parseNumeral letters = some quantity) :
    IsNumeral letters := by
  unfold parseNumeral at parsed
  dsimp only at parsed
  split at parsed
  case isTrue accepted => exact isNumeral_iff.mpr ⟨_, _, parts_iff.mp accepted⟩
  case isFalse => cases parsed

/-- The exact quantity of a number is read back from its text, unless the text has an exponent. -/
theorem parseExactQuantity_eq (nonneg : number.negative = false) :
    parseExactQuantity (some number) = if number.plain then some ⟨number.coefficient, number.scale⟩ else none := by
  have notNegative : number.isNegative = false := by simp [JsDecimal.isNegative, nonneg]
  simp only [parseExactQuantity, notNegative, Bool.false_eq_true, if_false]
  cases plain : number.plain with
  | false =>
    rw [if_neg Bool.false_ne_true]
    cases parsed : parseNumeral number.text with
    | none => rfl
    | some quantity =>
      have numeral := (JsDecimal.isNumeral_text_iff notNegative).mp (isNumeral_of_parseNumeral parsed)
      rw [plain] at numeral
      cases numeral
  | true =>
    have text : number.text = number.plainText := by simp [JsDecimal.text, notNegative, plain]
    have isDigits := (isDigits_cut number.scale number.coefficient).2
    rw [if_pos rfl, text, parseNumeral_written (isWhole_cut _ _) isDigits number.written_plainText]
    have same := LowestTerms.unique (lowestTerms_trim (cut number.scale number.coefficient).1 isDigits) number.lowest
      ((scaled_trim _ _).trans (scaled_cut _ _))
    rw [same.1, same.2]

theorem scaled_sum_aligned {quantities : List ExactQuantity} {scale : Nat} (bounded : ∀ value ∈ quantities, value.scale ≤ scale) :
    scaled (quantities.map fun value => aligned value.coefficient value.scale scale).sum scale =
      (quantities.map fun value => scaled value.coefficient value.scale).sum := by
  induction quantities with
  | nil => simp [scaled]
  | cons first rest hypothesis =>
    obtain ⟨below, others⟩ := List.forall_mem_cons.mp bounded
    rw [List.map_cons, List.sum_cons, scaled_add, scaled_aligned below, hypothesis others, List.map_cons, List.sum_cons]

/-- Numbers without a sign are found equal exactly when all are plain and their sum is the target. -/
theorem quantitiesExactlyEqual_iff (nonneg : ∀ value ∈ values, value.negative = false) :
    quantitiesExactlyEqual (values.map some) target = true ↔
      target.plain = true ∧ (∀ value ∈ values, value.plain = true) ∧
        (values.map JsDecimal.magnitude).sum = target.magnitude := by
  have parsedTarget := @parseExactQuantity_eq target.abs rfl
  rw [JsDecimal.plain_abs] at parsedTarget
  unfold quantitiesExactlyEqual
  by_cases targetPlain : target.plain = true
  case neg =>
    rw [if_neg targetPlain] at parsedTarget
    simp [parsedTarget, targetPlain]
  case pos =>
    rw [if_pos targetPlain] at parsedTarget
    simp only [parsedTarget, targetPlain, true_and]
    by_cases plain : ∀ value ∈ values, value.plain = true
    · have parsed : (values.map some).map parseExactQuantity =
          values.map fun value => some ⟨value.coefficient, value.scale⟩ := by
        rw [List.map_map]
        refine List.map_congr_left fun value member => ?_
        rw [Function.comp_apply, parseExactQuantity_eq (nonneg value member), if_pos (plain value member)]
      have all : ¬ (values.map fun value => some (ExactQuantity.mk value.coefficient value.scale)).any (·.isNone) = true := by
        simp
      have quantities : (values.map fun value => some (ExactQuantity.mk value.coefficient value.scale)).filterMap id =
          values.map fun value => ⟨value.coefficient, value.scale⟩ := by
        rw [List.filterMap_map]
        exact congrFun List.filterMap_eq_map values
      rw [parsed, if_neg all, quantities, beq_iff_eq]
      simp only [JsDecimal.abs]
      generalize scaleEq : ((values.map fun value => ExactQuantity.mk value.coefficient value.scale).map (·.scale)).foldl max
        target.scale = scale
      have targetBounded : target.scale ≤ scale := by
        rw [← scaleEq]
        exact Table.le_foldl_max _ (.inr le_rfl)
      have bounded : ∀ value ∈ values.map fun value => ExactQuantity.mk value.coefficient value.scale, value.scale ≤ scale := by
        intro value member
        rw [← scaleEq]
        exact Table.le_foldl_max _ (.inl (List.mem_map_of_mem member))
      have sum := scaled_sum_aligned bounded
      have same : ∀ total : Nat, total = aligned target.coefficient target.scale scale ↔
          scaled total scale = target.magnitude := by
        intro total
        have power : aligned total scale scale = total := by simp [aligned]
        have compared := @aligned_eq_iff total scale scale target.coefficient target.scale le_rfl targetBounded
        rwa [power] at compared
      rw [same, sum, List.map_map]
      rw [and_iff_right plain]
      exact Iff.rfl
    · rw [if_pos, Bool.false_eq_true, false_iff]
      · exact fun equal => plain equal.1
      push Not at plain
      obtain ⟨value, member, unreadable⟩ := plain
      rw [List.any_eq_true]
      refine ⟨none, List.mem_map.mpr ⟨some value, List.mem_map_of_mem member, ?_⟩, rfl⟩
      rw [parseExactQuantity_eq (nonneg value member), if_neg unreadable]

end Exact

/-- The position of the symbol at the broker. -/
structure BrokerPosition where
  qty : JsDecimal
  avgEntryPrice : ℚ

/-- An active position takes over what the broker reports, and is closed when the broker no longer reports it. -/
def syncTrackedPosition (now : Int) (broker : Option BrokerPosition) (tracked : TrackedPosition) : TrackedPosition :=
  if tracked.status = .closed then tracked
  else
    match broker with
    | some position => { tracked with qty := position.qty, avgEntryPrice := position.avgEntryPrice, status := .open_ }
    | none => { tracked with status := .closed, closedAt := some now }

end AiTrader.Cycles
