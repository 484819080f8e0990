import Mathlib.Data.List.Dedup
import Mathlib.Data.List.Perm.Basic
import AiTrader.Library.Double
import AiTrader.Library.JsString
import AiTrader.Library.KeyOrder

/-! # The local evidence of a full fill

An order is terminalized from its own fills when one marks the end and none contradicts the order, in whatever order they
are listed, up to the rounding of their sum. -/

namespace AiTrader.Repair

open Library JsNumber

/-- What the assessment reads of a broker activity. A missing text stands for `null` and `undefined`. -/
structure FillActivity (N : Type) where
  id : Nat
  activityType : String
  (qty cumQty leavesQty price : Option N)
  transactionTime : Option Int
  (tradingAccountId brokerOrderRecordId : Option Nat)
  (orderId broker : Option String)

/-- The arguments of the assessment beside the activities. -/
structure FillOrder (N : Type) where
  orderQty : Option N
  (tradingAccountId brokerOrderRecordId : Nat)
  (brokerOrderId expectedBroker : String)

inductive FillClassification where
  | none | partially | full
deriving DecidableEq

def FillClassification.text : FillClassification → String
  | .none => "none"
  | .partially => "partial"
  | .full => "full"

structure FillSummary (N : Type) where
  classification : FillClassification
  (cumulativeQty leavesQty weightedAveragePrice : Option N)
  completionTime : Option Int
  activityCount : Nat

inductive Contradiction where
  | brokerIdentity | brokerOrderIdentity | terminalMarkers | fillPrice | pricedQuantity
deriving DecidableEq

def Contradiction.text : Contradiction → String
  | .brokerIdentity => "conflicting_or_missing_broker_identity"
  | .brokerOrderIdentity => "conflicting_broker_order_identity"
  | .terminalMarkers => "conflicting_terminal_markers"
  | .fillPrice => "missing_or_invalid_fill_price"
  | .pricedQuantity => "priced_fill_quantity_conflicts_with_order_quantity"

structure FillAssessment (N : Type) where
  summary : FillSummary N
  contradictions : List Contradiction
  deterministic : Bool
  ownedActivityIds : List Nat

/-- How the language maps cases and prints numbers. -/
structure Texts (N : Type) where
  toLowerCase : String → String
  toUpperCase : String → String
  print : N → String

section Source

variable {N : Type} [JsNumber N] (texts : Texts N)

/-- `HISTORICAL_QUANTITY_TOLERANCE` -/
def quantityTolerance : N := number (1 / 1000000)

def closeEnough (actual expected tolerance : N) : Bool := le (abs (actual - expected)) tolerance

def trimmed (text : String) : String := String.ofList (strip text.toList)

def ownsFill (order : FillOrder N) (activity : FillActivity N) : Bool :=
  texts.toUpperCase activity.activityType == "FILL" && activity.tradingAccountId == some order.tradingAccountId &&
    activity.brokerOrderRecordId == some order.brokerOrderRecordId

def ownedFills (order : FillOrder N) (activities : List (FillActivity N)) : List (FillActivity N) :=
  activities.filter (ownsFill texts order)

/-- A fill that says the order is done. -/
def marksEnd (orderQty : N) (activity : FillActivity N) : Bool :=
  match activity.cumQty, activity.leavesQty with
  | some cumQty, some leavesQty => closeEnough (abs cumQty) (abs orderQty) quantityTolerance &&
      closeEnough (abs leavesQty) (number 0) quantityTolerance
  | _, _ => false

/-- The finite quantity and price of a fill. -/
def pricedFill (activity : FillActivity N) : Option (N × N) :=
  match activity.qty, activity.price with
  | some qty, some price => if isFinite qty && isFinite price then some (qty, price) else none
  | _, _ => none

def weightedAveragePrice (owned : List (FillActivity N)) : Option N :=
  let priced := (owned.filterMap pricedFill).filter fun (qty, _) => less (number 0) (abs qty)
  let pricedQty := priced.foldl (fun total (qty, _) => total + abs qty) (number 0)
  if less (number 0) pricedQty then
    some (priced.foldl (fun total (qty, price) => total + abs qty * price) (number 0) / pricedQty)
  else none

def summarizeLocalFillEvidence (order : FillOrder N) (activities : List (FillActivity N)) : FillSummary N :=
  let owned := ownedFills texts order activities
  match owned, order.orderQty with
  | [], _ => ⟨.none, none, none, none, none, 0⟩
  | _ :: _, none => ⟨.none, none, none, none, none, owned.length⟩
  | _ :: _, some orderQty =>
    let ordered := byKey (fun activity => activity.transactionTime.getD 0) owned
    let completion := ordered.reverse.find? (marksEnd orderQty)
    { classification := if completion.isSome then .full else .partially
      cumulativeQty := (completion.bind FillActivity.cumQty).or (ordered.getLast?.bind FillActivity.cumQty)
      leavesQty := (completion.bind FillActivity.leavesQty).or (ordered.getLast?.bind FillActivity.leavesQty)
      weightedAveragePrice := weightedAveragePrice owned
      completionTime := completion.bind FillActivity.transactionTime
      activityCount := owned.length }

def expectedBroker (order : FillOrder N) : String := texts.toLowerCase (trimmed order.expectedBroker)

/-- `!activity.broker?.trim() || activity.broker.trim().toLowerCase() !== expectedBroker` -/
def brokerConflicts (order : FillOrder N) (activity : FillActivity N) : Bool :=
  match activity.broker with
  | some broker => trimmed broker == "" || texts.toLowerCase (trimmed broker) != expectedBroker texts order
  | none => true

/-- `activity.orderId && activity.orderId !== args.brokerOrderId` -/
def orderConflicts (order : FillOrder N) (activity : FillActivity N) : Bool :=
  match activity.orderId with
  | some orderId => orderId != "" && orderId != order.brokerOrderId
  | none => false

def priceMissing (activity : FillActivity N) : Bool :=
  match activity.price with
  | some price => !isFinite price
  | none => true

def terminalMarkers (order : FillOrder N) (owned : List (FillActivity N)) : List (FillActivity N) :=
  match order.orderQty with
  | some orderQty => owned.filter (marksEnd orderQty)
  | none => []

/-- The texts of the terminal markers. -/
def markerText (activity : FillActivity N) : String :=
  let print (value : Option N) : String := match value with
    | some value => texts.print value
    | none => "null"
  print activity.cumQty ++ ":" ++ print activity.leavesQty

def pricedQty (owned : List (FillActivity N)) : N :=
  owned.foldl (fun total activity => total + match pricedFill activity with
    | some (qty, _) => abs qty
    | none => number 0) (number 0)

section

variable (order : FillOrder N)

def quantityConflicts (sum : N) : Bool :=
  match order.orderQty with
  | some orderQty => less (number 0) sum && !closeEnough sum (abs orderQty) quantityTolerance
  | none => false

/-- The contradictions of the owned fills, with the sum of their quantities. -/
def contradictionsOf (owned : List (FillActivity N)) (sum : N) : List Contradiction :=
  (if expectedBroker texts order == "" || owned.any (brokerConflicts texts order) then [.brokerIdentity] else []) ++
  (if owned.any (orderConflicts order) then [.brokerOrderIdentity] else []) ++
  (if 1 < ((terminalMarkers order owned).map (markerText texts)).dedup.length then [.terminalMarkers] else []) ++
  (if owned.any priceMissing then [.fillPrice] else []) ++
  (if quantityConflicts order sum then [.pricedQuantity] else [])

def assessHistoricalFullFillEvidence (activities : List (FillActivity N)) : FillAssessment N :=
  let summary := summarizeLocalFillEvidence texts order activities
  let owned := ownedFills texts order activities
  let contradictions := contradictionsOf texts order owned (pricedQty owned)
  { summary
    contradictions := contradictions.dedup
    deterministic := summary.classification == .full && contradictions.isEmpty
    ownedActivityIds := owned.map FillActivity.id }

end

end Source

section Verdict

variable {N : Type} [JsNumber N] {texts : Texts N} {order : FillOrder N} {activities others : List (FillActivity N)}

/-- What a full fill rests on. -/
structure FullFill (texts : Texts N) (order : FillOrder N) (activities : List (FillActivity N)) : Prop where
  quantity : ∃ orderQty, order.orderQty = some orderQty ∧
    (∃ fill ∈ ownedFills texts order activities, marksEnd orderQty fill = true) ∧
    (less (number 0) (pricedQty (ownedFills texts order activities)) = true →
      closeEnough (pricedQty (ownedFills texts order activities)) (abs orderQty) quantityTolerance = true)
  expected : expectedBroker texts order ≠ ""
  broker : ∀ fill ∈ ownedFills texts order activities, ∃ broker, fill.broker = some broker ∧ trimmed broker ≠ "" ∧
    texts.toLowerCase (trimmed broker) = expectedBroker texts order
  orderId : ∀ fill ∈ ownedFills texts order activities, ∀ orderId, fill.orderId = some orderId →
    orderId = "" ∨ orderId = order.brokerOrderId
  price : ∀ fill ∈ ownedFills texts order activities, ∃ price, fill.price = some price ∧ isFinite price = true
  markers : ∀ fill ∈ terminalMarkers order (ownedFills texts order activities),
    ∀ other ∈ terminalMarkers order (ownedFills texts order activities), markerText texts fill = markerText texts other

theorem classification_full : (summarizeLocalFillEvidence texts order activities).classification = .full ↔
    ∃ orderQty, order.orderQty = some orderQty ∧ ∃ fill ∈ ownedFills texts order activities, marksEnd orderQty fill = true := by
  unfold summarizeLocalFillEvidence
  cases owned : ownedFills texts order activities with
  | nil => simp
  | cons first later =>
    cases quantity : order.orderQty with
    | none => simp
    | some orderQty =>
      simp only [Option.some.injEq, exists_eq_left']
      rw [← owned]
      constructor
      · intro full
        split at full
        case isTrue found =>
          obtain ⟨fill, listed, marks⟩ := List.find?_isSome.mp found
          exact ⟨fill, mem_byKey.mp (List.mem_reverse.mp listed), marks⟩
        case isFalse => cases full
      · rintro ⟨fill, listed, marks⟩
        apply if_pos
        exact List.find?_isSome.mpr ⟨fill, List.mem_reverse.mpr (mem_byKey.mpr listed), marks⟩

variable {fill : FillActivity N}

omit [JsNumber N] in
theorem brokerConflicts_eq_false : brokerConflicts texts order fill = false ↔
    ∃ broker, fill.broker = some broker ∧ trimmed broker ≠ "" ∧ texts.toLowerCase (trimmed broker) = expectedBroker texts order := by
  unfold brokerConflicts
  cases fill.broker with
  | none => simp
  | some broker => simp

omit [JsNumber N] in
theorem orderConflicts_eq_false : orderConflicts order fill = false ↔
    ∀ orderId, fill.orderId = some orderId → orderId = "" ∨ orderId = order.brokerOrderId := by
  unfold orderConflicts
  cases fill.orderId with
  | none => simp
  | some orderId => simp [Classical.or_iff_not_imp_left]

theorem priceMissing_eq_false {fill : FillActivity N} : priceMissing fill = false ↔
    ∃ price, fill.price = some price ∧ isFinite price = true := by
  unfold priceMissing
  cases fill.price with
  | none => simp
  | some price => simp

theorem dedup_length_le_one {values : List String} :
    ¬ 1 < values.dedup.length ↔ ∀ value ∈ values, ∀ other ∈ values, value = other := by
  have nodup := List.nodup_dedup values
  have member {value : String} : value ∈ values.dedup ↔ value ∈ values := List.mem_dedup
  constructor
  · intro short value listed other found
    rw [← member] at listed found
    match distinct : values.dedup with
    | [] => exact absurd (distinct ▸ listed) List.not_mem_nil
    | [only] =>
      rw [distinct, List.mem_singleton] at listed found
      exact listed.trans found.symm
    | _ :: _ :: _ => simp [distinct] at short
  · intro same long
    match distinct : values.dedup with
    | [] => simp [distinct] at long
    | [_] => simp [distinct] at long
    | first :: second :: later =>
      rw [distinct] at nodup
      have equal := same first (member.mp (distinct ▸ List.mem_cons_self)) second
        (member.mp (distinct ▸ List.mem_cons_of_mem first List.mem_cons_self))
      exact (List.nodup_cons.mp nodup).1 (equal ▸ List.mem_cons_self)

theorem quantityConflicts_eq_false {sum : N} {orderQty : N} (quantity : order.orderQty = some orderQty) :
    quantityConflicts order sum = false ↔
      (less (number 0) sum = true → closeEnough sum (abs orderQty) quantityTolerance = true) := by
  unfold quantityConflicts
  simp only [quantity]
  cases less (number 0) sum <;> simp

/-- The verdict is positive for exactly the full fills. -/
theorem deterministic_iff :
    (assessHistoricalFullFillEvidence texts order activities).deterministic = true ↔ FullFill texts order activities := by
  unfold assessHistoricalFullFillEvidence contradictionsOf
  simp only [Bool.and_eq_true, beq_iff_eq, classification_full, List.isEmpty_iff, List.append_eq_nil_iff, ite_eq_right_iff,
    reduceCtorEq, imp_false, Bool.or_eq_true, not_or, Bool.not_eq_true, List.any_eq_false, dedup_length_le_one,
    List.mem_map, forall_exists_index, and_imp, forall_apply_eq_imp_iff₂]
  constructor
  · rintro ⟨⟨orderQty, quantity, marker⟩, ⟨⟨⟨⟨expected, broker⟩, orderId⟩, markers⟩, price⟩, conflicts⟩
    refine ⟨⟨orderQty, quantity, marker, (quantityConflicts_eq_false quantity).mp conflicts⟩, expected, ?_, ?_, ?_, markers⟩
    · exact fun fill member => brokerConflicts_eq_false.mp (broker fill member)
    · exact fun fill member => orderConflicts_eq_false.mp (orderId fill member)
    · exact fun fill member => priceMissing_eq_false.mp (price fill member)
  · rintro ⟨⟨orderQty, quantity, marker, sum⟩, expected, broker, orderId, price, markers⟩
    refine ⟨⟨orderQty, quantity, marker⟩, ⟨⟨⟨⟨expected, ?_⟩, ?_⟩, markers⟩, ?_⟩, (quantityConflicts_eq_false quantity).mpr sum⟩
    · exact fun fill member => brokerConflicts_eq_false.mpr (broker fill member)
    · exact fun fill member => orderConflicts_eq_false.mpr (orderId fill member)
    · exact fun fill member => priceMissing_eq_false.mpr (price fill member)

end Verdict

section Order

variable {N : Type} [JsNumber N] {texts : Texts N} {order : FillOrder N} {activities others : List (FillActivity N)}

omit [JsNumber N] in
theorem ownedFills_perm (same : activities.Perm others) :
    (ownedFills texts order activities).Perm (ownedFills texts order others) :=
  same.filter _

variable {owned rows : List (FillActivity N)}

theorem terminalMarkers_perm (same : owned.Perm rows) : (terminalMarkers order owned).Perm (terminalMarkers order rows) := by
  unfold terminalMarkers
  cases order.orderQty with
  | none => exact List.Perm.refl _
  | some orderQty => exact same.filter _

/-- The contradictions are those of the fills and of the sum of their quantities. -/
theorem contradictionsOf_perm (same : owned.Perm rows) (sum : N) :
    contradictionsOf texts order owned sum = contradictionsOf texts order rows sum := by
  have markers : ((terminalMarkers order owned).map (markerText texts)).dedup.length =
      ((terminalMarkers order rows).map (markerText texts)).dedup.length :=
    (((terminalMarkers_perm same).map (markerText texts)).dedup).length_eq
  have any (test : FillActivity N → Bool) : owned.any test = rows.any test := same.any_eq
  unfold contradictionsOf
  rw [any, any, any, markers]

theorem classification_perm (same : activities.Perm others) :
    ((summarizeLocalFillEvidence texts order activities).classification == .full) =
      ((summarizeLocalFillEvidence texts order others).classification == .full) := by
  rw [Bool.eq_iff_iff, beq_iff_eq, beq_iff_eq, classification_full, classification_full]
  simp only [(ownedFills_perm same).mem_iff]

/-- The verdict and the contradictions of an assessment. -/
def FillAssessment.told (assessment : FillAssessment N) : Bool × List Contradiction :=
  (assessment.deterministic, assessment.contradictions)

theorem told_perm (same : activities.Perm others)
    (sum : pricedQty (ownedFills texts order activities) = pricedQty (ownedFills texts order others)) :
    (assessHistoricalFullFillEvidence texts order activities).told =
      (assessHistoricalFullFillEvidence texts order others).told := by
  have contradictions : ∀ sum, contradictionsOf texts order (ownedFills texts order activities) sum =
      contradictionsOf texts order (ownedFills texts order others) sum := contradictionsOf_perm (ownedFills_perm same)
  unfold assessHistoricalFullFillEvidence FillAssessment.told
  simp only [classification_perm same, contradictions, sum]

/-- Where addition does not round, the sum of the quantities is that of the rows. -/
theorem pricedQty_perm (exact_ : ∀ a b c : N, a + b + c = a + c + b) {owned rows : List (FillActivity N)}
    (same : owned.Perm rows) : pricedQty owned = pricedQty rows := by
  have : RightCommutative fun (total : N) (activity : FillActivity N) => total + match pricedFill activity with
      | some (qty, _) => abs qty
      | none => number 0 := ⟨fun total first second => exact_ total _ _⟩
  exact same.foldl_eq _

/-- The verdict is positive for exactly the full fills; the order of the list only shows in the rounding of a sum. -/
theorem assessHistoricalFullFillEvidence_sound (texts : Texts N) (order : FillOrder N) (activities : List (FillActivity N)) :
    ((assessHistoricalFullFillEvidence texts order activities).deterministic = true ↔ FullFill texts order activities) ∧
    ∀ others, activities.Perm others →
      (pricedQty (ownedFills texts order activities) = pricedQty (ownedFills texts order others) ∨
        ∀ a b c : N, a + b + c = a + c + b) →
      (assessHistoricalFullFillEvidence texts order activities).told =
        (assessHistoricalFullFillEvidence texts order others).told := by
  refine ⟨deterministic_iff, fun others same sum => told_perm same ?_⟩
  exact sum.elim id fun exact_ => pricedQty_perm exact_ (ownedFills_perm same)

end Order

/-- The case mappings of texts that have no letter to map. -/
def plainTexts {N : Type} (print : N → String) : Texts N := ⟨id, id, print⟩

/-- A fill of an order that names no order, with a price of one. -/
def halfFill {N : Type} [JsNumber N] (id : Nat) (qty cumQty leavesQty : Option ℚ) : FillActivity N :=
  ⟨id, "FILL", qty.map number, cumQty.map number, leavesQty.map number, some (number 1), some id, some 7, some 11, none,
    some "alpaca"⟩

def halfOrder {N : Type} [JsNumber N] (qty : ℚ) : FillOrder N := ⟨some (number qty), 7, 11, "synthetic-order", "alpaca"⟩

section Exact

attribute [local instance] exactNumber

/-- Two halves of one share. -/
def halves : List (FillActivity ℚ) :=
  [halfFill 1 (some (1 / 2)) (some (1 / 2)) (some (1 / 2)), halfFill 2 (some (1 / 2)) (some 1) (some 0)]

theorem assessHistoricalFullFillEvidence_sound_halves :
    FullFill (plainTexts fun value : ℚ => toString value) (halfOrder 1) halves ∧
    (assessHistoricalFullFillEvidence (plainTexts fun value : ℚ => toString value) (halfOrder 1) halves).told =
      (assessHistoricalFullFillEvidence (plainTexts fun value : ℚ => toString value) (halfOrder 1) halves.reverse).told := by
  have sound := assessHistoricalFullFillEvidence_sound (plainTexts fun value : ℚ => toString value) (halfOrder 1) halves
  exact ⟨sound.1.mp (by decide +kernel), sound.2 _ (List.reverse_perm _).symm (.inr fun a b c => add_right_comm a b c)⟩

end Exact

section Doubles

attribute [local instance] doubleNumber

def doubleTexts : Texts Float :=
  plainTexts fun value => if value == 0 then "0" else if value == 2 then "2" else "0.600001"

theorem assessHistoricalFullFillEvidence_unsound :
    -- A fill that names no order and has no quantity is taken for the whole order.
    (assessHistoricalFullFillEvidence doubleTexts (halfOrder 2) [halfFill 1 none (some 2) (some 0)]).told = (true, []) ∧
    -- The same three fills are taken for the whole order in one order of the list only.
    (assessHistoricalFullFillEvidence doubleTexts (halfOrder (600001 / 1000000))
      [halfFill 1 (some (1 / 10)) none none, halfFill 2 (some (2 / 10)) none none,
        halfFill 3 (some (3 / 10)) (some (600001 / 1000000)) (some 0)]).told = (true, []) ∧
    (assessHistoricalFullFillEvidence doubleTexts (halfOrder (600001 / 1000000))
      [halfFill 3 (some (3 / 10)) (some (600001 / 1000000)) (some 0), halfFill 2 (some (2 / 10)) none none,
        halfFill 1 (some (1 / 10)) none none]).told = (false, [.pricedQuantity]) := by
  decide +kernel

end Doubles

end AiTrader.Repair
