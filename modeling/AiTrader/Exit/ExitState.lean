import AiTrader.Exit.ExitStore
import AiTrader.Library.Table

/-! # Exit states

Every write goes by the position, or by the client order id of its trailing order, and looks at nothing that it
overwrites. -/

namespace AiTrader.Exit

open Library Library.Program Entry

def mapTrailingStopOrderStatusToExitStateStatus (orderStatus : OrderStatus) : ExitStateStatus :=
  match normalizeBrokerOrderStatus orderStatus with
  | .filled => .trailingStopFilled
  | .canceled => .trailingStopCanceled
  | .expired => .trailingStopExpired
  | .rejected => .trailingStopRejected
  | .replaced => .trailingStopReplacedAttention
  | .doneForDay => .trailingStopDoneForDayAttention
  | .calculated => .trailingStopCalculatedAttention
  | _ => .trailingStopSubmitted

def buildAttentionRequiredData (code message : String) (now : Int) (row : PositionExitState) : PositionExitState :=
  { row with
    attentionRequired := true
    attentionCode := some code
    attentionMessage := some message
    attentionAt := some now
    attentionClearedAt := none }

def buildAttentionClearedData (now : Int) (row : PositionExitState) : PositionExitState :=
  { row with
    attentionRequired := false
    attentionCode := none
    attentionMessage := none
    attentionAt := none
    attentionClearedAt := some now }

def buildTrailingStopOrderStatusAttentionData (orderStatus : OrderStatus) : Int → PositionExitState → PositionExitState :=
  match normalizeBrokerOrderStatus orderStatus with
  | .filled => buildAttentionClearedData
  | .rejected => buildAttentionRequiredData "trail_order_rejected"
      "Protective trailing stop order was rejected by the broker."
  | .canceled => buildAttentionRequiredData "trail_order_canceled" "Protective trailing stop order was canceled."
  | .expired => buildAttentionRequiredData "trail_order_expired" "Protective trailing stop order expired."
  | .replaced => buildAttentionRequiredData "trail_order_replaced_unlinked"
      "Protective trailing stop order was replaced, but no verified replacement is linked."
  | .doneForDay => buildAttentionRequiredData "trail_order_done_for_day"
      "Protective trailing stop order reached done_for_day while exposure may remain."
  | .calculated => buildAttentionRequiredData "trail_order_calculated"
      "Protective trailing stop order reached calculated while exposure may remain."
  | _ => buildAttentionClearedData

/-- The statuses with which a trailing order has ended without its fill. -/
def lostProtectionStatuses : List OrderStatus :=
  [.canceled, .expired, .rejected, .replaced, .doneForDay, .calculated]

section

variable (orderStatus : OrderStatus)

/-- The order protects the position no more. -/
def isLost : Bool := lostProtectionStatuses.contains (normalizeBrokerOrderStatus orderStatus)

theorem buildTrailingStopOrderStatusAttentionData_required (now : Int) (row : PositionExitState) :
    (buildTrailingStopOrderStatusAttentionData orderStatus now row).attentionRequired = isLost orderStatus := by
  unfold buildTrailingStopOrderStatusAttentionData isLost
  cases normalizeBrokerOrderStatus orderStatus <;> rfl

theorem buildTrailingStopOrderStatusAttentionData_frame (now : Int) (row : PositionExitState) :
    ∃ required code message required' cleared, buildTrailingStopOrderStatusAttentionData orderStatus now row = { row with
      attentionRequired := required
      attentionCode := code
      attentionMessage := message
      attentionAt := required'
      attentionClearedAt := cleared } := by
  unfold buildTrailingStopOrderStatusAttentionData
  cases normalizeBrokerOrderStatus orderStatus <;> exact ⟨_, _, _, _, _, rfl⟩

end

section Writes

/-- The columns of a new exit state, from its exit profile. -/
def initialExitState (trackedPositionId : Nat) (exitProfile : Option ExitProfile) : PositionExitState where
  id := 0
  trackedPositionId := trackedPositionId
  exitManagementModeSnapshot := .backendManaged
  status := .watching
  targetUnlocked := false
  targetUnlockedAt := none
  targetUnlockedPrice := none
  targetUnlockedPnlPct := none
  highWaterMark := none
  trailStopPrice := none
  exitProfileKey := exitProfile.map (·.key)
  exitMode := exitProfile.map (·.exitMode)
  takeProfitBehavior := exitProfile.map (·.takeProfitBehavior)
  targetPct := exitProfile.bind (·.targetPct)
  trailingStopPct := exitProfile.bind (·.trailingStopPct)
  trailBroker := none
  trailBrokerOrderId := none
  trailClientOrderId := none
  trailOrderStatus := none
  attentionRequired := false
  attentionCode := none
  attentionMessage := none
  attentionAt := none
  attentionClearedAt := none

/-- `prisma.positionExitState.update` by the position. -/
def updateExitState (trackedPositionId : Nat) (event : ExitEvent) (change : PositionExitState → PositionExitState)
    (store : ExitStore) : Except ExitError (PositionExitState × ExitStore) :=
  match store.exitState trackedPositionId with
  | none => .error (.plain "No PositionExitState was found.")
  | some row =>
    .ok (change row, (store.updateExitStates fun other =>
      if other.trackedPositionId = trackedPositionId then change other else other).record event)

def nextExitStateId (store : ExitStore) : Nat := Table.nextId (store.exitStates.map (·.id))

/-- `prisma.positionExitState.create` -/
def createExitState (row : PositionExitState) (event : ExitEvent) (store : ExitStore) :
    Except ExitError (PositionExitState × ExitStore) :=
  match store.exitState row.trackedPositionId with
  | some _ => .error (.plain "Unique constraint failed on the fields: (`trackedPositionId`)")
  | none =>
    let created := { row with id := nextExitStateId store }
    .ok (created, { store with exitStates := store.exitStates ++ [created] }.record event)

def getPositionWithExitProfile (trackedPositionId : Nat) : ExitProgram TrackedPosition := do
  match ← read fun store => store.position trackedPositionId with
  | none => throw (.plain s!"Tracked position {trackedPositionId} was not found.")
  | some position => return position

def ensurePositionExitState (trackedPositionId : Nat) : ExitProgram PositionExitState := do
  match ← read fun store => store.exitState trackedPositionId with
  | some existing => return existing
  | none =>
    let position ← getPositionWithExitProfile trackedPositionId
    commit (createExitState (initialExitState trackedPositionId position.exitProfile) (.created trackedPositionId))

/-- An upsert: the columns of the first argument when there is no row, the change of the row otherwise. -/
def upsertExitState (row : PositionExitState) (event : ExitEvent) (change : PositionExitState → PositionExitState)
    (store : ExitStore) : Except ExitError (PositionExitState × ExitStore) :=
  match store.exitState row.trackedPositionId with
  | none => createExitState row event store
  | some _ => updateExitState row.trackedPositionId event change store

def resetPositionExitStateForOpenPosition (trackedPositionId : Nat) : ExitProgram PositionExitState := do
  let position ← getPositionWithExitProfile trackedPositionId
  let row := initialExitState trackedPositionId position.exitProfile
  commit (upsertExitState row (.reset trackedPositionId) fun other =>
    { row with id := other.id, exitManagementModeSnapshot := other.exitManagementModeSnapshot })

def calculateTrailStopPrice (highWaterMark trailingStopPct : ℚ) : ℚ := highWaterMark * (1 - trailingStopPct / 100)

structure UnlockTrailingStopArgs where
  trackedPositionId : Nat
  (currentPrice pnlPct targetPct trailingStopPct : ℚ)

def unlockTrailingStopExitState (args : UnlockTrailingStopArgs) : ExitProgram PositionExitState := do
  let now ← (answer : ExitProgram Int)
  commit (updateExitState args.trackedPositionId (.unlocked args.trackedPositionId) fun row =>
    { row with
      status := .targetUnlocked
      targetUnlocked := true
      targetUnlockedAt := some now
      targetUnlockedPrice := some args.currentPrice
      targetUnlockedPnlPct := some args.pnlPct
      highWaterMark := some args.currentPrice
      trailStopPrice := some (calculateTrailStopPrice args.currentPrice args.trailingStopPct)
      targetPct := some args.targetPct
      trailingStopPct := some args.trailingStopPct })

variable (toISOString : Int → String)

def markTrailingStopOrderSubmitted (name : TrailName) (brokerOrderId : String) (orderStatus : OrderStatus) :
    ExitProgram PositionExitState := do
  let now ← (answer : ExitProgram Int)
  commit (updateExitState name.trackedPositionId (.recorded name orderStatus) fun row =>
    buildTrailingStopOrderStatusAttentionData orderStatus now { row with
      status := mapTrailingStopOrderStatusToExitStateStatus orderStatus
      trailBroker := some "alpaca"
      trailBrokerOrderId := some brokerOrderId
      trailClientOrderId := some (buildTrailingStopClientOrderId toISOString name)
      trailOrderStatus := some (normalizeBrokerOrderStatus orderStatus) })

def markTrailingStopOrderSubmitFailed (trackedPositionId : Nat) : ExitProgram PositionExitState := do
  let now ← (answer : ExitProgram Int)
  commit (updateExitState trackedPositionId (.submitFailed trackedPositionId) fun row =>
    buildAttentionRequiredData "trail_submit_failed" "Protective trailing stop order submission failed." now { row with
      status := .trailingStopSubmitFailed
      trailOrderStatus := some (.unlisted "submit_failed") })

def markPositionExitStateClosed (trackedPositionId : Nat) : ExitProgram PositionExitState := do
  let now ← (answer : ExitProgram Int)
  let created : PositionExitState :=
    { initialExitState trackedPositionId none with status := .closed, attentionClearedAt := some now }
  commit (upsertExitState created (.closed trackedPositionId) fun row =>
    buildAttentionClearedData now { row with status := .closed })

section

variable (tradingAccountId : Nat)

/-- The positions of an account whose exit state names the client order id. -/
def trailPositions (clientOrderId : String) (store : ExitStore) : List Nat :=
  (store.exitStates.filter fun row => row.trailClientOrderId == some clientOrderId &&
    (store.position row.trackedPositionId).any fun position => position.tradingAccountId == some tradingAccountId).map
      (·.trackedPositionId)

/-- `prisma.positionExitState.updateMany` by the client order id, within the account. -/
def updateTrailingStatus (clientOrderId brokerOrderId : String) (orderStatus : OrderStatus)
    (now : Int) (store : ExitStore) : Except ExitError (Nat × ExitStore) :=
  let found := trailPositions tradingAccountId clientOrderId store
  .ok (found.length, (store.updateExitStates fun row =>
    if row.trackedPositionId ∈ found then
      buildTrailingStopOrderStatusAttentionData orderStatus now { row with
        status := mapTrailingStopOrderStatusToExitStateStatus orderStatus
        trailOrderStatus := some (normalizeBrokerOrderStatus orderStatus)
        trailBrokerOrderId := some brokerOrderId }
    else row).record (.synced clientOrderId orderStatus found))

def syncTrailingStopOrderStatus (clientOrderId brokerOrderId : String) (orderStatus : OrderStatus) :
    ExitProgram Nat := do
  let now ← (answer : ExitProgram Int)
  commit (updateTrailingStatus tradingAccountId clientOrderId brokerOrderId orderStatus now)

end

def markPositionExitStateAttentionRequired (trackedPositionId : Nat) (code message : String) :
    ExitProgram PositionExitState := do
  let now ← (answer : ExitProgram Int)
  commit (updateExitState trackedPositionId (.missing trackedPositionId) (buildAttentionRequiredData code message now))

end Writes

end AiTrader.Exit
