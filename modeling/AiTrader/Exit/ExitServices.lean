import AiTrader.Exit.ExitStateViews
import AiTrader.Exit.VerifiedExitRuns

/-! # The services of the exits

Every service keeps the exit states as the log tells, whatever the others do meanwhile. -/

namespace AiTrader.Exit

open Library Library.Program Entry

variable {α : Type} {fault : ExitError → Prop} {store : ExitStore}

section Statements

variable (toISOString : Int → String)

/-- What the services do, and rely on. -/
def exitContract : Contract ExitStore :=
  growth (Consistent toISOString) Grown Grown.refl fun early late => early.trans late

abbrev Keeps (fault : ExitError → Prop) {α : Type} (program : ExitProgram α) : Prop :=
  program.Harmless (exitContract toISOString) fault

variable {toISOString}

theorem keeps_commit {body : ExitStore → Except ExitError (α × ExitStore)}
    (neutral : ∀ current value after, body current = .ok (value, after) → Neutral current after) :
    Keeps toISOString fault (commit body : ExitProgram α) :=
  harmless_commit fun current value after consistent success =>
    ⟨(neutral current value after success).grown, consistent.neutral (neutral current value after success)⟩

theorem keeps_write {update : ExitStore → ExitStore} (neutral : ∀ current, Neutral current (update current)) :
    Keeps toISOString fault (write update : ExitProgram Unit) :=
  harmless_write fun current consistent => ⟨(neutral current).grown, consistent.neutral (neutral current)⟩

theorem keeps_brokerRead {view : ExitStore → α} : Keeps toISOString fault (brokerRead view) := by
  refine harmless_answer.bind fun reply => ?_
  cases reply with
  | some _ => exact harmless_throw
  | none => exact harmless_read

theorem keeps_elsewhere : Keeps toISOString fault (elsewhere : ExitProgram Unit) := by
  refine harmless_answer.bind fun reply => ?_
  cases reply with
  | some _ => exact harmless_throw
  | none => exact harmless_pure

theorem neutral_updateIntents {change : OrderIntent → OrderIntent} : Neutral store (store.updateIntents change) :=
  neutral_of_positions rfl rfl rfl

theorem neutral_updateBrokerOrders (change : BrokerOrder → BrokerOrder) : Neutral store (store.updateBrokerOrders change) :=
  neutral_of_positions rfl rfl rfl

theorem neutral_createIntent (row : Nat → OrderIntent) : Neutral store (createIntent row store).2 :=
  neutral_of_positions rfl rfl rfl

theorem neutral_fileBrokerOrder (order : Nat → BrokerOrder) : Neutral store (fileBrokerOrder order store) := by
  unfold fileBrokerOrder
  dsimp only
  split
  · exact neutral_updateBrokerOrders _
  · exact neutral_of_positions rfl rfl rfl

theorem neutral_setPositionStatus (trackedPositionId : Nat) {before after : PositionStatus} (unclosed : before ≠ .closed) :
    Neutral store (setPositionStatus trackedPositionId before after store) := by
  refine neutral_updatePositions (fun row => ?_) fun id closed row member same => ?_
  · split_ifs <;> rfl
  · have here := closed.2 row member same
    rw [if_neg (fun own => unclosed (own.2.symm.trans here))]
    exact here

end Statements

variable {trackedPositionId tradingAccountId : Nat} {now : Int} {toISOString : Int → String}

section States

variable {orderStatus : OrderStatus}

theorem shown_attention {view : ExitView} {row : PositionExitState}
    (status : row.status = view.status) (trail : row.trailClientOrderId =
      view.trail.map (buildTrailingStopClientOrderId toISOString)) (attention : view.attentionRequired = isLost orderStatus) :
    Shown toISOString view (buildTrailingStopOrderStatusAttentionData orderStatus now row) := by
  have required := buildTrailingStopOrderStatusAttentionData_required orderStatus now row
  obtain ⟨_, _, _, _, _, frame⟩ := buildTrailingStopOrderStatusAttentionData_frame orderStatus now row
  exact ⟨by rw [frame]; exact status, required.trans attention.symm, by rw [frame]; exact trail⟩

theorem attentionData_trackedPositionId (orderStatus : OrderStatus) (now : Int) (row : PositionExitState) :
    (buildTrailingStopOrderStatusAttentionData orderStatus now row).trackedPositionId = row.trackedPositionId := by
  obtain ⟨_, _, _, _, _, frame⟩ := buildTrailingStopOrderStatusAttentionData_frame orderStatus now row
  rw [frame]

theorem keeps_update {id : Nat} {event : ExitEvent} {change : PositionExitState → PositionExitState}
    (writes : Writes toISOString event id change) (open' : ∀ position, event ≠ .closed position) :
    Keeps toISOString fault (commit (updateExitState id event change) : ExitProgram PositionExitState) :=
  harmless_commit fun _ _ _ consistent ran =>
    (consistent.updateExitState writes (fun position same => absurd same (open' position)) ran).symm

theorem getPositionWithExitProfile_keeps : Keeps toISOString fault (getPositionWithExitProfile trackedPositionId) := by
  refine harmless_read.bind fun position => ?_
  cases position with
  | none => exact harmless_throw
  | some position => exact harmless_pure

/-- What a new exit state is shown as. -/
theorem shown_initial {id : Nat} (exitProfile : Option ExitProfile) {view : ExitView} (initial : view = .initial) :
    Shown toISOString view (initialExitState id exitProfile) := by
  rw [initial]
  exact ⟨rfl, rfl, rfl⟩

theorem ensurePositionExitState_keeps : Keeps toISOString fault (ensurePositionExitState trackedPositionId) := by
  refine harmless_read.bind fun existing => ?_
  cases existing with
  | some existing => exact harmless_pure
  | none =>
    refine getPositionWithExitProfile_keeps.bind fun position => harmless_commit
      fun _ _ _ consistent ran => ?_
    have initial : (ExitEvent.created trackedPositionId).view trackedPositionId .initial = .initial := if_pos rfl
    exact (consistent.createExitState rfl (shown_initial _ initial) nofun ran).symm

theorem resetPositionExitStateForOpenPosition_keeps (trackedPositionId : Nat) :
    Keeps toISOString fault (resetPositionExitStateForOpenPosition trackedPositionId) := by
  refine getPositionWithExitProfile_keeps.bind fun position => harmless_commit
    fun current _ _ consistent ran => ?_
  have initial : ∀ view : ExitView, (ExitEvent.reset trackedPositionId).view trackedPositionId view = .initial :=
    fun _ => if_pos rfl
  unfold upsertExitState at ran
  split at ran
  · exact (consistent.createExitState rfl (shown_initial _ (initial _)) nofun ran).symm
  · have writes : Writes toISOString (.reset trackedPositionId) trackedPositionId fun other =>
        { initialExitState trackedPositionId position.exitProfile with
          id := other.id
          exitManagementModeSnapshot := other.exitManagementModeSnapshot } := by
      refine ⟨rfl, fun row own => own.symm, fun view row _ _ => ?_⟩
      rw [initial]
      exact ⟨rfl, rfl, rfl⟩
    exact (consistent.updateExitState writes nofun ran).symm

theorem unlockTrailingStopExitState_keeps (args : UnlockTrailingStopArgs) :
    Keeps toISOString fault (unlockTrailingStopExitState args) := by
  refine harmless_answer.bind fun now => keeps_update ⟨rfl, fun _ _ => rfl, fun view row _ shown => ?_⟩
    nofun
  rw [show (ExitEvent.unlocked args.trackedPositionId).view args.trackedPositionId view =
    { view with status := .targetUnlocked } from if_pos rfl]
  exact ⟨rfl, shown.attention, shown.trail⟩

variable {brokerOrderId : String}

theorem markTrailingStopOrderSubmitted_keeps {name : TrailName} :
    Keeps toISOString fault (markTrailingStopOrderSubmitted toISOString name brokerOrderId orderStatus) := by
  refine harmless_answer.bind fun now => keeps_update
    ⟨rfl, fun row _ => attentionData_trackedPositionId _ _ _, fun view row _ shown => ?_⟩
      nofun
  rw [show (ExitEvent.recorded name orderStatus).view name.trackedPositionId view =
    ⟨mapTrailingStopOrderStatusToExitStateStatus orderStatus, isLost orderStatus, some name⟩ from if_pos rfl]
  exact shown_attention rfl rfl rfl

theorem markTrailingStopOrderSubmitFailed_keeps :
    Keeps toISOString fault (markTrailingStopOrderSubmitFailed trackedPositionId) := by
  refine harmless_answer.bind fun now => keeps_update ⟨rfl, fun _ _ => rfl, fun view row _ shown => ?_⟩
    nofun
  rw [show (ExitEvent.submitFailed trackedPositionId).view trackedPositionId view =
    { view with status := .trailingStopSubmitFailed, attentionRequired := true } from if_pos rfl]
  exact ⟨rfl, rfl, shown.trail⟩

theorem markPositionExitStateAttentionRequired_keeps (trackedPositionId : Nat) (code message : String) :
    Keeps toISOString fault (markPositionExitStateAttentionRequired trackedPositionId code message) := by
  refine harmless_answer.bind fun now => keeps_update ⟨rfl, fun _ _ => rfl, fun view row _ shown => ?_⟩
    nofun
  rw [show (ExitEvent.missing trackedPositionId).view trackedPositionId view =
    { view with attentionRequired := true } from if_pos rfl]
  exact ⟨shown.status, rfl, shown.trail⟩

theorem markPositionExitStateClosed_keeps (closed : Closed store trackedPositionId) :
    (markPositionExitStateClosed trackedPositionId).Returns (exitContract toISOString) fault (fun _ _ => True) store := by
  have answered : (answer : ExitProgram Int).Returns (exitContract toISOString) fault
      (fun _ current => Closed current trackedPositionId) store := returns_answer fun _ => closed
  refine answered.bind fun now middle still => returns_commit fun current value after relied consistent ran => ?_
  have here : ∀ position, ExitEvent.closed trackedPositionId = .closed position → Closed current position := by
    rintro _ ⟨⟩
    exact relied.2 trackedPositionId still
  unfold upsertExitState at ran
  split at ran
  · have shown : Shown toISOString ((ExitEvent.closed trackedPositionId).view trackedPositionId .initial)
        { initialExitState trackedPositionId none with status := .closed, attentionClearedAt := some now } := by
      rw [show (ExitEvent.closed trackedPositionId).view trackedPositionId .initial =
        { ExitView.initial with status := .closed, attentionRequired := false } from if_pos rfl]
      exact ⟨rfl, rfl, rfl⟩
    obtain ⟨kept, grown⟩ := consistent.createExitState rfl shown here ran
    exact ⟨grown, kept, trivial⟩
  · have writes : Writes toISOString (.closed trackedPositionId) trackedPositionId fun row =>
        buildAttentionClearedData now { row with status := .closed } := by
      refine ⟨rfl, fun _ _ => rfl, fun view row _ shown => ?_⟩
      rw [show (ExitEvent.closed trackedPositionId).view trackedPositionId view =
        { view with status := .closed, attentionRequired := false } from if_pos rfl]
      exact ⟨rfl, rfl, shown.trail⟩
    obtain ⟨kept, grown⟩ := consistent.updateExitState writes here ran
    exact ⟨grown, kept, trivial⟩

variable {clientOrderId : String}

theorem mem_trailPositions {id : Nat} (member : id ∈ trailPositions tradingAccountId clientOrderId store) :
    ∃ row ∈ store.exitStates, row.trackedPositionId = id ∧ row.trailClientOrderId = some clientOrderId := by
  obtain ⟨row, found, rfl⟩ := List.mem_map.mp member
  obtain ⟨present, selected⟩ := List.mem_filter.mp found
  rw [Bool.and_eq_true, beq_iff_eq] at selected
  exact ⟨row, present, rfl, selected.1⟩

theorem syncTrailingStopOrderStatus_keeps :
    Keeps toISOString fault (syncTrailingStopOrderStatus tradingAccountId clientOrderId brokerOrderId orderStatus) := by
  refine harmless_answer.bind fun now => harmless_commit fun current _ _ consistent ran => ?_
  cases ran
  refine (consistent.update (fun row => ?_) (fun row member => ?_) (fun other missing => ?_) ?_
    fun _ impossible => by cases impossible).symm
  · split_ifs
    · exact attentionData_trackedPositionId _ _ _
    · rfl
  · have shown := consistent.shown row member
    simp only [ExitEvent.view]
    split_ifs
    · exact shown_attention rfl shown.trail rfl
    · exact shown
  · refine if_neg fun member => ?_
    obtain ⟨row, present, same, _⟩ := mem_trailPositions member
    exact exitState_eq_none.mp missing row present same
  · intro id member
    obtain ⟨row, present, rfl, client⟩ := mem_trailPositions member
    exact (consistent.shown row present).trail.symm.trans client

end States

section Submissions

/-- An exit comes from an order that was met under its client order id. -/
def MetAs (type : ExitOrderType) (clientOrderId : String) (log : List ExitEvent) : VerifiedExitSubmissionResult → Prop
  | .recoveredLocal brokerOrderId => ∃ status, .metLocal type clientOrderId brokerOrderId status ∈ log
  | .recoveredBroker order | .submitted order =>
    order.clientOrderId = clientOrderId ∧ .met type clientOrderId order.id order.status ∈ log

theorem block_keeps {context : VerifiedExitContext} {outcome : ExitVerificationOutcome} {message : String} :
    Keeps toISOString fault (block context outcome message : ExitProgram α) := by
  refine harmless_answer.bind fun now => (keeps_write fun _ => neutral_updateIntents).bind fun _ =>
    (keeps_elsewhere).attempt.bind fun result => ?_
  cases result with
  | error _ => exact harmless_throw
  | ok _ => exact harmless_throw

variable {context : VerifiedExitContext}

theorem neutral_file (order : AlpacaOrder) (tradingAccountId : Nat) : Neutral store (store.file tradingAccountId order) :=
  ⟨rfl, ⟨[], (List.append_nil _).symm, by simp⟩, fun _ closed => closed⟩

theorem neutral_posted (clientOrderId : String) : Neutral store (store.record (.posted clientOrderId)) := neutral_record trivial

theorem neutral_met (type : ExitOrderType) (clientOrderId brokerOrderId : String) (status : OrderStatus) :
    Neutral store (store.record (.met type clientOrderId brokerOrderId status)) := neutral_record trivial

theorem submitVerifiedAlpacaExitOrder_returns (qty : String) :
    (submitVerifiedAlpacaExitOrder context qty).Returns (exitContract toISOString) fault
      (fun order current => MetAs context.type context.clientOrderId current.log (.submitted order)) store := by
  have sends : ∀ update : ExitStore → ExitStore, (∀ current, Neutral current (update current)) →
      (write update : ExitProgram Unit).Returns (exitContract toISOString) fault (fun _ _ => True) store :=
    fun update neutral => (keeps_write neutral).returns fun _ _ => trivial
  intro outcome
  cases outcome with
  | notSent => exact returns_throw
  | rejected message => exact (sends _ fun _ => neutral_posted _).bind fun _ _ _ => returns_throw
  | uncertain message arrived =>
    refine (sends _ fun current => ?_).bind fun _ _ _ => returns_throw
    cases arrived with
    | none => exact neutral_posted _
    | some order => exact (neutral_file _ _).trans (neutral_posted _)
  | accepted order =>
    have accepts : (write fun store => ((store.file context.tradingAccountId (context.filed qty order)).record
        (.posted context.clientOrderId)).record (.met context.type context.clientOrderId (context.filed qty order).id
          (context.filed qty order).status) : ExitProgram Unit).Returns (exitContract toISOString) fault
        (fun _ current => MetAs context.type context.clientOrderId current.log (.submitted (context.filed qty order)))
          store := by
      refine returns_commit fun current value after _ consistent ran => ?_
      cases ran
      have neutral : Neutral current _ := ((neutral_file (context.filed qty order) context.tradingAccountId).trans
        (neutral_posted context.clientOrderId)).trans (neutral_met context.type context.clientOrderId
          (context.filed qty order).id (context.filed qty order).status)
      exact ⟨neutral.grown, consistent.neutral neutral, rfl, by simp [ExitStore.record]⟩
    exact accepts.bind fun _ _ met => returns_pure met

theorem recoverFromBroker_returns :
    (recoverFromBroker context).Returns (exitContract toISOString) fault (fun found current => ∀ order, found = some order →
      MetAs context.type context.clientOrderId current.log (.recoveredBroker order)) store := by
  intro reply
  cases reply with
  | some message => exact returns_throw
  | none =>
    refine returns_commit fun current value after _ consistent ran => ?_
    split at ran
    case h_1 =>
      cases ran
      exact ⟨Grown.refl _, consistent, fun _ found => nomatch found⟩
    case h_2 order found =>
      cases ran
      have neutral : Neutral current _ := neutral_met context.type context.clientOrderId order.id order.status
      refine ⟨neutral.grown, consistent.neutral neutral, ?_⟩
      rintro _ ⟨⟩
      exact ⟨by simpa using List.find?_some found, by simp [ExitStore.record]⟩

theorem recoverLocally_returns :
    (recoverLocally context).Returns (exitContract toISOString) fault (fun found current => ∀ brokerOrderId,
      found = some brokerOrderId → MetAs context.type context.clientOrderId current.log (.recoveredLocal brokerOrderId))
        store := by
  refine returns_commit fun current value after _ consistent ran => ?_
  split at ran
  case h_1 =>
    cases ran
    exact ⟨Grown.refl _, consistent, nofun⟩
  case h_2 row found =>
    cases ran
    have neutral : Neutral current (current.record (.metLocal context.type context.clientOrderId row.id
      ((current.alpacaOrderById context.tradingAccountId row.brokerOrderId).map (·.status)))) := neutral_record trivial
    refine ⟨neutral.grown, consistent.neutral neutral, ?_⟩
    rintro _ ⟨⟩
    exact ⟨_, List.mem_append_right _ (List.mem_singleton.mpr rfl)⟩

variable {program : ExitProgram α}

/-- What the log tells it tells after a program that is kept. -/
theorem keeps_logged (keeps : Keeps toISOString fault program)
    {told : List ExitEvent → Prop} (later : ∀ log longer, log <+: longer → told log → told longer) (here : told store.log) :
    program.Returns (exitContract toISOString) fault (fun _ current => told current.log) store := by
  have returns : program.Returns (exitContract toISOString) fault (fun _ _ => True) store := keeps.returns fun _ _ => trivial
  exact (returns.keeping (fun _ _ grown => later _ _ grown.1) (fun _ _ grown => later _ _ grown.1) here).mono
    fun _ _ both => both.2

/-- What is attempted returns what it returns. -/
theorem attempt_returns {held : α → ExitStore → Prop}
    (returns : program.Returns (exitContract toISOString) fault held store) :
    program.attempt.Returns (exitContract toISOString) fault
      (fun result current => ∀ value, result = .ok value → held value current) store := by
  have both : program.attempt.Returns (exitContract toISOString) fault
      (fun result current => True ∧ ∀ value, result = .ok value → held value current) store :=
    Returns.attempt returns (fun _ _ _ kept => kept) (fun _ _ _ kept => kept) trivial
  exact both.mono fun _ _ both => both.2

theorem lookUpEvidence_keeps (what : String) (view : ExitStore → α) :
    Keeps toISOString fault (lookUpEvidence context what view) := by
  refine (keeps_brokerRead).attempt.bind fun found => ?_
  cases found with
  | ok found => exact harmless_pure
  | error _ => exact block_keeps

theorem readExitEvidence_keeps : Keeps toISOString fault (readExitEvidence context) :=
  (lookUpEvidence_keeps _ _).bind fun _ => (lookUpEvidence_keeps _ _).bind fun _ => harmless_pure

theorem placeVerifiedExit_returns (qty : String) :
    (placeVerifiedExit context qty).Returns (exitContract toISOString) fault
      (fun value current => MetAs context.type context.clientOrderId current.log value) store := by
  refine (attempt_returns (submitVerifiedAlpacaExitOrder_returns qty)).bind fun sent _ met => ?_
  match sent, met with
  | .ok order, met => exact returns_pure (met order rfl)
  | .error (.delivery .brokerRejected message), _ =>
    refine (attempt_returns (recoverFromBroker_returns)).bind fun found _ met => ?_
    match found, met with
    | .ok (some order), met => exact returns_pure (met _ rfl order rfl)
    | .ok none, _ | .error _, _ => exact returns_throw
  | .error (.delivery .deliveryUncertain _), _ | .error (.delivery .notSentBlocked _), _
  | .error (.delivery .notSentRetryable _), _ | .error (.http _), _ | .error (.preSubmission ..), _ | .error (.plain _), _
  | .error .databaseUnavailable, _ => exact returns_throw

theorem resolveClearedAttentions_keeps : Keeps toISOString fault (resolveClearedAttentions context) := by
  unfold resolveClearedAttentions
  cases context.verificationMode with
  | normalExactClose => exact keeps_elsewhere
  | correctiveRemainderClose => exact harmless_pure

theorem executeVerifiedExit_returns :
    (executeVerifiedExit context).Returns (exitContract toISOString) fault
      (fun value current => MetAs context.type context.clientOrderId current.log value) store := by
  have looked : (elsewhere : ExitProgram Unit).Returns (exitContract toISOString) fault (fun _ _ => True) store :=
    (keeps_elsewhere).returns fun _ _ => trivial
  refine looked.bind fun _ _ _ => (recoverLocally_returns).bind fun found _ met => ?_
  cases found with
  | some brokerOrderId => exact returns_pure (met brokerOrderId rfl)
  | none =>
    refine (attempt_returns (recoverFromBroker_returns)).bind fun found _ met => ?_
    match found, met with
    | .ok (some order), met => exact returns_pure (met _ rfl order rfl)
    | .error _, _ => exact block_throws (block_keeps)
    | .ok none, _ =>
      refine (readExitEvidence_keeps.returns fun _ _ => trivial).bind fun evidence _ (_ : True) => ?_
      obtain ⟨position, openOrders⟩ := evidence
      dsimp only
      cases verifyExit context position openOrders with
      | error refusal => exact block_throws (block_keeps)
      | ok intended =>
        refine (resolveClearedAttentions_keeps.returns fun _ _ => trivial).bind fun _ _ (_ : True) => ?_
        intro authorized
        cases authorized with
        | error refusal => exact returns_throw
        | ok => exact placeVerifiedExit_returns _

theorem submitVerifiedExit_returns :
    (submitVerifiedExit context).Returns (exitContract toISOString) fault
      (fun value current => MetAs context.type context.clientOrderId current.log value) store := by
  refine returns_ite (fun _ => returns_throw) fun _ => ?_
  intro outcome
  cases outcome with
  | acquired => exact executeVerifiedExit_returns
  | notAcquired | lockError => exact returns_throw

end Submissions

variable {position : TrackedPosition}

section Trailing

theorem persistTrailingStopOrder_keeps {name : TrailName} {order : AlpacaOrder} :
    Keeps toISOString fault (persistTrailingStopOrder toISOString tradingAccountId name order) :=
  persistTrailingStopOrder_harmless toISOString
    (fun row _ => keeps_commit fun current _ _ ran => by
      cases ran
      exact neutral_createIntent row)
    (fun row => keeps_write fun _ => neutral_fileBrokerOrder row)
    (fun _ _ _ => keeps_write fun _ => neutral_updateIntents)
    (fun name brokerOrderId orderStatus => markTrailingStopOrderSubmitted_keeps)
    tradingAccountId name order

variable {request : TrailingRequest}

theorem claimTrailingStop_keeps (own : request.name.trackedPositionId = request.position.id)
    (now : Int) : Keeps toISOString fault (commit (claimTrailingStop toISOString request now)) := by
  refine harmless_commit fun current value after consistent ran => ?_
  simp only [claimTrailingStop] at ran
  split at ran
  case h_1 existing _ =>
    split_ifs at ran
    cases ran
    exact ⟨Grown.refl _, consistent⟩
  case h_2 =>
    split_ifs at ran with claimable
    cases ran
    obtain ⟨row, found, _⟩ := (Option.any_eq_true _ _).mp claimable
    let change (row : PositionExitState) : PositionExitState :=
      { row with
        status := .trailingStopSubmitting
        trailBroker := some "alpaca"
        trailClientOrderId := some (buildTrailingStopClientOrderId toISOString request.name)
        trailOrderStatus := some (.unlisted "pending_submit") }
    have writes : Writes toISOString (.claimed request.name) request.position.id change := by
      refine ⟨congrArg some own, fun _ _ => rfl, fun view row _ shown => ?_⟩
      rw [show (ExitEvent.claimed request.name).view request.position.id view =
        { view with status := .trailingStopSubmitting, trail := some request.name } from if_pos own]
      exact ⟨rfl, shown.attention, rfl⟩
    have updates : updateExitState request.position.id (.claimed request.name) change current =
        .ok (change row, (current.updateExitStates fun other =>
          if other.trackedPositionId = request.position.id then change other else other).record (.claimed request.name)) := by
      simp only [updateExitState, found]
    obtain ⟨kept, grown⟩ := consistent.updateExitState writes nofun updates
    exact ⟨grown.trans (neutral_createIntent _).grown, kept.neutral (neutral_createIntent _)⟩

theorem checkTrailingStop_name {exitState : PositionExitState}
    (checked : checkTrailingStop tradingAccountId position exitState = .ok (.inl request)) :
    request.name.trackedPositionId = request.position.id := by
  unfold checkTrailingStop at checked
  split at checked
  · cases checked
  · split at checked
    · cases checked
    · split at checked
      · cases checked
      · split at checked
        · cases checked
        · cases qty : getWholeShareQty position.qty with
          | error => rw [qty] at checked; cases checked
          | ok => rw [qty] at checked; cases checked; rfl

theorem prepareTrailingRequest_keeps (own : request.name.trackedPositionId = request.position.id) (now : Int) :
    Keeps toISOString fault (prepareTrailingRequest toISOString request now) := by
  refine harmless_read.bind fun filed => ?_
  cases filed with
  | some existing => exact markTrailingStopOrderSubmitted_keeps.bind fun _ => harmless_pure
  | none =>
    refine harmless_answer.bind fun writtenAt => (claimTrailingStop_keeps own writtenAt).bind fun claim =>
      harmless_ite harmless_pure <| (keeps_brokerRead).bind fun order => ?_
    cases order with
    | some order => exact persistTrailingStopOrder_keeps.bind fun _ => harmless_pure
    | none =>
      dsimp only
      split
      · exact harmless_answer.bind fun now => (keeps_write fun _ => neutral_updateIntents).bind fun _ =>
          harmless_pure
      · exact harmless_pure

theorem prepareTrailingStop_keeps :
    Keeps toISOString fault (prepareTrailingStop toISOString tradingAccountId trackedPositionId now) := by
  refine harmless_read.bind fun found => ?_
  split
  · exact harmless_throw
  · rename_i position exitState
    cases checkTrailingPosition tradingAccountId position with
    | error error => exact harmless_throw
    | ok _ =>
      rw [done_bind]
      extract_lets rest
      have goes (exitState : PositionExitState) : Keeps toISOString fault (rest exitState) := by
        unfold rest
        cases checked : checkTrailingStop tradingAccountId position exitState with
        | error error => exact harmless_throw
        | ok outcome =>
          cases outcome with
          | inr result => exact harmless_pure
          | inl request => exact prepareTrailingRequest_keeps (checkTrailingStop_name checked) now
      cases exitState with
      | some exitState => exact goes exitState
      | none => exact ensurePositionExitState_keeps.bind goes

theorem recordTrailingFailure_keeps {intentId : Nat} {classification : BrokerWriteDeliveryClassification}
    {error : ExitError} : Keeps toISOString fault (recordTrailingFailure intentId classification error) := by
  refine harmless_answer.bind fun now => (keeps_write fun _ => neutral_updateIntents).bind fun _ =>
    harmless_ite ((keeps_elsewhere).bind fun _ => harmless_throw) harmless_throw

theorem submitClaimedTrailingStop_keeps {request : TrailingRequest} {intentId : Nat} :
    Keeps toISOString fault (submitClaimedTrailingStop toISOString request intentId) := by
  have accepted : ∀ order, Keeps toISOString fault (persistAccepted toISOString request intentId order) := by
    intro order
    refine persistTrailingStopOrder_keeps.attempt.bind fun persisted => ?_
    cases persisted with
    | ok _ => exact (keeps_elsewhere).bind fun _ => harmless_pure
    | error _ =>
      exact harmless_answer.bind fun now => (keeps_write fun _ => neutral_updateIntents).bind fun _ =>
        (keeps_elsewhere).bind fun _ => harmless_throw
  refine (Returns.harmless fun _ => submitVerifiedExit_returns).attempt.bind fun sent => ?_
  match sent with
  | .ok (.recoveredLocal brokerOrderId) => exact harmless_pure
  | .ok (.recoveredBroker order) | .ok (.submitted order) => exact accepted order
  | .error error =>
    refine harmless_ite ?_ recordTrailingFailure_keeps
    refine (keeps_brokerRead).attempt.bind fun found => ?_
    match found with
    | .error _ | .ok none => exact recordTrailingFailure_keeps
    | .ok (some order) =>
      exact persistTrailingStopOrder_keeps.bind fun _ => harmless_pure

theorem submitTrailingStopExitOrder_keeps (tradingAccountId trackedPositionId : Nat) (now : Int) :
    Keeps toISOString fault (submitTrailingStopExitOrder toISOString tradingAccountId trackedPositionId now) := by
  refine prepareTrailingStop_keeps.bind fun prepared => ?_
  match prepared with
  | .inr result => exact harmless_pure
  | .inl (request, intentId) => exact submitClaimedTrailingStop_keeps

end Trailing

section Closing

/-- The close returns an order that was met as a market order under its client order id. -/
def CloseResult.MetIn (log : List ExitEvent) (result : CloseResult) : Prop :=
  match result.brokerOrderId with
  | .row brokerOrderId => ∃ status, .metLocal .market result.clientOrderId brokerOrderId status ∈ log
  | .order brokerOrderId => ∃ status, .met .market result.clientOrderId brokerOrderId status ∈ log

theorem CloseResult.MetIn.later {log longer : List ExitEvent} {result : CloseResult} (met : result.MetIn log)
    (grown : log <+: longer) : result.MetIn longer := by
  unfold CloseResult.MetIn at met ⊢
  split at met
  all_goals
    obtain ⟨status, member⟩ := met
    exact ⟨status, grown.subset member⟩

variable {mode : ClosePositionMode}

theorem claimClose_keeps : Keeps toISOString fault (commit (claimClose trackedPositionId mode now)) := by
  refine keeps_commit fun current claim after ran => ?_
  obtain ⟨_, _, rfl⟩ := claimClose_ok ran
  exact (neutral_setPositionStatus _ (fun impossible => by cases impossible)).trans (neutral_createIntent _)

variable {claim : CloseClaim}

theorem neutral_releaseClose {before : List OrderStatus} {status : OrderStatus} {reason : BlockReason}
    : Neutral store (releaseClose claim before status reason now store) :=
  neutral_updateIntents.trans (neutral_setPositionStatus _ nofun)

theorem neutral_fileClose {order : AlpacaOrder} : Neutral store (fileClose claim order now store) := by
  unfold fileClose
  split
  · exact (neutral_updateBrokerOrders _).trans (neutral_updateIntents)
  · exact (neutral_of_positions rfl rfl rfl : Neutral store
      { store with brokerOrders := store.brokerOrders ++ [_] }).trans (neutral_updateIntents)

/-- A failed close never returns. -/
theorem closeFailed_returns {error : ExitError} {held : CloseResult → ExitStore → Prop} :
    (closeFailed claim error).Returns (exitContract toISOString) fault held store := by
  have writes : ∀ {current update}, (∀ current, Neutral current (update current)) →
      (write update : ExitProgram Unit).Returns (exitContract toISOString) fault (fun _ _ => True) current :=
    fun neutral => (keeps_write neutral).returns fun _ _ => trivial
  have looks : ∀ {current}, (elsewhere >>= fun _ => throw error : ExitProgram CloseResult).Returns (exitContract toISOString)
      fault held current := ((keeps_elsewhere).returns fun _ _ => trivial).bind fun _ _ (_ : True) => returns_throw
  intro now
  split
  · exact (writes fun _ => neutral_releaseClose).bind fun _ _ _ => returns_throw
  · split
    · exact (writes fun _ => neutral_updateIntents).bind fun _ _ _ => looks
    · exact (writes fun _ => neutral_releaseClose).bind fun _ _ _ => looks

theorem closePosition_returns (trackedPositionId : Nat) (mode : ClosePositionMode) :
    (closePosition trackedPositionId mode).Returns (exitContract toISOString) fault
      (fun result current => result.MetIn current.log) store := by
  have later : ∀ (result : CloseResult) (log longer : List ExitEvent), log <+: longer → result.MetIn log →
      result.MetIn longer := fun _ _ _ grown met => met.later grown
  intro now
  refine (claimClose_keeps.returns fun _ _ => trivial).bind
    fun claim _ (_ : True) => ?_
  refine (attempt_returns (submitVerifiedExit_returns)).bind fun sent current met => ?_
  have files : ∀ order, MetAs .market claim.clientOrderId current.log (.submitted order) → (do
      write (fileClose claim order now)
      elsewhere
      return claim.result (.order order.id) order.clientOrderId : ExitProgram CloseResult).Returns (exitContract toISOString)
        fault (fun result current => result.MetIn current.log) current := by
    intro order here
    have known : (claim.result (.order order.id) order.clientOrderId).MetIn current.log := ⟨order.status, by
      rw [here.1]
      exact here.2⟩
    exact (keeps_logged (keeps_write fun _ => neutral_fileClose) (later _) known).bind
      fun _ _ known => (keeps_logged (keeps_elsewhere) (later _) known).bind fun _ _ known =>
        returns_pure known
  match sent, met with
  | .error error, _ => exact closeFailed_returns
  | .ok (.recoveredLocal brokerOrderId), met =>
    have known : (claim.result (.row brokerOrderId) claim.clientOrderId).MetIn current.log := met _ rfl
    refine (keeps_logged (keeps_write fun _ => neutral_updateIntents).attempt (later _) known).bind
      fun written _ known => ?_
    cases written with
    | error error => exact closeFailed_returns
    | ok _ => exact returns_pure known
  | .ok (.recoveredBroker order), met => exact files order (met (.recoveredBroker order) rfl)
  | .ok (.submitted order), met => exact files order (met (.submitted order) rfl)

end Closing

section

variable (tradingAccountId : Nat)

theorem syncProtectiveOrder_keeps (exitState : PositionExitState) (brokerOrderId : String) :
    Keeps toISOString fault (syncProtectiveOrder tradingAccountId exitState brokerOrderId) := by
  unfold syncProtectiveOrder
  cases exitState.trailClientOrderId with
  | none => exact harmless_throw
  | some clientOrderId =>
    refine (keeps_brokerRead).bind fun order => ?_
    cases order with
    | none => exact (markPositionExitStateAttentionRequired_keeps _ _ _).bind fun _ => harmless_pure
    | some order =>
      refine syncTrailingStopOrderStatus_keeps.attempt.bind fun synced => ?_
      cases synced with
      | error error => exact harmless_pure
      | ok _ => exact (keeps_write fun _ => neutral_updateBrokerOrders _).attempt.bind fun _ => harmless_pure

theorem syncProtectiveOrders_keeps (exitStates : List (PositionExitState × String))
    (result : ProtectiveOrderSyncResult) : Keeps toISOString fault (syncProtectiveOrders tradingAccountId exitStates result) := by
  induction exitStates generalizing result with
  | nil => exact harmless_pure
  | cons first rest ih => exact (syncProtectiveOrder_keeps _ _ _).attempt.bind fun outcome => ih _

theorem syncProtectiveOrdersForAccount_keeps :
    Keeps toISOString fault (syncProtectiveOrdersForAccount tradingAccountId) :=
  harmless_read.bind fun exitStates => syncProtectiveOrders_keeps tradingAccountId exitStates _

end

theorem applyBrokerStatus_keeps (brokerOrder : BrokerOrder) (next : OrderStatus) :
    Keeps toISOString fault (applyBrokerStatus brokerOrder next) := by
  refine (keeps_commit fun current _ _ ran => ?_).bind fun updated => ?_
  · cases ran
    exact neutral_updateBrokerOrders _
  · cases updated with
    | true =>
      exact (harmless_answer.bind fun now => (keeps_write fun _ => neutral_updateIntents).bind fun _ =>
        keeps_elsewhere).bind fun _ => harmless_pure
    | false => exact harmless_pure

section

variable (tradingAccountId : Nat)

theorem syncSubmittedOrder_keeps (openOrders : List AlpacaOrder) (intent : OrderIntent)
    (brokerOrder : Option BrokerOrder) :
    Keeps toISOString fault (syncSubmittedOrder tradingAccountId openOrders intent brokerOrder) := by
  refine harmless_answer.bind fun now => (keeps_write fun _ => neutral_updateIntents).bind fun _ => ?_
  cases brokerOrder with
  | none => exact harmless_pure
  | some brokerOrder =>
    dsimp -zeta only
    extract_lets rest
    have goes (order : Option AlpacaOrder) : Keeps toISOString fault (rest order) := by
      unfold rest
      cases order with
      | none => exact harmless_pure
      | some order =>
        exact syncTrailingStopOrderStatus_keeps.bind fun _ => harmless_ite
          (applyBrokerStatus_keeps _ _)
          <| (keeps_elsewhere).bind fun _ => harmless_pure
    split
    · exact harmless_pure.bind goes
    · exact (keeps_brokerRead).bind goes

theorem syncSubmittedOrders_keeps (openOrders : List AlpacaOrder)
    (intents : List (OrderIntent × Option BrokerOrder)) (result : SubmittedOrderSyncResult) :
    Keeps toISOString fault (syncSubmittedOrders tradingAccountId openOrders intents result) := by
  induction intents generalizing result with
  | nil => exact harmless_pure
  | cons first rest ih => exact (syncSubmittedOrder_keeps _ _ _ _).attempt.bind fun outcome => ih _

theorem syncSubmittedOrdersForAccount_keeps :
    Keeps toISOString fault (syncSubmittedOrdersForAccount tradingAccountId) :=
  harmless_read.bind fun intents => harmless_answer.bind fun _ => harmless_ite harmless_pure
    <| (keeps_brokerRead).bind fun openOrders =>
      syncSubmittedOrders_keeps tradingAccountId openOrders intents _

end

/-- A new position has an id of its own. -/
theorem neutral_addPosition (own : position.id = nextPositionId store) :
    Neutral store { store with positions := store.positions ++ [position] } := by
  have fresh : ∀ row ∈ store.positions, row.id ≠ position.id := fun row member same =>
    Table.nextId_not_mem (store.positions.map (·.id)) (List.mem_map.mpr ⟨row, member, same.trans own⟩)
  refine ⟨rfl, ⟨[], (List.append_nil _).symm, by simp⟩, fun id closed => ?_⟩
  obtain ⟨row, member, same⟩ := closed.1
  refine ⟨⟨row, List.mem_append_left _ member, same⟩, fun other present here => ?_⟩
  rcases List.mem_append.mp present with old | new
  · exact closed.2 other old here
  · obtain rfl := List.mem_singleton.mp new
    exact absurd (same.trans here.symm) (fresh row member)

section

variable (tradingAccountId : Nat)

theorem observePosition_keeps (symbol : String) (observation : PositionObservation) :
    Keeps toISOString fault (commit (observePosition tradingAccountId symbol observation)) := by
  refine harmless_commit fun current value after consistent ran => ?_
  unfold observePosition at ran
  split at ran
  case h_1 existing found =>
    cases ran
    have selected := List.find?_some found
    have member : existing ∈ current.positions := List.mem_reverse.mp (List.mem_of_find?_eq_some found)
    have neutral : Neutral current (current.updatePositions fun row =>
        if row.id = existing.id then row.observe observation else row) := by
      refine neutral_updatePositions (fun row => ?_) fun id closed row present same => ?_
      · split_ifs <;> rfl
      · have unequal : row.id ≠ existing.id := by
          intro own
          have shut := closed.2 existing member (own.symm.trans same)
          rw [shut] at selected
          simp [PositionStatus.isActive] at selected
        rw [if_neg unequal]
        exact closed.2 row present same
    exact ⟨neutral.grown, consistent.neutral neutral⟩
  case h_2 =>
    dsimp only at ran
    split at ran
    case h_1 row final created =>
      cases ran
      have shown : Shown toISOString ((ExitEvent.created (nextPositionId current)).view (nextPositionId current) .initial)
          { initialExitState (nextPositionId current) none with
            exitManagementModeSnapshot := observation.exitManagementMode } := by
        rw [show (ExitEvent.created (nextPositionId current)).view (nextPositionId current) .initial = .initial from
          if_pos rfl]
        exact ⟨rfl, rfl, rfl⟩
      obtain ⟨kept, grown⟩ := Consistent.createExitState
        (consistent.neutral (neutral_addPosition (by rfl))) rfl shown
          (fun _ impossible => by cases impossible) created
      exact ⟨(neutral_addPosition (by rfl)).grown.trans grown, kept⟩
    case h_2 => cases ran

theorem syncPosition_keeps (position : AlpacaPosition) (counts : PositionSyncCounts) :
    Keeps toISOString fault (syncPosition tradingAccountId position counts) := by
  refine harmless_ite ((keeps_elsewhere).attempt.bind fun _ => harmless_pure) <|
    harmless_answer.bind fun observation => ?_
  match observation with
  | .error error => exact harmless_pure
  | .ok observation =>
    refine (observePosition_keeps _ _ _).attempt.bind fun observed => ?_
    match observed with
    | .error error => exact harmless_pure
    | .ok (id, true) =>
      exact ((resetPositionExitStateForOpenPosition_keeps id).bind fun _ =>
        keeps_elsewhere).attempt.bind fun _ => harmless_pure
    | .ok (id, false) =>
      refine (keeps_elsewhere).attempt.bind fun looked => ?_
      cases looked with
      | error error => exact harmless_pure
      | ok _ =>
        exact (ensurePositionExitState_keeps.bind fun _ =>
          keeps_elsewhere).attempt.bind fun _ => harmless_pure

theorem syncObservedPositions_keeps (positions : List AlpacaPosition) (counts : PositionSyncCounts) :
    Keeps toISOString fault (syncObservedPositions tradingAccountId positions counts) := by
  induction positions generalizing counts with
  | nil => exact harmless_pure
  | cons position rest ih =>
    refine (syncPosition_keeps tradingAccountId position counts).bind fun synced => ?_
    match synced with
    | (counts, .ok _) | (counts, .error error) => exact ih _

end

theorem closeTracked_returns (trackedPositionId : Nat) :
    (commit (closeTracked trackedPositionId) : ExitProgram Bool).Returns (exitContract toISOString) fault
      (fun closed current => closed = true → Closed current trackedPositionId) store := by
  refine returns_commit fun current value after _ consistent ran => ?_
  cases ran
  have shut : ∀ row : TrackedPosition, row.id = trackedPositionId →
      (if row.id = trackedPositionId ∧ row.status.isActive = true then { row with status := .closed } else row).status =
        .closed := by
    intro row own
    by_cases active : row.status.isActive = true
    · rw [if_pos ⟨own, active⟩]
    · rw [if_neg fun both => active both.2]
      cases status : row.status <;> simp_all [PositionStatus.isActive]
  have neutral : Neutral current (current.updatePositions fun row =>
      if row.id = trackedPositionId ∧ row.status.isActive = true then { row with status := .closed } else row) := by
    refine neutral_updatePositions (fun row => ?_) fun id closed row member same => ?_
    · split_ifs <;> rfl
    · split_ifs
      · rfl
      · exact closed.2 row member same
  refine ⟨neutral.grown, consistent.neutral neutral, fun found => ⟨?_, fun row member own => ?_⟩⟩
  · obtain ⟨row, member, selected⟩ := List.any_eq_true.mp found
    have own : row.id = trackedPositionId := by simpa using (Bool.and_eq_true_iff.mp selected).1
    refine ⟨_, List.mem_map_of_mem member, ?_⟩
    split_ifs <;> exact own
  · obtain ⟨old, present, rfl⟩ := List.mem_map.mp member
    refine shut old ?_
    split_ifs at own <;> exact own

theorem closeMissing_keeps (brokerSymbols : List String) (tracked : List TrackedPosition) (counts : PositionSyncCounts) :
    Keeps toISOString fault (closeMissing brokerSymbols tracked counts) := by
  induction tracked generalizing counts with
  | nil => exact harmless_pure
  | cons first rest ih =>
    refine harmless_ite (ih counts) <| @Returns.harmless _ _ _ _ fault (fun _ _ => True) _ fun store => ?_
    refine (closeTracked_returns first.id).bind fun closed current shut => ?_
    have goes : ∀ {current}, (closeMissing brokerSymbols rest
        { counts with closed := counts.closed + (if closed then 1 else 0) }).Returns (exitContract toISOString) fault
          (fun _ _ => True) current := (ih _).returns fun _ _ => trivial
    cases closed with
    | false => exact goes
    | true =>
      have looked : (elsewhere : ExitProgram Unit).Returns (exitContract toISOString) fault
          (fun _ current => True ∧ Closed current first.id) current :=
        Returns.keeping ((keeps_elsewhere).returns fun _ _ => trivial) (fun _ _ grown => grown.2 first.id)
          (fun _ _ grown => grown.2 first.id) (shut rfl)
      refine looked.bind fun _ _ both => (markPositionExitStateClosed_keeps both.2).bind fun _ _ _ => ?_
      exact ((keeps_elsewhere).returns fun _ _ => trivial).bind fun _ _ (_ : True) => goes

theorem syncTrackedPositionsForAccount_keeps (tradingAccountId : Nat) :
    Keeps toISOString fault (syncTrackedPositionsForAccount tradingAccountId) :=
  harmless_answer.bind fun _ => harmless_ite
    ((keeps_brokerRead).bind fun positions =>
      (syncObservedPositions_keeps tradingAccountId positions _).bind fun observed =>
        harmless_read.bind fun active => (closeMissing_keeps _ active observed).bind fun _ => harmless_pure)
    harmless_pure

section Evaluations

theorem counting_keeps {program : ExitProgram ExitEvaluationCounts} (counts : ExitEvaluationCounts)
    (keeps : Keeps toISOString fault program) : Keeps toISOString fault (counting counts program) := by
  refine keeps.attempt.bind fun counted => ?_
  cases counted <;> exact harmless_pure

variable {exitState : Option PositionExitState} {exitProfile : ExitProfile}

theorem prepareTrailing_keeps : Keeps toISOString fault (prepareTrailing position exitState exitProfile) := by
  unfold prepareTrailing
  extract_lets pnlPct rest
  have goes (exitState : PositionExitState) : Keeps toISOString fault (rest exitState) := by
    unfold rest
    split
    · exact harmless_ite ((unlockTrailingStopExitState_keeps _).bind fun _ => harmless_pure)
        harmless_pure
    · exact harmless_pure
  cases exitState with
  | some exitState => exact harmless_pure.bind goes
  | none => exact ensurePositionExitState_keeps.bind goes

theorem submitProtection_keeps :
    Keeps toISOString fault (submitProtection toISOString tradingAccountId trackedPositionId now) := by
  refine (submitTrailingStopExitOrder_keeps tradingAccountId trackedPositionId now).attempt.bind
    fun submitted => ?_
  cases submitted with
  | ok _ => exact harmless_pure
  | error error =>
    exact markTrailingStopOrderSubmitFailed_keeps.bind fun _ => harmless_ite
      ((keeps_elsewhere).bind fun _ => harmless_throw) harmless_throw

theorem evaluateTrailing_keeps {counts : ExitEvaluationCounts} :
    Keeps toISOString fault (evaluateTrailing toISOString tradingAccountId position exitState exitProfile counts) := by
  refine prepareTrailing_keeps.attempt.bind fun prepared => ?_
  match prepared with
  | .error error | .ok none => exact harmless_pure
  | .ok (some (exitState, triggered)) =>
    refine counting_keeps _ ?_
    extract_lets rest
    have goes : Keeps toISOString fault (rest ()) :=
      harmless_ite (harmless_answer.bind fun now =>
        submitProtection_keeps.bind fun _ => harmless_pure)
          harmless_pure
    cases triggered with
    | true => exact (keeps_elsewhere).bind fun _ => goes
    | false => exact goes

section

variable (tradingAccountId : Nat)

theorem evaluatePosition_keeps (position : TrackedPosition) (exitState : Option PositionExitState)
    (counts : ExitEvaluationCounts) :
    Keeps toISOString fault (evaluatePosition toISOString tradingAccountId position exitState counts) := by
  unfold evaluatePosition
  cases exitStep tradingAccountId position exitState with
  | refuse | skip | wait => exact harmless_pure
  | trail exitProfile => exact evaluateTrailing_keeps
  | close =>
    refine (Returns.harmless fun _ => closePosition_returns _ _).attempt.bind fun closed => ?_
    cases closed with
    | error error => exact harmless_pure
    | ok _ => exact counting_keeps _ ((keeps_elsewhere).bind fun _ => harmless_pure)

theorem evaluatePositions_keeps (positions : List (TrackedPosition × Option PositionExitState))
    (evaluation : ExitEvaluation) :
    Keeps toISOString fault (evaluatePositions toISOString tradingAccountId positions evaluation) := by
  induction positions generalizing evaluation with
  | nil => exact harmless_pure
  | cons first rest ih =>
    refine (evaluatePosition_keeps tradingAccountId first.1 first.2 _).bind fun evaluated => ?_
    match evaluated with
    | (counts, .ok _) | (counts, .error error) => exact ih _

theorem evaluateExitsForAccount_keeps :
    Keeps toISOString fault (evaluateExitsForAccount toISOString tradingAccountId) := by
  refine harmless_read.bind fun positions =>
    (syncProtectiveOrdersForAccount_keeps tradingAccountId).bind fun protectiveSync =>
      harmless_answer.bind fun authority => ?_
  match authority with
  | .error error => exact harmless_throw
  | .ok false => exact harmless_pure
  | .ok true => exact evaluatePositions_keeps tradingAccountId positions _

end

end Evaluations

end AiTrader.Exit
