import AiTrader.Exit.TrailingStop
import AiTrader.Exit.VerifiedExitRuns

/-! # Retrying a trailing stop

A later call is held back by what the intent records of the delivery. -/

namespace AiTrader.Exit

open Library Library.Program Entry

/-- No statement of the database fails. -/
abbrev Faultless : ExitError → Prop := fun _ => False

/-- Nobody else writes. -/
abbrev Undisturbed : ExitStore → ExitStore → Prop := fun _ _ => False

variable {intentId tradingAccountId : Nat} {now : Int} {α : Type} {store after later : ExitStore}

section Records

variable {clientOrderId : String}

/-- The newest intent under a client order id does not record that anything may have been sent. -/
def Unsaid (tradingAccountId : Nat) (clientOrderId : String) (store : ExitStore) : Prop :=
  ∀ intent, findIntent store tradingAccountId clientOrderId = some intent →
    ∀ classification, getDeliveryClassification intent.blockReason = some classification →
      classification = .notSentBlocked ∨ classification = .notSentRetryable

/-- Rows that correspond are found by the same conditions. -/
theorem find_of_forall₂ {β : Type} {related : α → β → Prop} {first : α → Bool} {second : β → Bool} {rows : List α}
    {others : List β} (pairs : List.Forall₂ related rows others)
    (agree : ∀ row other, related row other → first row = second other) :
    Option.Rel related (rows.find? first) (others.find? second) := by
  induction pairs with
  | nil => exact .none
  | @cons row other _ _ pair _ ih =>
    rw [List.find?_cons, List.find?_cons, agree row other pair]
    cases second other with
    | true => exact .some pair
    | false => exact ih

theorem findIntent_of_kin (kin : List.Forall₂ Kin store.intents after.intents) :
    Option.Rel Kin (findIntent store tradingAccountId clientOrderId) (findIntent after tradingAccountId clientOrderId) := by
  refine find_of_forall₂ (List.rel_reverse kin) fun row other pair => ?_
  rw [pair.account, pair.client]

theorem findIntent_updateIntents {change : OrderIntent → OrderIntent} (kin : ∀ row, Kin row (change row)) :
    findIntent (store.updateIntents change) tradingAccountId clientOrderId =
      (findIntent store tradingAccountId clientOrderId).map change := by
  have agree : ∀ row, ((change row).tradingAccountId == tradingAccountId && (change row).clientOrderId == some clientOrderId) =
      (row.tradingAccountId == tradingAccountId && row.clientOrderId == some clientOrderId) := by
    intro row
    rw [(kin row).account, (kin row).client]
  simp only [findIntent, ExitStore.updateIntents, ← List.map_reverse, List.find?_map, Function.comp_def, agree]

/-- A new intent is the newest one of its client order id. -/
theorem findIntent_createIntent (row : Nat → OrderIntent) :
    findIntent (createIntent row store).2 tradingAccountId clientOrderId =
      if ((row (nextIntentId store)).tradingAccountId == tradingAccountId &&
          (row (nextIntentId store)).clientOrderId == some clientOrderId) = true then some (row (nextIntentId store))
      else findIntent store tradingAccountId clientOrderId := by
  simp only [findIntent, createIntent, List.reverse_append, List.reverse_cons, List.reverse_nil, List.nil_append,
    List.cons_append, List.find?_cons]
  split_ifs with own
  · rw [own]
  · rw [Bool.not_eq_true] at own
    rw [own]

/-- What was not said before is not said after. -/
def Hushed (store after : ExitStore) : Prop :=
  ∀ tradingAccountId clientOrderId, Unsaid tradingAccountId clientOrderId store → Unsaid tradingAccountId clientOrderId after

theorem Hushed.refl (store : ExitStore) : Hushed store store := fun _ _ => id

theorem Hushed.trans (early : Hushed store after) (late : Hushed after later) : Hushed store later :=
  fun tradingAccountId clientOrderId unsaid => late _ _ (early tradingAccountId clientOrderId unsaid)

theorem hushed_of_intents (same : after.intents = store.intents) : Hushed store after := by
  intro tradingAccountId clientOrderId unsaid intent found
  refine unsaid intent ?_
  rw [← found, findIntent, findIntent, same]

/-- A new intent says nothing. -/
theorem hushed_createIntent {row : Nat → OrderIntent} (silent : ∀ id, (row id).blockReason = none) :
    Hushed store (createIntent row store).2 := by
  intro tradingAccountId clientOrderId unsaid intent found classification said
  rw [findIntent_createIntent] at found
  split_ifs at found with own
  · cases found
    rw [silent] at said
    cases said
  · exact unsaid intent found classification said

variable {status : Option OrderStatus}

theorem kin_recordDelivery {reason : Option BlockReason} (row : OrderIntent) : Kin row (if row.id = intentId then
      { row with status := status.getD row.status, blockReason := reason, updatedAt := now } else row) := by
  split_ifs <;> exact ⟨rfl, rfl, rfl, rfl⟩

/-- A record without a classification says nothing. -/
theorem hushed_recordDelivery : Hushed store (recordDelivery intentId status none now store) := by
  intro tradingAccountId clientOrderId unsaid intent found classification said
  rw [recordDelivery, findIntent_updateIntents kin_recordDelivery, Option.map_eq_some_iff] at found
  obtain ⟨row, earlier, rfl⟩ := found
  split_ifs at said
  · cases said
  · exact unsaid row earlier classification said

end Records

variable {trackedPositionId : Nat} {program : ExitProgram α}

section Silence

variable {toISOString : Int → String}

/-- What a program may do that records nothing of a delivery. -/
def hushContract : Contract ExitStore :=
  growth (fun _ => True) Hushed Hushed.refl fun early late => early.trans late

abbrev Silent {α : Type} (program : ExitProgram α) : Prop := program.Harmless hushContract Faultless

theorem silent_of_intents {body : ExitStore → Except ExitError (α × ExitStore)}
    (same : ∀ current value after, body current = .ok (value, after) → after.intents = current.intents) :
    Silent (commit body : ExitProgram α) :=
  harmless_commit fun current value after _ success => ⟨hushed_of_intents (same current value after success), trivial⟩

theorem silent_write {update : ExitStore → ExitStore} (hushed : ∀ current, Hushed current (update current)) :
    Silent (write update : ExitProgram Unit) := harmless_write fun current _ => ⟨hushed current, trivial⟩

variable {row : PositionExitState}

theorem updateExitState_intents {event : ExitEvent} {change : PositionExitState → PositionExitState}
    (success : updateExitState trackedPositionId event change store = .ok (row, after)) : after.intents = store.intents := by
  unfold updateExitState at success
  split at success <;> cases success
  rfl

theorem createExitState_intents {created : PositionExitState} {event : ExitEvent}
    (success : createExitState row event store = .ok (created, after)) : after.intents = store.intents := by
  unfold createExitState at success
  split at success <;> cases success
  rfl

theorem ensurePositionExitState_silent : Silent (ensurePositionExitState trackedPositionId) := by
  refine harmless_read.bind fun existing => ?_
  cases existing with
  | some existing => exact harmless_pure
  | none =>
    refine (harmless_read.bind fun position => ?_).bind fun position => silent_of_intents fun _ _ _ =>
      createExitState_intents
    cases position with
    | none => exact harmless_throw
    | some position => exact harmless_pure

theorem markTrailingStopOrderSubmitted_silent (name : TrailName) (brokerOrderId : String) (orderStatus : OrderStatus) :
    Silent (markTrailingStopOrderSubmitted toISOString name brokerOrderId orderStatus) :=
  harmless_answer.bind fun _ => silent_of_intents fun _ _ _ => updateExitState_intents

theorem fileBrokerOrder_intents (order : Nat → BrokerOrder) : (fileBrokerOrder order store).intents = store.intents := by
  unfold fileBrokerOrder
  dsimp only
  split <;> rfl

theorem persistTrailingStopOrder_silent (tradingAccountId : Nat) (name : TrailName) (order : AlpacaOrder) :
    Silent (persistTrailingStopOrder toISOString tradingAccountId name order) := by
  refine persistTrailingStopOrder_harmless toISOString (fun row silent => harmless_commit fun current intent after _ success => ?_)
    (fun row => silent_write fun _ => hushed_of_intents (fileBrokerOrder_intents row))
    (fun _ _ _ => silent_write fun _ => hushed_recordDelivery) (markTrailingStopOrderSubmitted_silent) _ _ _
  cases success
  exact ⟨hushed_createIntent silent, trivial⟩

/-- A silent program that runs alone says nothing. -/
theorem hushed_of_silent {start : ExitStore} (silent : Silent program) (hushed : Hushed start store) :
    program.Assured Contract.alone Faultless (fun _ current => Hushed start current) store :=
  (silent.frame hushContract (Hushed start) rfl rfl (fun _ _ same => same) (fun _ _ more before => before.trans more)
    (fun _ _ more before => before.trans more) hushed).solo trivial

end Silence

abbrev TrailingRequest.clientOrderId (toISOString : Int → String) (request : TrailingRequest) : String :=
  buildTrailingStopClientOrderId toISOString request.name

variable {request : TrailingRequest} {claim : TrailingClaim} (toISOString : Int → String)

section Preparation

variable {start : ExitStore}

/-- The intent a submission goes by is the newest one of its client order id. -/
def Claimed (request : TrailingRequest) (intentId : Nat) (store : ExitStore) : Prop :=
  ∃ intent, findIntent store request.tradingAccountId (request.clientOrderId toISOString) =
    some intent ∧ intent.id = intentId

/-- A preparation that fails records nothing; one that goes on has claimed the submission. -/
def PreparedAs (start : ExitStore) : Except ExitError Prepared → ExitStore → Prop
  | .error _, current => Hushed start current
  | .ok (.inl (request, intentId)), current => Claimed toISOString request intentId current ∧
      current.alpacaOrder request.tradingAccountId (request.clientOrderId toISOString) = none
  | .ok (.inr _), _ => True

variable {toISOString}

theorem claimTrailingStop_ok (claimed : claimTrailingStop toISOString request now store = .ok (claim, after)) :
    Hushed store after ∧ findIntent after request.tradingAccountId
      (request.clientOrderId toISOString) = some claim.intent := by
  unfold claimTrailingStop at claimed
  dsimp only at claimed
  split at claimed
  case h_1 existing found =>
    split_ifs at claimed
    cases claimed
    exact ⟨.refl _, found⟩
  case h_2 =>
    split_ifs at claimed
    cases claimed
    refine ⟨(hushed_of_intents rfl).trans (hushed_createIntent fun _ => rfl), ?_⟩
    rw [findIntent_createIntent]
    exact if_pos (by simp [trailingIntent])

theorem preparedAs_of_hushed (result : α → TrailingSubmissionResult)
    (silent : Silent program) (hushed : Hushed start store) :
    (program >>= fun value => (return .inr (result value) : ExitProgram Prepared)).Assured Contract.alone Faultless
      (PreparedAs toISOString start) store := by
  refine Assured.bind ((hushed_of_silent silent hushed).mono fun outcome current kept => ?_)
  cases outcome with
  | ok value => exact trivial
  | error error => exact kept

theorem prepareTrailingRequest_assured (hushed : Hushed start store) :
    (prepareTrailingRequest toISOString request now).Assured Contract.alone Faultless (PreparedAs toISOString start)
      store := by
  refine Assured.readThen fun current same _ => ⟨?_, nofun⟩
  obtain rfl := same
  split
  case h_1 existing found =>
    exact preparedAs_of_hushed _ (markTrailingStopOrderSubmitted_silent _ _ _) hushed
  case h_2 =>
    intro writtenAt
    refine Assured.bind (assured_commit fun current same _ => ?_)
    obtain rfl := same
    refine ⟨fun claim after claimed => ⟨trivial, trivial, ?_, nofun⟩, fun _ _ => hushed,
      nofun⟩
    obtain ⟨quiet, newest⟩ := claimTrailingStop_ok claimed
    refine assured_ite (fun _ => trivial) fun _ => ?_
    -- The look-up at the broker.
    intro reply
    cases reply with
    | some message => exact hushed.trans quiet
    | none =>
      refine Assured.readThen fun current same _ => ⟨?_, nofun⟩
      obtain rfl := same
      cases unknown : after.alpacaOrder request.tradingAccountId (request.clientOrderId toISOString) with
      | some order =>
        exact preparedAs_of_hushed _ (persistTrailingStopOrder_silent _ _ order)
          (hushed.trans quiet)
      | none =>
        dsimp only
        split
        · exact fun _ => Assured.bind (assured_write fun _ _ _ => ⟨trivial, trivial, trivial,
            nofun, nofun⟩)
        · exact ⟨⟨claim.intent, newest, rfl⟩, unknown⟩

theorem prepareTrailingStop_assured {tradingAccountId : Nat} :
    (prepareTrailingStop toISOString tradingAccountId trackedPositionId now).Assured Contract.alone Faultless
      (PreparedAs toISOString store) store := by
  refine Assured.readThen fun current same _ => ⟨?_, nofun⟩
  obtain rfl := same
  split
  · exact Hushed.refl store
  · rename_i position exitState found
    cases checked : checkTrailingPosition tradingAccountId position with
    | error error => exact Hushed.refl store
    | ok _ =>
      rw [done_bind]
      extract_lets rest
      have goes (exitState : PositionExitState) (current : ExitStore) (hushed : Hushed store current) :
          (rest exitState).Assured Contract.alone Faultless (PreparedAs toISOString store) current := by
        unfold rest
        cases checked : checkTrailingStop tradingAccountId position exitState with
        | error error => exact hushed
        | ok outcome =>
          cases outcome with
          | inr result => exact trivial
          | inl request => exact prepareTrailingRequest_assured hushed
      cases exitState with
      | some exitState => exact goes exitState store (.refl store)
      | none =>
        refine Assured.bind ((hushed_of_silent (ensurePositionExitState_silent) (.refl store)).mono
          fun result current hushed => ?_)
        cases result with
        | ok exitState => exact goes exitState current hushed
        | error error => exact hushed

end Preparation

variable {middle : ExitStore}

section Retries

/-- A call after the backoff finds the stop asked for, no order under its client order id, and the verification passing. -/
structure Ready (request : TrailingRequest) (now : Int) (store : ExitStore) : Prop where
  position : store.position request.position.id = some request.position
  manageable : checkTrailingPosition request.tradingAccountId request.position = .ok ()
  exitState : ∃ exitState, store.exitState request.position.id = some exitState ∧
    checkTrailingStop request.tradingAccountId request.position exitState = .ok (.inl request) ∧
    (findIntent store request.tradingAccountId (request.clientOrderId toISOString) = none →
      exitState.trailBrokerOrderId = none ∧ exitState.trailClientOrderId = none)
  backoff : ∀ intent,
    findIntent store request.tradingAccountId (request.clientOrderId toISOString) = some intent →
      intent.trackedPositionId = some request.position.id ∧
        protectiveSubmissionRecoveryBackoffMs ≤ now - intent.updatedAt
  verifies : ∃ qty, ∀ intentId,
    Verifies (request.context (request.clientOrderId toISOString) intentId) qty store

variable {toISOString}

/-- A claim changes no order, and adds to the log. -/
theorem claimTrailingStop_frame (claimed : claimTrailingStop toISOString request now store = .ok (claim, after)) :
    (claim.created = false → findIntent store request.tradingAccountId
      (request.clientOrderId toISOString) = some claim.intent) ∧
    after.broker = store.broker ∧ after.brokerOrders = store.brokerOrders ∧ store.log <+: after.log := by
  unfold claimTrailingStop at claimed
  dsimp only at claimed
  split at claimed
  case h_1 existing found =>
    split_ifs at claimed
    cases claimed
    exact ⟨fun _ => found, rfl, rfl, List.prefix_rfl⟩
  case h_2 =>
    split_ifs at claimed
    cases claimed
    exact ⟨nofun, rfl, rfl, List.prefix_append _ _⟩

section

variable (ready : Ready toISOString request now store)
include ready

theorem Ready.claims (writtenAt : Int) :
    ∃ claim after, claimTrailingStop toISOString request writtenAt store = .ok (claim, after) := by
  obtain ⟨exitState, stored, _, free⟩ := ready.exitState
  unfold claimTrailingStop
  dsimp only
  cases found : findIntent store request.tradingAccountId (request.clientOrderId toISOString) with
  | some existing =>
    refine ⟨⟨existing, false⟩, store, ?_⟩
    dsimp only
    rw [if_neg (not_not.mpr (ready.backoff existing found).1)]
  | none =>
    obtain ⟨unlinked, unclaimed⟩ := free found
    have claimable : ((store.exitState request.position.id).any fun row =>
        row.trailBrokerOrderId.isNone && row.trailClientOrderId.isNone) = true := by
      rw [stored, Option.any_some, unlinked, unclaimed]
      rfl
    dsimp only
    rw [if_pos claimable]
    exact ⟨_, _, rfl⟩

theorem Ready.patient (found : claim.created = false → findIntent store request.tradingAccountId
      (request.clientOrderId toISOString) = some claim.intent) :
    ¬ ((!claim.created) = true ∧ now - claim.intent.updatedAt < protectiveSubmissionRecoveryBackoffMs) := by
  rintro ⟨repeated, early⟩
  have waited := (ready.backoff claim.intent (found (by simpa using repeated))).2
  omega

theorem Ready.unknown (broker : after.broker = store.broker) :
    after.alpacaOrder request.tradingAccountId (request.clientOrderId toISOString) = none := by
  obtain ⟨qty, verifies⟩ := ready.verifies
  rw [ExitStore.alpacaOrder, broker]
  exact (verifies 0).unknown

/-- A ready call comes to the submission, unless something may have been sent. -/
theorem Ready.prepares {fault : ExitError → Prop} {others : ExitStore → ExitStore → Prop} {writtenAt : Int}
    (unsaid : Unsaid request.tradingAccountId (request.clientOrderId toISOString) store)
    (claimed : claimTrailingStop toISOString request writtenAt store = .ok (claim, middle)) :
    Interleaving fault others
      (prepareTrailingStop toISOString request.tradingAccountId request.position.id now, store)
      (.done (.ok (.inl (request, claim.intent.id))), middle) := by
  obtain ⟨exitState, stored, checked, _⟩ := ready.exitState
  obtain ⟨qty, verifies⟩ := ready.verifies
  obtain ⟨found, broker, _, _⟩ := claimTrailingStop_frame claimed
  apply Interleaving.read
  rw [ready.position, stored]
  dsimp only
  rw [ready.manageable, done_bind]
  apply Interleaving.andThen .refl
  rw [checked, done_bind]
  apply Interleaving.read
  rw [show store.localOrder request.tradingAccountId (request.clientOrderId toISOString) = none from
    (verifies 0).unfiled]
  apply Interleaving.answer writtenAt
  apply Interleaving.andThen (.single (.own (.commit claimed)))
  have quiet : ((getDeliveryClassification claim.intent.blockReason).filter fun classification => !claim.created &&
      (classification == .deliveryUncertain || classification == .brokerRejected)) = none := by
    rw [Option.filter_eq_none_iff]
    intro classification said
    cases created : claim.created with
    | true => simp
    | false =>
      rcases unsaid claim.intent (found created) classification said with rfl | rfl <;> decide
  rw [if_neg (ready.patient found)]
  apply Interleaving.andThen (brokerRead_run _)
  rw [ready.unknown broker]
  rw [quiet]
  exact .refl

end

theorem Verifies.congr {context : VerifiedExitContext} {qty : ExactDecimal}
    (verifies : Verifies context qty store) (broker : after.broker = store.broker)
    (orders : after.brokerOrders = store.brokerOrders) : Verifies context qty after where
  account := verifies.account
  unfiled := by
    rw [ExitStore.localOrder, orders]
    exact verifies.unfiled
  unknown := by
    rw [ExitStore.alpacaOrder, broker]
    exact verifies.unknown
  verified := by
    rw [evidencePosition, evidenceOrders, broker]
    exact verifies.verified

variable {failure : UnsentFailure}

variable (toISOString) in
/-- The newest intent of the stop records a classification. -/
def Records (request : TrailingRequest) (classification : BrokerWriteDeliveryClassification) (store : ExitStore) : Prop :=
  ∃ intent, findIntent store request.tradingAccountId (request.clientOrderId toISOString) =
    some intent ∧ getDeliveryClassification intent.blockReason = some classification

end Retries

section Failures

variable {error : ExitError}

theorem faultless (error : ExitError) (faulty : Faultless error) : error = .databaseUnavailable := faulty.elim

/-- A call has come to its submission, and the verified exit has ended. -/
structure Submission (tradingAccountId trackedPositionId : Nat) (now : Int) (store : ExitStore) (request : TrailingRequest)
    (intentId : Nat) (result : Except ExitError VerifiedExitSubmissionResult) (middle later : ExitStore) : Prop where
  prepared : Interleaving Faultless Undisturbed
    (prepareTrailingStop toISOString tradingAccountId trackedPositionId now, store)
    (.done (.ok (.inl (request, intentId))), middle)
  submitted : Interleaving Faultless Undisturbed
    (submitVerifiedExit (request.context (request.clientOrderId toISOString) intentId), middle)
    (.done result, later)

variable {toISOString}

theorem Submission.claimed {result : Except ExitError VerifiedExitSubmissionResult}
    (submission : Submission toISOString tradingAccountId trackedPositionId now store request intentId result middle later) :
    Claimed toISOString request intentId middle ∧ middle.alpacaOrder request.tradingAccountId
      (request.clientOrderId toISOString) = none :=
  prepareTrailingStop_assured.alone submission.prepared

theorem Submission.returned {value : VerifiedExitSubmissionResult}
    (submission : Submission toISOString tradingAccountId trackedPositionId now store request intentId (.ok value) middle
      later) :
    (∃ brokerOrderId, value = .recoveredLocal brokerOrderId) ∨ sent middle < sent later := by
  have returns : (submitVerifiedExit
      (request.context (request.clientOrderId toISOString) intentId)).Returns Contract.alone Faultless
        (fun value current => (∃ brokerOrderId, value = .recoveredLocal brokerOrderId) ∨ sent middle < sent current) middle :=
    submitVerifiedExit_sends faultless submission.claimed.2
  exact Assured.alone returns submission.submitted value rfl

theorem Submission.failed
    (submission : Submission toISOString tradingAccountId trackedPositionId now store request intentId (.error error) middle
      later) :
    sent middle < sent later ∨
      (∃ failure : UnsentFailure, failure.error = error) ∧ Claimed toISOString request intentId later := by
  have explained := ((explains_submitVerifiedExit faultless middle middle (.refl _)).solo trivial).alone submission.submitted
  refine (explained.2 error rfl).symm.imp_right fun failure => ⟨failure, ?_⟩
  obtain ⟨intent, newest, rfl⟩ := submission.claimed.1
  have kin : Option.Rel Kin
      (findIntent middle request.tradingAccountId (request.clientOrderId toISOString))
      (findIntent later request.tradingAccountId (request.clientOrderId toISOString)) :=
    findIntent_of_kin explained.1.2
  rw [newest] at kin
  generalize found : findIntent later request.tradingAccountId (request.clientOrderId toISOString) = other
    at kin
  cases kin with
  | some pair => exact ⟨_, found, pair.id⟩

variable (toISOString)

end Failures

section Inconclusive

variable {toISOString : Int → String}

/-- The contract of a program that runs alone and sends nothing. -/
def quietContract (count : Nat) : Contract ExitStore where
  invariant := fun store => sent store = count
  rely := fun store after => store = after
  guarantee := fun _ _ => True
  rely_refl := fun _ => rfl
  rely_trans := fun early late => early.trans late
  guarantee_refl := fun _ => trivial

end Inconclusive

section Samples

/-- A position of one share, in an account that exits it by a trailing stop. -/
def samplePosition : TrackedPosition :=
  ⟨1, some 1, "AAA", "long", "1", 100, none, .open, 1, some 1, none, some ⟨1, 1, 1, true, true, none⟩⟩

def sampleExitState : PositionExitState :=
  { initialExitState 1 none with
    id := 1
    status := .targetUnlocked
    targetUnlocked := true
    targetUnlockedAt := some 0
    trailingStopPct := some 5 }

def sampleRequest : TrailingRequest := ⟨1, samplePosition, ⟨"AAA", 1, 0⟩, "1", 5⟩

/-- The broker holds the share and has no orders. -/
def sampleBroker : Nat → BrokerAccount := fun _ => ⟨[], [⟨"AAA", "long", "1", some "1"⟩]⟩

def sampleStore : ExitStore := ⟨[samplePosition], [sampleExitState], [], [], sampleBroker, []⟩

def sampleClientOrderId : String := buildTrailingStopClientOrderId (fun _ => "") sampleRequest.name

theorem verifies_sample (store : ExitStore) (intentId : Nat) (broker : store.broker = sampleBroker)
    (orders : store.brokerOrders = []) :
    Verifies (sampleRequest.context sampleClientOrderId intentId) ⟨1, 0, "1"⟩ store := by
  have upper : toUpperCase "AAA" = "AAA" := by decide
  have position : evidencePosition (sampleRequest.context sampleClientOrderId intentId) store =
      some ⟨"AAA", "long", "1", some "1"⟩ := by
    simp [evidencePosition, broker, sampleBroker, TrailingRequest.context, sampleRequest, samplePosition, upper]
  have openOrders : evidenceOrders (sampleRequest.context sampleClientOrderId intentId) store = [] := by
    rw [evidenceOrders, broker]
    rfl
  refine ⟨Nat.one_ne_zero, ?_, ?_, ?_⟩
  · rw [ExitStore.localOrder, orders]
    rfl
  · rw [ExitStore.alpacaOrder, broker]
    rfl
  · have positive : parseExactPositiveDecimal "1" = some ⟨1, 0, "1"⟩ := by decide
    have parsed : parseExactNonNegativeDecimal "1" = some ⟨1, 0, "1"⟩ := by decide
    have equal : equalDecimal ⟨1, 0, "1"⟩ ⟨1, 0, "1"⟩ = true := by decide
    have within : exceedsDecimal ⟨1, 0, "1"⟩ ⟨1, 0, "1"⟩ = false := by decide
    rw [position, openOrders]
    simp [verifyExit, TrailingRequest.context, sampleRequest, samplePosition, conflictingOrders, quantityVerified, upper,
      positive, parsed, equal, within]

def lockError : ExitError := UnsentFailure.error (.locked .notAcquired)

end Samples

end AiTrader.Exit
