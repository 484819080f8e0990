import AiTrader.Exit.VerifiedExit
import AiTrader.Library.Returns

/-! # Runs of a verified exit

A verified exit either meets an order that is there already, or fails before it sends anything, or sends exactly one
order. -/

namespace AiTrader.Exit

open Library Library.Program Entry Interleaving

variable {α : Type}

variable {program : ExitProgram α} {context : VerifiedExitContext} {fault : ExitError → Prop} {store after : ExitStore}

section Sending

variable {others : ExitStore → ExitStore → Prop} {qty : ExactDecimal}

theorem brokerRead_run (view : ExitStore → α) :
    Interleaving fault others (brokerRead view, store) (.done (.ok (view store)), store) :=
  answer none (.single (.own (.commit rfl)))

theorem elsewhere_run : Interleaving fault others ((elsewhere : ExitProgram Unit), store) (.done (.ok ()), store) :=
  answer none .refl

/-- The position that an exit is verified with. -/
def evidencePosition (context : VerifiedExitContext) (store : ExitStore) : Option AlpacaPosition :=
  (store.broker context.tradingAccountId).positions.find? fun position => position.symbol == toUpperCase context.symbol

def evidenceOrders (context : VerifiedExitContext) (store : ExitStore) : List AlpacaOrder :=
  (store.broker context.tradingAccountId).orders.filter fun order => isNonterminalBrokerOrderStatus order.status

/-- Whatever the store does, a block fails. -/
theorem block_fails (outcome : ExitVerificationOutcome) (message : String) :
    (block context outcome message : ExitProgram α).Assured Contract.free fault (fun result _ => ∀ value, result ≠ .ok value)
      store := by
  refine fun now => Assured.bind (assured_write fun current _ _ => ?_)
  refine ⟨trivial, trivial, fun reply => ?_, nofun,
    nofun⟩
  cases reply with
  | none => exact fun _ impossible => by cases impossible
  | some _ => exact nofun

/-- A block never returns. -/
theorem block_throws {contract : Contract ExitStore} {outcome : ExitVerificationOutcome} {message : String}
    {held : α → ExitStore → Prop} (harmless : (block context outcome message : ExitProgram α).Harmless contract fault) :
    (block context outcome message : ExitProgram α).Returns contract fault held store :=
  ((harmless store).knowing (block_fails outcome message)).mono fun _ _ left value same => absurd same (left.2 value)

/-- No order is known under the client order id, and the evidence of the broker allows the exit. -/
structure Verifies (context : VerifiedExitContext) (qty : ExactDecimal) (store : ExitStore) : Prop where
  account : context.tradingAccountId ≠ 0
  unfiled : store.localOrder context.tradingAccountId context.clientOrderId = none
  unknown : store.alpacaOrder context.tradingAccountId context.clientOrderId = none
  verified : verifyExit context (evidencePosition context store) (evidenceOrders context store) = .ok qty

theorem lookUpEvidence_run (what : String) (view : ExitStore → α) :
    Interleaving fault others (lookUpEvidence context what view, store) (.done (.ok (view store)), store) :=
  andThen (brokerRead_run view).attempt .refl

theorem readExitEvidence_run : Interleaving fault others (readExitEvidence context, store)
    (.done (.ok (evidencePosition context store, evidenceOrders context store)), store) := by
  apply andThen (lookUpEvidence_run _ _)
  apply andThen (lookUpEvidence_run _ _)
  exact .refl

theorem resolveClearedAttentions_run :
    Interleaving fault others (resolveClearedAttentions context, store) (.done (.ok ()), store) := by
  unfold resolveClearedAttentions
  cases context.verificationMode with
  | normalExactClose => exact elsewhere_run
  | correctiveRemainderClose => exact .refl

theorem Verifies.executes (verifies : Verifies context qty store) :
    Interleaving fault others (executeVerifiedExit context, store) (placeVerifiedExit context qty.canonical, store) := by
  have local' : Interleaving fault others (recoverLocally context, store) (.done (.ok none), store) := by
    refine .single (.own (.commit ?_))
    rw [verifies.unfiled]
  have broker : Interleaving fault others (recoverFromBroker context, store) (.done (.ok none), store) := by
    refine answer none (.single (.own (.commit ?_)))
    rw [verifies.unknown]
  refine andThen elsewhere_run (andThen local' (andThen broker.attempt ?_))
  apply andThen readExitEvidence_run
  dsimp only
  rw [verifies.verified]
  exact andThen resolveClearedAttentions_run (answer (.ok ()) .refl)

theorem Verifies.reaches (verifies : Verifies context qty store) :
    Interleaving fault others (submitVerifiedExit context, store) (placeVerifiedExit context qty.canonical, store) := by
  unfold submitVerifiedExit
  rw [if_neg verifies.account]
  exact answer LockOutcome.acquired verifies.executes

/-- The store once the broker has accepted an order. -/
def acceptedStore (context : VerifiedExitContext) (order : AlpacaOrder) (store : ExitStore) : ExitStore :=
  ((store.file context.tradingAccountId order).record (.posted context.clientOrderId)).record
    (.met context.type context.clientOrderId order.id order.status)

theorem placeVerifiedExit_accepts (text : String) (order : AlpacaOrder) :
    Interleaving fault others (placeVerifiedExit context text, store)
      (.done (.ok (.submitted (context.filed text order))), acceptedStore context (context.filed text order) store) := by
  have sent : Interleaving fault others (submitVerifiedAlpacaExitOrder context text, store)
      (.done (.ok (context.filed text order)), acceptedStore context (context.filed text order) store) :=
    answer (.accepted order) (.single (.own (.commit rfl)))
  exact andThen sent.attempt .refl

/-- The program has a run, alone and without faults, that sends an order under the client order id. -/
def Posts {α : Type} (program : ExitProgram α) (clientOrderId : String) (store : ExitStore) : Prop :=
  ∃ rest after events, Interleaving (fun _ => False) (fun _ _ => False) (program, store) (rest, after) ∧
    after.log = store.log ++ events ∧ .posted clientOrderId ∈ events

variable {clientOrderId : String}

theorem Posts.attempt (posts : Posts program clientOrderId store) : Posts program.attempt clientOrderId store := by
  obtain ⟨rest, after, events, run, sent⟩ := posts
  exact ⟨rest.attempt, after, events, run.attempt, sent⟩

theorem Posts.bind {β : Type} (posts : Posts program clientOrderId store)
    (next : α → ExitProgram β) : Posts (program >>= next) clientOrderId store := by
  obtain ⟨rest, after, events, run, sent⟩ := posts
  exact ⟨rest >>= next, after, events, run.bind next, sent⟩

/-- A verified exit can send its order. -/
theorem Verifies.posts (verifies : Verifies context qty store) :
    Posts (submitVerifiedExit context) context.clientOrderId store := by
  have order : AlpacaOrder := ⟨"", "", "", "", "", .new, none, none, none, none, none, none⟩
  refine ⟨_, _, [.posted context.clientOrderId, .met context.type context.clientOrderId
    (context.filed qty.canonical order).id (context.filed qty.canonical order).status],
    verifies.reaches.trans (placeVerifiedExit_accepts qty.canonical order), ?_, List.mem_cons_self⟩
  simp only [acceptedStore, ExitStore.record, ExitStore.file, List.append_assoc, List.cons_append, List.nil_append]

end Sending

section Failing

/-- The failures of a verified exit before anything is sent. -/
inductive UnsentFailure where
  /-- The lock of the account was not acquired. -/
  | locked (outcome : LockOutcome)
  /-- The verification blocked the exit; its attention may have failed to be written. -/
  | blocked (error : HttpError) (outcome : ExitVerificationOutcome) (classification : BrokerWriteDeliveryClassification)
  /-- The attentions could not be resolved, or the account is not one. -/
  | internal (message : String)
  | unauthorized (refusal : HttpError)
  /-- The adapter of the broker refused to send the order, or deferred it. -/
  | refused (retryable : Bool) (message : String)
  | database

def UnsentFailure.error : UnsentFailure → ExitError
  | .locked outcome => .http ⟨503, s!"Exit submission lock was not acquired safely ({outcome.text})."⟩
  | .blocked error outcome classification => .preSubmission error outcome classification
  | .internal message => .plain message
  | .unauthorized refusal => .http refusal
  | .refused retryable message => .delivery (if retryable then .notSentRetryable else .notSentBlocked) message
  | .database => .databaseUnavailable

/-- How many orders have been sent. -/
def sent (store : ExitStore) : Nat := store.log.countP fun event => match event with
  | .posted _ => true
  | _ => false

/-- An intent may change, except in what it is found by. -/
structure Kin (row other : OrderIntent) : Prop where
  id : other.id = row.id
  account : other.tradingAccountId = row.tradingAccountId
  client : other.clientOrderId = row.clientOrderId
  position : other.trackedPositionId = row.trackedPositionId

theorem Kin.refl (row : OrderIntent) : Kin row row := ⟨rfl, rfl, rfl, rfl⟩

/-- Orders are sent, and the intents stay in their places. -/
def Progress (store after : ExitStore) : Prop :=
  sent store ≤ sent after ∧ List.Forall₂ Kin store.intents after.intents

variable {third : ExitStore}

theorem kin_same (rows : List OrderIntent) : List.Forall₂ Kin rows rows := List.forall₂_same.mpr fun row _ => .refl row

theorem Progress.refl (store : ExitStore) : Progress store store := ⟨le_rfl, kin_same _⟩

theorem Kin.trans {first second third : OrderIntent} (early : Kin first second) (late : Kin second third) :
    Kin first third :=
  ⟨late.id.trans early.id, late.account.trans early.account, late.client.trans early.client,
    late.position.trans early.position⟩

theorem kin_trans {first second third : List OrderIntent} (early : List.Forall₂ Kin first second)
    (late : List.Forall₂ Kin second third) : List.Forall₂ Kin first third := by
  induction early generalizing third with
  | nil => exact late
  | cons head _ ih =>
    cases late with
    | cons next rest => exact .cons (head.trans next) (ih rest)

theorem Progress.trans (early : Progress store after) (late : Progress after third) : Progress store third :=
  ⟨le_trans early.1 late.1, kin_trans early.2 late.2⟩

theorem progress_of_log (intents : after.intents = store.intents) (more : sent store ≤ sent after) :
    Progress store after := ⟨more, intents ▸ kin_same _⟩

theorem progress_updateIntents {change : OrderIntent → OrderIntent} (kin : ∀ row, Kin row (change row)) :
    Progress store (store.updateIntents change) := by
  refine ⟨le_rfl, ?_⟩
  rw [ExitStore.updateIntents, List.forall₂_map_right_iff]
  exact List.forall₂_same.mpr fun row _ => kin row

theorem sent_record (event : ExitEvent) : sent store ≤ sent (store.record event) := by
  rw [sent, sent, ExitStore.record, List.countP_append]
  exact Nat.le_add_right _ _

theorem sent_posted (clientOrderId : String) : sent (store.record (.posted clientOrderId)) = sent store + 1 := by
  rw [sent, sent, ExitStore.record, List.countP_append]
  rfl

/-- What others do meanwhile is progress as well. -/
def progressContract : Contract ExitStore :=
  growth (fun _ => True) Progress Progress.refl fun early late => early.trans late

/-- A failure has come before anything was sent, or something has been sent since the start. -/
def Explained (start : ExitStore) {α : Type} (result : Except ExitError α) (current : ExitStore) : Prop :=
  Progress start current ∧
    ∀ error, result = .error error → (∃ failure : UnsentFailure, failure.error = error) ∨ sent start < sent current

/-- Whatever goes before it, a failure of the program is explained. -/
def Explains {α : Type} (fault : ExitError → Prop) (program : ExitProgram α) : Prop :=
  ∀ start store, Progress start store → program.Assured progressContract fault (Explained start) store

variable {start : ExitStore} (faults : ∀ error, fault error → error = .databaseUnavailable)

section Rules

variable {β : Type}

theorem explained_ok {value : α} (progress : Progress start store) :
    Explained start (.ok value) store := ⟨progress, nofun⟩

theorem explained_failure (failure : UnsentFailure) (progress : Progress start store) :
    Explained start (.error failure.error : Except ExitError α) store := by
  refine ⟨progress, fun error same => ?_⟩
  cases same
  exact .inl ⟨failure, rfl⟩

theorem explains_pure (value : α) : Explains fault (pure value : ExitProgram α) := fun _ _ => explained_ok

theorem explains_throw (failure : UnsentFailure) : Explains fault (throw failure.error : ExitProgram α) :=
  fun _ _ => explained_failure failure

theorem explains_answer : Explains fault (answer : ExitProgram α) := fun _ _ progress _ => explained_ok progress

theorem Explains.bind {next : α → ExitProgram β} (first : Explains fault program)
    (rest : ∀ value, Explains fault (next value)) : Explains fault (program >>= next) := by
  intro start store progress
  refine Assured.bind ((first start store progress).mono fun result current explained => ?_)
  cases result with
  | ok value => exact rest value start current explained.1
  | error error =>
    refine ⟨explained.1, fun _ same => ?_⟩
    cases same
    exact explained.2 error rfl

theorem Explains.attempt (explains : Explains fault program) : Explains fault program.attempt := by
  intro start store progress
  exact Assured.attempt ((explains start store progress).mono fun _ _ explained => explained_ok explained.1)

theorem explains_ite {condition : Prop} [Decidable condition] {first second : ExitProgram α}
    (positive : Explains fault first) (negative : Explains fault second) :
    Explains fault (if condition then first else second) := fun start store progress =>
  assured_ite (fun _ => positive start store progress) fun _ => negative start store progress

include faults

theorem explained_fault {error : ExitError} (faulty : fault error) (progress : Progress start store) :
    Explained start (.error error : Except ExitError α) store := by
  obtain rfl := faults error faulty
  exact explained_failure .database progress

theorem explains_commit {body : ExitStore → Except ExitError (α × ExitStore)}
    (progresses : ∀ current value after, body current = .ok (value, after) → Progress current after)
    (never : ∀ current error, body current ≠ .error error) : Explains fault (commit body : ExitProgram α) := by
  intro start store progress
  refine assured_commit fun current relied _ => ⟨fun value after success => ?_, fun error failure => ?_,
    fun error faulty => ?_⟩
  · have later := progresses current value after success
    have whole := (progress.trans relied).trans later
    exact ⟨later, trivial, explained_ok whole, fun error faulty => explained_fault faults faulty whole⟩
  · exact absurd failure (never current error)
  · exact explained_fault faults faulty (progress.trans relied)

theorem explains_read (view : ExitStore → α) : Explains fault (read view : ExitProgram α) :=
  explains_commit faults (fun _ _ _ same => by cases same; exact .refl _) nofun

theorem explains_write {update : ExitStore → ExitStore} (progresses : ∀ current, Progress current (update current)) :
    Explains fault (write update : ExitProgram Unit) :=
  explains_commit faults (fun current _ _ same => by cases same; exact progresses current)
    nofun

omit faults in
theorem explains_elsewhere : Explains fault (elsewhere : ExitProgram Unit) := by
  refine explains_answer.bind fun reply => ?_
  cases reply with
  | some message => exact explains_throw (.internal message)
  | none => exact explains_pure ()

theorem explains_brokerRead (view : ExitStore → α) : Explains fault (brokerRead view) := by
  refine explains_answer.bind fun reply => ?_
  cases reply with
  | some message => exact explains_throw (.internal message)
  | none => exact explains_read faults view

end Rules

section Submission

include faults

theorem explains_block (outcome : ExitVerificationOutcome) (message : String) :
    Explains fault (block context outcome message : ExitProgram α) := by
  refine explains_answer.bind fun now => (explains_write faults fun current => ?_).bind fun _ => ?_
  · refine progress_updateIntents fun row => ?_
    split_ifs <;> exact ⟨rfl, rfl, rfl, rfl⟩
  · refine explains_elsewhere.attempt.bind fun result => ?_
    cases result with
    | error _ => exact explains_throw (.blocked _ outcome .notSentRetryable)
    | ok _ => exact explains_throw (.blocked _ outcome .notSentBlocked)

theorem explains_recoverLocally : Explains fault (recoverLocally context) := by
  refine explains_commit faults (fun current value after success => ?_) fun current error => ?_
  · split at success <;> cases success
    · exact .refl _
    · exact progress_of_log rfl (sent_record _)
  · split <;> exact nofun

theorem explains_recoverFromBroker : Explains fault (recoverFromBroker context) := by
  refine explains_answer.bind fun reply => ?_
  cases reply with
  | some message => exact explains_throw (.internal message)
  | none =>
    refine explains_commit faults (fun current value after success => ?_) fun current error => ?_
    · split at success <;> cases success
      · exact .refl _
      · exact progress_of_log rfl (sent_record _)
    · split <;> exact nofun

theorem explains_lookUpEvidence (what : String) (view : ExitStore → α) :
    Explains fault (lookUpEvidence context what view) := by
  refine (explains_brokerRead faults view).attempt.bind fun found => ?_
  cases found with
  | ok found => exact explains_pure found
  | error _ => exact explains_block faults _ _

/-- A store in which an order has been sent since the start. -/
def SentSince (start current : ExitStore) : Prop := Progress start current ∧ sent start < sent current

omit faults in
theorem SentSince.later (since : SentSince start store) (progress : Progress store after) :
    SentSince start after := ⟨since.1.trans progress, lt_of_lt_of_le since.2 progress.1⟩

omit faults in
theorem SentSince.explained {result : Except ExitError α} (since : SentSince start store) :
    Explained start result store := ⟨since.1, fun _ _ => .inr since.2⟩

theorem explains_readExitEvidence : Explains fault (readExitEvidence context) :=
  (explains_lookUpEvidence faults _ _).bind fun _ => (explains_lookUpEvidence faults _ _).bind fun _ => explains_pure _

/-- A failure is explained, and a result comes from an order that was sent. -/
def Sends (start : ExitStore) {α : Type} (result : Except ExitError α) (current : ExitStore) : Prop :=
  Explained start result current ∧ ∀ value, result = .ok value → SentSince start current

omit faults in
theorem SentSince.sends {result : Except ExitError α} (since : SentSince start store) :
    Sends start result store := ⟨since.explained, fun _ _ => since⟩

omit faults in
theorem Explained.sends {error : ExitError} (explained : Explained start (.error error : Except ExitError α) store) :
    Sends start (.error error : Except ExitError α) store := ⟨explained, nofun⟩

/-- The write that sends an order. -/
theorem assured_sending {change : ExitStore → ExitStore} {next : Unit → ExitProgram AlpacaOrder}
    (progress : Progress start store) (grows : ∀ current, (change current).intents = current.intents)
    (sends : ∀ current, sent current < sent (change current))
    (rest : ∀ current, SentSince start current → (next ()).Assured progressContract fault (Sends start) current) :
    ((write change : ExitProgram Unit) >>= next).Assured progressContract fault (Sends start) store := by
  refine Assured.bind (assured_write fun current relied _ => ?_)
  have whole := progress.trans relied
  have later := progress_of_log (grows current) (sends current).le
  have since : SentSince start (change current) := ⟨whole.trans later, lt_of_le_of_lt whole.1 (sends current)⟩
  exact ⟨later, trivial, rest _ since, fun _ _ => since.sends, fun _ faulty => (explained_fault faults faulty whole).sends⟩

theorem submitVerifiedAlpacaExitOrder_sends (qty : String) {start : ExitStore} (progress : Progress start store) :
    (submitVerifiedAlpacaExitOrder context qty).Assured progressContract fault (Sends start) store := by
  have posts : ∀ current, sent current < sent (current.record (.posted context.clientOrderId)) := by
    intro current
    rw [sent_posted]
    exact Nat.lt_succ_self _
  intro outcome
  cases outcome with
  | notSent retryable message => exact (explained_failure (.refused retryable message) progress).sends
  | rejected message => exact assured_sending faults progress (fun _ => rfl) posts fun _ since => since.sends
  | uncertain message arrived =>
    cases arrived with
    | none => exact assured_sending faults progress (fun _ => rfl) posts fun _ since => since.sends
    | some order =>
      exact assured_sending faults progress (fun _ => rfl) (fun current => posts (current.file _ _)) fun _ since => since.sends
  | accepted order =>
    refine assured_sending faults progress (fun _ => rfl) (fun current => ?_) fun _ since => since.sends
    exact lt_of_lt_of_le (posts (current.file context.tradingAccountId (context.filed qty order))) (sent_record _)

omit faults in
theorem Explains.since (explains : Explains fault program) (since : SentSince start store) :
    program.Assured progressContract fault (fun _ current => SentSince start current) store :=
  ((explains store store (.refl _)).frame progressContract (SentSince start) rfl rfl (fun _ _ same => same)
    (fun _ _ progress since => since.later progress) (fun _ _ progress since => since.later progress) since).mono
      fun _ _ held => held.2

theorem placeVerifiedExit_sends (qty : String) {start : ExitStore} (progress : Progress start store) :
    (placeVerifiedExit context qty).Assured progressContract fault (Sends start) store := by
  refine Assured.bind (Assured.attempt ((submitVerifiedAlpacaExitOrder_sends faults qty progress).mono
    fun result current sends => ?_))
  cases result with
  | ok order => exact (sends.2 order rfl).sends
  | error error =>
    have other : (throw error : ExitProgram VerifiedExitSubmissionResult).Assured progressContract fault (Sends start)
        current := ⟨⟨sends.1.1, fun _ same => by cases same; exact sends.1.2 error rfl⟩, fun _ impossible => by cases impossible⟩
    cases error with
    | delivery classification message =>
      cases classification with
      | notSentRetryable | notSentBlocked | deliveryUncertain => exact other
      | brokerRejected =>
        -- A rejection is an answer to an order that was sent.
        have since : SentSince start current := by
          refine ⟨sends.1.1, (sends.1.2 _ rfl).resolve_left ?_⟩
          rintro ⟨failure, same⟩
          cases failure with
          | refused retryable => cases retryable <;> cases same
          | locked | blocked | internal | unauthorized | database => cases same
        refine Assured.bind (Assured.attempt (((explains_recoverFromBroker faults).since since).mono
          fun found later since => ?_))
        cases found with
        | error _ => exact since.sends
        | ok order => cases order <;> exact since.sends
    | http | preSubmission | plain | databaseUnavailable => exact other

theorem explains_placeVerifiedExit (qty : String) : Explains fault (placeVerifiedExit context qty) :=
  fun _ _ progress => (placeVerifiedExit_sends faults qty progress).mono fun _ _ sends => sends.1

omit faults in
theorem explains_resolveClearedAttentions : Explains fault (resolveClearedAttentions context) := by
  unfold resolveClearedAttentions
  cases context.verificationMode with
  | normalExactClose => exact explains_elsewhere
  | correctiveRemainderClose => exact explains_pure ()

theorem explains_executeVerifiedExit : Explains fault (executeVerifiedExit context) := by
  refine explains_elsewhere.bind fun _ => (explains_recoverLocally faults).bind fun found => ?_
  cases found with
  | some _ => exact explains_pure _
  | none =>
    refine (explains_recoverFromBroker faults).attempt.bind fun recovered => ?_
    cases recovered with
    | error _ => exact explains_block faults _ _
    | ok order =>
      cases order with
      | some _ => exact explains_pure _
      | none =>
        refine (explains_readExitEvidence faults).bind fun evidence => ?_
        obtain ⟨position, openOrders⟩ := evidence
        cases verified : verifyExit context position openOrders with
        | error refusal => simpa only [verified] using explains_block faults refusal.1 refusal.2
        | ok intended =>
          simp only [verified]
          refine explains_resolveClearedAttentions.bind fun _ => explains_answer.bind fun authorized => ?_
          cases authorized with
          | error refusal => exact explains_throw (.unauthorized refusal)
          | ok _ => exact explains_placeVerifiedExit faults _

/-- A verified exit that fails has failed before it sent anything, or has sent an order. -/
theorem explains_submitVerifiedExit : Explains fault (submitVerifiedExit context) := by
  refine explains_ite (explains_throw (.internal _)) (explains_answer.bind fun outcome => ?_)
  cases outcome with
  | acquired => exact explains_executeVerifiedExit faults
  | notAcquired => exact explains_throw (.locked .notAcquired)
  | lockError => exact explains_throw (.locked .lockError)

end Submission

end Failing

section Alone

theorem harmless_of_explains (explains : Explains fault program) : program.Harmless Contract.alone fault := fun store =>
  ((explains store store (.refl _)).solo trivial).mono fun _ _ _ => trivial

theorem returns_after_progress (explains : Explains fault program) {start : ExitStore} (progress : Progress start store) :
    program.Returns Contract.alone fault (fun _ current => Progress start current) store :=
  ((explains start store progress).solo trivial).mono fun _ _ explained _ _ => explained.1

variable (faults : ∀ error, fault error → error = .databaseUnavailable)
include faults

/-- A verified exit that runs alone, under a client order id unknown to the broker, returns a local order or one it
has sent. -/
theorem submitVerifiedExit_sends (unknown : store.alpacaOrder context.tradingAccountId context.clientOrderId = none) :
    (submitVerifiedExit context).Returns Contract.alone fault (fun value current =>
      (∃ brokerOrderId, value = .recoveredLocal brokerOrderId) ∨ sent store < sent current) store := by
  refine returns_ite (fun _ => returns_throw) fun _ => ?_
  have begins : (answer : ExitProgram LockOutcome).Returns Contract.alone fault (fun _ current => store = current) store :=
    returns_answer fun _ => rfl
  refine begins.bind ?_
  rintro outcome _ rfl
  cases outcome with
  | notAcquired | lockError => exact returns_throw
  | acquired =>
    have account : (elsewhere : ExitProgram Unit).Returns Contract.alone fault (fun _ current => store = current) store := by
      intro reply
      cases reply with
      | some _ => exact returns_throw
      | none => exact returns_pure rfl
    refine account.bind ?_
    rintro _ _ rfl
    have filed : (recoverLocally context).Returns Contract.alone fault (fun value current => value = none → store = current)
        store := by
      refine returns_commit ?_
      rintro _ value after rfl _ success
      refine ⟨trivial, trivial, ?_⟩
      rintro rfl
      split at success <;> cases success
      rfl
    refine filed.bind fun value current here => ?_
    cases value with
    | some brokerOrderId => exact returns_pure (.inl ⟨brokerOrderId, rfl⟩)
    | none =>
      obtain rfl := here rfl
      have recovered : (recoverFromBroker context).attempt.Returns Contract.alone fault
          (fun found current => Progress store current ∧ ∀ order, found ≠ .ok (some order)) store := by
        refine Assured.attempt fun reply => ?_
        cases reply with
        | some message =>
          intro found same
          cases same
          exact ⟨.refl _, fun _ found => nomatch found⟩
        | none =>
          refine assured_commit ?_
          rintro _ rfl _
          rw [unknown]
          refine ⟨fun value after success => ?_, nofun, fun _ _ found same => ?_⟩
          · cases success
            refine ⟨trivial, trivial, fun found same => ?_, fun _ _ found same => ?_⟩
            · cases same
              exact ⟨.refl _, fun _ impossible => by cases impossible⟩
            · cases same
              exact ⟨.refl _, fun _ impossible => by cases impossible⟩
          · cases same
            exact ⟨.refl _, fun _ impossible => by cases impossible⟩
      refine recovered.bind fun found current after => ?_
      match found with
      | .error _ => exact block_throws (harmless_of_explains (explains_block faults _ _))
      | .ok (some order) => exact absurd rfl (after.2 order)
      | .ok none =>
        refine (returns_after_progress (explains_readExitEvidence faults) after.1).bind fun evidence later progress => ?_
        obtain ⟨position, openOrders⟩ := evidence
        cases verified : verifyExit context position openOrders with
        | error refusal =>
          simp only [verified]
          exact block_throws (harmless_of_explains (explains_block faults _ _))
        | ok intended =>
          simp only [verified]
          refine (returns_after_progress explains_resolveClearedAttentions progress).bind fun _ _ progress => ?_
          refine (returns_after_progress explains_answer progress).bind fun authorized _ progress => ?_
          cases authorized with
          | error _ => exact returns_throw
          | ok _ =>
            exact ((placeVerifiedExit_sends faults _ progress).solo trivial).mono fun _ _ sends value same =>
              .inr (sends.2 value same).2

end Alone

end AiTrader.Exit
