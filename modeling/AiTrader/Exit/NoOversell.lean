import AiTrader.Exit.AttributedFills
import AiTrader.Exit.VerifiedExitRuns
import AiTrader.Library.Passage

/-! # No oversell

A verified exit sends a sell only after it has read evidence at the broker that allows it: a long position, no other open
sell, and quantities that agree as rational numbers. -/

namespace AiTrader.Exit

open Library Library.Program Entry

variable {openOrders : List AlpacaOrder} {position : Option AlpacaPosition} {context : VerifiedExitContext}

section Evidence

/-- The rational number that the text of a quantity stands for. -/
def Denotes (text : String) (shares : ℚ) : Prop := Decimal.denote (trim text) = some shares

/-- The shares that the local quantity accounts for; for a corrective close those the attributed fills have left. -/
def Accounted (context : VerifiedExitContext) (shares : ℚ) : Prop :=
  match context.verificationMode with
  | .normalExactClose => Denotes context.localTrackedQty shares
  | .correctiveRemainderClose => ∃ tracked attributed text, Denotes context.localTrackedQty tracked ∧
      context.attributedExitFilledQty = some text ∧ Denotes text attributed ∧ 0 < attributed ∧ shares = tracked - attributed

/-- The evidence of the broker allows to sell the shares. -/
structure Sellable (context : VerifiedExitContext) (position : AlpacaPosition) (openOrders : List AlpacaOrder) (shares : ℚ) :
    Prop where
  positive : 0 < shares
  security : toUpperCase position.symbol = toUpperCase context.symbol
  long : position.side = "long"
  /-- No other sell of the symbol can still be executed; for a corrective close no other order at all. -/
  unreserved : ∀ order ∈ openOrders, toUpperCase order.symbol = toUpperCase context.symbol →
    isNonterminalBrokerOrderStatus order.status = true →
    order.side = "sell" ∨ context.verificationMode = .correctiveRemainderClose → order.clientOrderId = context.clientOrderId
  intended : Denotes context.intendedQty shares
  held : Denotes position.qty shares
  available : ∃ text, position.qtyAvailable = some text ∧ Denotes text shares
  accounted : Accounted context shares

variable {text : String} {decimal held intended tracked : ExactDecimal}

theorem Denotes.unique {shares other : ℚ} (first : Denotes text shares) (second : Denotes text other) : shares = other :=
  Option.some.inj (first.symm.trans second)

theorem denotes_of_parse (parsed : parseExactNonNegativeDecimal text = some decimal) : Denotes text decimal.value :=
  denote_of_parse parsed

theorem denotes_of_positive (parsed : parseExactPositiveDecimal text = some decimal) : Denotes text decimal.value :=
  denotes_of_parse (parseExactPositiveDecimal_iff.mp parsed).1

theorem denotes_canonical (canonical : decimal.Canonical) : Denotes decimal.canonical decimal.value :=
  denotes_of_parse canonical

theorem accounted_of_verified (read : parseExactPositiveDecimal context.localTrackedQty = some tracked)
    (verified : quantityVerified context held intended tracked = true) :
    held.value = intended.value ∧ Accounted context intended.value := by
  unfold quantityVerified at verified
  unfold Accounted
  cases mode : context.verificationMode with
  | normalExactClose =>
    simp only [mode, Bool.and_eq_true, equalDecimal_iff] at verified
    obtain ⟨same, local'⟩ := verified
    refine ⟨same, ?_⟩
    rw [← same, local']
    exact denotes_of_positive read
  | correctiveRemainderClose =>
    simp only [mode] at verified
    split at verified
    · cases verified
    · rename_i attributed found
      obtain ⟨text, given, parsed⟩ := Option.bind_eq_some_iff.mp found
      split at verified
      · cases verified
      · rename_i expectedRemainder subtracted
        simp only [Bool.and_eq_true, Option.any_eq_true, equalDecimal_iff] at verified
        obtain ⟨⟨_, remainder, positive, same⟩, held_same⟩ := verified
        obtain ⟨difference, written, _, value⟩ := subtractDecimal_exact subtracted
        obtain rfl := Option.some.inj ((parseExactPositiveDecimal_iff.mp positive).1.symm.trans written)
        refine ⟨held_same, tracked.value, attributed.value, text, denotes_of_positive read, given,
          denotes_of_positive parsed, (parseExactPositiveDecimal_iff.mp parsed).2, same.trans value⟩

theorem unreserved_of_conflicts (none : conflictingOrders context openOrders = [])
    {order : AlpacaOrder} (member : order ∈ openOrders) (symbol : toUpperCase order.symbol = toUpperCase context.symbol)
    (nonterminal : isNonterminalBrokerOrderStatus order.status = true)
    (conflicts : order.side = "sell" ∨ context.verificationMode = .correctiveRemainderClose) :
    order.clientOrderId = context.clientOrderId := by
  have harmless := List.filter_eq_nil_iff.mp none order member
  by_contra other
  refine harmless ?_
  simp only [Bool.and_eq_true, Bool.or_eq_true, beq_iff_eq, bne_iff_ne]
  exact ⟨⟨⟨symbol, conflicts.symm⟩, nonterminal⟩, other⟩

/-- What a verification has found when it allows an exit. -/
theorem verifyExit_ok {qty : ExactDecimal} (verified : verifyExit context position openOrders = .ok qty) :
    ∃ found, position = some found ∧ Sellable context found openOrders qty.value ∧ Denotes qty.canonical qty.value := by
  unfold verifyExit at verified
  dsimp only at verified
  split at verified
  · cases verified
  · rename_i found
    split at verified
    · cases verified
    · split at verified
      · cases verified
      · rename_i identity
        obtain ⟨symbol, long⟩ := not_or.mp identity
        split at verified
        · rename_i held available intended tracked held_read available_read intended_read tracked_read
          split_ifs at verified with unknown conflicts mismatch exceeds reserved
          cases verified
          obtain ⟨same, accounted⟩ := accounted_of_verified tracked_read (by simpa using mismatch)
          have free : held.value = available.value := equalDecimal_iff.mp (by simpa using reserved)
          obtain ⟨text, shown, parsed⟩ := Option.bind_eq_some_iff.mp available_read
          have canonical := canonical_of_parse (parseExactPositiveDecimal_iff.mp intended_read).1
          refine ⟨found, rfl, ?_, denotes_canonical canonical⟩
          exact
            { positive := (parseExactPositiveDecimal_iff.mp intended_read).2
              security := not_not.mp symbol
              long := not_not.mp long
              unreserved := fun order member => unreserved_of_conflicts (not_not.mp conflicts) member
              intended := denotes_of_positive intended_read
              held := same ▸ denotes_of_positive held_read
              available := ⟨text, shown, by rw [← same, free]; exact denotes_of_parse parsed⟩
              accounted := accounted }
        · cases verified

end Evidence

variable {outcome : ExitVerificationOutcome} {others : ExitStore → ExitStore → Prop} {fault : ExitError → Prop}

section Quiet

variable {α β : Type} {program rest moved : ExitProgram α} {store before after : ExitStore}

/-- The orders are left alone, at the broker and in their rows. -/
def SameOrders (store after : ExitStore) : Prop := after.broker = store.broker ∧ after.brokerOrders = store.brokerOrders

/-- What a program may do that sends no order and changes none. -/
def stillContract : Contract ExitStore where
  invariant := fun _ => True
  rely := fun _ _ => True
  guarantee := fun store after => sent after ≤ sent store ∧ SameOrders store after
  rely_refl := fun _ => trivial
  rely_trans := fun _ _ => trivial
  guarantee_refl := fun _ => ⟨le_rfl, rfl, rfl⟩

abbrev Quiet (fault : ExitError → Prop) (program : ExitProgram α) : Prop := program.Harmless stillContract fault

theorem Quiet.unsent (quiet : Quiet fault program) (run : Interleaving fault others (program, store) (rest, before))
    (step : Step fault rest before moved after) : ¬ sent before < sent after :=
  not_lt.mpr (quiet.guaranteed (fun _ _ => trivial) (fun _ => trivial) run step).1

/-- A sequence that sends an order has left a first program that sends none. -/
theorem Quiet.past {next : α → ExitProgram β} {rest moved : ExitProgram β} (quiet : Quiet fault program)
    (run : Interleaving fault others (program >>= next, store) (rest, before)) (step : Step fault rest before moved after)
    (sends : sent before < sent after) :
    ∃ value middle, Interleaving fault others (program, store) (.done (.ok value), middle) ∧
      Interleaving fault others (next value, middle) (rest, before) :=
  Harmless.past quiet (fun _ _ => trivial) (fun _ => trivial) run step fun silent => absurd sends (not_lt.mpr silent.1)

theorem quiet_record {event : ExitEvent} (other : ∀ clientOrderId, event ≠ .posted clientOrderId) :
    stillContract.guarantee store (store.record event) := by
  refine ⟨?_, rfl, rfl⟩
  rw [sent, sent, ExitStore.record, List.countP_append]
  cases event with
  | posted clientOrderId => exact absurd rfl (other clientOrderId)
  | _ => exact le_rfl

theorem quiet_updateIntents (change : OrderIntent → OrderIntent) :
    stillContract.guarantee store (store.updateIntents change) := ⟨le_rfl, rfl, rfl⟩

theorem quiet_elsewhere : Quiet fault (elsewhere : ExitProgram Unit) := by
  refine harmless_answer.bind fun reply => ?_
  cases reply with
  | some message => exact harmless_throw
  | none => exact harmless_pure

theorem quiet_brokerRead (view : ExitStore → α) : Quiet fault (brokerRead view) := by
  refine harmless_answer.bind fun reply => ?_
  cases reply with
  | some message => exact harmless_throw
  | none => exact harmless_read

theorem quiet_block {message : String} : Quiet fault (block context outcome message : ExitProgram α) := by
  refine harmless_answer.bind fun now => (harmless_write fun current _ => ⟨quiet_updateIntents _, trivial⟩).bind
    fun _ => ?_
  refine quiet_elsewhere.attempt.bind fun result => ?_
  cases result <;> exact harmless_throw

theorem quiet_recoverLocally : Quiet fault (recoverLocally context) := by
  refine harmless_commit fun current value later _ success => ⟨?_, trivial⟩
  split at success <;> cases success
  · exact stillContract.guarantee_refl _
  · exact quiet_record nofun

theorem quiet_recoverFromBroker : Quiet fault (recoverFromBroker context) := by
  refine harmless_answer.bind fun reply => ?_
  cases reply with
  | some message => exact harmless_throw
  | none =>
    refine harmless_commit fun current value later _ success => ⟨?_, trivial⟩
    split at success <;> cases success
    · exact stillContract.guarantee_refl _
    · exact quiet_record nofun

theorem quiet_lookUpEvidence (what : String) (view : ExitStore → α) : Quiet fault (lookUpEvidence context what view) := by
  refine (quiet_brokerRead view).attempt.bind fun found => ?_
  cases found with
  | ok found => exact harmless_pure
  | error _ => exact quiet_block

theorem quiet_readExitEvidence : Quiet fault (readExitEvidence context) :=
  (quiet_lookUpEvidence _ _).bind fun _ => (quiet_lookUpEvidence _ _).bind fun _ => harmless_pure

theorem quiet_resolveClearedAttentions : Quiet fault (resolveClearedAttentions context) := by
  unfold resolveClearedAttentions
  cases context.verificationMode with
  | normalExactClose => exact quiet_elsewhere
  | correctiveRemainderClose => exact harmless_pure

end Quiet

section Reading

variable {α : Type} {store after : ExitStore}

/-- A block does not return. -/
theorem block_not_returned {message : String} {value : α}
    (run : Interleaving fault others ((block context outcome message : ExitProgram α), store) (.done (.ok value), after)) :
    False :=
  ((block_fails outcome message).interleaving trivial (fun _ _ _ _ => ⟨trivial, trivial⟩) (fun _ _ _ _ held => held)
    run).2 value rfl

variable {view : ExitStore → α}

theorem through_brokerRead {found : α}
    (run : Interleaving fault others (brokerRead view, store) (.done (.ok found), after)) :
    ∃ seen, found = view seen ∧ Through fault others (brokerRead view, store) [seen] (.done (.ok found), after) := by
  rcases run.done_of_bind with ⟨_, _, impossible⟩ | ⟨reply, middle, asked, read⟩
  · cases impossible
  · cases reply with
    | some message => cases read.of_done
    | none =>
      obtain ⟨seen, later, success, through⟩ := through_commit read
      cases success
      exact ⟨seen, rfl, asked.thenThrough through⟩

/-- What has been looked up is what the broker had at some store of the run. -/
theorem through_lookUpEvidence {what : String} {found : α}
    (run : Interleaving fault others (lookUpEvidence context what view, store) (.done (.ok found), after)) :
    ∃ seen, found = view seen ∧
      Through fault others (lookUpEvidence context what view, store) [seen] (.done (.ok found), after) := by
  rcases run.done_of_bind with ⟨_, _, impossible⟩ | ⟨result, middle, caught, rest⟩
  · cases impossible
  · obtain ⟨_, same, read⟩ := caught.of_attempt
    cases same
    cases result with
    | error _ => exact (block_not_returned rest).elim
    | ok value =>
      obtain ⟨seen, same, through⟩ := through_brokerRead read
      cases rest.of_done
      exact ⟨seen, same, through.attempt.thenRun rest⟩

/-- The evidence is the position at one store of the run, and the open orders at a later one. -/
theorem through_readExitEvidence
    (run : Interleaving fault others (readExitEvidence context, store) (.done (.ok (position, openOrders)), after)) :
    ∃ seen shown, position = evidencePosition context seen ∧ openOrders = evidenceOrders context shown ∧
      Through fault others (readExitEvidence context, store) [seen, shown] (.done (.ok (position, openOrders)), after) := by
  rcases run.done_of_bind with ⟨_, _, impossible⟩ | ⟨first, middle, early, rest⟩
  · cases impossible
  · rcases rest.done_of_bind with ⟨_, _, impossible⟩ | ⟨second, later, late, returned⟩
    · cases impossible
    · cases returned.of_done
      obtain ⟨seen, same, through_seen⟩ := through_lookUpEvidence early
      obtain ⟨shown, also, through_shown⟩ := through_lookUpEvidence late
      exact ⟨seen, shown, same, also, through_seen.andThen (through_shown.thenRun returned)⟩

end Reading

section Sales

variable {start before after : ExitStore} {rest next : ExitProgram VerifiedExitSubmissionResult} {qty : String}

open RemainingExposure in
/-- A corrective close told a total sells the local quantity less the fills of distinct identities. -/
theorem Sellable.remainder {position : AlpacaPosition} {shares : ℚ}
    (sellable : Sellable context position openOrders shares) (corrective : context.verificationMode = .correctiveRemainderClose)
    {toLowerCase : String → String} {fills representatives : List AttributedFillEvidence} {total : ExactDecimal}
    (summary : summarizeAttributedFillQuantities toLowerCase fills = .ok total)
    (told : context.attributedExitFilledQty = some total.canonical) (represents : Represents toLowerCase representatives fills) :
    0 < (representatives.map fillValue).sum ∧
      ∃ tracked, Denotes context.localTrackedQty tracked ∧ shares = tracked - (representatives.map fillValue).sum := by
  obtain ⟨canonical, exact⟩ := total_exact summary
  have accounted := sellable.accounted
  rw [Accounted, corrective] at accounted
  obtain ⟨tracked, attributed, text, tracked_text, given, attributed_text, positive, remainder⟩ := accounted
  obtain rfl := Option.some.inj (told.symm.trans given)
  have same : attributed = (representatives.map fillValue).sum :=
    (attributed_text.unique (denotes_canonical canonical)).trans (exact representatives represents)
  exact ⟨same ▸ positive, tracked, tracked_text, same ▸ remainder⟩

/-- What a step may do that files no order at the broker but sells of the quantity. -/
def filingContract (context : VerifiedExitContext) (qty : String) : Contract ExitStore where
  invariant := fun _ => True
  rely := fun _ _ => True
  guarantee := fun store after => ∀ account, ∀ order ∈ (after.broker account).orders, order ∈ (store.broker account).orders ∨
    account = context.tradingAccountId ∧ order.clientOrderId = context.clientOrderId ∧
      order.symbol = toUpperCase context.symbol ∧ order.side = "sell" ∧ order.qty = some qty
  rely_refl := fun _ => trivial
  rely_trans := fun _ _ => trivial
  guarantee_refl := fun _ _ _ member => .inl member

theorem filing_of_broker {store after : ExitStore} (same : after.broker = store.broker) :
    (filingContract context qty).guarantee store after := fun _ _ member => .inl (same ▸ member)

theorem filing_file {store : ExitStore} {order : AlpacaOrder} :
    (filingContract context qty).guarantee store (store.file context.tradingAccountId (context.filed qty order)) := by
  intro account found member
  by_cases own : account = context.tradingAccountId
  · subst own
    simp only [ExitStore.file, Function.update_self, List.mem_append, List.mem_singleton] at member
    rcases member with before | rfl
    · exact .inl before
    · exact .inr ⟨rfl, rfl, rfl, rfl, rfl⟩
  · left
    simpa only [ExitStore.file, Function.update_of_ne own] using member

/-- The request files at most sells of its quantity. -/
theorem placeVerifiedExit_files : (placeVerifiedExit context qty).Harmless (filingContract context qty) fault := by
  have sends : (submitVerifiedAlpacaExitOrder context qty).Harmless (filingContract context qty) fault := by
    refine harmless_answer.bind fun outcome => ?_
    cases outcome with
    | notSent retryable message => exact harmless_throw
    | rejected message =>
      refine (harmless_write fun current _ => ⟨?_, trivial⟩).bind fun _ => harmless_throw
      exact filing_of_broker rfl
    | uncertain message arrived =>
      refine (harmless_write fun current _ => ⟨?_, trivial⟩).bind fun _ => harmless_throw
      cases arrived with
      | none => exact filing_of_broker rfl
      | some order => exact filing_file
    | accepted order =>
      refine (harmless_write fun current _ => ⟨?_, trivial⟩).bind fun _ => harmless_pure
      exact filing_file
  have recovers : (recoverFromBroker context).Harmless (filingContract context qty) fault := by
    refine harmless_answer.bind fun reply => ?_
    cases reply with
    | some message => exact harmless_throw
    | none =>
      refine harmless_commit fun current value later _ success => ⟨filing_of_broker ?_, trivial⟩
      split at success <;> cases success <;> rfl
  refine sends.attempt.bind fun result => ?_
  cases result with
  | ok order => exact harmless_pure
  | error error =>
    cases error with
    | delivery classification message =>
      cases classification with
      | notSentRetryable | notSentBlocked | deliveryUncertain => exact harmless_throw
      | brokerRejected =>
        refine recovers.attempt.bind fun found => ?_
        cases found with
        | error _ => exact harmless_throw
        | ok order =>
          cases order with
          | none => exact harmless_throw
          | some order => exact harmless_pure
    | http | preSubmission | plain | databaseUnavailable => exact harmless_throw

open RemainingExposure in
/-- The exit has read evidence that allows the shares, and requests exactly these. -/
inductive SoldOnEvidence (fault : ExitError → Prop) (others : ExitStore → ExitStore → Prop) (context : VerifiedExitContext)
    (start : ExitStore) (rest : ExitProgram VerifiedExitSubmissionResult) (before after : ExitStore) : Prop where
  | intro {position : AlpacaPosition} {seen shown reached : ExitStore} {qty : String} {shares : ℚ}
      (passes : Through fault others (executeVerifiedExit context, start) [seen, shown]
        (placeVerifiedExit context qty, reached))
      (requests : Interleaving fault others (placeVerifiedExit context qty, reached) (rest, before))
      (position_seen : evidencePosition context seen = some position)
      (sellable : Sellable context position (evidenceOrders context shown) shares)
      (sent_exactly : Denotes qty shares)
      (files : (filingContract context qty).guarantee before after)
      (remainder : context.verificationMode = .correctiveRemainderClose →
        ∀ toLowerCase fills total representatives, summarizeAttributedFillQuantities toLowerCase fills = .ok total →
          context.attributedExitFilledQty = some total.canonical → Represents toLowerCase representatives fills →
          0 < (representatives.map fillValue).sum ∧
            ∃ tracked, Denotes context.localTrackedQty tracked ∧ shares = tracked - (representatives.map fillValue).sum)

/-- A step that sends an order is one of an exit whose evidence allows it. -/
theorem executeVerifiedExit_soldOnEvidence
    (run : Interleaving fault others (executeVerifiedExit context, start) (rest, before))
    (step : Step fault rest before next after) (sends : sent before < sent after) :
    SoldOnEvidence fault others context start rest before after := by
  obtain ⟨_, known, account, run⟩ := quiet_elsewhere.past run step sends
  obtain ⟨local', checked, locally, run⟩ := quiet_recoverLocally.past run step sends
  cases local' with
  | some brokerOrderId => exact (run.of_done_step step).elim
  | none =>
    obtain ⟨found, asked, recovered, run⟩ := Quiet.past quiet_recoverFromBroker.attempt run step sends
    match found with
    | .error _ => exact absurd sends ((quiet_block).unsent run step)
    | .ok (some order) => exact (run.of_done_step step).elim
    | .ok none =>
      obtain ⟨⟨position, openOrders⟩, read, evidence, run⟩ := quiet_readExitEvidence.past run step sends
      obtain ⟨seen, shown, position_seen, orders_shown, through⟩ := through_readExitEvidence evidence
      dsimp only at run
      cases verified : verifyExit context position openOrders with
      | error refusal =>
        rw [verified] at run
        exact absurd sends ((quiet_block).unsent run step)
      | ok intended =>
        rw [verified] at run
        obtain ⟨_, cleared, resolved, run⟩ := quiet_resolveClearedAttentions.past run step sends
        obtain ⟨authorized, reached, asks, run⟩ := Quiet.past harmless_answer run step sends
        cases authorized with
        | error refusal => exact (run.of_done_step step).elim
        | ok _ =>
          obtain ⟨held, same, sellable, sent_exactly⟩ := verifyExit_ok verified
          have passes : Through fault others (executeVerifiedExit context, start) [seen, shown]
              (placeVerifiedExit context intended.canonical, reached) := by
            refine account.thenThrough (locally.thenThrough (recovered.thenThrough (through.thenRun ?_)))
            dsimp only
            rw [verified]
            exact resolved.andThen (asks.andThen .refl)
          have files := placeVerifiedExit_files.guaranteed (fun _ _ => trivial) (fun _ => trivial) run step
          exact .intro passes run (position_seen.symm.trans same) (orders_shown ▸ sellable) sent_exactly files
            fun corrective _ _ _ _ summary told represents => sellable.remainder corrective summary told represents

end Sales

/-- Half of three shares has been sold, and the rest is sold now. -/
def remainderContext : VerifiedExitContext where
  verificationMode := .correctiveRemainderClose
  tradingAccountId := 1
  trackedPositionId := 1
  orderIntentId := 1
  symbol := "AAA"
  localTrackedQty := "3"
  intendedQty := "1.5"
  attributedExitFilledQty := some "1.5"
  clientOrderId := "ai-corrective-1-1-r1"
  type := .market
  trailPercent := none

def remainderStore : ExitStore :=
  ⟨[], [], [], [], fun _ => ⟨[], [⟨"AAA", "long", "1.50", some "1.5"⟩]⟩, []⟩

theorem verifies_remainder : Verifies remainderContext ⟨15, 1, "1.5"⟩ remainderStore where
  account := Nat.one_ne_zero
  unfiled := rfl
  unknown := rfl
  verified := by
    have upper : toUpperCase "AAA" = "AAA" := by decide
    have position : evidencePosition remainderContext remainderStore = some ⟨"AAA", "long", "1.50", some "1.5"⟩ := by
      simp [evidencePosition, remainderStore, remainderContext, upper]
    have openOrders : evidenceOrders remainderContext remainderStore = [] := rfl
    rw [position, openOrders]
    decide

theorem executeVerifiedExit_soldOnEvidence_sample : ∃ rest before after, sent before < sent after ∧
    SoldOnEvidence (fun _ => False) (fun _ _ => False) remainderContext remainderStore rest before after := by
  have order : AlpacaOrder := ⟨"", "", "", "", "", .new, none, none, none, none, none, none⟩
  have posts : sent remainderStore < sent (acceptedStore remainderContext (remainderContext.filed "1.5" order) remainderStore) :=
    Nat.lt_succ_self _
  have asked : Interleaving (fun _ => False) (fun _ _ => False) (executeVerifiedExit remainderContext, remainderStore) _ :=
    verifies_remainder.executes.tail (.own (.ask (PlacementOutcome.accepted order)))
  exact ⟨_, _, _, posts, executeVerifiedExit_soldOnEvidence asked (.commit rfl) posts⟩

end AiTrader.Exit
