import AiTrader.Lineage.Classifier

/-! # A complete local chain

The verdict is complete only if no check has left a note that stands against it. -/

namespace AiTrader.Lineage

open Library JsNumber

/-- A note that does not stand against a complete chain. -/
def Note.harmless : Note → Bool
  | .unstructured | .unexecuted | .impossibleFill => false
  | .reason code => !contradictions.contains code
  | .evidence _ => true

/-- No note stands against a complete chain. -/
def Clean (notes : List Note) : Prop := ∀ note ∈ notes, note.harmless = true

section Notes

variable {notes others : List Note} {condition : Bool} {note : Note}

@[simp] theorem clean_nil : Clean [] := nofun

@[simp] theorem clean_cons : Clean (note :: notes) ↔ note.harmless = true ∧ Clean notes := List.forall_mem_cons

@[simp] theorem clean_append : Clean (notes ++ others) ↔ Clean notes ∧ Clean others := List.forall_mem_append

@[simp] theorem clean_flatMap {Row : Type} {rows : List Row} {make : Row → List Note} :
    Clean (rows.flatMap make) ↔ ∀ row ∈ rows, Clean (make row) := by
  unfold Clean
  simp only [List.mem_flatMap, forall_exists_index, and_imp]
  constructor
  · exact fun clean row member note listed => clean note row member listed
  · exact fun clean note row member listed => clean row member note listed

@[simp] theorem clean_noteIf : Clean (noteIf condition notes) ↔ (condition = true → Clean notes) := by
  unfold noteIf
  cases condition <;> simp

@[simp] theorem harmless_reference (kind : String) (id : Nat) (role : EvidenceRole) : (reference kind id role).harmless = true := rfl

@[simp] theorem harmless_reason (code : ReasonCode) : (Note.reason code).harmless = !contradictions.contains code := rfl

@[simp] theorem harmless_unstructured : Note.unstructured.harmless = false := rfl

@[simp] theorem harmless_unexecuted : Note.unexecuted.harmless = false := rfl

@[simp] theorem harmless_impossibleFill : Note.impossibleFill.harmless = false := rfl

@[simp] theorem clean_contradict {code : ReasonCode} {kind : String} {id : Nat} :
    Clean (contradict code kind id) ↔ code ∉ contradictions := by
  unfold contradict
  simp

/-- A complete verdict has only clean notes. -/
theorem clean_of_complete {entries : Nat} (complete : (verdictOf entries notes).complete = true) : entries = 1 ∧ Clean notes := by
  unfold verdictOf at complete
  simp only [Bool.and_eq_true, beq_iff_eq, Bool.not_eq_true', Bool.or_eq_false_iff, List.contains_eq_mem, decide_eq_false_iff_not,
    List.any_eq_false, decide_eq_true_eq] at complete
  obtain ⟨⟨⟨⟨⟨single, structural⟩, -, execution⟩, -⟩, possible, consistent⟩, -⟩ := complete
  refine ⟨single, fun note member => ?_⟩
  cases note with
  | reason code =>
    rw [harmless_reason, Bool.not_eq_true', List.contains_eq_mem, decide_eq_false_iff_not]
    exact fun contradicts => consistent code contradicts member
  | evidence reference => rfl
  | unstructured => exact absurd member structural
  | unexecuted => exact absurd member execution
  | impossibleFill => exact absurd member possible

end Notes

section Spec

variable {N : Type} [JsNumber N] (letters : Letters)

/-- An intent of the position: its account, its security, and the attribution it froze. -/
structure IntentFits (source : EvidenceSource N) (intent : IntentEvidence N) : Prop where
  side : canonical letters intent.side = "BUY"
  symbol : canonical letters intent.symbol = canonical letters source.identity.securitySymbol
  filled : filled letters intent.status = true
  account : intent.tradingAccountId = source.identity.tradingAccountId
  position : intent.trackedPositionId = some source.identity.trackedPositionId
  attribution : ∃ row ∈ source.attribution, intent.subscriptionId = some row.subscriptionId ∧
    intent.tradingAccountSubscriptionId = row.assignmentId ∧ row.assignmentId ≠ none ∧
    row.securityId = source.identity.securityId ∧ row.assignmentAccountId = source.identity.tradingAccountId ∧
    row.assignmentSubscriptionId = intent.subscriptionId

/-- A filled broker order of the position. -/
structure OrderFits (identity : PositionIdentity) (order : OrderEvidence) : Prop where
  account : order.tradingAccountId = identity.tradingAccountId
  position : order.trackedPositionId = some identity.trackedPositionId
  broker : canonical letters order.broker = canonical letters identity.positionBroker
  security : order.securityId = identity.securityId
  symbol : canonical letters order.symbol = canonical letters identity.securitySymbol
  side : canonical letters order.side = "BUY"
  filled : filled letters order.status = true
  client : order.clientOrderIdMatchesIntent = true

/-- A fill of the position. -/
structure FillFits (identity : PositionIdentity) (fill : FillEvidence N) : Prop where
  unique : fill.activityIdDuplicateCount ≤ 1
  linked : fill.trackedPositionLinkSource ≠ some "historical_order_lifecycle_repair"
  account : fill.tradingAccountId = identity.tradingAccountId
  position : fill.trackedPositionId = some identity.trackedPositionId
  broker : canonical letters fill.broker = canonical letters identity.positionBroker
  mode : canonical letters fill.mode = canonical letters (identity.environment.getD "")
  symbol : canonical letters (fill.symbol.getD "") = canonical letters identity.securitySymbol
  side : canonical letters (fill.side.getD "") = "BUY"
  order : fill.orderIdMatchesBrokerOrder = true

/-- The one dispatch of an intent and its one adapter invocation. -/
structure DispatchFits (dispatch : DispatchEvidence) : Prop where
  record : ∃ id, dispatchRecords dispatch = [id]
  durable : dispatch.durableClientIdentityConsistent = true
  marker : ∃ marker, dispatch.adapterMarkers = [marker] ∧ marker.identityComplete = true ∧ marker.matchesIntent = true ∧
    marker.matchesBrokerOrder = true ∧ marker.matchesDurableDispatch = true

/-- The claim of an intent, in the state of the position. -/
structure ClaimFits (source : EvidenceSource N) (intent : IntentEvidence N) (claim : ClaimEvidence) : Prop where
  consistent : claimConsistent source.currentState.status claim = true
  account : some claim.tradingAccountId = source.identity.tradingAccountId
  security : claim.securityId = source.identity.securityId
  position : claim.trackedPositionId = none ∨ claim.trackedPositionId = some source.identity.trackedPositionId
  intent : claim.orderIntentId = some intent.id

/-- Each cumulative quantity is the one before and its fill, the last one the intended quantity. -/
def Telescopes (intended : N) : N → List (Nat × N × N × N) → Prop
  | previousCum, [] => qtyEqual previousCum intended = true
  | previousCum, (_, qty, cumQty, _) :: later => qtyEqual (cumQty - previousCum) qty = true ∧ Telescopes intended cumQty later

/-- The fills of an intent, distinct in time, which add up to it. -/
structure ExecutionFits (identity : PositionIdentity) (intent : IntentEvidence N) : Prop where
  some : intent.fills ≠ []
  fills : ∀ fill ∈ intent.fills, FillFits letters identity fill ∧ (quantitiesOf fill).isSome = true
  times : ∃ times : List String, intent.fills.map FillEvidence.transactionTime = times.map .some ∧ times.Nodup
  quantity : ∃ qty, intent.qty = .some qty ∧ intendedComplete (.some (abs qty)) = true ∧
    Telescopes (abs qty) (number 0) (measured intent.fills)

/-- A complete chain: one entry intent, its one filled order, its fills, one dispatch, one invocation, one claim. -/
structure CompleteChain (source : EvidenceSource N) (intent : IntentEvidence N) : Prop where
  entry : entriesOf letters source = [intent]
  fits : IntentFits letters source intent
  order : ∃ order, intent.brokerOrders = [order] ∧ OrderFits letters source.identity order
  execution : ExecutionFits letters source.identity intent
  dispatch : DispatchFits intent.dispatch
  claim : ∃ claim, source.claims = [claim] ∧ ClaimFits source intent claim

end Spec

section Checks

variable {N : Type} [JsNumber N] {letters : Letters} {source : EvidenceSource N} {intent : IntentEvidence N}
  {identity : PositionIdentity}

theorem differs_eq_false {value : Option Nat} {other : Nat} (known : value ≠ none) :
    differs value other = false ↔ value = some other := by
  cases value with
  | none => exact absurd rfl known
  | some value => simp [differs]

theorem orderFits_of_clean {order : OrderEvidence} (clean : Clean (orderNotes letters identity order)) :
    OrderFits letters identity order := by
  simp +decide only [orderNotes, clean_append, clean_cons, clean_nil, clean_noteIf, clean_contradict, harmless_reference,
    imp_false, Bool.not_eq_true, Bool.or_eq_false_iff, bne_eq_false_iff_eq, beq_eq_false_iff_ne, Bool.not_eq_false',
    and_true, true_and, and_false] at clean
  obtain ⟨⟨⟨⟨⟨⟨⟨⟨account, position⟩, broker⟩, security⟩, symbol⟩, side⟩, filled⟩, known⟩, client⟩ := clean
  exact ⟨account, (differs_eq_false known).mp position, broker, security, symbol, side, filled, client⟩

variable {times : List String}

theorem fillFits_of_clean {intended : Option N} {fill : FillEvidence N}
    (clean : Clean (fillNotes letters identity intended times fill)) :
    FillFits letters identity fill ∧ timeRepeats times fill = false ∧ (quantitiesOf fill).isSome = true := by
  simp +decide only [fillNotes, clean_append, clean_cons, clean_nil, clean_noteIf, clean_contradict, harmless_reference,
    imp_false, Bool.not_eq_true, Bool.or_eq_false_iff, bne_eq_false_iff_eq, beq_eq_false_iff_ne,
    Bool.not_eq_false', decide_eq_false_iff_not, not_lt, and_true, true_and, and_false, Option.isNone_eq_false_iff] at clean
  obtain ⟨⟨⟨⟨⟨⟨⟨⟨unique, linked⟩, ⟨⟨⟨⟨account, position⟩, broker⟩, mode⟩, symbol⟩⟩, side⟩, known⟩, order⟩, repeats⟩, _⟩,
    _, measured⟩ := clean
  exact ⟨⟨unique, linked, account, (differs_eq_false known).mp position, broker, mode, symbol, side, order⟩, repeats, measured⟩

theorem fillsFit_of_clean {intended : Option N} {fills : List (FillEvidence N)}
    (clean : Clean (fillsNotes letters identity intended times fills)) :
    (∀ fill ∈ fills, FillFits letters identity fill ∧ (quantitiesOf fill).isSome = true) ∧
      chronologyVerifiable times fills = true := by
  induction fills generalizing times with
  | nil => exact ⟨nofun, rfl⟩
  | cons fill later ih =>
    obtain ⟨own, rest⟩ := clean_append.mp clean
    obtain ⟨fits, repeats, quantities⟩ := fillFits_of_clean own
    obtain ⟨each, chronology⟩ := ih rest
    constructor
    · intro other member
      rcases List.mem_cons.mp member with rfl | member
      · exact ⟨fits, quantities⟩
      · exact each other member
    · rw [chronologyVerifiable, repeats, chronology]
      rfl

omit [JsNumber N] in
theorem times_of_chronology {fills : List (FillEvidence N)} (chronology : chronologyVerifiable times fills = true) :
    ∃ own : List String, fills.map FillEvidence.transactionTime = own.map some ∧ own.Nodup ∧ ∀ time ∈ own, time ∉ times := by
  induction fills generalizing times with
  | nil => exact ⟨[], rfl, List.nodup_nil, nofun⟩
  | cons fill later ih =>
    rw [chronologyVerifiable, Bool.and_eq_true, Bool.not_eq_true'] at chronology
    obtain ⟨repeats, chronology⟩ := chronology
    obtain ⟨own, same, distinct, apart⟩ := ih chronology
    unfold timeRepeats at repeats
    cases known : fill.transactionTime with
    | none => simp [known] at repeats
    | some time =>
      simp only [known, List.contains_eq_mem, decide_eq_false_iff_not] at repeats
      simp only [known, Option.toList_some, List.singleton_append, List.mem_cons, not_or] at apart
      refine ⟨time :: own, by simp [known, same], List.nodup_cons.mpr ⟨fun member => (apart time member).1 rfl, distinct⟩, ?_⟩
      intro other member
      rcases List.mem_cons.mp member with rfl | member
      · exact repeats
      · exact (apart other member).2

omit [JsNumber N] in
theorem attribution_of_clean (subscription : intent.subscriptionId ≠ none) (assignment : intent.tradingAccountSubscriptionId ≠ none)
    (known : (intent.subscriptionId != none && intent.tradingAccountSubscriptionId != none &&
      match attributionOf source intent with
      | none => true
      | some row => row.securityId != source.identity.securityId || row.assignmentAccountId != source.identity.tradingAccountId ||
        row.assignmentSubscriptionId != intent.subscriptionId) = false) :
    ∃ row ∈ source.attribution, intent.subscriptionId = some row.subscriptionId ∧
      intent.tradingAccountSubscriptionId = row.assignmentId ∧ row.assignmentId ≠ none ∧
      row.securityId = source.identity.securityId ∧ row.assignmentAccountId = source.identity.tradingAccountId ∧
      row.assignmentSubscriptionId = intent.subscriptionId := by
  rw [bne_iff_ne.mpr subscription, bne_iff_ne.mpr assignment] at known
  cases found : attributionOf source intent with
  | none => simp [found] at known
  | some row =>
    simp only [found, Bool.true_and, Bool.or_eq_false_iff, bne_eq_false_iff_eq] at known
    obtain ⟨⟨security, account⟩, frozen⟩ := known
    have member := List.mem_of_find?_eq_some found
    have matched := List.find?_some found
    rw [Bool.and_eq_true, beq_iff_eq, beq_iff_eq] at matched
    exact ⟨row, member, matched.1.symm, matched.2.symm, matched.2 ▸ assignment, security, account, frozen⟩

omit [JsNumber N] in
theorem intentFits_of_clean (clean : Clean (intentNotes letters source intent)) :
    IntentFits letters source intent ∧ ∃ order, intent.brokerOrders = [order] := by
  simp +decide only [intentNotes, clean_append, clean_cons, clean_nil, clean_noteIf, clean_contradict, harmless_reference,
    imp_false, Bool.not_eq_true, Bool.or_eq_false_iff, bne_eq_false_iff_eq, beq_eq_false_iff_ne, Bool.not_eq_false',
    decide_eq_false_iff_not, not_lt, and_true, true_and, and_false] at clean
  obtain ⟨⟨⟨⟨⟨⟨⟨⟨⟨⟨⟨side, symbol⟩, filled⟩, account, position⟩, known⟩, subscription⟩, assignment⟩, attribution⟩, _⟩, _⟩,
    some_⟩, atMost⟩ := clean
  constructor
  · exact ⟨side, symbol, filled, account, (differs_eq_false known).mp position,
      attribution_of_clean subscription assignment attribution⟩
  · have nonempty : intent.brokerOrders ≠ [] := by simpa using some_
    have length : intent.brokerOrders.length = 1 := le_antisymm atMost (List.length_pos_iff.mpr nonempty)
    exact List.length_eq_one_iff.mp length

theorem dispatchFits_of_clean {dispatch : DispatchEvidence} (clean : Clean (dispatchNotes dispatch)) : DispatchFits dispatch := by
  simp +decide only [dispatchNotes, clean_append, clean_cons, clean_nil, clean_noteIf, clean_flatMap, imp_false,
    Bool.not_eq_true, bne_eq_false_iff_eq, Bool.and_eq_false_iff, Bool.not_eq_false', and_true, and_false] at clean
  obtain ⟨⟨⟨⟨record, durable⟩, marker⟩, markers⟩, _⟩ := clean
  obtain ⟨id, record⟩ := List.length_eq_one_iff.mp record
  obtain ⟨only, marker⟩ := List.length_eq_one_iff.mp marker
  have fits := markers only (marker ▸ List.mem_singleton_self only)
  rw [record] at durable fits
  unfold markerNotes at fits
  rw [clean_append] at fits
  obtain ⟨-, fits⟩ := fits
  split at fits
  case isTrue => simp +decide at fits
  case isFalse complete =>
    simp +decide only [clean_noteIf, clean_append, clean_contradict, clean_cons, clean_nil, false_and, imp_false,
      Bool.not_eq_true, Bool.or_eq_false_iff, Bool.not_eq_false', Bool.and_eq_false_iff, List.isEmpty_cons,
      Bool.not_false, false_or, Bool.not_eq_true'] at fits complete durable
    exact ⟨⟨id, record⟩, durable, only, marker, Bool.not_eq_false _ ▸ complete, fits.1.1, fits.1.2, fits.2⟩

omit [JsNumber N] in
theorem claimFits_of_clean {claim : ClaimEvidence} (clean : Clean (claimNotes source (some intent) claim)) :
    ClaimFits source intent claim := by
  unfold claimNotes at clean
  rw [clean_append, clean_append] at clean
  obtain ⟨⟨-, settled⟩, identity⟩ := clean
  split at settled
  case isTrue => simp +decide at settled
  case isFalse =>
    simp +decide only [clean_noteIf, clean_contradict, clean_cons, clean_nil, imp_false, Bool.not_eq_true, Bool.or_eq_false_iff,
      Bool.not_eq_false', bne_eq_false_iff_eq, Option.any_some, and_false, false_and] at settled identity
    obtain ⟨⟨⟨account, security⟩, position⟩, intent⟩ := identity
    refine ⟨settled, account, security, ?_, intent⟩
    cases recorded : claim.trackedPositionId with
    | none => exact .inl rfl
    | some id =>
      rw [recorded] at position
      exact .inr ((differs_eq_false (Option.some_ne_none id)).mp position)

omit [JsNumber N] in
theorem claims_of_clean (clean : Clean (claimsNotes source (some intent))) :
    ∃ claim, source.claims = [claim] ∧ ClaimFits source intent claim := by
  simp +decide only [claimsNotes, clean_append, clean_noteIf, clean_cons, clean_nil, clean_flatMap, imp_false, Bool.not_eq_true,
    decide_eq_false_iff_not, not_lt, and_false, and_true] at clean
  obtain ⟨⟨some_, atMost⟩, each⟩ := clean
  have nonempty : source.claims ≠ [] := by simpa using some_
  obtain ⟨claim, only⟩ := List.length_eq_one_iff.mp (le_antisymm atMost (List.length_pos_iff.mpr nonempty))
  exact ⟨claim, only, claimFits_of_clean (each claim (only ▸ List.mem_singleton_self claim))⟩

theorem telescopes_of_clean {intended previousCum : N} {rows : List (Nat × N × N × N)}
    (clean : Clean (chainNotes intended previousCum rows).1) (last : qtyEqual (chainNotes intended previousCum rows).2 intended = true) :
    Telescopes intended previousCum rows := by
  induction rows generalizing previousCum with
  | nil => exact last
  | cons row later ih =>
    obtain ⟨id, qty, cumQty, leavesQty⟩ := row
    rw [chainNotes] at clean last
    obtain ⟨possible, rest⟩ := clean_append.mp clean
    simp +decide only [clean_noteIf, clean_append, clean_cons, imp_false, Bool.not_eq_true, Bool.or_eq_false_iff,
      Bool.not_eq_false', false_and] at possible
    exact ⟨possible.1, ih rest last⟩

theorem executionFits_of_clean (clean : Clean (executionNotes letters source intent)) :
    ExecutionFits letters source.identity intent := by
  unfold executionNotes at clean
  rw [clean_append, clean_append, clean_append] at clean
  obtain ⟨⟨⟨some_, intended⟩, fills⟩, chain⟩ := clean
  simp +decide only [clean_noteIf, clean_cons, imp_false, Bool.not_eq_true, Bool.not_eq_false', and_false, false_and]
    at some_ intended
  obtain ⟨each, chronology⟩ := fillsFit_of_clean fills
  obtain ⟨times, same, distinct, -⟩ := times_of_chronology chronology
  refine ⟨by simpa using some_, each, ⟨times, same, distinct⟩, ?_⟩
  cases quantity : intent.qty with
  | none => simp [quantity, intendedOf, intendedComplete] at intended
  | some qty =>
    have known : intendedOf intent = some (abs qty) := congrArg (Option.map JsNumber.abs) quantity
    have complete : quantitiesComplete (some (abs qty)) intent.fills = true := by
      rw [quantitiesComplete, ← known, intended, Bool.true_and, List.all_eq_true]
      exact fun fill member => (each fill member).2
    rw [known] at chain intended
    simp only [chronology, complete, Bool.and_self, if_true] at chain
    unfold cumulativeNotes at chain
    rw [clean_append, clean_append] at chain
    obtain ⟨⟨steps, -⟩, whole⟩ := chain
    simp +decide only [clean_noteIf, clean_cons, imp_false, Bool.not_eq_true, Bool.and_eq_false_iff, Bool.not_eq_false',
      some_, false_or, and_false, false_and] at whole
    exact ⟨qty, rfl, intended, telescopes_of_clean steps whole⟩

theorem completeChain_of_complete (complete : (classifyPositionLifecycleEvidence letters source).shadowClassification =
    .completeLocalOrderChain) : ∃ intent, CompleteChain letters source intent := by
  unfold classifyPositionLifecycleEvidence at complete
  dsimp only at complete
  split_ifs at complete with _ verdict
  obtain ⟨single, clean⟩ := clean_of_complete verdict
  obtain ⟨intent, only⟩ := List.length_eq_one_iff.mp single
  simp only [notesOf, clean_append, only, List.head?_cons, entryNotes] at clean
  obtain ⟨⟨⟨⟨-, ⟨⟨intentClean, orders⟩, execution⟩, dispatch⟩, claims⟩, -⟩, -⟩ := clean
  obtain ⟨fits, order, one⟩ := intentFits_of_clean intentClean
  refine ⟨intent, only, fits, ⟨order, one, ?_⟩, executionFits_of_clean execution, dispatchFits_of_clean dispatch,
    claims_of_clean claims⟩
  exact orderFits_of_clean (clean_flatMap.mp orders order (one ▸ List.mem_singleton_self order))

end Checks

end AiTrader.Lineage
