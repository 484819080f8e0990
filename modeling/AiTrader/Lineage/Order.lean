import Mathlib.Data.List.Forall2
import Mathlib.Tactic.Ring
import AiTrader.Lineage.Exactness

/-! # The order of the records

The same records leave the same notes in every order, except that only the first entry is looked into and cumulative
quantities are read as listed. -/

namespace AiTrader.Lineage

open Library JsNumber

/-- The same notes, in whatever order and number. -/
def Alike (notes others : List Note) : Prop := ∀ note, note ∈ notes ↔ note ∈ others

section Notes

variable {notes others more rest : List Note} {Row : Type} {rows listed : List Row} {make : Row → List Note}

@[refl] theorem Alike.refl (notes : List Note) : Alike notes notes := fun _ => Iff.rfl

theorem Alike.of_eq (same : notes = others) : Alike notes others := same ▸ Alike.refl notes

theorem Alike.append (first : Alike notes others) (second : Alike more rest) : Alike (notes ++ more) (others ++ rest) := by
  intro note
  rw [List.mem_append, List.mem_append, first note, second note]

theorem alike_flatMap {other : Row → List Note} (covers : ∀ row ∈ rows, ∃ related ∈ listed, make row = other related)
    (covered : ∀ related ∈ listed, ∃ row ∈ rows, make row = other related) : Alike (rows.flatMap make) (listed.flatMap other) := by
  intro note
  rw [List.mem_flatMap, List.mem_flatMap]
  constructor
  · rintro ⟨row, member, noted⟩
    obtain ⟨related, found, same⟩ := covers row member
    exact ⟨related, found, same ▸ noted⟩
  · rintro ⟨related, member, noted⟩
    obtain ⟨row, found, same⟩ := covered related member
    exact ⟨row, found, same ▸ noted⟩

theorem alike_flatMap_perm (same : rows.Perm listed) : Alike (rows.flatMap make) (listed.flatMap make) :=
  alike_flatMap (fun row member => ⟨row, same.mem_iff.mp member, rfl⟩) fun row member => ⟨row, same.mem_iff.mpr member, rfl⟩

theorem alike_map_perm {make : Row → Note} (same : rows.Perm listed) : Alike (rows.map make) (listed.map make) := by
  intro note
  rw [(same.map make).mem_iff]

/-- Alike notes make one verdict. -/
theorem Alike.verdict (alike : Alike notes others) (entries : Nat) : verdictOf entries notes = verdictOf entries others := by
  have contains (note : Note) : notes.contains note = others.contains note := by
    rw [List.contains_eq_mem, List.contains_eq_mem, decide_eq_decide]
    exact alike note
  unfold verdictOf
  simp only [contains]

/-- Alike notes tell the same reasons. -/
theorem Alike.reasonCodes (alike : Alike notes others) : reasonCodes notes = reasonCodes others := by
  have members (text : String) : text ∈ (notes.filterMap reasonOf).map ReasonCode.text ↔
      text ∈ (others.filterMap reasonOf).map ReasonCode.text := by
    simp only [List.mem_map, List.mem_filterMap, alike _]
  have same : ((notes.filterMap reasonOf).map ReasonCode.text).dedup.Perm
      ((others.filterMap reasonOf).map ReasonCode.text).dedup := by
    apply (List.perm_ext_iff_of_nodup (List.nodup_dedup _) (List.nodup_dedup _)).mpr
    intro text
    rw [List.mem_dedup, List.mem_dedup, members]
  apply eq_of_ascending _ (((perm_byKey id _).trans same).trans (perm_byKey id _).symm) (pairwise_byKey id _) (pairwise_byKey id _)
  rw [List.map_id]
  exact (perm_byKey id _).nodup_iff.mpr (List.nodup_dedup _)

end Notes

section Fills

variable {N : Type} [JsNumber N] {letters : Letters} {identity : PositionIdentity} {intended : Option N}
  {fills others : List (FillEvidence N)}

/-- What a fill whose time is not new leaves behind. -/
def ambiguous : List Note := [.reason .executedQuantityAmbiguous, .unexecuted]

theorem mem_between {first second third middle : List Note} {weak strong : Bool} (implies : strong = true → weak = true)
    (note : Note) : note ∈ first ++ noteIf weak middle ++ second ++ third ↔
      note ∈ first ++ noteIf strong middle ++ second ++ third ∨ weak = true ∧ note ∈ middle := by
  cases strong <;> cases weak <;> simp at implies ⊢ <;> tauto

variable {times : List String}

theorem mem_fillNotes {fill : FillEvidence N} (note : Note) : note ∈ fillNotes letters identity intended times fill ↔
      note ∈ fillNotes letters identity intended [] fill ∨ timeRepeats times fill = true ∧ note ∈ ambiguous := by
  have unknown : timeRepeats [] fill = true → timeRepeats times fill = true := by
    unfold timeRepeats
    cases fill.transactionTime <;> simp
  exact mem_between unknown note

theorem mem_fillsNotes (note : Note) : note ∈ fillsNotes letters identity intended times fills ↔
    (∃ fill ∈ fills, note ∈ fillNotes letters identity intended [] fill) ∨
      chronologyVerifiable times fills = false ∧ note ∈ ambiguous := by
  induction fills generalizing times with
  | nil => simp [fillsNotes, chronologyVerifiable]
  | cons fill later ih =>
    rw [fillsNotes, List.mem_append, mem_fillNotes, ih, chronologyVerifiable]
    simp only [List.exists_mem_cons_iff, Bool.and_eq_false_iff, Bool.not_eq_false']
    generalize (∃ other ∈ later, note ∈ fillNotes letters identity intended [] other) = told
    tauto

omit [JsNumber N] in
theorem chronologyVerifiable_iff : chronologyVerifiable times fills = true ↔
    (∀ fill ∈ fills, ∃ time, fill.transactionTime = some time ∧ time ∉ times) ∧
      (fills.map FillEvidence.transactionTime).Nodup := by
  induction fills generalizing times with
  | nil => simp [chronologyVerifiable]
  | cons fill later ih =>
    rw [chronologyVerifiable, Bool.and_eq_true, ih, Bool.not_eq_true', List.forall_mem_cons, List.map_cons, List.nodup_cons]
    unfold timeRepeats
    cases known : fill.transactionTime with
    | none => simp
    | some time =>
      simp only [List.contains_eq_mem, decide_eq_false_iff_not, Option.toList_some, List.singleton_append, List.mem_cons,
        not_or, Option.some.injEq, exists_eq_left', List.mem_map, not_exists, not_and]
      constructor
      · rintro ⟨fresh, each, distinct⟩
        refine ⟨⟨fresh, fun other member => ?_⟩, fun other member same => ?_, distinct⟩
        · obtain ⟨own, time_, _, new⟩ := each other member
          exact ⟨own, time_, new⟩
        · obtain ⟨own, time_, apart, _⟩ := each other member
          exact apart (Option.some.inj (time_.symm.trans same))
      · rintro ⟨⟨fresh, each⟩, apart, distinct⟩
        refine ⟨fresh, fun other member => ?_, distinct⟩
        obtain ⟨own, time_, new⟩ := each other member
        exact ⟨own, time_, fun same => apart other member (time_.trans (congrArg some same)), new⟩

omit [JsNumber N] in
theorem chronologyVerifiable_perm (same : fills.Perm others) {times : List String} :
    chronologyVerifiable times fills = chronologyVerifiable times others := by
  rw [Bool.eq_iff_iff, chronologyVerifiable_iff, chronologyVerifiable_iff, (same.map _).nodup_iff]
  simp only [same.mem_iff]

theorem quantitiesComplete_perm (same : fills.Perm others) :
    quantitiesComplete intended fills = quantitiesComplete intended others := by
  unfold quantitiesComplete
  rw [same.all_eq]

theorem fillsNotes_perm (same : fills.Perm others) {times : List String} :
    Alike (fillsNotes letters identity intended times fills) (fillsNotes letters identity intended times others) := by
  intro note
  rw [mem_fillsNotes, mem_fillsNotes, chronologyVerifiable_perm same]
  simp only [same.mem_iff]

end Fills

section Relisting

variable {Row : Type} {R : Row → Row → Prop} {rows others : List Row}

/-- The rows of a list, each for a related one, in another order. -/
def Relisted (R : Row → Row → Prop) (rows others : List Row) : Prop :=
  ∃ listed, List.Forall₂ R rows listed ∧ listed.Perm others

section

variable (same : Relisted R rows others)
include same

theorem Relisted.length : rows.length = others.length := by
  obtain ⟨listed, related, perm⟩ := same
  rw [related.length_eq, perm.length_eq]

theorem Relisted.covers {row : Row} (member : row ∈ rows) : ∃ other ∈ others, R row other := by
  obtain ⟨listed, related, perm⟩ := same
  induction related generalizing others with
  | nil => exact absurd member List.not_mem_nil
  | cons first later ih =>
    rcases List.mem_cons.mp member with rfl | member
    · exact ⟨_, perm.mem_iff.mp List.mem_cons_self, first⟩
    · obtain ⟨other, found, kept⟩ := ih member (List.Perm.refl _)
      exact ⟨other, perm.mem_iff.mp (List.mem_cons_of_mem _ found), kept⟩

theorem Relisted.covered {other : Row} (member : other ∈ others) : ∃ row ∈ rows, R row other := by
  obtain ⟨listed, related, perm⟩ := same
  rw [← perm.mem_iff] at member
  clear perm
  induction related with
  | nil => exact absurd member List.not_mem_nil
  | cons first later ih =>
    rcases List.mem_cons.mp member with rfl | member
    · exact ⟨_, List.mem_cons_self, first⟩
    · obtain ⟨row, found, kept⟩ := ih member
      exact ⟨row, List.mem_cons_of_mem _ found, kept⟩

theorem Relisted.filter {keep : Row → Bool} (kept : ∀ row other, R row other → keep row = keep other) :
    Relisted R (rows.filter keep) (others.filter keep) := by
  obtain ⟨listed, related, perm⟩ := same
  refine ⟨listed.filter keep, ?_, perm.filter keep⟩
  clear perm
  induction related with
  | nil => exact List.Forall₂.nil
  | cons first later ih =>
    rw [List.filter_cons, List.filter_cons, kept _ _ first]
    split
    · exact List.Forall₂.cons first ih
    · exact ih

theorem Relisted.alike {make : Row → List Note} (kept : ∀ row other, R row other → make row = make other) :
    Alike (rows.flatMap make) (others.flatMap make) := by
  apply alike_flatMap
  · intro row member
    obtain ⟨other, found, related⟩ := same.covers member
    exact ⟨other, found, kept row other related⟩
  · intro other member
    obtain ⟨row, found, related⟩ := same.covered member
    exact ⟨row, found, kept row other related⟩

end

end Relisting

section Records

variable {N : Type} [JsNumber N] {letters : Letters} {source : EvidenceSource N} {intent other : IntentEvidence N}

/-- The fills are all known and distinct in time, so that their cumulative quantities are read. -/
def readInOrder (intent : IntentEvidence N) : Bool :=
  chronologyVerifiable [] intent.fills && quantitiesComplete (intendedOf intent) intent.fills

/-- The records in another order, except that fills stay in that of their cumulative quantities. -/
inductive SameIntent : IntentEvidence N → IntentEvidence N → Prop
  | listed (intent : IntentEvidence N) {orders : List OrderEvidence} {fills : List (FillEvidence N)}
      {consumptionIds unenforcedDispatchIds : List Nat} {adapterMarkers : List AdapterMarker}
      (sameOrders : intent.brokerOrders.Perm orders) (sameFills : intent.fills.Perm fills)
      (read : intent.fills = fills ∨ readInOrder intent = false)
      (consumptions : intent.dispatch.consumptionIds.Perm consumptionIds)
      (unenforced : intent.dispatch.unenforcedDispatchIds.Perm unenforcedDispatchIds)
      (markers : intent.dispatch.adapterMarkers.Perm adapterMarkers) :
      SameIntent intent
        { intent with
          brokerOrders := orders
          fills := fills
          dispatch := { intent.dispatch with consumptionIds, unenforcedDispatchIds, adapterMarkers } }

theorem SameIntent.role (same : SameIntent intent other) : role letters source intent = role letters source other := by
  cases same with
  | listed orders fills =>
    unfold Lineage.role
    simp only [orders.any_eq, fills.any_eq]

theorem SameIntent.id_eq (same : SameIntent intent other) : intent.id = other.id := by
  cases same
  rfl

theorem isEmpty_perm {Row : Type} {rows listed : List Row} (same : rows.Perm listed) : rows.isEmpty = listed.isEmpty := by
  rw [Bool.eq_iff_iff, List.isEmpty_iff_length_eq_zero, List.isEmpty_iff_length_eq_zero, same.length_eq]

theorem executionNotes_alike (same : SameIntent intent other) :
    Alike (executionNotes letters source intent) (executionNotes letters source other) := by
  cases same with
  | listed _ fills read =>
    unfold executionNotes
    rw [← isEmpty_perm fills]
    refine (Alike.append (Alike.refl _) (fillsNotes_perm fills)).append (Alike.of_eq ?_)
    rcases read with rfl | unread
    · rfl
    · unfold readInOrder at unread
      simp only [intendedOf, ← chronologyVerifiable_perm fills, ← quantitiesComplete_perm fills] at unread ⊢
      cases quantity : intent.qty with
      | none => rfl
      | some qty =>
        rw [quantity, Option.map_some] at unread
        simp only [Option.map_some, unread, Bool.false_eq_true, if_false]

theorem dispatchNotes_alike {first second : DispatchEvidence} (consumptions : first.consumptionIds.Perm second.consumptionIds)
    (unenforced : first.unenforcedDispatchIds.Perm second.unenforcedDispatchIds)
    (markers : first.adapterMarkers.Perm second.adapterMarkers)
    (durable : first.durableClientIdentityConsistent = second.durableClientIdentityConsistent) :
    Alike (dispatchNotes first) (dispatchNotes second) := by
  have records : (dispatchRecords first).Perm (dispatchRecords second) := consumptions.append unenforced
  unfold dispatchNotes
  simp only [records.length_eq, isEmpty_perm records, durable, markers.length_eq]
  exact ((Alike.refl _).append (alike_flatMap_perm markers)).append (alike_map_perm records)

theorem entryNotes_alike (same : SameIntent intent other) :
    Alike (entryNotes letters source intent) (entryNotes letters source other) := by
  have execution : Alike (executionNotes letters source intent) (executionNotes letters source other) := executionNotes_alike same
  cases same with
  | listed orders fills _ consumptions unenforced markers =>
    refine (((Alike.of_eq ?_).append (alike_flatMap_perm orders)).append execution).append
      (dispatchNotes_alike consumptions unenforced markers rfl)
    unfold intentNotes attributionOf
    simp only [isEmpty_perm orders, orders.length_eq]

omit [JsNumber N] in
theorem claimsNotes_alike {listed : EvidenceSource N} {first second : Option (IntentEvidence N)}
    (identity : source.identity = listed.identity) (state : source.currentState = listed.currentState)
    (claims : source.claims.Perm listed.claims) (ids : first.map IntentEvidence.id = second.map IntentEvidence.id) :
    Alike (claimsNotes source first) (claimsNotes listed second) := by
  have named (claim : ClaimEvidence) : (first.any fun intent => claim.orderIntentId != some intent.id) =
      second.any fun intent => claim.orderIntentId != some intent.id := by
    cases first <;> cases second <;> simp_all
  have same : claimNotes source first = claimNotes listed second := by
    funext claim
    unfold claimNotes
    rw [named claim, identity, state]
  unfold claimsNotes
  rw [isEmpty_perm claims, claims.length_eq, same]
  exact (Alike.refl _).append (alike_flatMap_perm claims)

theorem attentionNotes_alike {first second : List AttentionEvidence} (same : first.Perm second) :
    Alike (attentionNotes letters first) (attentionNotes letters second) := by
  have relevant := same.filter (isRelevantActiveLifecycleAttention letters)
  unfold attentionNotes
  simp only [isEmpty_perm relevant]
  exact (Alike.refl _).append (alike_map_perm relevant)

/-- A source whose intents, claims, unmatched fills and attentions are listed in another order. -/
inductive Reordered : EvidenceSource N → EvidenceSource N → Prop
  | listed (source : EvidenceSource N) {intents : List (IntentEvidence N)} {claims : List ClaimEvidence}
      {unmatchedFills : List UnmatchedFill} {operationalAttention : List AttentionEvidence}
      (sameIntents : Relisted SameIntent source.intents intents) (sameClaims : source.claims.Perm claims)
      (sameFills : source.unmatchedFills.Perm unmatchedFills)
      (sameAttention : source.operationalAttention.Perm operationalAttention) :
      Reordered source { source with intents, claims, unmatchedFills, operationalAttention }

/-- The entry intent that is looked into is the same. -/
def SameEntry (letters : Letters) (source other : EvidenceSource N) : Prop :=
  Option.Rel SameIntent (entriesOf letters source).head? (entriesOf letters other).head?

end Records

section Runs

variable {N : Type} [JsNumber N] {letters : Letters} {source other : EvidenceSource N}

theorem Reordered.entries (same : Reordered source other) :
    Relisted SameIntent (entriesOf letters source) (entriesOf letters other) := by
  cases same with
  | listed intents =>
    exact intents.filter fun row related same => congrArg (· == IntentRole.entry) same.role

theorem Reordered.sameEntry (same : Reordered source other) (single : (entriesOf letters source).length ≤ 1) :
    SameEntry letters source other := by
  obtain ⟨listed, related, perm⟩ : Relisted SameIntent (entriesOf letters source) (entriesOf letters other) := same.entries
  unfold SameEntry
  match entries : entriesOf letters source, single with
  | [], _ =>
    rw [entries] at related
    cases related
    rw [List.nil_perm.mp perm]
    exact Option.Rel.none
  | [intent], _ =>
    rw [entries] at related
    cases related with
    | cons own rest =>
      cases rest
      rw [← List.singleton_perm.mp perm]
      exact Option.Rel.some own

theorem roleNotes_alike (same : Reordered source other) : Alike (roleNotes letters source) (roleNotes letters other) := by
  cases same with
  | @listed intents _ _ _ sameIntents =>
    have filtered (wanted : IntentRole) : Relisted SameIntent
        (source.intents.filter fun intent => role letters source intent == wanted)
        (intents.filter fun intent => role letters source intent == wanted) :=
      sameIntents.filter fun row related same => congrArg (· == wanted) same.role
    refine (((filtered .exit).alike ?_).append ((filtered .unclassified).alike ?_)).append ((filtered .contradictory).alike ?_)
    all_goals exact fun row related same => by rw [same.id_eq]

section

variable (same : SameEntry letters source other)
include same

theorem SameEntry.heads : (entriesOf letters source).head? = none ∧ (entriesOf letters other).head? = none ∨
      ∃ intent related, (entriesOf letters source).head? = some intent ∧ (entriesOf letters other).head? = some related ∧
        SameIntent intent related := by
  unfold SameEntry at same
  generalize (entriesOf letters source).head? = first at same
  generalize (entriesOf letters other).head? = second at same
  cases same with
  | none => exact .inl ⟨rfl, rfl⟩
  | some related => exact .inr ⟨_, _, rfl, rfl, related⟩

theorem entry_alike (notes : ∀ intent related, SameIntent intent related →
    Alike (entryNotes letters source intent) (entryNotes letters other related)) :
    Alike (match (entriesOf letters source).head? with
      | some intent => entryNotes letters source intent
      | none => []) (match (entriesOf letters other).head? with
      | some intent => entryNotes letters other intent
      | none => []) := by
  rcases same.heads with ⟨first, second⟩ | ⟨intent, related, first, second, same⟩
  · rw [first, second]
  · rw [first, second]
    exact notes intent related same

theorem SameEntry.ids :
    (entriesOf letters source).head?.map IntentEvidence.id = (entriesOf letters other).head?.map IntentEvidence.id := by
  rcases same.heads with ⟨first, second⟩ | ⟨intent, related, first, second, same⟩
  · rw [first, second]
  · rw [first, second, Option.map_some, Option.map_some, same.id_eq]

end

theorem Reordered.notes (same : Reordered source other) (entry : SameEntry letters source other) :
    Alike (notesOf letters source) (notesOf letters other) := by
  have count := (same.entries : Relisted SameIntent (entriesOf letters source) (entriesOf letters other)).length
  have roles : Alike (roleNotes letters source) (roleNotes letters other) := roleNotes_alike same
  have entries := entry_alike entry
  have ids := entry.ids
  unfold notesOf
  dsimp only
  rw [← count]
  cases same with
  | listed _ claims fills attention =>
    refine Alike.append (Alike.append (Alike.append (Alike.append ?_ (entries fun _ _ => entryNotes_alike))
      (claimsNotes_alike rfl rfl claims ids)) (attentionNotes_alike attention)) (Alike.refl _)
    exact Alike.append (Alike.append (Alike.append (Alike.append (Alike.refl _) (alike_flatMap_perm fills)) (Alike.refl _)) roles)
      (Alike.refl _)

/-- What a reading of the evidence tells: the verdict, the reasons, and the readiness. -/
def ClassifierResult.told (result : ClassifierResult) : Classification × List String × Readiness :=
  (result.shadowClassification, result.reasonCodes, result.readiness)

theorem told_reordered (same : Reordered source other)
    (entry : (entriesOf letters source).length ≤ 1 ∨ SameEntry letters source other) :
    (classifyPositionLifecycleEvidence letters source).told = (classifyPositionLifecycleEvidence letters other).told := by
  have notes : Alike (notesOf letters source) (notesOf letters other) := same.notes (entry.elim same.sameEntry id)
  have count := (same.entries : Relisted SameIntent (entriesOf letters source) (entriesOf letters other)).length
  have verdict := notes.verdict (entriesOf letters other).length
  have reasons := (notes.append (Alike.refl (verdictNotes source (entriesOf letters other).length
    (verdictOf (entriesOf letters other).length (notesOf letters other)).complete))).reasonCodes
  unfold classifyPositionLifecycleEvidence ClassifierResult.told
  simp only [count, verdict, reasons]
  cases same
  rfl

end Runs

section Claim

attribute [local instance] exactNumber

/-- A complete verdict rests on a complete chain whose fills add up, in every order that keeps the first entry and the fills
whose cumulative quantities are read. -/
theorem classifyPositionLifecycleEvidence_sound (letters : Letters) :
    (∀ {N : Type} [JsNumber N] (source : EvidenceSource N),
      (classifyPositionLifecycleEvidence letters source).shadowClassification = .completeLocalOrderChain →
      ∃ intent, CompleteChain letters source intent) ∧
    (∀ source : EvidenceSource ℚ, PersistedSource source →
      (classifyPositionLifecycleEvidence letters source).shadowClassification = .completeLocalOrderChain →
      ∃ intent, CompleteChain letters source intent ∧ AddsUp intent) ∧
    ∀ {N : Type} [JsNumber N] (source other : EvidenceSource N), Reordered source other →
      ((entriesOf letters source).length ≤ 1 ∨ SameEntry letters source other) →
      (classifyPositionLifecycleEvidence letters source).told = (classifyPositionLifecycleEvidence letters other).told := by
  refine ⟨fun source complete => completeChain_of_complete complete, fun source persisted complete => ?_,
    fun source other same entry => told_reordered same entry⟩
  obtain ⟨intent, chain⟩ := completeChain_of_complete complete
  exact ⟨intent, chain, chain.addsUp persisted⟩

def asciiLetters : Letters := ⟨fun text => String.ofList (text.toList.map Char.toUpper), compare⟩

/-- One of the two fills of an order for two shares. -/
def shareFill (id : Nat) (cumQty leavesQty : ℚ) (transactionTime : String) : FillEvidence ℚ :=
  { id, activityIdDuplicateCount := 1, tradingAccountId := some 1, trackedPositionId := some 10
    trackedPositionLinkSource := some "broker_order", broker := "alpaca", mode := "PAPER", symbol := some "SPY"
    orderIdMatchesBrokerOrder := true, side := some "buy", qty := some 1, cumQty := some cumQty, leavesQty := some leavesQty
    transactionTime := some transactionTime }

def firstShare : FillEvidence ℚ := shareFill 7 1 1 "2026-01-01T00:00:02.000Z"

def secondShare : FillEvidence ℚ := shareFill 8 2 0 "2026-01-01T00:00:03.000Z"

def sharesIntent (id : Nat) (status : String) (fills : List (FillEvidence ℚ)) : IntentEvidence ℚ :=
  { id, source := "signal", createdAt := some 1767225601000, tradingAccountId := some 1, trackedPositionId := some 10
    side := "buy", status, symbol := "SPY", qty := some 2, subscriptionId := some 3, tradingAccountSubscriptionId := some 4
    brokerOrders := [⟨6, some 1, some 10, "alpaca", 2, "SPY", "filled", true, "buy"⟩]
    fills, dispatch := ⟨[8], [], [⟨11, true, true, true, true⟩], true⟩ }

def sharesSource (intents : List (IntentEvidence ℚ)) (claims : List ClaimEvidence) : EvidenceSource ℚ :=
  { identity := ⟨10, some 1, some "ALPACA", "alpaca", some "PAPER", 2, "SPY", "SPY", "long"⟩
    currentState := ⟨"open", some 1767225600000, some 3, some 4⟩
    creationAuthority := false, intents, unmatchedFills := [], attribution := [⟨3, 2, some 4, some 1, some 3⟩]
    exitState := true, claims, provenance := ⟨true, [], none, none, false, "UNVERIFIED"⟩, operationalAttention := [] }

def sharesClaim : ClaimEvidence := ⟨15, 1, 2, some 5, some 10, "POSITION_OPEN", none⟩

theorem classifyPositionLifecycleEvidence_reordered :
    -- The same two fills, with the later one listed first, contradict each other.
    (classifyPositionLifecycleEvidence asciiLetters
      (sharesSource [sharesIntent 5 "filled" [firstShare, secondShare]] [sharesClaim])).shadowClassification =
        .completeLocalOrderChain ∧
    (classifyPositionLifecycleEvidence asciiLetters
      (sharesSource [sharesIntent 5 "filled" [secondShare, firstShare]] [sharesClaim])).shadowClassification =
        .contradictoryEvidence ∧
    -- Of two entry intents the reasons are those of the one that is listed first.
    (classifyPositionLifecycleEvidence asciiLetters
      (sharesSource [sharesIntent 5 "filled" [firstShare, secondShare], sharesIntent 9 "new" []] [sharesClaim])).reasonCodes ≠
    (classifyPositionLifecycleEvidence asciiLetters
      (sharesSource [sharesIntent 9 "new" [], sharesIntent 5 "filled" [firstShare, secondShare]] [sharesClaim])).reasonCodes := by
  decide +kernel

theorem persisted_whole (shares : ℤ) : Persisted shares := ⟨shares * 10 ^ 9, by push_cast; ring⟩

theorem persisted_shares : PersistedSource (sharesSource [sharesIntent 5 "filled" [firstShare, secondShare]] [sharesClaim]) := by
  constructor
  · intro intent member qty known
    cases List.mem_singleton.mp member
    cases known
    exact persisted_whole 2
  · intro intent member fill listed qty known
    cases List.mem_singleton.mp member
    rcases List.mem_pair.mp listed with rfl | rfl <;> cases known
    all_goals exact persisted_whole 1
  · intro intent member fill listed cumQty known
    cases List.mem_singleton.mp member
    rcases List.mem_pair.mp listed with rfl | rfl <;> cases known
    · exact persisted_whole 1
    · exact persisted_whole 2

theorem SameIntent.refl (intent : IntentEvidence ℚ) : SameIntent intent intent :=
  .listed intent (List.Perm.refl _) (List.Perm.refl _) (.inl rfl) (List.Perm.refl _) (List.Perm.refl _) (List.Perm.refl _)

theorem classifyPositionLifecycleEvidence_sound_shares :
    (∃ intent, CompleteChain asciiLetters (sharesSource [sharesIntent 5 "filled" [firstShare, secondShare]] [sharesClaim]) intent ∧
      AddsUp intent) ∧
    (classifyPositionLifecycleEvidence asciiLetters
      (sharesSource [sharesIntent 5 "filled" [firstShare, secondShare], { sharesIntent 9 "new" [] with side := "sell" }]
        [sharesClaim])).told =
    (classifyPositionLifecycleEvidence asciiLetters
      (sharesSource [{ sharesIntent 9 "new" [] with side := "sell" }, sharesIntent 5 "filled" [firstShare, secondShare]]
        [sharesClaim])).told := by
  refine ⟨(classifyPositionLifecycleEvidence_sound asciiLetters).2.1 _ persisted_shares (by decide +kernel), ?_⟩
  apply (classifyPositionLifecycleEvidence_sound asciiLetters).2.2 _ _ _ (.inl (by decide +kernel))
  refine .listed _ ⟨_, ?_, List.Perm.swap _ _ _⟩ (List.Perm.refl _) (List.Perm.refl _) (List.Perm.refl _)
  exact List.Forall₂.cons (SameIntent.refl _) (List.Forall₂.cons (SameIntent.refl _) List.Forall₂.nil)

end Claim

end AiTrader.Lineage
