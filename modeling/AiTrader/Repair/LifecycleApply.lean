import AiTrader.Repair.LifecyclePreview

/-! # The application of an entry lifecycle repair

Four queries list the activities again, all but one in no order, and the comparisons keep the order of their arrays. -/

namespace AiTrader.Repair

open Library JsNumber

section Source

variable {N : Type} [JsNumber N] (language : Language N)

inductive ActionStatus where
  | proposed | approved | refused | superseded | failed | applied | verified
deriving DecidableEq

/-- Where an action stands, and until when its case can be applied. -/
structure Approval where
  status : ActionStatus
  revision : Nat
  expiresAt : Int

structure ApplyRequest where
  expectedRevision : Nat
  confirmation : String

/-- The four queries for the activities: in the order of their times, for the diagnosis, under the lock, and after the
mutation. -/
structure Listings (N : Type) where
  ordered : List (ActivityRow N)
  diagnosed : List (ActivityRow N)
  locked : List (ActivityRow N)
  refreshed : List (ActivityRow N)

/-- Ascending, with missing times at the end. -/
def timeBefore (first second : ActivityRow N) : Prop :=
  match first.transactionTime, second.transactionTime with
  | some one, some other => one ≤ other
  | none, some _ => False
  | _, none => True

/-- The rows in the order of their times. -/
structure ListedByTime (world : RepairWorld N) (rows : List (ActivityRow N)) : Prop where
  perm : rows.Perm world.activities
  sorted : rows.Pairwise timeBefore

/-- The unordered queries return the rows in any order. -/
structure Listed (world : RepairWorld N) (listings : Listings N) : Prop where
  ordered : ListedByTime world listings.ordered
  diagnosed : listings.diagnosed.Perm world.activities
  locked : listings.locked.Perm world.activities
  refreshed : listings.refreshed.Perm world.activities

def confirmationOf : ActionType → String
  | .terminalizeOrderLifecycle => "TERMINALIZE HISTORICAL ORDER LIFECYCLE"
  | .linkEntryLifecycleToPosition => "LINK HISTORICAL ENTRY LIFECYCLE"

def linkSource : String := "historical_order_lifecycle_repair"

/-- The rows that the link mutation touches. -/
def touched (order : OrderRow) (ids : List Nat) (activity : ActivityRow N) : Bool :=
  ids.contains activity.id && activity.brokerOrderRecordId == some order.id &&
    activity.orderIntentId == some order.orderIntentId && activity.tradingAccountId == order.tradingAccountId &&
    activity.trackedPositionId.isNone

def linked (order : OrderRow) (ids : List Nat) (positionId : Nat) (now : Int) (activity : ActivityRow N) : ActivityRow N :=
  if touched order ids activity then { activity with
    trackedPositionId := some positionId, trackedPositionLinkSource := some linkSource, trackedPositionLinkedAt := some now }
  else activity

def ascending (ids : List Nat) : Json := .array ((ids.insertionSort (· ≤ ·)).map .ofNat)

/-- `stable(protectedLifecycleValues(refreshed)) === stable(protectedBefore)` -/
def unchanged (after before : Target N) : Bool :=
  stable language (protectedLifecycleValues language after) == stable language (protectedLifecycleValues language before)

def terminalize (before : Target N) (assessment : FillAssessment N) (action : RepairAction)
    (refreshed : List (ActivityRow N)) (orderStatus intentStatus : String) : Except HttpError (Target N) := do
  require (assessment.deterministic && stable language (assessmentJson language (instant? language) assessment) ==
    stable language action.evidenceJson) 409 "Full-fill evidence changed or became contradictory."
  require (before.order.status == orderStatus && before.intent.tradingAccountId == before.order.tradingAccountId &&
    before.intent.status == intentStatus) 409 "A conditional lifecycle status mutation did not affect exactly one row."
  let after : Target N := { order := { before.order with status := "filled" }
                            intent := { before.intent with status := "filled" }, activities := refreshed }
  require (unchanged language after before) 500 "Post-mutation structural validation failed."
  return after

/-- No column of the position is written, so the comparison of its row with itself is left out. -/
def link (before : Target N) (positions : List (PositionRow N)) (assessment : FillAssessment N) (now : Int)
    (refreshed : List (ActivityRow N)) (positionId : Nat) (ids : List Nat) : Except HttpError (Target N) := do
  require (stable language (ascending assessment.ownedActivityIds) == stable language (ascending ids)) 409
    "Eligible fill lifecycle membership changed."
  require (positions.any (fun position => position.id == positionId &&
      position.tradingAccountId == before.order.tradingAccountId && position.status == "closed") &&
    (linksOf before before.activities).all (·.isNone)) 409 "Position candidate or lifecycle links changed."
  require (before.intent.tradingAccountId == before.order.tradingAccountId &&
    (before.activities.filter (touched before.order ids)).length == ids.length) 409
    "A conditional lifecycle relationship mutation affected an unexpected row count."
  let after : Target N := { order := { before.order with trackedPositionId := some positionId }
                            intent := { before.intent with trackedPositionId := some positionId }
                            activities := refreshed.map (linked before.order ids positionId now) }
  let members := after.activities.filter fun activity => ids.contains activity.id
  require (members.length == ids.length && members.all (fun activity => activity.trackedPositionId == some positionId &&
      activity.trackedPositionLinkSource == some linkSource) &&
    unchanged language (withoutLifecycleLinks after) (withoutLifecycleLinks before)) 500
    "Post-mutation structural validation failed."
  return after

/-- The transaction of an application. -/
def commit (world : RepairWorld N) (action : RepairAction) (now : Int) (locked refreshed : List (ActivityRow N)) :
    Except HttpError (Target N) :=
  let before : Target N := { world.toTarget with activities := locked }
  let assessment := assessHistoricalFullFillEvidence language.toTexts (fillOrder before world.attention.tradingAccountId)
    (locked.map (·.toFillActivity))
  match action.mutations with
  | .terminalize _ orderStatus _ intentStatus => terminalize language before assessment action refreshed orderStatus intentStatus
  | .link positionId _ _ ids => link language before world.positions assessment now refreshed positionId ids

/-- The application under the lock, for an attempt that has not been made before. -/
def applyHistoricalLifecycleAction (world : RepairWorld N) (action : RepairAction) (approval : Approval)
    (request : ApplyRequest) (now : Int) (listings : Listings N) : Except HttpError (Target N) := do
  require (request.confirmation == confirmationOf action.mutations.actionType) 400 "Invalid action-specific confirmation."
  require world.paper 409 "Historical lifecycle repair Apply is PAPER-only. LIVE preview remains read-only."
  require (approval.status == .approved && approval.revision == request.expectedRevision) 409
    "Action is not approved at the expected revision."
  require (decide (now < approval.expiresAt)) 409 "Repair preview expired. Refresh it."
  let fresh ← buildPreviewEvidence language world now listings.ordered listings.diagnosed
  require (world.attention.status != .resolved && world.attention.activeKey == some action.attentionFingerprint) 409
    "Operational Attention is no longer the active lifecycle condition."
  require (hash language fresh.evidence == action.diagnosticFingerprint) 409
    "Material lifecycle evidence changed. Refresh the preview."
  let proposal := (buildActionProposals world.toTarget fresh).find? (·.actionType == action.mutations.actionType)
  require (proposal.any fun proposal =>
      actionFingerprint language action.diagnosticFingerprint proposal == action.actionFingerprint &&
      stable language proposal.json == stable language action.proposedMutationsJson) 409
    "The backend-generated repair proposal is no longer applicable."
  commit language world action now listings.locked listings.refreshed

end Source

section Texts

variable {N : Type} {language : Language N}

theorem map_eq_of_map_eq {α β γ : Type} {written : α → β} {read : α → γ}
    (reads : ∀ first second, written first = written second → read first = read second) {first second : List α}
    (same : first.map written = second.map written) : first.map read = second.map read := by
  induction first generalizing second with
  | nil =>
    rw [List.map_nil, List.nil_eq, List.map_eq_nil_iff] at same
    rw [same]
  | cons head tail ih =>
    cases second with
    | nil => cases same
    | cons other rest =>
      obtain ⟨here, later⟩ := List.cons.inj same
      exact congrArg₂ List.cons (reads _ _ here) (ih later)

theorem ids_of_unchanged {after before : Target N} (same : unchanged language after before = true) :
    (after.activities.map fun activity => activity.id) = before.activities.map fun activity => activity.id := by
  have whole := Json.text_injective (beq_iff_eq.mp same)
  have listed := @Json.sorted_eq_of_field _ _ _ _ "activities" _ _ whole
    (List.mem_cons_of_mem _ (List.mem_cons_of_mem _ List.mem_cons_self))
    (List.mem_cons_of_mem _ (List.mem_cons_of_mem _ List.mem_cons_self)) (by simp)
  have items := Json.array.inj listed
  rw [Json.sortedItems_eq_map, Json.sortedItems_eq_map, List.map_map, List.map_map] at items
  refine map_eq_of_map_eq (fun first second equal => ?_) items
  have written := @Json.sorted_eq_of_field _ _ _ _ "id" (.ofNat first.id) (.ofNat second.id) equal List.mem_cons_self
    List.mem_cons_self (by simp [protectedActivity])
  exact Json.ofNat_injective written

theorem distinct_ofOption {Value : Type} {field : Value → Json} (distinct : ∀ value, (field value).Distinct)
    (value : Option Value) : (Json.ofOption field value).Distinct := by
  cases value with
  | none => trivial
  | some value => exact distinct value

theorem distinctItems_map {Value : Type} {item : Value → Json} (distinct : ∀ value, (item value).Distinct)
    (values : List Value) : Json.DistinctItems (values.map item) := by
  induction values with
  | nil => trivial
  | cons value rest ih => exact ⟨distinct value, ih⟩

theorem distinct_mutations (mutations : Mutations) : mutations.json.Distinct := by
  cases mutations with
  | terminalize => simp [Mutations.json, Json.Distinct, Json.DistinctFields, Json.ofNat]
  | link _ _ _ ids =>
    have listed : Json.DistinctItems (ids.map Json.ofNat) := distinctItems_map (fun _ => by exact trivial) ids
    simp [Mutations.json, Json.Distinct, Json.DistinctFields, Json.ofNat]
    exact listed

theorem distinct_assessment (assessment : FillAssessment N) :
    (assessmentJson language (instant? language) assessment).Distinct := by
  have number (value : Option N) : (number? language value).Distinct :=
    distinct_ofOption (fun value => distinct_ofOption (fun _ => by exact trivial) _) value
  have instant (value : Option Int) : (instant? language value).Distinct := distinct_ofOption (fun _ => by exact trivial) _
  have reasons : Json.DistinctItems (assessment.contradictions.map fun reason => Json.string reason.text) :=
    distinctItems_map (fun _ => by exact trivial) _
  have ids : Json.DistinctItems (assessment.ownedActivityIds.map Json.ofNat) := distinctItems_map (fun _ => by exact trivial) _
  simp only [assessmentJson, Json.Distinct, Json.DistinctFields, and_true]
  exact ⟨by simp, ⟨by simp, trivial, number _, number _, number _, instant _, trivial⟩, reasons, trivial, ids⟩

end Texts

section Exactness

variable {N : Type} [JsNumber N] {language : Language N} {world : RepairWorld N} {now appliedAt : Int}
  {rows locked refreshed : List (ActivityRow N)} {action : RepairAction} {after : Target N}

/-- When an action is applied in whatever order the queries list the activities. -/
structure Applicable (world : RepairWorld N) (type : ActionType) : Prop where
  single : world.activities.length ≤ 1
  paper : world.paper = true
  attention : world.attention.status ≠ .resolved ∧ world.attention.activeKey = some world.attention.fingerprint
  account : world.intent.tradingAccountId = world.order.tradingAccountId
  intent : type = .linkEntryLifecycleToPosition →
    ∀ activity ∈ world.activities, activity.orderIntentId = some world.order.orderIntentId

variable {positionId : Nat} {ids : List Nat}

omit [JsNumber N] in
theorem linked_id {order : OrderRow} (activity : ActivityRow N) :
    (linked order ids positionId now activity).id = activity.id := by
  unfold linked
  split <;> rfl

theorem ids_of_commit (done : commit language world action now locked refreshed = .ok after) :
    (refreshed.map fun activity => activity.id) = locked.map fun activity => activity.id := by
  unfold commit at done
  split at done
  case h_1 =>
    obtain ⟨_, _, done⟩ := bind_eq_ok.mp done
    obtain ⟨_, _, done⟩ := bind_eq_ok.mp done
    obtain ⟨_, same, _⟩ := bind_eq_ok.mp done
    exact ids_of_unchanged (require_eq_ok.mp same)
  case h_2 =>
    obtain ⟨_, _, done⟩ := bind_eq_ok.mp done
    obtain ⟨_, _, done⟩ := bind_eq_ok.mp done
    obtain ⟨_, _, done⟩ := bind_eq_ok.mp done
    obtain ⟨_, valid, _⟩ := bind_eq_ok.mp done
    have same := ids_of_unchanged (Bool.and_eq_true_iff.mp (require_eq_ok.mp valid)).2
    simpa only [withoutLifecycleLinks, List.map_map, Function.comp_def, linked_id] using same

/-- The row counts that a commit has compared. -/
theorem written_of_commit (done : commit language world action now locked refreshed = .ok after) :
    world.intent.tradingAccountId = world.order.tradingAccountId ∧ ∀ positionId intentId orderId ids,
      action.mutations = .link positionId intentId orderId ids →
        (locked.filter (touched world.order ids)).length = ids.length := by
  unfold commit at done
  split at done
  case h_1 terminal =>
    obtain ⟨_, _, done⟩ := bind_eq_ok.mp done
    obtain ⟨_, written, _⟩ := bind_eq_ok.mp done
    have written := require_eq_ok.mp written
    simp only [Bool.and_eq_true, beq_iff_eq] at written
    exact ⟨written.1.2, fun _ _ _ _ given => nomatch terminal.symm.trans given⟩
  case h_2 link =>
    obtain ⟨_, _, done⟩ := bind_eq_ok.mp done
    obtain ⟨_, _, done⟩ := bind_eq_ok.mp done
    obtain ⟨_, written, _⟩ := bind_eq_ok.mp done
    have written := require_eq_ok.mp written
    simp only [Bool.and_eq_true, beq_iff_eq] at written
    refine ⟨written.1, fun _ _ _ _ given => ?_⟩
    cases link.symm.trans given
    exact written.2

/-- What a preview has checked. -/
structure Previewed (language : Language N) (world : RepairWorld N) (now : Int) (rows diagnosed : List (ActivityRow N)) :
    Prop where
  attention : (world.attention.code == attentionCode && world.attention.brokerOrderId == some world.order.id) = true
  order : (world.order.tradingAccountId == some world.attention.tradingAccountId && isBuy language world.order.side) = true
  listed : diagnosable language world.toTarget now = true
  full : (buildEvidence language world rows diagnosed).assessment.summary.classification = .full

variable {diagnosed : List (ActivityRow N)} {built : Built N}

theorem buildPreviewEvidence_eq_ok : buildPreviewEvidence language world now rows diagnosed = .ok built ↔
      Previewed language world now rows diagnosed ∧ buildEvidence language world rows diagnosed = built := by
  unfold buildPreviewEvidence
  simp only [bind_eq_ok, require_eq_ok, exists_and_left, exists_const, Bool.and_eq_true, beq_iff_eq, pure, Except.pure,
    Except.ok.injEq]
  constructor
  · rintro ⟨attention, order, ⟨listed, full⟩, same⟩
    exact ⟨⟨by simpa using attention, by simpa using order, listed, full⟩, same⟩
  · rintro ⟨⟨attention, order, listed, full⟩, same⟩
    exact ⟨by simpa using attention, by simpa using order, ⟨listed, full⟩, same⟩

/-- The diagnosis lists an order again later on. -/
theorem Previewed.later (previewed : Previewed language world now rows diagnosed)
    (order : now ≤ appliedAt) : Previewed language world appliedAt rows diagnosed := by
  refine ⟨previewed.attention, previewed.order, ?_, previewed.full⟩
  have listed := previewed.listed
  simp only [diagnosable, Bool.and_eq_true, decide_eq_true_eq] at listed ⊢
  exact ⟨listed.1, by omega⟩

variable {target : Target N}

variable {mutations : Mutations}

omit [JsNumber N] in
/-- There is one proposal of each type. -/
theorem find_proposal (proposed : mutations ∈ buildActionProposals target built) :
    (buildActionProposals target built).find? (·.actionType == mutations.actionType) = some mutations := by
  unfold buildActionProposals at proposed ⊢
  rcases List.mem_append.mp proposed with first | second
  · split at first
    case isFalse => cases first
    case isTrue stale =>
      obtain rfl := List.mem_singleton.mp first
      rw [if_pos stale]
      rfl
  · have type : mutations.actionType = .linkEntryLifecycleToPosition := by
      split at second
      · split at second
        · obtain rfl := List.mem_singleton.mp second
          rfl
        · cases second
      · cases second
    rw [List.find?_append, List.find?_eq_none.mpr, Option.none_or]
    · split at second
      case h_2 => cases second
      case h_1 =>
        split at second
        case isFalse => cases second
        case isTrue applicable =>
          obtain rfl := List.mem_singleton.mp second
          simp only [applicable]
          rfl
    · intro other listed
      split at listed
      · obtain rfl := List.mem_singleton.mp listed
        rw [type]
        exact Bool.false_ne_true
      · cases listed

/-- Of at most one activity that fills the order, it is the owned one. -/
theorem owned_of_full {account : Nat} (single : target.activities.length ≤ 1)
    (full : (summarizeLocalFillEvidence language.toTexts (fillOrder target account)
      (target.activities.map (·.toFillActivity))).classification = .full) :
    ∃ activity, target.activities = [activity] ∧
      ownedFills language.toTexts (fillOrder target account) [activity.toFillActivity] = [activity.toFillActivity] := by
  obtain ⟨_, _, fill, listed, _⟩ := classification_full.mp full
  obtain ⟨present, owns⟩ := List.mem_filter.mp listed
  obtain ⟨activity, stored, rfl⟩ := List.mem_map.mp present
  refine ⟨activity, ?_, List.filter_eq_self.mpr fun other only => by rwa [List.mem_singleton.mp only]⟩
  match activities : target.activities with
  | [] => exact absurd (activities ▸ stored) List.not_mem_nil
  | [only] =>
    have same : activity = only := List.mem_singleton.mp (activities ▸ stored)
    rw [same]
  | _ :: _ :: _ =>
    simp only [activities, List.length_cons] at single
    omega

theorem commit_terminalize {orderStatus intentStatus : String}
    (account : world.intent.tradingAccountId = world.order.tradingAccountId)
    (proposed : .terminalize orderId orderStatus intentId intentStatus ∈
      buildActionProposals world.toTarget (buildEvidence language world world.activities world.activities)) :
    ∃ after, commit language world (repairAction language world.attention
      (buildEvidence language world world.activities world.activities)
      (.terminalize orderId orderStatus intentId intentStatus)) now world.activities world.activities = .ok after := by
  have allowed : (buildEvidence language world world.activities world.activities).assessment.deterministic = true ∧
      orderStatus = world.order.status ∧ intentStatus = world.intent.status := by
    rcases List.mem_append.mp proposed with first | second
    · split at first
      case isFalse => cases first
      case isTrue stale =>
        injection List.mem_singleton.mp first with _ order _ intent
        exact ⟨(Bool.and_eq_true_iff.mp stale).2, order, intent⟩
    · split at second
      · split at second
        · cases List.mem_singleton.mp second
        · cases second
      · cases second
  obtain ⟨deterministic, rfl, rfl⟩ := allowed
  refine ⟨_, bind_eq_ok.mpr ⟨(), require_eq_ok.mpr ?_, bind_eq_ok.mpr ⟨(), require_eq_ok.mpr ?_,
    bind_eq_ok.mpr ⟨(), require_eq_ok.mpr ?_, rfl⟩⟩⟩⟩
  · refine Bool.and_eq_true_iff.mpr ⟨deterministic, beq_iff_eq.mpr ?_⟩
    exact (stable_persisted language (distinct_assessment _)).symm
  · simp [account]
  · exact beq_self_eq_true _

/-- The position of an applicable link is closed and of the account, and nothing is linked yet. -/
theorem compelling_of_applicable {position : PositionRow N}
    (found : (buildEvidence language world rows diagnosed).compelling = some position)
    (applicable : (buildEvidence language world rows diagnosed).applicable = true) :
    (position ∈ world.positions ∧ position.tradingAccountId = some world.attention.tradingAccountId) ∧
      position.status = "closed" ∧ (linksOf world.toTarget rows).all (·.isNone) = true := by
  have same := found
  simp only [buildEvidence] at same applicable
  rw [same] at applicable
  simp only [Bool.and_eq_true, Option.any_some, beq_iff_eq] at applicable
  refine ⟨?_, applicable.1.1.1.1.1.1, applicable.1.2⟩
  split at same
  case h_2 => cases same
  case h_1 =>
    have fits := List.find?_some same
    simp only [Bool.and_eq_true, beq_iff_eq] at fits
    exact ⟨List.mem_of_find?_eq_some same, fits.2⟩

omit [JsNumber N] in
theorem link_of_proposed (proposed : .link positionId intentId orderId ids ∈ buildActionProposals target built) :
    ∃ position, built.compelling = some position ∧ built.applicable = true ∧ positionId = position.id ∧
      ids = built.assessment.ownedActivityIds := by
  rcases List.mem_append.mp proposed with first | second
  · split at first
    · cases List.mem_singleton.mp first
    · cases first
  · split at second
    case h_2 => cases second
    case h_1 position found =>
      split at second
      case isFalse => cases second
      case isTrue missing =>
        injection List.mem_singleton.mp second with position _ _ ids
        exact ⟨_, found, (Bool.and_eq_true_iff.mp missing).2, position, ids⟩

theorem ownedActivityIds_of_owned {activity : ActivityRow N} (only : world.activities = [activity])
    (owned : ownedFills language.toTexts (fillOrder world.toTarget world.attention.tradingAccountId)
      [activity.toFillActivity] = [activity.toFillActivity]) :
    (buildEvidence language world world.activities diagnosed).assessment.ownedActivityIds = [activity.id] := by
  show (ownedFills language.toTexts (fillOrder world.toTarget world.attention.tradingAccountId)
    (world.activities.map (·.toFillActivity))).map FillActivity.id = [activity.id]
  rw [only, List.map_singleton, owned, List.map_singleton]

theorem commit_link (single : world.activities.length ≤ 1)
    (account : world.intent.tradingAccountId = world.order.tradingAccountId)
    (intent : ∀ activity ∈ world.activities, activity.orderIntentId = some world.order.orderIntentId)
    (previewed : Previewed language world now world.activities world.activities)
    (proposed : .link positionId intentId orderId ids ∈
      buildActionProposals world.toTarget (buildEvidence language world world.activities world.activities)) :
    ∃ after, commit language world (repairAction language world.attention
      (buildEvidence language world world.activities world.activities)
      (.link positionId intentId orderId ids)) appliedAt world.activities world.activities = .ok after := by
  obtain ⟨activity, only, owned⟩ := owned_of_full single previewed.full
  have order : world.order.tradingAccountId = some world.attention.tradingAccountId := by
    simpa using (Bool.and_eq_true_iff.mp previewed.order).1
  obtain ⟨position, found, applicable, rfl, members⟩ := link_of_proposed proposed
  obtain ⟨⟨listed, ofAccount⟩, closed, unlinked⟩ := compelling_of_applicable found applicable
  have ids_eq : ids = [activity.id] := members.trans (ownedActivityIds_of_owned only owned)
  have owns := List.filter_eq_self.mp owned activity.toFillActivity List.mem_cons_self
  simp only [ownsFill, fillOrder, Bool.and_eq_true, beq_iff_eq] at owns
  have free : activity.trackedPositionId = none ∧ world.intent.trackedPositionId = none ∧
      world.order.trackedPositionId = none := by
    rw [only] at unlinked
    simp only [linksOf, List.map_singleton, List.all_cons, Bool.and_eq_true, Option.isNone_iff_eq_none] at unlinked
    exact ⟨unlinked.2.2.1, unlinked.1, unlinked.2.1⟩
  subst ids_eq
  have touches : touched world.order [activity.id] activity = true := by
    simp only [touched, List.contains_cons, beq_self_eq_true, Bool.true_or, owns.2, order, owns.1.2, free.1,
      intent activity (only ▸ List.mem_cons_self), Option.isNone_none, Bool.and_self]
  refine ⟨_, bind_eq_ok.mpr ⟨(), require_eq_ok.mpr ?_, bind_eq_ok.mpr ⟨(), require_eq_ok.mpr ?_,
    bind_eq_ok.mpr ⟨(), require_eq_ok.mpr ?_, bind_eq_ok.mpr ⟨(), require_eq_ok.mpr ?_, rfl⟩⟩⟩⟩⟩
  · rw [members]
    exact beq_self_eq_true _
  · refine Bool.and_eq_true_iff.mpr ⟨List.any_eq_true.mpr ⟨position, listed, ?_⟩, unlinked⟩
    simp only [ofAccount, order, closed, beq_self_eq_true, Bool.and_self]
  · simp only [account, beq_self_eq_true, only, List.filter_cons, touches, if_true, List.filter_nil, List.length_singleton,
      Bool.and_self]
  · have written : linked world.order [activity.id] position.id appliedAt activity = { activity with
        trackedPositionId := some position.id, trackedPositionLinkSource := some linkSource
        trackedPositionLinkedAt := some appliedAt } := if_pos touches
    simp only [only, List.map_singleton, written, List.filter_cons, List.contains_cons, beq_self_eq_true, Bool.true_or,
      if_true, List.filter_nil, List.length_singleton, List.all_cons, List.all_nil, Bool.and_true, Bool.true_and]
    exact beq_self_eq_true _

theorem eq_of_single {α : Type} {values others : List α} (same : values.Perm others) (single : others.length ≤ 1) :
    values = others := by
  match others with
  | [] => exact List.perm_nil.mp same
  | [_] => exact List.perm_singleton.mp same
  | _ :: _ :: _ =>
    simp only [List.length_cons] at single
    omega

/-- An unexpired action, approved at the revision that the caller has seen and confirms. -/
structure Approved (action : RepairAction) (approval : Approval) (request : ApplyRequest) (appliedAt : Int) : Prop where
  status : approval.status = .approved
  revision : approval.revision = request.expectedRevision
  unexpired : appliedAt < approval.expiresAt
  confirmation : request.confirmation = confirmationOf action.mutations.actionType

variable {request : ApplyRequest}

/-- An application is the transaction behind its guards. -/
theorem commit_of_apply {approval : Approval} {listings : Listings N}
    (done : applyHistoricalLifecycleAction language world action approval request appliedAt listings = .ok after) :
    world.paper = true ∧
      (world.attention.status ≠ .resolved ∧ world.attention.activeKey = some action.attentionFingerprint) ∧
      commit language world action appliedAt listings.locked listings.refreshed = .ok after := by
  obtain ⟨_, _, done⟩ := bind_eq_ok.mp done
  obtain ⟨_, paper, done⟩ := bind_eq_ok.mp done
  obtain ⟨_, _, done⟩ := bind_eq_ok.mp done
  obtain ⟨_, _, done⟩ := bind_eq_ok.mp done
  obtain ⟨_, _, done⟩ := bind_eq_ok.mp done
  obtain ⟨_, active, done⟩ := bind_eq_ok.mp done
  obtain ⟨_, _, done⟩ := bind_eq_ok.mp done
  obtain ⟨_, _, done⟩ := bind_eq_ok.mp done
  refine ⟨require_eq_ok.mp paper, ?_, done⟩
  simpa using require_eq_ok.mp active

/-- The guards of an application let an action pass whose evidence is built from the same listings. -/
theorem apply_of_commit {approval : Approval} {result : Except HttpError (Target N)}
    (approved : Approved (repairAction language world.attention (buildEvidence language world rows diagnosed) mutations)
      approval request appliedAt)
    (paper : world.paper = true)
    (active : world.attention.status ≠ .resolved ∧ world.attention.activeKey = some world.attention.fingerprint)
    (previewed : Previewed language world appliedAt rows diagnosed)
    (proposed : mutations ∈ buildActionProposals world.toTarget (buildEvidence language world rows diagnosed))
    (done : commit language world (repairAction language world.attention (buildEvidence language world rows diagnosed)
      mutations) appliedAt locked refreshed = result) :
    applyHistoricalLifecycleAction language world (repairAction language world.attention
      (buildEvidence language world rows diagnosed) mutations) approval request appliedAt
      ⟨rows, diagnosed, locked, refreshed⟩ = result := by
  obtain ⟨active, key⟩ := active
  refine require_bind (beq_iff_eq.mpr approved.confirmation) ?_
  refine require_bind paper ?_
  refine require_bind (by simp [approved.status, approved.revision]) ?_
  refine require_bind (decide_eq_true approved.unexpired) ?_
  refine bind_eq_of_ok (buildPreviewEvidence_eq_ok.mpr ⟨previewed, rfl⟩) ?_
  refine require_bind (by simp [active, key, repairAction]) ?_
  refine require_bind (beq_self_eq_true _) ?_
  refine require_bind ?_ done
  have found := find_proposal proposed
  have type : (repairAction language world.attention (buildEvidence language world rows diagnosed) mutations).mutations =
      mutations := rfl
  rw [type, found, Option.any_some]
  exact Bool.and_eq_true_iff.mpr
    ⟨beq_self_eq_true _, beq_iff_eq.mpr (stable_persisted language (distinct_mutations mutations)).symm⟩

/-- Nothing stored has changed, and the application is sure only for an order with a single activity, whose intent is of the
account and, for a link, its own. -/
theorem applyHistoricalLifecycleAction_exact {diagnosed : List (ActivityRow N)} {actions : List RepairAction}
    {approval : Approval} {request : ApplyRequest} (listed : ListedByTime world rows) (again : diagnosed.Perm world.activities)
    (previewed : previewHistoricalEntryLifecycleRepair language world now rows diagnosed = .ok actions)
    (member : action ∈ actions) (order : now ≤ appliedAt) (approved : Approved action approval request appliedAt) :
    (∀ listings, Listed world listings → ∃ after,
      applyHistoricalLifecycleAction language world action approval request appliedAt listings = .ok after) ↔
    Applicable world action.mutations.actionType := by
  obtain ⟨built, done, answer⟩ := bind_eq_ok.mp previewed
  cases answer
  obtain ⟨checked, rfl⟩ := buildPreviewEvidence_eq_ok.mp done
  obtain ⟨mutations, proposed, rfl⟩ := List.mem_map.mp member
  constructor
  · intro commits
    have single : world.activities.length ≤ 1 := by
      -- Two activities may be listed one way under the lock and the other way after the mutation.
      by_contra many
      match activities : world.activities with
      | [] | [_] => simp [activities] at many
      | first :: second :: others =>
        have swapped : (second :: first :: others).Perm world.activities := activities ▸ List.Perm.swap first second others
        obtain ⟨after, applied⟩ := commits ⟨rows, diagnosed, first :: second :: others, second :: first :: others⟩
          ⟨listed, again, activities ▸ List.Perm.refl _, swapped⟩
        have same := ids_of_commit (commit_of_apply applied).2.2
        have distinct := world.distinct
        rw [activities] at distinct
        simp only [List.map_cons, List.cons.injEq] at same
        exact (List.nodup_cons.mp distinct).1 (List.mem_cons.mpr (.inl same.1.symm))
    obtain rfl := eq_of_single listed.perm single
    obtain rfl := eq_of_single again single
    obtain ⟨after, applied⟩ := commits ⟨world.activities, world.activities, world.activities, world.activities⟩
      ⟨listed, again, again, again⟩
    obtain ⟨paper, active, written⟩ := commit_of_apply applied
    refine ⟨single, paper, active, (written_of_commit written).1, fun link activity stored => ?_⟩
    cases mutations with
    | terminalize => cases link
    | link positionId intentId orderId ids =>
      obtain ⟨only, activities, owned⟩ := owned_of_full single checked.full
      obtain ⟨_, _, _, _, members⟩ := link_of_proposed proposed
      have touches := (written_of_commit written).2 _ _ _ _ rfl
      rw [members, ownedActivityIds_of_owned activities owned, activities] at touches
      rw [activities, List.mem_singleton] at stored
      subst stored
      have touches := List.length_filter_eq_length_iff.mp touches activity List.mem_cons_self
      simp only [touched, Bool.and_eq_true, beq_iff_eq] at touches
      exact touches.1.1.2
  · intro applicable listings listing
    obtain rfl := eq_of_single listed.perm applicable.single
    obtain rfl := eq_of_single again applicable.single
    obtain ⟨ordered, diagnosed, locked, refreshed⟩ := listings
    obtain rfl : ordered = _ := eq_of_single listing.ordered.perm applicable.single
    obtain rfl : diagnosed = _ := eq_of_single listing.diagnosed applicable.single
    obtain rfl : locked = _ := eq_of_single listing.locked applicable.single
    obtain rfl : refreshed = _ := eq_of_single listing.refreshed applicable.single
    have committed : ∃ after, commit language world (repairAction language world.attention
        (buildEvidence language world world.activities world.activities) mutations) appliedAt world.activities
        world.activities = .ok after := by
      cases mutations with
      | terminalize => exact commit_terminalize applicable.account proposed
      | link => exact commit_link applicable.single applicable.account (applicable.intent rfl) checked proposed
    obtain ⟨after, done⟩ := committed
    exact ⟨after, apply_of_commit approved applicable.paper applicable.attention (checked.later order) proposed done⟩

end Exactness

section Runs

attribute [local instance] exactNumber

/-- Whole numbers, the first two seconds, and a short digest. -/
def plainLanguage : Language ℚ where
  toTexts := plainTexts fun value => toString value.num
  numberText := fun value => match Json.ofNat value.num.toNat with
    | .number text => some text
    | _ => none
  toISOString := fun time => if time = 0 then "1970-01-01T00:00:00.000Z" else "1970-01-01T00:00:01.000Z"
  sha256 := fun text => toString text.length
  localeCompare := fun first second => decide (Json.codeUnitOrder first second)
  total := fun first second => by simpa using Std.Total.total (r := Json.codeUnitOrder) first second
  trans := fun first second third below above => by
    simpa using IsTrans.trans (r := Json.codeUnitOrder) first second third (by simpa using below) (by simpa using above)
  antisymm := fun first second below above =>
    Std.Antisymm.antisymm (r := Json.codeUnitOrder) first second (by simpa using below) (by simpa using above)
  columnOrder := fun first second => decide (Json.codeUnitOrder first second)

/-- A fill of one share at one second after another. -/
def shareFill (id : Nat) (cumQty leavesQty : ℚ) : ActivityRow ℚ where
  toFillActivity := ⟨id, "FILL", some 1, some cumQty, some leavesQty, some 1, some ((id - 1 : Nat) * 1000), some 7, some 11,
    some "broker-order", some "alpaca"⟩
  activityId := "activity"
  orderIntentId := some 21
  trackedPositionId := none
  trackedPositionLinkSource := none
  trackedPositionLinkedAt := none
  rawBrokerJson := .object []

/-- An order of a PAPER account that is still open here, with its fills. -/
def shareWorld (qty : ℚ) (activities : List (ActivityRow ℚ))
    (related : ∀ activity ∈ activities, activity.brokerOrderRecordId = some 11)
    (distinct : (activities.map fun activity => activity.id).Nodup) : RepairWorld ℚ where
  order := ⟨11, 21, some 7, "alpaca", "broker-order", "client-order", "AAPL", "buy", "accepted", .object [], 0, none⟩
  intent := ⟨21, some 7, "AAPL", "buy", "submitted", some qty, none, none, none, none⟩
  activities
  paper := true
  attention := ⟨attentionCode, some 11, 7, .open_, "active", some "active"⟩
  positions := []
  surroundings := ⟨fun _ => 0, fun _ => 0, fun _ _ => 0, fun _ _ => 0, fun _ _ => none⟩
  intentId := rfl
  related
  distinct

def oneFill : RepairWorld ℚ := shareWorld 1 [shareFill 1 1 0] (by decide) (by decide)

def twoFills : RepairWorld ℚ := shareWorld 2 [shareFill 1 1 1, shareFill 2 2 0] (by decide) (by decide)

def shareAction (world : RepairWorld ℚ) : RepairAction :=
  repairAction plainLanguage world.attention (buildEvidence plainLanguage world world.activities world.activities)
    (.terminalize 11 "accepted" 21 "submitted")

def shareApproval : Approval := ⟨.approved, 2, 1600000⟩

def shareRequest : ApplyRequest := ⟨2, confirmationOf .terminalizeOrderLifecycle⟩

theorem preview_shares {world : RepairWorld ℚ}
    (checked : Previewed plainLanguage world 1000000 world.activities world.activities)
    (proposals : buildActionProposals world.toTarget
      (buildEvidence plainLanguage world world.activities world.activities) = [.terminalize 11 "accepted" 21 "submitted"]) :
    previewHistoricalEntryLifecycleRepair plainLanguage world 1000000 world.activities world.activities =
      .ok [shareAction world] := by
  refine bind_eq_ok.mpr ⟨_, buildPreviewEvidence_eq_ok.mpr ⟨checked, rfl⟩, ?_⟩
  rw [proposals]
  rfl

theorem applyHistoricalLifecycleAction_exact_share :
    ∃ after, applyHistoricalLifecycleAction plainLanguage oneFill (shareAction oneFill) shareApproval shareRequest 1300000
      ⟨oneFill.activities, oneFill.activities, oneFill.activities, oneFill.activities⟩ = .ok after :=
  (applyHistoricalLifecycleAction_exact ⟨.refl _, List.pairwise_singleton _ _⟩ (.refl _)
    (preview_shares ⟨by decide +kernel, by decide +kernel, by decide +kernel, by decide +kernel⟩ (by decide +kernel))
    List.mem_cons_self (by decide) ⟨rfl, rfl, by decide, rfl⟩).mpr ⟨by decide, rfl, ⟨by decide, rfl⟩, rfl, nofun⟩ _
    ⟨⟨.refl _, List.pairwise_singleton _ _⟩, .refl _, .refl _, .refl _⟩

/-- Two fills that the query under the lock lists the later one first. -/
theorem applyHistoricalLifecycleAction_refuses :
    previewHistoricalEntryLifecycleRepair plainLanguage twoFills 1000000 twoFills.activities twoFills.activities =
      .ok [shareAction twoFills] ∧
    Listed twoFills ⟨twoFills.activities, twoFills.activities, twoFills.activities.reverse, twoFills.activities⟩ ∧
    Approved (shareAction twoFills) shareApproval shareRequest 1300000 ∧
    applyHistoricalLifecycleAction plainLanguage twoFills (shareAction twoFills) shareApproval shareRequest 1300000
      ⟨twoFills.activities, twoFills.activities, twoFills.activities.reverse, twoFills.activities⟩ =
      .error ⟨409, "Full-fill evidence changed or became contradictory."⟩ := by
  have checked : Previewed plainLanguage twoFills 1000000 twoFills.activities twoFills.activities :=
    ⟨by decide +kernel, by decide +kernel, by decide +kernel, by decide +kernel⟩
  have proposals : buildActionProposals twoFills.toTarget (buildEvidence plainLanguage twoFills twoFills.activities
      twoFills.activities) = [.terminalize 11 "accepted" 21 "submitted"] := by decide +kernel
  have approved : Approved (shareAction twoFills) shareApproval shareRequest 1300000 := ⟨rfl, rfl, by decide, rfl⟩
  refine ⟨preview_shares checked proposals, ⟨⟨List.Perm.refl _, ?_⟩, List.Perm.refl _, List.reverse_perm _,
    List.Perm.refl _⟩, approved, ?_⟩
  · refine List.pairwise_cons.mpr ⟨fun later member => ?_, List.pairwise_singleton _ _⟩
    rw [List.mem_singleton.mp member]
    simp [timeBefore, shareFill]
  · refine apply_of_commit approved rfl ⟨by decide, rfl⟩ (checked.later (by decide)) (proposals ▸ List.mem_cons_self) ?_
    have changed : (stable plainLanguage (assessmentJson plainLanguage (instant? plainLanguage)
        (assessHistoricalFullFillEvidence plainLanguage.toTexts (fillOrder twoFills.toTarget 7)
          (twoFills.activities.reverse.map (·.toFillActivity)))) ==
        stable plainLanguage (shareAction twoFills).evidenceJson) = false := by decide +kernel
    refine bind_eq_error.mpr (.inl ?_)
    exact congrArg (require · 409 "Full-fill evidence changed or became contradictory.")
      (Bool.and_eq_false_iff.mpr (.inr changed))

end Runs

end AiTrader.Repair
