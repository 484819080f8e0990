import AiTrader.Library.Table
import AiTrader.Market.DailyBarWriters

/-! # Runs over the canonical daily store

Any number of calls of both writers run next to each other, one at a time for each security and session. -/

namespace AiTrader.Market

open Library Transaction

variable {daylight : Int → Bool} {isoDate : Int → String} {boundaries : DailyBoundaries} {store after : DailyStore}

section Additions

variable {row : MarketBar} {added : List MarketSplitEvent} {key : Nat × Int}

/-- The rows and events of another session stay as they are when those of one are added. -/
theorem sees_of_added (bars : after.bars = store.bars ++ [row]) (splits : after.splits = store.splits ++ added)
    (keyed : ∀ event ∈ added, event.securityId = row.securityId ∧ event.executionDate = row.barStartAt / dayMs)
    (other : key ≠ (row.securityId, row.barStartAt / dayMs)) : sees key after = sees key store := by
  have absent : ¬ (row.securityId = key.1 ∧ row.barStartAt / dayMs = key.2) := fun same =>
    other (Prod.ext same.1.symm same.2.symm)
  have rows : sessionRows key.1 key.2 after = sessionRows key.1 key.2 store := by
    have alone : row ∉ sessionRows key.1 key.2 ⟨[row], [], [], none⟩ := fun member => absent (mem_sessionRows.mp member).2
    unfold sessionRows DailyStore.barsBetween at alone ⊢
    rw [bars, List.filter_append]
    refine List.append_right_eq_self.mpr (List.filter_eq_nil_iff.mpr fun new member held => ?_)
    rw [List.mem_singleton.mp member] at held
    exact alone (List.mem_filter.mpr ⟨List.mem_singleton_self row, held⟩)
  have events : splitsAt key.1 key.2 after = splitsAt key.1 key.2 store := by
    unfold splitsAt
    rw [splits, List.filter_append]
    refine List.append_right_eq_self.mpr (List.filter_eq_nil_iff.mpr fun event member held => ?_)
    have same := of_decide_eq_true held
    obtain ⟨secured, executed⟩ := keyed event member
    exact absent ⟨secured.symm.trans same.1, executed.symm.trans same.2⟩
  unfold sees
  rw [rows, events]

/-- The rows and events of the session itself are added at the end. -/
theorem sees_added (bars : after.bars = store.bars ++ [row]) (splits : after.splits = store.splits ++ added)
    (keyed : ∀ event ∈ added, event.securityId = row.securityId ∧ event.executionDate = row.barStartAt / dayMs) :
    sessionRows row.securityId (row.barStartAt / dayMs) after =
        sessionRows row.securityId (row.barStartAt / dayMs) store ++ [row] ∧
      splitsAt row.securityId (row.barStartAt / dayMs) after =
        splitsAt row.securityId (row.barStartAt / dayMs) store ++ added := by
  constructor
  · have present : row ∈ sessionRows row.securityId (row.barStartAt / dayMs) ⟨[row], [], [], none⟩ :=
      mem_sessionRows.mpr ⟨List.mem_singleton_self row, rfl, rfl⟩
    unfold sessionRows DailyStore.barsBetween at present ⊢
    rw [bars, List.filter_append]
    refine congrArg _ (List.filter_eq_self.mpr fun new member => ?_)
    rw [List.mem_singleton.mp member]
    exact (List.mem_filter.mp present).2
  · unfold splitsAt
    rw [splits, List.filter_append]
    exact congrArg _ (List.filter_eq_self.mpr fun event member => decide_eq_true (keyed event member))

/-- A row of a new session with its split event keeps the tables sound. -/
theorem Kept.extended (known : Kept store) (bars : after.bars = store.bars ++ [row]) (splits : after.splits = store.splits ++ added)
    (keyed : ∀ event ∈ added, event.securityId = row.securityId ∧ event.executionDate = row.barStartAt / dayMs)
    (absent : sessionRows row.securityId (row.barStartAt / dayMs) store = [])
    (few : (splitsAt row.securityId (row.barStartAt / dayMs) store ++ added).length ≤ 1)
    (matched : SplitMatched row (splitsAt row.securityId (row.barStartAt / dayMs) store ++ added))
    (lockable : lockableSecurity row.securityId = true) : Kept after := by
  obtain ⟨rows, events⟩ := sees_added bars splits keyed
  have elsewhere := fun key other => @sees_of_added store after row added key bars splits keyed other
  refine ⟨fun securityId date => ?_, fun securityId date => ?_, fun other member => ?_, fun other member => ?_⟩
  · by_cases same : (securityId, date) = (row.securityId, row.barStartAt / dayMs)
    · obtain ⟨rfl, rfl⟩ := Prod.mk.inj same
      rw [rows, absent]
      exact Nat.le_refl 1
    · have kept : sessionRows securityId date after = sessionRows securityId date store :=
        congrArg Prod.fst (elsewhere _ same)
      rw [kept]
      exact known.alone securityId date
  · by_cases same : (securityId, date) = (row.securityId, row.barStartAt / dayMs)
    · obtain ⟨rfl, rfl⟩ := Prod.mk.inj same
      rw [events]
      exact few
    · have kept : splitsAt securityId date after = splitsAt securityId date store :=
        congrArg Prod.snd (elsewhere _ same)
      rw [kept]
      exact known.splitAlone securityId date
  · rw [bars, List.mem_append, List.mem_singleton] at member
    rcases member with member | rfl
    · have different : (other.securityId, other.barStartAt / dayMs) ≠ (row.securityId, row.barStartAt / dayMs) := by
        intro same
        obtain ⟨secured, dated⟩ := Prod.mk.inj same
        have listed := mem_sessionRows.mpr ⟨member, secured, dated⟩
        rw [absent] at listed
        cases listed
      have same : splitsAt other.securityId (other.barStartAt / dayMs) after = _ := congrArg Prod.snd (elsewhere _ different)
      rw [same]
      exact known.matched other member
    · rw [events]
      exact matched
  · rw [bars, List.mem_append, List.mem_singleton] at member
    rcases member with member | rfl
    · exact known.lockable other member
    · exact lockable

end Additions

section Commits

variable {call : DailyCall} {values : BarValues} {reply : DailyReply} {writes : DailyStore → DailyStore}

theorem DailyCall.barStartAt_day (call : DailyCall) : call.barStartAt daylight / dayMs = call.date := by
  cases call with
  | daily symbol securityId date bar receivedAt => exact dailyBarStartAt_day bar.provider
  | tiingo member bar receivedAt => rfl

theorem Kept.congr (known : Kept store) (bars : after.bars = store.bars) (splits : after.splits = store.splits) : Kept after := by
  obtain ⟨alone, splitAlone, matched, lockable⟩ := known
  unfold sessionRows DailyStore.barsBetween at alone
  unfold splitsAt at splitAlone matched
  rw [← bars] at alone matched lockable
  rw [← splits] at splitAlone matched
  exact ⟨alone, splitAlone, matched, lockable⟩

theorem sees_congr {key : Nat × Int} (bars : after.bars = store.bars) (splits : after.splits = store.splits) :
    sees key after = sees key store := by
  unfold sees sessionRows splitsAt DailyStore.barsBetween
  rw [bars, splits]

theorem committed (achieved : Achieved daylight boundaries call (.ok reply) ⟨store, writes⟩) (known : Kept store) :
    Kept (writes store) ∧ (∀ other ≠ call.key, sees other store = sees other (writes store)) ∧
      store.bars <+: (writes store).bars := by
  rcases achieved with ⟨error, _, failed⟩ | ⟨values, _, outcome⟩
  · cases failed
  · generalize ended : Except.ok reply = result at outcome
    cases outcome with
    | failed => cases ended
    | declined => exact ⟨known, fun _ _ => rfl, List.prefix_refl _⟩
    | repeated found accepts provided same unchanged =>
      obtain ⟨bars, splits⟩ := unchanged store
      refine ⟨known.congr bars splits, fun other _ => (sees_congr bars splits).symm, ?_⟩
      exact bars.symm ▸ List.prefix_refl store.bars
    | @inserted _ row added _ absent accepts secured started provided same lockable adds keyed few matched =>
      obtain ⟨bars, splits⟩ := adds store
      have dated : row.barStartAt / dayMs = call.date := by
        rw [started]
        exact call.barStartAt_day
      have own : call.key = (row.securityId, row.barStartAt / dayMs) := by
        rw [secured, dated]
        rfl
      rw [← secured, ← dated] at keyed
      rw [own] at absent few matched
      rw [← secured] at lockable
      refine ⟨known.extended bars splits keyed absent few matched lockable, fun other differs => ?_, ?_⟩
      · exact (sees_of_added bars splits keyed (own ▸ differs)).symm
      · rw [bars]
        exact List.prefix_append _ _

theorem transaction_assured (known : Kept store) :
    (call.transaction daylight isoDate boundaries).Assured (dailyContract call.key) (fun _ => False)
      (Achieved daylight boundaries call) ⟨store, id⟩ := by
  cases call with
  | daily symbol securityId date bar receivedAt =>
    have assured := @persistDailyBar_assured daylight isoDate boundaries store receivedAt symbol securityId date bar known
    refine Program.Assured.bind (assured.mono fun result sight achieved => ?_)
    cases result with
    | ok inserted => exact achieved
    | error error => exact achieved
  | tiingo member bar receivedAt =>
    have assured := @persistTiingoDailyBar_assured daylight isoDate boundaries store receivedAt member bar known
    refine Program.Assured.bind (assured.mono fun result sight achieved => ?_)
    cases result with
    | ok reply => exact achieved
    | error error => exact achieved

/-- The calls follow the lock discipline of the daily store. -/
def dailyDiscipline (daylight : Int → Bool) (isoDate : Int → String) (boundaries : DailyBoundaries) :
    Locking.Discipline DailyCall.key
      (fun call program => program = call.transaction daylight isoDate boundaries) Elsewhere where
  kept := Kept
  alike key store after := sees key store = sees key after
  achieved := Achieved daylight boundaries
  alike_refl key := (eq_equivalence.comap (sees key)).refl
  alike_trans key _ _ _ := (eq_equivalence.comap (sees key)).trans
  environment_kept := by
    rintro store after ⟨observations, paused, rfl⟩ known
    exact known.congr rfl rfl
  environment_alike := by
    rintro store after key ⟨observations, paused, rfl⟩
    rfl
  achieved_stable := by
    rintro call result store after writes seen (failed | ⟨values, canonical, outcome⟩)
    · exact .inl failed
    · exact achieved_of canonical seen outcome
  commit_kept known achieved := (committed achieved known).1
  commit_alike known achieved differs := (committed achieved known).2.1 _ differs
  assured := by
    rintro call program store rfl known
    exact transaction_assured known

end Commits

/-- The security and the New York session of a row with a canonical timestamp. -/
def sessionOf (daylight : Int → Bool) (row : MarketBar) : Option (Nat × Int) :=
  match canonicalDailySessionDate daylight row.barStartAt row.provider with
  | .ok date => some (row.securityId, date)
  | .error _ => none

theorem mem_sessionRows_of_sessionOf {row : MarketBar} {key : Nat × Int} (member : row ∈ store.bars)
    (session : sessionOf daylight row = some key) : row ∈ sessionRows key.1 key.2 store := by
  unfold sessionOf at session
  split at session
  case h_1 date canonical =>
    cases session
    exact mem_sessionRows.mpr ⟨member, rfl, day_of_canonical canonical⟩
  case h_2 => cases session

theorem Kept.unique (known : Kept store) : Table.Unique (sessionOf daylight) store.bars := by
  intro key
  refine Nat.le_trans ?_ (known.alone key.1 key.2)
  unfold sessionRows DailyStore.barsBetween
  rw [← List.countP_eq_length_filter]
  refine List.countP_mono_left fun row member counted => ?_
  have listed := mem_sessionRows_of_sessionOf member (eq_of_beq counted)
  exact (List.mem_filter.mp listed).2

/-- A row of the session of a call. -/
def DailyCall.meets (call : DailyCall) (row : MarketBar) : Prop :=
  row.securityId = call.securityId ∧ row.barStartAt / dayMs = call.date

/-- What the end of a call says about the stored rows of its session. -/
structure Answered (daylight : Int → Bool) (boundaries : DailyBoundaries) (store : DailyStore) (call : DailyCall)
    (writes : DailyStore → DailyStore) (result : Except DailyError DailyReply) : Prop where
  repeated : ∀ row ∈ store.bars, call.meets row → row.provider = call.provider → call.values = .ok row.values →
    row.barStartAt = call.barStartAt daylight →
    (∃ reply, result = .ok reply ∧ reply.accepted = true ∧ (writes store).bars = store.bars ∧
      (writes store).splits = store.splits) ∨
    ∃ error, result = .error error ∧ Excuse daylight boundaries error row call
  different : ∀ row ∈ store.bars, call.meets row → row.provider ≠ call.provider ∨ call.values ≠ .ok row.values →
    (∃ error, result = .error error) ∨ ∃ reply, result = .ok reply ∧ reply.accepted = false ∧ writes store = store
  accepted : ∀ reply, result = .ok reply → reply.accepted = true → ∃ row ∈ (writes store).bars, call.meets row ∧
    row.provider = call.provider ∧ call.values = .ok row.values

theorem answered_of_achieved {call : DailyCall} {writes : DailyStore → DailyStore} {result : Except DailyError DailyReply}
    (known : Kept store) (achieved : Achieved daylight boundaries call result ⟨store, writes⟩) :
    Answered daylight boundaries store call writes result := by
  have only : ∀ row found, row ∈ store.bars → call.meets row → (sees call.key store).1 = [found] → row = found := by
    intro row found member meets alone
    have listed : row ∈ sessionRows call.securityId call.date store := mem_sessionRows.mpr ⟨member, meets⟩
    rw [show sessionRows call.securityId call.date store = [found] from alone] at listed
    exact List.mem_singleton.mp listed
  rcases achieved with ⟨error, invalid, rfl⟩ | ⟨values, canonical, outcome⟩
  · refine ⟨fun row _ _ _ same => ?_, fun _ _ _ _ => .inl ⟨error, rfl⟩, nofun⟩
    rw [invalid] at same
    cases same
  · have equal : ∀ row : MarketBar, call.values = .ok row.values ↔ row.values = values := fun row => by
      rw [canonical, Except.ok.injEq]
      exact eq_comm
    cases outcome with
    | failed excused =>
      refine ⟨fun row member meets provided same _ => ?_, fun _ _ _ _ => .inl ⟨_, rfl⟩, nofun⟩
      refine .inr ⟨_, rfl, excused row ?_ provided ((equal row).mp same)⟩
      rcases known.rows_cases call.securityId call.date with absent | ⟨found, alone, _⟩
      · have listed : row ∈ sessionRows call.securityId call.date store := mem_sessionRows.mpr ⟨member, meets⟩
        rw [absent] at listed
        cases listed
      · rw [only row found member meets alone]
        exact alone
    | declined found declines differs =>
      refine ⟨fun row member meets provided same started => ?_, fun row member meets _ => .inr ⟨_, rfl, declines, rfl⟩, ?_⟩
      · obtain rfl := only row _ member meets found
        rcases differs with other | other | other
        · exact absurd provided other
        · exact absurd ((equal row).mp same) other
        · exact absurd started other
      · intro reply succeeded accepts
        cases succeeded
        rw [declines] at accepts
        cases accepts
    | @repeated reply kept writes found accepts provided same unchanged =>
      refine ⟨fun row _ _ _ _ _ => .inl ⟨_, rfl, accepts, unchanged store⟩, fun row member meets differs => ?_, ?_⟩
      · obtain rfl := only row _ member meets found
        rcases differs with other | other
        · exact absurd provided other
        · exact absurd ((equal row).mpr same) other
      · intro reply _ _
        have listed : kept ∈ sessionRows call.securityId call.date store := by
          rw [show sessionRows call.securityId call.date store = [kept] from found]
          exact List.mem_singleton_self kept
        obtain ⟨member, meets⟩ := mem_sessionRows.mp listed
        exact ⟨kept, (unchanged store).1 ▸ member, meets, provided, (equal kept).mpr same⟩
    | @inserted reply new added writes absent accepts secured started provided same _ adds =>
      have missing : ∀ row ∈ store.bars, ¬ call.meets row := by
        intro row member meets
        have listed : row ∈ sessionRows call.securityId call.date store := mem_sessionRows.mpr ⟨member, meets⟩
        rw [show sessionRows call.securityId call.date store = [] from absent] at listed
        cases listed
      refine ⟨fun row member meets => absurd meets (missing row member),
        fun row member meets => absurd meets (missing row member), ?_⟩
      intro reply _ _
      refine ⟨new, ?_, ⟨secured, ?_⟩, provided, (equal new).mpr same⟩
      · rw [(adds store).1]
        exact List.mem_append_right _ (List.mem_singleton_self new)
      · rw [started]
        exact call.barStartAt_day

/-- Under any interleaving every session has one row, rows only join, and every Tiingo split factor other than one has its
one event. A call with a stored row's values is accepted and adds nothing, or may not read the session; one with other values
or another provider is refused. -/
theorem canonical_daily_store {observations : List TiingoDailyObservationState} {paused : Option String}
    {system : DailySystem} (run : DailyRun daylight isoDate boundaries ⟨⟨[], [], observations, paused⟩, []⟩ system) :
    Table.Unique (sessionOf daylight) system.store.bars ∧
      (∀ row ∈ system.store.bars, SplitMatched row (splitsAt row.securityId (row.barStartAt / dayMs) system.store)) ∧
      (∀ later, DailyRun daylight isoDate boundaries system later → system.store.bars <+: later.store.bars) ∧
      ∀ transaction ∈ system.ongoing, ∀ result, transaction.rest = .done result →
        Answered daylight boundaries system.store transaction.label transaction.writes result := by
  have empty : Kept ⟨[], [], observations, paused⟩ :=
    ⟨fun _ _ => Nat.zero_le 1, fun _ _ => Nat.zero_le 1, (fun _ member => nomatch member), fun _ member => nomatch member⟩
  have sound := (Locking.sound_idle (dailyDiscipline daylight isoDate boundaries) empty).run run
  refine ⟨sound.kept.unique, sound.kept.matched, fun later more => ?_, fun transaction member result ended => ?_⟩
  · refine Locking.Sound.relates (fun store after => store.bars <+: after.bars) sound more (fun _ => List.prefix_refl _)
      (fun _ _ _ => List.IsPrefix.trans) ?_ fun known achieved => (committed achieved known).2.2
    rintro store after ⟨observations, paused, rfl⟩
    exact List.prefix_refl _
  · exact answered_of_achieved sound.kept (sound.achieved member ended)

section Sample

def dailySampleBar : TiingoBar := ⟨864000000, some 10, some 12, some 9, some 11, some 100, some 2⟩

def dailySampleCall : DailyCall := .daily "SPY" 1 10 (.tiingo dailySampleBar) 0

def dailySampleValues : BarValues := ⟨10, 12, 9, 11, 100, some 2⟩

def dailySampleRow : MarketBar := ⟨1, 864000000, dailySampleValues, .tiingo, .unadjusted, 0⟩

def dailySampleEvent : MarketSplitEvent := ⟨1, 10, 2, .tiingo, "TIINGO:EOD:" ++ "SPY" ++ ":" ++ "1970-01-11", 0⟩

theorem dailySampleBar_canonical : canonicalTiingoBar dailySampleBar = .ok dailySampleValues := by decide +kernel

theorem dailySampleRow_stored : dailySampleRow.stored = some dailySampleRow := by decide +kernel

theorem dailySampleEvent_stored : dailySampleEvent.stored = some dailySampleEvent := by decide +kernel

/-- The transaction once the values are known. -/
theorem dailySample_transaction : dailySampleCall.transaction (fun _ => false) (fun _ => "1970-01-11") ⟨none, none⟩ =
    (persistDailyBarLocked (fun _ => false) (fun _ => "1970-01-11") ⟨none, none⟩ "SPY" 1 10 .tiingo dailySampleValues 0 >>=
      fun inserted => pure (.rows inserted)) := by
  unfold dailySampleCall DailyCall.transaction persistDailyBar
  dsimp only [DailyBar.canonical]
  rw [dailySampleBar_canonical]
  rfl

abbrev DailySampleRun := DailyRun (fun _ => false) (fun _ => "1970-01-11") ⟨none, none⟩

theorem dailySample_begun (store : DailyStore) : DailySampleRun ⟨store, []⟩
    ⟨store, [⟨dailySampleCall, id, persistDailyBarLocked (fun _ => false) (fun _ => "1970-01-11") ⟨none, none⟩ "SPY" 1 10 .tiingo
      dailySampleValues 0 >>= fun inserted => pure (.rows inserted)⟩]⟩ :=
  .single (.begin dailySample_transaction.symm (by decide))

/-- A statement of the only transaction. -/
theorem dailySample_statement {store : DailyStore} {writes written : DailyStore → DailyStore} {program next : DailyTransaction DailyReply}
    {start : DailySystem} (run : DailySampleRun start ⟨store, [⟨dailySampleCall, writes, program⟩]⟩)
    (step : program.Step (fun _ => False) ⟨store, writes⟩ next ⟨store, written⟩) :
    DailySampleRun start ⟨store, [⟨dailySampleCall, written, next⟩]⟩ :=
  run.tail (@Locking.Step.statement _ _ _ _ _ _ _ _ store [] [] _ _ _ _ _ step)

theorem dailySampleRow_inserts : (match dailySampleRow.stored with
    | some row => Except.ok (row, DailyStore.insertBar row)
    | none => .error DailyError.constraint) = .ok (dailySampleRow, DailyStore.insertBar dailySampleRow) := by
  rw [dailySampleRow_stored]

theorem dailySampleEvent_inserts :
    (match DailyStore.findSplit 1 10 (DailyStore.mk [dailySampleRow] [] [] none), dailySampleEvent.stored with
    | none, some row => Except.ok ((), DailyStore.insertSplit row)
    | _, _ => .error DailyError.constraint) = .ok ((), DailyStore.insertSplit dailySampleEvent) := by
  rw [dailySampleEvent_stored]
  rfl

theorem dailySample_stored : DailySampleRun ⟨⟨[], [], [], none⟩, []⟩ ⟨⟨[dailySampleRow], [dailySampleEvent], [], none⟩, []⟩ := by
  have begun := dailySample_begun ⟨[], [], [], none⟩
  have read := dailySample_statement begun (.commit rfl)
  have written := dailySample_statement read
    (Program.Step.commit (congrArg (Sight.write ⟨⟨[], [], [], none⟩, id⟩) dailySampleRow_inserts))
  have looked := dailySample_statement written (.commit rfl)
  have split := dailySample_statement looked
    (Program.Step.commit (congrArg (Sight.write ⟨⟨[], [], [], none⟩, DailyStore.insertBar dailySampleRow⟩)
      dailySampleEvent_inserts))
  exact split.tail (@Locking.Step.commit _ _ _ _ _ _ _ _ (DailyStore.mk [] [] [] none) [] [] _ _ _)

theorem dailySample_refused : ∃ writes, DailySampleRun ⟨⟨[], [], [], none⟩, []⟩ ⟨⟨[dailySampleRow], [dailySampleEvent], [], none⟩,
    [⟨dailySampleCall, writes, .done (.error (.conflictKey 1 10 .tiingo))⟩]⟩ := by
  have begun := dailySample_stored.trans (dailySample_begun ⟨[dailySampleRow], [dailySampleEvent], [], none⟩)
  have read := dailySample_statement begun (.commit rfl)
  exact ⟨_, read⟩

/-- A repeated call with the values of the stored row is not always accepted. -/
theorem canonical_daily_store_not_accepted : ¬ ∀ (daylight : Int → Bool) (isoDate : Int → String)
    (boundaries : DailyBoundaries) (system : DailySystem),
    DailyRun daylight isoDate boundaries ⟨⟨[], [], [], none⟩, []⟩ system →
    ∀ transaction ∈ system.ongoing, ∀ result, transaction.rest = .done result → ∀ row ∈ system.store.bars,
      transaction.label.meets row → row.provider = transaction.label.provider →
      transaction.label.values = .ok row.values → row.barStartAt = transaction.label.barStartAt daylight →
      ∃ reply, result = .ok reply ∧ reply.accepted = true := by
  intro always
  obtain ⟨writes, run⟩ := dailySample_refused
  obtain ⟨reply, accepted, _⟩ := always _ _ _ _ run _ List.mem_cons_self _ rfl dailySampleRow List.mem_cons_self
    ⟨rfl, rfl⟩ rfl dailySampleBar_canonical rfl
  cases accepted

theorem canonical_daily_store_sample : Table.Unique (sessionOf fun _ => false) [dailySampleRow] ∧
    SplitMatched dailySampleRow [dailySampleEvent] := by
  obtain ⟨writes, run⟩ := dailySample_refused
  obtain ⟨unique, matched, _⟩ := canonical_daily_store run
  exact ⟨unique, matched dailySampleRow List.mem_cons_self⟩

end Sample

end AiTrader.Market
