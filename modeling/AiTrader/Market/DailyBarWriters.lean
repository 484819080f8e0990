import AiTrader.Library.Service
import AiTrader.Market.DailyBars

/-! # The writers of the canonical daily store

What each call reads is decided by the rows and split events of its session, and what it adds belongs to its session. -/

namespace AiTrader.Market

open Library Program Transaction

variable {daylight : Int → Bool} {isoDate : Int → String} {boundaries : DailyBoundaries}

variable {scale : Nat} {value : ℚ}

theorem roundDown_nonneg (positive : 0 ≤ value) : 0 ≤ roundDown scale value := by
  have scaled : 0 ≤ value * 10 ^ scale := by positivity
  have floored : (0 : ℚ) ≤ ⌊value * 10 ^ scale⌋ := by exact_mod_cast Int.floor_nonneg.mpr scaled
  unfold roundDown
  positivity

/-- A column keeps every number that is already rounded to its scale. -/
theorem numericValue_roundDown (positive : 0 ≤ value) :
    numericValue scale (roundDown scale value) = roundDown scale value := by
  have whole : roundDown scale value * 10 ^ scale = ⌊value * 10 ^ scale⌋ :=
    div_mul_cancel₀ _ (by positivity)
  have kept : ⌊(⌊value * 10 ^ scale⌋ : ℚ) + 1 / 2⌋ = ⌊value * 10 ^ scale⌋ := by
    rw [Int.floor_intCast_add]
    norm_num
  rw [numericValue, if_pos (roundDown_nonneg positive), whole, kept, roundDown]

theorem numeric_eq {precision : Nat} {kept : ℚ} (stored : numeric precision scale value = some kept) :
    kept = numericValue scale value := by
  unfold numeric at stored
  split at stored
  · exact (Option.some.inj stored).symm
  · cases stored

section Stored

variable {bar row : MarketBar} {event kept : MarketSplitEvent}

/-- Values whose numbers have the scale of their columns. -/
structure BarValues.Rounded (values : BarValues) : Prop where
  opening : numericValue 10 values.opening = values.opening
  high : numericValue 10 values.high = values.high
  low : numericValue 10 values.low = values.low
  close : numericValue 10 values.close = values.close
  volume : numericValue 6 values.volume = values.volume
  splitFactor : ∀ factor, values.splitFactor = some factor → numericValue 10 factor = factor

theorem numericValue_decimal {given : Option ℚ} {precision : Nat}
    (rounded : decimal given scale precision = .ok value) : numericValue scale value = value := by
  unfold decimal at rounded
  split at rounded
  case h_1 => cases rounded
  case h_2 number =>
    split at rounded
    case isTrue => cases rounded
    case isFalse positive =>
      split at rounded
      case isTrue => cases rounded
      case isFalse =>
        cases rounded
        exact numericValue_roundDown (not_lt.mp positive)

theorem canonicalTiingoBar_rounded {bar : TiingoBar} {values : BarValues} (canonical : canonicalTiingoBar bar = .ok values) :
    values.Rounded ∧ ∃ factor, values.splitFactor = some factor := by
  unfold canonicalTiingoBar at canonical
  split at canonical
  case isTrue => cases canonical
  case isFalse =>
    obtain ⟨opening, first, canonical⟩ := bind_eq_ok.mp canonical
    obtain ⟨high, second, canonical⟩ := bind_eq_ok.mp canonical
    obtain ⟨low, third, canonical⟩ := bind_eq_ok.mp canonical
    obtain ⟨close, fourth, canonical⟩ := bind_eq_ok.mp canonical
    obtain ⟨volume, fifth, canonical⟩ := bind_eq_ok.mp canonical
    obtain ⟨splitFactor, sixth, canonical⟩ := bind_eq_ok.mp canonical
    cases canonical
    refine ⟨⟨numericValue_decimal first, numericValue_decimal second, numericValue_decimal third,
      numericValue_decimal fourth, numericValue_decimal fifth, ?_⟩, splitFactor, rfl⟩
    intro factor same
    cases same
    exact numericValue_decimal sixth

theorem stored_bar (stored : bar.stored = some row) :
    (∃ values, row = { bar with values }) ∧ (bar.values.Rounded → row = bar) := by
  unfold MarketBar.stored at stored
  simp only [Option.bind_eq_bind, Option.bind_eq_some_iff] at stored
  obtain ⟨opening, first, high, second, low, third, close, fourth, volume, fifth, splitFactor, sixth, _, _, same⟩ := stored
  cases same
  refine ⟨⟨_, rfl⟩, fun rounded => ?_⟩
  have factors : splitFactor = bar.values.splitFactor := by
    cases given : bar.values.splitFactor with
    | none =>
      rw [given] at sixth
      exact (Option.some.inj sixth).symm
    | some factor =>
      rw [given] at sixth
      obtain ⟨number, kept, same⟩ := Option.map_eq_some_iff.mp sixth
      rw [← same, numeric_eq kept, rounded.splitFactor factor given]
  rw [factors, numeric_eq first, numeric_eq second, numeric_eq third, numeric_eq fourth, numeric_eq fifth,
    rounded.opening, rounded.high, rounded.low, rounded.close, rounded.volume]

theorem stored_event (stored : event.stored = some kept) :
    ∃ splitFactor, kept = { event with splitFactor } ∧ numeric 24 10 event.splitFactor = some splitFactor := by
  unfold MarketSplitEvent.stored at stored
  simp only [Option.bind_eq_bind, Option.bind_eq_some_iff] at stored
  obtain ⟨splitFactor, first, _, _, same⟩ := stored
  exact ⟨splitFactor, (Option.some.inj same).symm, first⟩

end Stored

variable {store : DailyStore}

section Sessions

variable {after : DailyStore} {securityId : Nat} {date : Int} {row : MarketBar}

/-- The rows of a security within the UTC day of a session. -/
def sessionRows (securityId : Nat) (date : Int) (store : DailyStore) : List MarketBar :=
  store.barsBetween [securityId] date date

def splitsAt (securityId : Nat) (date : Int) (store : DailyStore) : List MarketSplitEvent :=
  store.splits.filter fun event => event.securityId = securityId ∧ event.executionDate = date

theorem mem_sessionRows : row ∈ sessionRows securityId date store ↔
    row ∈ store.bars ∧ row.securityId = securityId ∧ row.barStartAt / dayMs = date := by
  unfold sessionRows DailyStore.barsBetween
  rw [List.mem_filter, decide_eq_true_iff, List.mem_singleton]
  have days : date * dayMs ≤ row.barStartAt ∧ row.barStartAt < (date + 1) * dayMs ↔ row.barStartAt / dayMs = date := by
    unfold dayMs
    omega
  rw [days]

theorem findBar_eq {barStartAt : Int} (within : barStartAt / dayMs = date) :
    store.findBar securityId barStartAt =
      (sessionRows securityId date store).find? fun row => row.barStartAt = barStartAt := by
  unfold sessionRows DailyStore.barsBetween DailyStore.findBar
  rw [List.find?_filter]
  congr 1
  funext row
  rw [Bool.eq_iff_iff]
  simp only [List.mem_singleton, decide_eq_true_eq]
  constructor
  · rintro ⟨same, rfl⟩
    unfold dayMs at within ⊢
    omega
  · rintro ⟨⟨same, _⟩, at_⟩
    exact ⟨same, at_⟩

theorem findSplit_eq : store.findSplit securityId date = (splitsAt securityId date store).head? := by
  unfold splitsAt DailyStore.findSplit
  rw [List.head?_filter]

theorem dailyBarStartAt_day (provider : DailyProvider) : dailyBarStartAt daylight provider date / dayMs = date := by
  cases provider with
  | tiingo =>
    show date * dayMs / dayMs = date
    unfold dayMs
    omega
  | massive =>
    show etInstant daylight date 0 / dayMs = date
    rw [etInstant_eq]
    unfold dayMs minuteMs
    split <;> omega

theorem start_of_canonical {barStartAt : Int} {provider : DailyProvider}
    (canonical : canonicalDailySessionDate daylight barStartAt provider = .ok date) :
    barStartAt = dailyBarStartAt daylight provider date := by
  unfold canonicalDailySessionDate at canonical
  cases provider with
  | tiingo =>
    dsimp only at canonical
    split at canonical
    case isTrue => cases canonical
    case isFalse midnight =>
      have day := Except.ok.inj canonical
      show barStartAt = date * dayMs
      unfold dayMs at *
      omega
  | massive =>
    dsimp only at canonical
    split at canonical
    case isTrue => cases canonical
    case isFalse same =>
      rw [Except.ok.inj canonical] at same
      exact not_not.mp same

/-- A canonical timestamp lies in the UTC day of its session. -/
theorem day_of_canonical {barStartAt : Int} {provider : DailyProvider}
    (canonical : canonicalDailySessionDate daylight barStartAt provider = .ok date) : barStartAt / dayMs = date := by
  rw [start_of_canonical canonical]
  exact dailyBarStartAt_day provider

end Sessions

section Reading

variable {date : Int} {row : MarketBar}

theorem eraseDups_constant {dates : List Int} (constant : ∀ other ∈ dates, other = date) (nonempty : dates ≠ []) :
    dates.eraseDups = [date] := by
  cases dates with
  | nil => exact absurd rfl nonempty
  | cons first rest =>
    have same := constant first List.mem_cons_self
    have none_left : rest.filter (fun other => !other == first) = [] :=
      List.filter_eq_nil_iff.mpr fun other member => by simp [constant other (List.mem_cons_of_mem _ member), same]
    rw [List.eraseDups_cons, none_left, same]
    rfl

/-- The authority over one session is one segment. -/
theorem dailyAuthoritySegments_session : dailyAuthoritySegments boundaries date date =
    match authorityOf boundaries date with
    | .ok provider => .ok [⟨provider, date, date⟩]
    | .error error => .error error := by
  have single : ((([some date, boundaries.cutoverSession, boundaries.massiveResumeSession].filterMap id).filter
      fun other => date ≤ other ∧ other ≤ date).insertionSort (fun first second => first ≤ second)).eraseDups = [date] := by
    apply eraseDups_constant
    · intro other member
      rw [List.mem_insertionSort, List.mem_filter] at member
      have within := of_decide_eq_true member.2
      omega
    · apply List.ne_nil_of_mem (a := date)
      rw [List.mem_insertionSort, List.mem_filter]
      exact ⟨by simp, by simp⟩
  unfold dailyAuthoritySegments
  rw [if_neg (Int.lt_irrefl date)]
  cases known : authorityOf boundaries date with
  | error error => rfl
  | ok provider =>
    show segmentsFrom boundaries date _ = _
    rw [single]
    unfold segmentsFrom
    rw [known]
    rfl

theorem validate_none : validateCanonicalDailyRows daylight boundaries [] date date = .ok [] := by
  unfold validateCanonicalDailyRows
  rw [if_neg (Int.lt_irrefl date)]
  rfl

/-- What the validation makes of the only row of a day. -/
theorem validate_one (within : row.barStartAt / dayMs = date) :
    (∃ error, validateCanonicalDailyRows daylight boundaries [row] date date = .error error ∧
      (canonicalDailySessionDate daylight row.barStartAt row.provider ≠ .ok date ∨
        authorityOf boundaries date ≠ .ok row.provider)) ∨
    validateCanonicalDailyRows daylight boundaries [row] date date = .ok [⟨row, date⟩] ∧
      canonicalDailySessionDate daylight row.barStartAt row.provider = .ok date ∧
      authorityOf boundaries date = .ok row.provider := by
  unfold validateCanonicalDailyRows validateRows
  rw [if_neg (Int.lt_irrefl date)]
  cases stamped : canonicalDailySessionDate daylight row.barStartAt row.provider with
  | error error => exact .inl ⟨error, rfl, .inl (by simp)⟩
  | ok session =>
    obtain rfl : session = date := (day_of_canonical stamped).symm.trans within
    cases known : authorityOf boundaries session with
    | error error =>
      refine .inl ⟨error, ?_, .inr (by simp)⟩
      show (if _ then _ else if _ then _ else authorityOf boundaries session >>= _) >>= _ = _
      rw [known, if_neg (by omega), if_neg List.not_mem_nil]
      rfl
    | ok provider =>
      by_cases same : row.provider = provider
      · right
        refine ⟨?_, rfl, by rw [same]⟩
        show (if _ then _ else if _ then _ else authorityOf boundaries session >>= _) >>= _ = _
        rw [known, if_neg (by omega), if_neg List.not_mem_nil]
        show (if _ then _ else _) >>= _ = _
        rw [if_neg (not_not.mpr same)]
        rfl
      · refine .inl ⟨.conflictKey row.securityId session row.provider, ?_, .inr fun known => ?_⟩
        · show (if _ then _ else if _ then _ else authorityOf boundaries session >>= _) >>= _ = _
          rw [known, if_neg (by omega), if_neg List.not_mem_nil]
          show (if _ then _ else _) >>= _ = _
          rw [if_pos same]
          rfl
        · exact same (Except.ok.inj known).symm

end Reading

/-- A call of either writer. -/
inductive DailyCall where
  | daily (symbol : String) (securityId : Nat) (date : Int) (bar : DailyBar) (receivedAt : Int)
  | tiingo (member : Member) (bar : TiingoBar) (receivedAt : Int)

/-- The number of inserted rows, or the result with whether an observation was resolved. -/
inductive DailyReply where
  | rows (inserted : Nat)
  | persisted (result : PersistResult) (resolved : Bool)

def DailyReply.accepted : DailyReply → Bool
  | .rows _ => true
  | .persisted result _ => result ≠ .other ∧ result ≠ .conflict

namespace DailyCall

def securityId : DailyCall → Nat
  | .daily _ securityId _ _ _ => securityId
  | .tiingo member _ _ => member.securityId

def date : DailyCall → Int
  | .daily _ _ date _ _ => date
  | .tiingo _ bar _ => bar.barStartAt / dayMs

def provider : DailyCall → DailyProvider
  | .daily _ _ _ bar _ => bar.provider
  | .tiingo _ _ _ => .tiingo

/-- The values the call would store. -/
def values : DailyCall → Except DailyError BarValues
  | .daily _ _ _ bar _ => bar.canonical
  | .tiingo _ bar _ => canonicalTiingoBar bar

def barStartAt (daylight : Int → Bool) : DailyCall → Int
  | .daily _ _ date bar _ => dailyBarStartAt daylight bar.provider date
  | .tiingo _ bar _ => bar.barStartAt

/-- The security and session whose lock the call takes. -/
def key (call : DailyCall) : Nat × Int := (call.securityId, call.date)

def transaction (daylight : Int → Bool) (isoDate : Int → String) (boundaries : DailyBoundaries) :
    DailyCall → DailyTransaction DailyReply
  | .daily symbol securityId date bar receivedAt => do
    let inserted ← persistDailyBar daylight isoDate boundaries symbol securityId date bar receivedAt
    pure (.rows inserted)
  | .tiingo member bar receivedAt => do
    let (result, resolved) ← persistTiingoDailyBar daylight isoDate member bar receivedAt
    pure (.persisted result resolved)

end DailyCall

/-- Other writers change the setting and the observation states. -/
def Elsewhere (store after : DailyStore) : Prop :=
  ∃ observations paused, after = { store with observations, paused }

/-- The committed store and the calls that hold a lock. -/
abbrev DailySystem : Type 1 := Locking DailyStore DailyError DailyCall DailyReply

/-- Any interleaving of the calls. -/
abbrev DailyRun (daylight : Int → Bool) (isoDate : Int → String) (boundaries : DailyBoundaries) :
    DailySystem → DailySystem → Prop :=
  Locking.Run DailyCall.key (fun call program => program = call.transaction daylight isoDate boundaries) Elsewhere

/-- One event of Tiingo with the factor. -/
def Matches (factor : ℚ) (events : List MarketSplitEvent) : Prop :=
  ∃ event, events = [event] ∧ event.splitFactor = factor ∧ event.provider = .tiingo

/-- A split factor of Tiingo other than one has its event. -/
def SplitMatched (row : MarketBar) (events : List MarketSplitEvent) : Prop :=
  ∀ factor, row.provider = .tiingo → row.values.splitFactor = some factor → factor ≠ 1 → Matches factor events

/-- What holds of the committed tables between any two steps. -/
structure Kept (store : DailyStore) : Prop where
  alone : ∀ securityId date, (sessionRows securityId date store).length ≤ 1
  splitAlone : ∀ securityId date, (splitsAt securityId date store).length ≤ 1
  matched : ∀ row ∈ store.bars, SplitMatched row (splitsAt row.securityId (row.barStartAt / dayMs) store)
  lockable : ∀ row ∈ store.bars, lockableSecurity row.securityId = true

/-- What the lock of a security and a session protects. -/
def sees (key : Nat × Int) (store : DailyStore) : List MarketBar × List MarketSplitEvent :=
  (sessionRows key.1 key.2 store, splitsAt key.1 key.2 store)

abbrev dailyContract (key : Nat × Int) : Contract (Sight DailyStore) :=
  lockContract Kept (fun store after => sees key store = sees key after) (fun _ => rfl) (fun _ _ _ => Eq.trans)

/-- Why reading the only row of a session fails. -/
def Unreadable (daylight : Int → Bool) (boundaries : DailyBoundaries) (date : Int) (error : DailyError) (row : MarketBar) :
    Prop :=
  canonicalDailySessionDate daylight row.barStartAt row.provider ≠ .ok date ∨
    authorityOf boundaries date ≠ .ok row.provider ∨
    authorityOf boundaries date = .ok .tiingo ∧ error = .consumptionPaused

/-- Why a call may fail although the stored row has its values. -/
def Excuse (daylight : Int → Bool) (boundaries : DailyBoundaries) (error : DailyError) (row : MarketBar) :
    DailyCall → Prop
  | .daily _ _ date _ _ => Unreadable daylight boundaries date error row
  | .tiingo _ bar _ => canonicalDailySessionDate daylight row.barStartAt row.provider ≠ .ok (bar.barStartAt / dayMs) ∨
      error = .notYetEligible

/-- How a call ends, by the rows and events of its session. -/
inductive Outcome (daylight : Int → Bool) (boundaries : DailyBoundaries) (call : DailyCall) (values : BarValues)
    (rows : List MarketBar) (events : List MarketSplitEvent) :
    Except DailyError DailyReply → (DailyStore → DailyStore) → Prop where
  | failed {error : DailyError} {writes : DailyStore → DailyStore}
      (excused : ∀ row, rows = [row] → row.provider = call.provider → row.values = values →
        Excuse daylight boundaries error row call) :
      Outcome daylight boundaries call values rows events (.error error) writes
  | declined {reply : DailyReply} {row : MarketBar} (found : rows = [row]) (declines : reply.accepted = false)
      (differs : row.provider ≠ call.provider ∨ row.values ≠ values ∨ row.barStartAt ≠ call.barStartAt daylight) :
      Outcome daylight boundaries call values rows events (.ok reply) id
  | repeated {reply : DailyReply} {row : MarketBar} {writes : DailyStore → DailyStore} (found : rows = [row])
      (accepts : reply.accepted = true) (provided : row.provider = call.provider) (same : row.values = values)
      (unchanged : ∀ store, (writes store).bars = store.bars ∧ (writes store).splits = store.splits) :
      Outcome daylight boundaries call values rows events (.ok reply) writes
  | inserted {reply : DailyReply} {row : MarketBar} {added : List MarketSplitEvent} {writes : DailyStore → DailyStore}
      (absent : rows = []) (accepts : reply.accepted = true) (secured : row.securityId = call.securityId)
      (started : row.barStartAt = call.barStartAt daylight) (provided : row.provider = call.provider)
      (same : row.values = values) (lockable : lockableSecurity call.securityId = true)
      (adds : ∀ store, (writes store).bars = store.bars ++ [row] ∧ (writes store).splits = store.splits ++ added)
      (keyed : ∀ event ∈ added, event.securityId = call.securityId ∧ event.executionDate = call.date)
      (few : (events ++ added).length ≤ 1) (matched : SplitMatched row (events ++ added)) :
      Outcome daylight boundaries call values rows events (.ok reply) writes

/-- What a call has achieved when its statements have run. -/
def Achieved (daylight : Int → Bool) (boundaries : DailyBoundaries) (call : DailyCall)
    (result : Except DailyError DailyReply) (sight : Sight DailyStore) : Prop :=
  (∃ error, call.values = .error error ∧ result = .error error) ∨
  ∃ values, call.values = .ok values ∧
    Outcome daylight boundaries call values (sees call.key sight.store).1 (sees call.key sight.store).2 result sight.writes

variable {update writes : DailyStore → DailyStore} {factor : ℚ} {row : MarketBar} {receivedAt : Int}

section Statements

variable {key : Nat × Int} {α : Type} {post : Except DailyError α → Sight DailyStore → Prop} {symbol : String}

/-- What the split of a bar adds, from the events that were there. -/
structure SplitAdded (key : Nat × Int) (factor : ℚ) (events added : List MarketSplitEvent)
    (writes written : DailyStore → DailyStore) : Prop where
  bars : ∀ current, (written current).bars = (writes current).bars
  splits : ∀ current, (written current).splits = current.splits ++ added
  keyed : ∀ event ∈ added, event.securityId = key.1 ∧ event.executionDate = key.2
  few : (events ++ added).length ≤ 1
  plain : factor = 1 → added = []
  matched : factor ≠ 1 → Matches factor (events ++ added)

theorem SplitAdded.nothing {events added : List MarketSplitEvent} {written : DailyStore → DailyStore}
    (split : SplitAdded key factor events added writes written) (matched : factor = 1 ∨ Matches factor events) :
    added = [] := by
  rcases matched with unit | ⟨event, listed, _⟩
  · exact split.plain unit
  · have few := split.few
    rw [listed, List.length_append, List.length_singleton] at few
    exact List.length_eq_zero_iff.mp (by omega)

/-- The split event of a bar is there, is created, or stands against the bar. -/
theorem assured_ensureSplitThen {next : Bool → DailyTransaction α}
    (rounded : numericValue 10 factor = factor) (plain : ∀ current, (writes current).splits = current.splits)
    (known : Kept store)
    (fails : ∀ later error, sees key store = sees key later → ¬ (factor = 1 ∨ Matches factor (sees key store).2) →
      post (.error error) ⟨later, writes⟩)
    (goes : ∀ later created written added, sees key store = sees key later → Kept later →
      SplitAdded key factor (sees key store).2 added writes written →
      (next created).Assured (dailyContract key) (fun _ => False) post ⟨later, written⟩) :
    (ensureTiingoSplitEvent isoDate key.1 symbol key.2 factor receivedAt >>= next).Assured (dailyContract key)
      (fun _ => False) post ⟨store, writes⟩ := by
  unfold ensureTiingoSplitEvent
  by_cases unit : factor = 1
  · rw [if_pos unit]
    refine goes store false writes [] rfl known ⟨fun _ => rfl, fun current => ?_, nofun, ?_,
      fun _ => rfl, ?_⟩
    · rw [plain, List.append_nil]
    · rw [List.append_nil]
      exact known.splitAlone key.1 key.2
    · exact fun differs => absurd unit differs
  · rw [if_neg unit]
    refine Assured.bind (assured_lookThen fun later seen kept => ?_)
    have events : splitsAt key.1 key.2 later = (sees key store).2 := (congrArg Prod.snd seen).symm
    have present : (writes later).findSplit key.1 key.2 = (sees key store).2.head? := by
      rw [← events, ← findSplit_eq]
      unfold DailyStore.findSplit
      rw [plain]
    rw [present]
    cases found : (sees key store).2 with
    | cons event rest =>
      have alone : rest = [] := by
        have few := known.splitAlone key.1 key.2
        rw [show splitsAt key.1 key.2 store = event :: rest from found, List.length_cons] at few
        exact List.length_eq_zero_iff.mp (by omega)
      subst alone
      dsimp only [List.head?_cons]
      by_cases conflicts : event.splitFactor ≠ factor ∨ event.provider ≠ .tiingo
      · rw [if_pos conflicts]
        refine fails later _ seen ?_
        rintro (same | ⟨other, listed, same, provided⟩)
        · exact unit same
        · rw [found, List.cons.injEq] at listed
          rw [← listed.1] at same provided
          exact conflicts.elim (fun differs => differs same) (fun differs => differs provided)
      · rw [if_neg conflicts]
        rw [not_or, not_not, not_not] at conflicts
        refine goes later false writes [] seen kept ⟨fun _ => rfl, fun current => ?_, nofun, ?_,
          fun _ => rfl, ?_⟩
        · rw [plain, List.append_nil]
        · rw [found]
          exact Nat.le_refl 1
        · exact fun _ => ⟨event, (List.append_nil _).trans found, conflicts.1, conflicts.2⟩
    | nil =>
      refine assured_statementThen fun last again kept => ⟨fun value update written => ?_, fun error _ => ?_⟩
      · split at written
        case h_2 => cases written
        rename_i created _ stored
        cases written
        obtain ⟨splitFactor, same, number⟩ := stored_event stored
        refine goes last true _ [created] (seen.trans again) kept
          ⟨fun _ => rfl, fun current => ?_, fun event member => ?_, ?_, fun same => absurd same unit,
            fun _ => ⟨created, ?_, ?_, ?_⟩⟩
        · show (writes current).splits ++ [created] = _
          rw [plain]
        · rw [List.mem_singleton.mp member, same]
          exact ⟨rfl, rfl⟩
        · rw [found]
          exact Nat.le_refl 1
        · rw [found]
          rfl
        · rw [same]
          exact (numeric_eq number).trans rounded
        · rw [same]
      · refine fails last error (seen.trans again) ?_
        rintro (same | ⟨other, listed, _⟩)
        · exact unit same
        · rw [found] at listed
          cases listed

/-- The end of a Tiingo write: its split event, and the observation states it resolves. -/
theorem assured_finish {member : Member} {date : Int} {values : BarValues} {found : Bool}
    {post : Except DailyError (PersistResult × Bool) → Sight DailyStore → Prop}
    (given : values.splitFactor = some factor) (rounded : numericValue 10 factor = factor)
    (plain : ∀ current, (writes current).splits = current.splits) (known : Kept store)
    (fails : ∀ later error, sees (member.securityId, date) store = sees (member.securityId, date) later →
      ¬ (factor = 1 ∨ Matches factor (sees (member.securityId, date) store).2) → post (.error error) ⟨later, writes⟩)
    (goes : ∀ later result resolved written added,
      sees (member.securityId, date) store = sees (member.securityId, date) later →
      (DailyReply.persisted result resolved).accepted = true →
      SplitAdded (member.securityId, date) factor (sees (member.securityId, date) store).2 added writes written →
      post (.ok (result, resolved)) ⟨later, written⟩) :
    (finishTiingoDailyBar isoDate member date values receivedAt found).Assured
      (dailyContract (member.securityId, date)) (fun _ => False) post ⟨store, writes⟩ := by
  unfold finishTiingoDailyBar
  rw [given]
  refine assured_ensureSplitThen rounded plain known fails fun later created written added seen _ split => ?_
  refine assured_statementThen fun last again _ => ⟨fun value update resolved => ?_, nofun⟩
  cases resolved
  refine goes last _ _ _ added (seen.trans again) ?_ ⟨split.bars, split.splits, split.keyed, split.few,
    split.plain, split.matched⟩
  cases created <;> cases found <;> rfl

theorem rowsOfSession_one {date : Int} (within : row.barStartAt / dayMs = date) :
    (∃ error, rowsOfSession daylight date [row] = .error error ∧
      canonicalDailySessionDate daylight row.barStartAt row.provider ≠ .ok date) ∨
    rowsOfSession daylight date [row] = .ok [row] ∧
      canonicalDailySessionDate daylight row.barStartAt row.provider = .ok date := by
  cases stamped : canonicalDailySessionDate daylight row.barStartAt row.provider with
  | error error =>
    refine .inl ⟨error, ?_, by simp⟩
    unfold rowsOfSession
    rw [stamped]
    rfl
  | ok session =>
    obtain rfl : session = date := (day_of_canonical stamped).symm.trans within
    refine .inr ⟨?_, rfl⟩
    unfold rowsOfSession
    rw [stamped]
    show Except.ok (if session = session then [row] else []) = _
    rw [if_pos rfl]

/-- What an existing row lets through is what it holds already. -/
theorem refusalOf_cases {row : MarketBar} {barStartAt : Int} {values : BarValues} :
    (∃ refusal, refusalOf row barStartAt values = some refusal ∧ (refusal = .other ∨ refusal = .conflict) ∧
      (row.provider ≠ .tiingo ∨ row.values ≠ values ∨ row.barStartAt ≠ barStartAt)) ∨
    refusalOf row barStartAt values = none ∧ row.provider = .tiingo ∧ row.values = values := by
  unfold refusalOf
  split
  case isTrue other => exact .inl ⟨.other, rfl, .inl rfl, .inl other⟩
  case isFalse provided =>
    split
    case isTrue moved => exact .inl ⟨.conflict, rfl, .inr rfl, .inr (.inr moved)⟩
    case isFalse =>
      split
      case isTrue differs =>
        refine .inl ⟨.conflict, rfl, .inr rfl, .inr (.inl ?_)⟩
        exact differs.resolve_left fun adjusted => adjusted (by cases row.adjustmentMode; rfl)
      case isFalse same =>
        rw [not_or, not_not, not_not] at same
        exact .inr ⟨rfl, not_not.mp provided, same.2⟩

theorem stored_of_alone {securityId : Nat} {date : Int} (found : sessionRows securityId date store = [row]) :
    row ∈ store.bars ∧ row.securityId = securityId ∧ row.barStartAt / dayMs = date :=
  mem_sessionRows.mp (found ▸ List.mem_singleton_self row)

theorem Kept.lockable_of_alone {securityId : Nat} {date : Int} (known : Kept store)
    (found : sessionRows securityId date store = [row]) : lockableSecurity securityId = true := by
  obtain ⟨member, secured, _⟩ := stored_of_alone found
  exact secured ▸ known.lockable row member

/-- The rows of a session are none or one. -/
theorem Kept.rows_cases (known : Kept store) (securityId : Nat) (date : Int) :
    sessionRows securityId date store = [] ∨ ∃ row, sessionRows securityId date store = [row] ∧ row ∈ store.bars ∧
      row.securityId = securityId ∧ row.barStartAt / dayMs = date := by
  have few := known.alone securityId date
  cases rows : sessionRows securityId date store with
  | nil => exact .inl rfl
  | cons row rest =>
    rw [rows, List.length_cons] at few
    obtain rfl : rest = [] := List.length_eq_zero_iff.mp (by omega)
    exact .inr ⟨row, rfl, stored_of_alone rows⟩

end Statements

/-- What is achieved from one store is achieved from every store with the same session. -/
theorem achieved_of {call : DailyCall} {values : BarValues} {result : Except DailyError DailyReply} {later : DailyStore}
    (canonical : call.values = .ok values) (seen : sees call.key store = sees call.key later)
    (outcome : Outcome daylight boundaries call values (sees call.key store).1 (sees call.key store).2 result writes) :
    Achieved daylight boundaries call result ⟨later, writes⟩ :=
  .inr ⟨values, canonical, seen ▸ outcome⟩

/-- No row is there for a failure to excuse. -/
theorem achieved_absent {call : DailyCall} {values : BarValues} {error : DailyError} {later : DailyStore}
    (canonical : call.values = .ok values) (seen : sees call.key store = sees call.key later)
    (absent : (sees call.key store).1 = []) : Achieved daylight boundaries call (.error error) ⟨later, writes⟩ :=
  achieved_of canonical seen (.failed fun _ found _ _ => nomatch absent.symm.trans found)

/-- The row of a session has its split event among those of the session. -/
theorem secured_events {securityId : Nat} {date : Int} (known : Kept store)
    (found : sessionRows securityId date store = [row]) (provided : row.provider = .tiingo)
    (given : row.values.splitFactor = some factor) (differs : factor ≠ 1) : Matches factor (splitsAt securityId date store) := by
  obtain ⟨member, secured, within⟩ := stored_of_alone found
  have matched := known.matched row member factor provided given differs
  rwa [secured, within] at matched

/-- What a call of the Tiingo writer achieves from rows that it has just read. -/
theorem persistTiingoDailyBar_assured {member : Member} {bar : TiingoBar} (known : Kept store) :
    (persistTiingoDailyBar daylight isoDate member bar receivedAt).Assured
      (dailyContract (member.securityId, bar.barStartAt / dayMs)) (fun _ => False)
      (fun result sight => Achieved daylight boundaries (.tiingo member bar receivedAt)
        (result.map fun reply => .persisted reply.1 reply.2) sight) ⟨store, id⟩ := by
  refine assured_attainThen (fun values canonical => ?_) fun error failed => .inl ⟨error, failed, rfl⟩
  obtain ⟨rounded, factor, given⟩ := canonicalTiingoBar_rounded canonical
  refine assured_attainThen (fun _ _ => ?_) fun error late => .inr ⟨values, canonical, .failed fun row _ _ _ => ?_⟩
  swap
  · split at late
    · cases late
    · exact .inr (Except.error.inj late).symm
  refine assured_attainThen (fun _ locked => ?_) fun error refused =>
    .inr ⟨values, canonical, .failed fun row found _ _ => ?_⟩
  swap
  · have lockable : lockableSecurity member.securityId = true := known.lockable_of_alone found
    rw [if_pos lockable] at refused
    cases refused
  have lockable : lockableSecurity member.securityId = true := by
    split at locked
    case isTrue held => exact held
    case isFalse => cases locked
  refine assured_lookThen fun later seen kept => ?_
  have rows : DailyStore.barsBetween [member.securityId] (bar.barStartAt / dayMs) (bar.barStartAt / dayMs) (id later) =
      sessionRows member.securityId (bar.barStartAt / dayMs) store := (congrArg Prod.fst seen).symm
  rw [rows]
  rcases known.rows_cases member.securityId (bar.barStartAt / dayMs) with absent | ⟨row, found, _, _, within⟩
  · rw [absent]
    refine assured_attainThen (fun logical read => ?_) nofun
    obtain rfl : logical = [] := (Except.ok.inj read).symm
    rw [if_neg (by simp)]
    refine assured_statementThen fun last again kept => ⟨fun _ update written => ?_, fun error _ => ?_⟩
    swap
    · exact achieved_absent canonical (seen.trans again) absent
    split at written
    case h_2 => cases written
    rename_i row _ stored
    cases written
    obtain rfl := (stored_bar stored).2 rounded
    refine assured_finish given (rounded.splitFactor factor given) (fun _ => rfl) kept (fun final error more _ => ?_)
      fun final result resolved writes added more accepts split => ?_
    · exact achieved_absent canonical ((seen.trans again).trans more) absent
    · have events : (sees (DailyCall.tiingo member bar receivedAt).key store).2 =
          (sees (member.securityId, bar.barStartAt / dayMs) last).2 := congrArg Prod.snd (seen.trans again)
      refine achieved_of canonical ((seen.trans again).trans more) ?_
      refine .inserted absent accepts rfl rfl rfl rfl lockable (fun current => ⟨split.bars current, split.splits current⟩)
        split.keyed ?_ fun other provided same differs => ?_
      · rw [events]
        exact split.few
      · rw [events]
        obtain rfl : other = factor := Option.some.inj (same.symm.trans given)
        exact split.matched differs
  · rw [found]
    have only : (sees (member.securityId, bar.barStartAt / dayMs) store).1 = [row] := found
    rcases @rowsOfSession_one daylight row (bar.barStartAt / dayMs) within with ⟨error, unstamped, moved⟩ | ⟨stamped, _⟩
    · rw [unstamped]
      refine assured_attainThen nofun fun error _ => ?_
      refine achieved_of canonical seen (.failed fun other listed _ _ => .inl ?_)
      obtain rfl : other = row := List.singleton_inj.mp (listed.symm.trans only)
      exact moved
    · rw [stamped]
      refine assured_attainThen (fun logical read => ?_) nofun
      obtain rfl : logical = [row] := (Except.ok.inj read).symm
      rw [if_neg (by simp)]
      dsimp only [List.head?_cons]
      rcases refusalOf_cases with ⟨refusal, refused, declined, differs⟩ | ⟨admitted, provided, same⟩
      · rw [refused]
        refine achieved_of canonical seen (.declined only ?_ differs)
        rcases declined with rfl | rfl <;> rfl
      · rw [admitted]
        have matched : factor = 1 ∨ Matches factor (sees (member.securityId, bar.barStartAt / dayMs) later).2 := by
          by_cases unit : factor = 1
          · exact .inl unit
          · rw [← seen]
            exact .inr (secured_events known found provided (same ▸ given) unit)
        refine assured_finish given (rounded.splitFactor factor given) (fun _ => rfl) kept
          (fun final error more unmatched => absurd matched unmatched)
          fun final result resolved writes added more accepts split => ?_
        refine achieved_of canonical (seen.trans more) ?_
        refine .repeated only accepts provided same fun current => ⟨split.bars current, ?_⟩
        rw [split.splits, split.nothing matched, List.append_nil]

section Session

variable {securityId : Nat} {date : Int} {post : Except DailyError (List CanonicalDailyRow) → Sight DailyStore → Prop}

/-- Reading one session. -/
theorem assured_readCanonicalDailyBars (known : Kept store)
    (fails : ∀ later error, sees (securityId, date) store = sees (securityId, date) later →
      (∀ row, sessionRows securityId date store = [row] → Unreadable daylight boundaries date error row) →
      post (.error error) ⟨later, id⟩)
    (nothing : ∀ later, sees (securityId, date) store = sees (securityId, date) later →
      sessionRows securityId date store = [] → post (.ok []) ⟨later, id⟩)
    (found : ∀ later row, sees (securityId, date) store = sees (securityId, date) later →
      sessionRows securityId date store = [row] →
      canonicalDailySessionDate daylight row.barStartAt row.provider = .ok date → post (.ok [⟨row, date⟩]) ⟨later, id⟩) :
    (readCanonicalDailyBars daylight boundaries [securityId] date date).Assured
      (dailyContract (securityId, date)) (fun _ => False) post ⟨store, id⟩ := by
  have reads : ∀ current, sees (securityId, date) store = sees (securityId, date) current →
      (look (fun store : DailyStore => (store.barsBetween [securityId] date date).insertionSort
          fun first second => first.barStartAt ≤ second.barStartAt) >>= fun rows =>
        attain (validateCanonicalDailyRows daylight boundaries rows date date)).Assured
        (dailyContract (securityId, date)) (fun _ => False) post ⟨current, id⟩ := by
    intro current earlier
    refine assured_lookThen fun later seen _ => ?_
    have same := earlier.trans seen
    have rows : DailyStore.barsBetween [securityId] date date (id later) = sessionRows securityId date store :=
      (congrArg Prod.fst same).symm
    rw [rows]
    rcases known.rows_cases securityId date with absent | ⟨row, alone, _, _, within⟩
    · rw [absent, List.insertionSort_nil, validate_none]
      exact nothing later same absent
    · rw [alone, List.insertionSort_cons, List.insertionSort_nil, List.orderedInsert_nil]
      rcases @validate_one daylight boundaries date row within with ⟨error, refused, reason⟩ | ⟨accepted, stamped, _⟩
      · rw [refused]
        refine fails later error same fun other listed => ?_
        obtain rfl : other = row := List.singleton_inj.mp (listed.symm.trans alone)
        exact reason.imp id .inl
      · rw [accepted]
        exact found later row same alone stamped
  unfold readCanonicalDailyBars
  rw [dailyAuthoritySegments_session]
  cases authority : authorityOf boundaries date with
  | error error =>
    refine assured_attainThen nofun fun other _ => ?_
    refine fails store other rfl fun row _ => .inr (.inl fun same => ?_)
    rw [authority] at same
    cases same
  | ok provider =>
    refine assured_attainThen (fun segments same => ?_) nofun
    cases same
    refine Assured.bind ?_
    cases provider with
    | massive => exact reads store rfl
    | tiingo =>
      refine assured_lookThen fun later seen _ => ?_
      by_cases paused : later.paused = some "true"
      · show (attain (if later.paused = some "true" then _ else _)).Assured _ _ _ _
        rw [if_pos paused]
        exact fails later _ seen fun row _ => .inr (.inr ⟨authority, rfl⟩)
      · show (attain (if later.paused = some "true" then _ else _)).Assured _ _ _ _
        rw [if_neg paused]
        exact reads later seen

end Session

/-- The rest of a write once the row is there, for either provider. -/
theorem assured_ensureSplitOfThen {provider : DailyProvider} {securityId : Nat} {date : Int} {symbol : String}
    {values : BarValues} {inserted : Nat}
    {post : Except DailyError Nat → Sight DailyStore → Prop}
    (tiingo : provider = .tiingo → values.Rounded ∧ ∃ factor, values.splitFactor = some factor)
    (plain : ∀ current, (writes current).splits = current.splits) (known : Kept store)
    (fails : ∀ later error factor, sees (securityId, date) store = sees (securityId, date) later → provider = .tiingo →
      values.splitFactor = some factor → ¬ (factor = 1 ∨ Matches factor (sees (securityId, date) store).2) →
      post (.error error) ⟨later, writes⟩)
    (goes : ∀ later written added, sees (securityId, date) store = sees (securityId, date) later →
      (provider = .massive ∧ added = [] ∧ written = writes ∨ provider = .tiingo ∧ ∃ factor,
        values.splitFactor = some factor ∧
        SplitAdded (securityId, date) factor (sees (securityId, date) store).2 added writes written) →
      post (.ok inserted) ⟨later, written⟩) :
    (ensureSplitOf isoDate provider securityId symbol date values receivedAt >>= fun _ => pure inserted).Assured
      (dailyContract (securityId, date)) (fun _ => False) post ⟨store, writes⟩ := by
  unfold ensureSplitOf
  cases provider with
  | massive => exact goes store writes [] rfl (.inl ⟨rfl, rfl, rfl⟩)
  | tiingo =>
    obtain ⟨rounded, factor, given⟩ := tiingo rfl
    rw [given]
    refine Assured.bind ?_
    refine assured_ensureSplitThen (rounded.splitFactor factor given) plain known
      (fun later error seen unmatched => fails later error factor seen rfl given unmatched)
      fun later created written added seen _ split => ?_
    exact goes later written added seen (.inr ⟨rfl, factor, given, split⟩)

/-- An upsert that found no row has stored the bar. -/
theorem created_of_upsert {bar : MarketBar}
    (written : (match ([] : List MarketBar).find? fun row => row.barStartAt = bar.barStartAt with
      | some row => Except.ok (row, id)
      | none =>
        match bar.stored with
        | some row => .ok (row, DailyStore.insertBar row)
        | none => .error DailyError.constraint) = .ok (row, update)) :
    bar.stored = some row ∧ update = DailyStore.insertBar row := by
  rw [List.find?_nil] at written
  dsimp only at written
  split at written
  case h_1 stored_ stored =>
    cases written
    exact ⟨stored, rfl⟩
  case h_2 => cases written

/-- What a call of the sensor panel's writer achieves from rows that it has just read. -/
theorem persistDailyBar_assured {symbol : String} {securityId : Nat} {date : Int} {bar : DailyBar} (known : Kept store) :
    (persistDailyBar daylight isoDate boundaries symbol securityId date bar receivedAt).Assured
      (dailyContract (securityId, date)) (fun _ => False)
      (fun result sight => Achieved daylight boundaries (.daily symbol securityId date bar receivedAt)
        (result.map .rows) sight) ⟨store, id⟩ := by
  refine assured_attainThen (fun values canonical => ?_) fun error failed => .inl ⟨error, failed, rfl⟩
  have tiingo : bar.provider = .tiingo → values.Rounded ∧ ∃ factor, values.splitFactor = some factor := by
    intro provided
    cases bar with
    | massive => cases provided
    | tiingo bar => exact canonicalTiingoBar_rounded canonical
  refine assured_attainThen (fun _ locked => ?_) fun error refused =>
    .inr ⟨values, canonical, .failed fun row found _ _ => ?_⟩
  swap
  · have lockable : lockableSecurity securityId = true := known.lockable_of_alone found
    rw [if_pos lockable] at refused
    cases refused
  have lockable : lockableSecurity securityId = true := by
    split at locked
    case isTrue held => exact held
    case isFalse => cases locked
  refine Assured.bind (assured_readCanonicalDailyBars known (fun later error seen excused => ?_)
    (fun later seen absent => ?_) fun later row seen found stamped => ?_)
  · exact achieved_of canonical seen (.failed fun row found _ _ => excused row found)
  · refine assured_attainThen (fun _ _ => ?_) nofun
    refine assured_attainThen (fun _ _ => ?_) nofun
    refine assured_statementThen fun last again kept => ⟨fun row update written => ?_, fun error _ => ?_⟩
    swap
    · exact achieved_absent canonical (seen.trans again) absent
    have same := seen.trans again
    have none_there : sessionRows securityId date last = [] := (congrArg Prod.fst same).symm.trans absent
    rw [id, findBar_eq (dailyBarStartAt_day bar.provider), none_there] at written
    obtain ⟨stored, rfl⟩ := created_of_upsert written
    obtain ⟨changed, kind⟩ := (stored_bar stored).1
    refine assured_attainThen (fun _ agrees => ?_) fun error _ =>
      achieved_absent canonical same absent
    have equal : row.values = values := by
      split at agrees
      case isTrue => cases agrees
      case isFalse agreed => exact not_not.mp (not_or.mp (not_or.mp agreed).2).2
    refine assured_ensureSplitOfThen tiingo (fun _ => rfl) kept (fun final error factor more _ _ _ => ?_)
      fun final written added more split => ?_
    · exact achieved_absent canonical (same.trans more) absent
    · refine achieved_of canonical (same.trans more) ?_
      rcases split with ⟨provided, rfl, rfl⟩ | ⟨provided, factor, given, split⟩
      · refine .inserted absent rfl (by rw [kind]; rfl) (by rw [kind]; rfl) (by rw [kind]; rfl) equal lockable
          (fun current => ⟨rfl, (List.append_nil _).symm⟩) nofun ?_ fun factor other => ?_
        · rw [List.append_nil]
          exact known.splitAlone securityId date
        · rw [kind, show bar.provider = .massive from provided] at other
          cases other
      · refine .inserted absent rfl (by rw [kind]; rfl) (by rw [kind]; rfl) (by rw [kind]; rfl) equal lockable
          (fun current => ⟨split.bars current, split.splits current⟩) split.keyed ?_ fun other _ listed differs => ?_
        · have few := split.few
          rw [← same] at few
          exact few
        · obtain rfl : other = factor := Option.some.inj ((equal ▸ listed).symm.trans given)
          have matched := split.matched differs
          rw [← same] at matched
          exact matched
  · have only : ∀ other, (sees (securityId, date) store).1 = [other] → other = row := fun other listed =>
      List.singleton_inj.mp (listed.symm.trans found)
    have started := start_of_canonical stamped
    refine assured_attainThen (fun _ _ => ?_) nofun
    refine assured_attainThen (fun _ agrees => ?_) fun error refused =>
      achieved_of canonical seen (.failed fun other listed provided _ => ?_)
    swap
    · have provided : row.provider = bar.provider := only other listed ▸ provided
      rw [provided] at started
      simp [started] at refused
    have together : row.barStartAt = dailyBarStartAt daylight bar.provider date := by
      split at agrees
      case isTrue => cases agrees
      case isFalse agreed => simpa using agreed
    refine assured_statementThen fun last again kept => ?_
    have same := seen.trans again
    have present : last.findBar securityId (dailyBarStartAt daylight bar.provider date) = some row := by
      rw [findBar_eq (dailyBarStartAt_day bar.provider),
        show sessionRows securityId date last = [row] from (congrArg Prod.fst same).symm.trans found]
      exact List.find?_cons_of_pos (decide_eq_true together)
    rw [id, present]
    refine ⟨fun stored update written => ?_, nofun⟩
    cases written
    refine assured_attainThen (fun _ agrees => ?_) fun error refused =>
      achieved_of canonical same (.failed fun other listed provided equal => ?_)
    swap
    · obtain rfl := only other listed
      rw [if_neg] at refused
      · cases refused
      · rintro (differs | adjusted | differs)
        · exact differs provided
        · exact adjusted (by cases other.adjustmentMode; rfl)
        · exact differs equal
    obtain ⟨provided, equal⟩ : row.provider = bar.provider ∧ row.values = values := by
      split at agrees
      case isTrue => cases agrees
      case isFalse agreed =>
        rw [not_or, not_or, not_not, not_not, not_not] at agreed
        exact ⟨agreed.1, agreed.2.2⟩
    have matched : ∀ factor, bar.provider = .tiingo → values.splitFactor = some factor →
        factor = 1 ∨ Matches factor (sees (securityId, date) last).2 := by
      intro factor tiingo given
      by_cases unit : factor = 1
      · exact .inl unit
      · rw [← same]
        exact .inr (secured_events known found (provided.trans tiingo) (equal ▸ given) unit)
    refine assured_ensureSplitOfThen tiingo (fun _ => rfl) kept
      (fun final error factor more tiingo given unmatched => absurd (matched factor tiingo given) unmatched)
      fun final written added more split => ?_
    refine achieved_of canonical (same.trans more) (.repeated found rfl provided equal fun current => ?_)
    rcases split with ⟨_, _, rfl⟩ | ⟨tiingo, factor, given, split⟩
    · exact ⟨rfl, rfl⟩
    · refine ⟨split.bars current, ?_⟩
      rw [split.splits, split.nothing (matched factor tiingo given), List.append_nil]

end AiTrader.Market
