import AiTrader.Library.JsString
import AiTrader.Market.Trend

/-! # The participation calculation

The volume of a session relative to the median volume of the twenty sessions before it, for five instruments. -/

namespace AiTrader.Market.Participation

open Library JsNumber
open Trend (ResearchBar ResearchSplit NormalizedBar TrendError before normalizeSplits)

def daysInMonth (year month : Nat) : Nat :=
  if month = 2 then (if year % 4 = 0 ∧ (year % 100 ≠ 0 ∨ year % 400 = 0) then 29 else 28)
  else if month ∈ [4, 6, 9, 11] then 30
  else 31

/-- The number that digits write. -/
def digitsValue (digits : List Char) : Nat := digits.foldl (fun value digit => value * 10 + (digit.toNat - '0'.toNat)) 0

/-- A date of the calendar, written `YYYY-MM-DD`. -/
def validDate (value : String) : Bool :=
  match value.toList with
  | [y₁, y₂, y₃, y₄, '-', m₁, m₂, '-', d₁, d₂] =>
    let month := digitsValue [m₁, m₂]
    let day := digitsValue [d₁, d₂]
    [y₁, y₂, y₃, y₄, m₁, m₂, d₁, d₂].all Char.isDigit && decide (1 ≤ month ∧ month ≤ 12) &&
      decide (1 ≤ day ∧ day ≤ daysInMonth (digitsValue [y₁, y₂, y₃, y₄]) month)
  | _ => false

inductive ParticipationSymbol where
  | spy | qqq | dia | iwm | rsp

/-- `PARTICIPATION_SYMBOLS` -/
def participationSymbols : List ParticipationSymbol := [.spy, .qqq, .dia, .iwm, .rsp]

inductive ParticipationState where
  | quiet | normal | active | intense

/-- `PARTICIPATION_BASELINE_SESSIONS` -/
def participationBaselineSessions : Nat := 20

inductive ParticipationError where
  | rvolRequired | medianValues | sensorsRequired | splitEvidence | normalizationInput
  | trend (error : TrendError)

def ParticipationError.message : ParticipationError → String
  | .rvolRequired => "Participation RVOL must be finite and non-negative."
  | .medianValues => "Median requires finite nonnegative values."
  | .sensorsRequired => "Participation requires all five sensors."
  | .splitEvidence => "Malformed/conflicting split evidence."
  | .normalizationInput => "Invalid volume normalization input."
  | .trend error => error.message

structure ParticipationVolume (N : Type) where
  date : String
  volume : N

structure NormalizedVolume (N : Type) extends ParticipationVolume N where
  normalizationFactor : N

inductive DiagnosticCode where
  | invalidWindow | missingVolume | invalidVolume | duplicateVolume | zeroMedianBaseline | nonFiniteRvol

structure ParticipationDiagnostic where
  code : DiagnosticCode
  symbol : Option ParticipationSymbol
  date : Option String

section Panel

variable {N : Type} [JsNumber N]

def classifyParticipation (value : N) : Except ParticipationError ParticipationState :=
  if !isFinite value || less value (number 0) then .error .rvolRequired
  else if less value (number 0.75) then .ok .quiet
  else if less value (number 1.25) then .ok .normal
  else if less value (number 1.50) then .ok .active
  else .ok .intense

def participationMedian (values : List N) : Except ParticipationError N :=
  if values.isEmpty || !(values.all fun x => isFinite x && le (number 0) x) then .error .medianValues
  else
    let sorted := values.insertionSort fun a b => le a b
    let mid := sorted.length / 2
    let upper := sorted.getD mid (number 0)
    let lower := sorted.getD (mid - 1) (number 0)
    .ok (if sorted.length % 2 = 1 then upper else lower + (upper - lower) / number 2)

/-- The numbers of sensors below and above the diagnostic cut points. -/
structure Agreement where
  (le070 le080 ge100 ge125 ge150 ge200 : Nat)

structure ParticipationPanel (N : Type) where
  panelMedianRvol : N
  (rawState effectiveState : ParticipationState)
  (minimumRvol maximumRvol range : N)
  agreement : Agreement

section

variable (values : List N)

def countAtMost (cut : ℚ) : Nat := (values.filter fun x => le x (number cut)).length

def countAtLeast (cut : ℚ) : Nat := (values.filter fun x => le (number cut) x).length

def participationPanel : Except ParticipationError (ParticipationPanel N) :=
  if values.length ≠ 5 then .error .sensorsRequired
  else do
    let panelMedianRvol ← participationMedian values
    let state ← classifyParticipation panelMedianRvol
    let minimumRvol := values.tail.foldl min (values.headD (number 0))
    let maximumRvol := values.tail.foldl max (values.headD (number 0))
    .ok
      { panelMedianRvol, rawState := state, effectiveState := state, minimumRvol, maximumRvol
        range := maximumRvol - minimumRvol
        agreement :=
          { le070 := countAtMost values 0.70, le080 := countAtMost values 0.80, ge100 := countAtLeast values 1
            ge125 := countAtLeast values 1.25, ge150 := countAtLeast values 1.5, ge200 := countAtLeast values 2 } }

end

end Panel

section Calculation

variable {N : Type} [JsNumber N]

structure ParticipationInstrument (N : Type) where
  symbol : ParticipationSymbol
  (normalizedTargetVolume medianVolume20 rvol20 : N)

inductive ParticipationCalculation (N : Type) where
  | unavailable (diagnostics : List ParticipationDiagnostic)
  | available (targetDate : String) (baselineDates : List String) (instruments : List (ParticipationInstrument N))
    (panel : ParticipationPanel N)

/-- The volumes by date, latest first, and the diagnostics with one more observation. -/
def readVolume (symbol : ParticipationSymbol) (read : List (String × N) × List ParticipationDiagnostic)
    (row : ParticipationVolume N) : List (String × N) × List ParticipationDiagnostic :=
  ((row.date, row.volume) :: read.1,
    read.2 ++ (if (read.1.lookup row.date).isSome then [⟨.duplicateVolume, some symbol, some row.date⟩] else []) ++
      if !validDate row.date || !isFinite row.volume || less row.volume (number 0) then
        [⟨.invalidVolume, some symbol, some row.date⟩]
      else [])

/-- `volumes.get(date)!`, which is `NaN` in arithmetic where there is none. -/
def volumeAt (volumes : List (String × N)) (date : String) : N := (volumes.lookup date).getD (number 0 / number 0)

omit [JsNumber N] in
def missingVolumes (symbol : ParticipationSymbol) (volumes : List (String × N)) (dates : List String) :
    List ParticipationDiagnostic :=
  (dates.filter fun date => (volumes.lookup date).isNone).map fun date => ⟨.missingVolume, some symbol, some date⟩

section

variable (targetDate : String)

/-- What is measured of an instrument: a failure that ends it, or its relative volume. -/
def measureVolumes (baselineDates : List String) (symbol : ParticipationSymbol)
    (volumes : List (String × N)) :
    Except ParticipationError (ParticipationDiagnostic ⊕ ParticipationInstrument N) := do
  let medianVolume20 ← participationMedian (baselineDates.map (volumeAt volumes))
  if !truthy medianVolume20 then .ok (.inl ⟨.zeroMedianBaseline, some symbol, none⟩)
  else
    let normalizedTargetVolume := volumeAt volumes targetDate
    let rvol20 := normalizedTargetVolume / medianVolume20
    if !isFinite rvol20 then .ok (.inl ⟨.nonFiniteRvol, some symbol, none⟩)
    else .ok (.inr { symbol, normalizedTargetVolume, medianVolume20, rvol20 })

/-- One round of the loop over the instruments. -/
def measureSymbol (baselineDates : List String)
    (observations : ParticipationSymbol → List (ParticipationVolume N))
    (state : List ParticipationDiagnostic × List (ParticipationInstrument N)) (symbol : ParticipationSymbol) :
    Except ParticipationError (List ParticipationDiagnostic × List (ParticipationInstrument N)) := do
  let read := (observations symbol).foldl (readVolume symbol) ([], [])
  let found := read.2 ++ missingVolumes symbol read.1 (baselineDates ++ [targetDate])
  if found ≠ [] then .ok (state.1 ++ found, state.2)
  else
    match ← measureVolumes targetDate baselineDates symbol read.1 with
    | .inl diagnostic => .ok (state.1 ++ [diagnostic], state.2)
    | .inr instrument => .ok (state.1, state.2 ++ [instrument])

def calculateParticipationV1 (baselineDates : List String)
    (observations : ParticipationSymbol → List (ParticipationVolume N)) :
    Except ParticipationError (ParticipationCalculation N) :=
  if !validDate targetDate || baselineDates.length ≠ participationBaselineSessions ||
      (baselineDates.any fun date => !validDate date || !before date targetDate) ||
      ((baselineDates.zip baselineDates.tail).any fun (previous, date) => !before previous date) then
    .ok (.unavailable [⟨.invalidWindow, none, none⟩])
  else do
    let (diagnostics, instruments) ← participationSymbols.foldlM (measureSymbol targetDate baselineDates observations) ([], [])
    if diagnostics ≠ [] then .ok (.unavailable diagnostics)
    else do
      let panel ← participationPanel (instruments.map (·.rvol20))
      .ok (.available targetDate baselineDates instruments panel)

end

end Calculation

section Normalization

variable {N : Type} [JsNumber N]

/-- What `validateParticipationSplits` asks of a split besides its identity. -/
def wellFormedSplit (split : ResearchSplit N) : Bool :=
  !(strip split.id.toList).isEmpty && validDate split.executionDate &&
    [split.splitFrom, split.splitTo, split.priceFactor].all finitePositive &&
    !le (number (1 / 1000000000000)) (abs (split.priceFactor - split.splitFrom / split.splitTo))

/-- The loop of `validateParticipationSplits`, with the ids and dates it has seen. -/
def validateSplitsFrom : List String → List String → List (ResearchSplit N) → Except ParticipationError Unit
  | _, _, [] => .ok ()
  | ids, dates, split :: rest =>
    if !wellFormedSplit split || ids.contains split.id || dates.contains split.executionDate then .error .splitEvidence
    else validateSplitsFrom (split.id :: ids) (split.executionDate :: dates) rest

def validateParticipationSplits (splits : List (ResearchSplit N)) : Except ParticipationError Unit :=
  validateSplitsFrom [] [] splits

/-- A volume as a bar with unit prices. -/
def volumeBar (volume : ParticipationVolume N) (id : Nat) : ResearchBar N where
  id := id
  date := volume.date
  openPrice := number 1
  high := number 1
  low := number 1
  close := number 1
  volume := volume.volume

omit [JsNumber N] in
def normalizedVolume (bar : NormalizedBar N) : NormalizedVolume N where
  date := bar.date
  volume := bar.volume
  normalizationFactor := bar.normalizationFactor

def normalizeParticipationVolumes (bars : List (ParticipationVolume N)) (splits : List (ResearchSplit N)) (targetDate : String) :
    Except ParticipationError (List (NormalizedVolume N)) := do
  let _ ← validateParticipationSplits splits
  if !validDate targetDate || bars.any fun bar =>
      !validDate bar.date || before targetDate bar.date || !isFinite bar.volume || less bar.volume (number 0) then
    .error .normalizationInput
  else
    match normalizeSplits (bars.zipIdx.map fun (bar, id) => volumeBar bar id) splits targetDate with
    | .error error => .error (.trend error)
    | .ok normalized => .ok (normalized.map normalizedVolume)

end Normalization

end AiTrader.Market.Participation
