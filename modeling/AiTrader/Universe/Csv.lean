import AiTrader.Library.JsString
import AiTrader.Library.Json

/-! # Constituents as CSV

The reader is an automaton over the characters, and the writer quotes the fields that hold a separator. -/

namespace AiTrader.Universe

open Library

/-- The characters of a string. -/
abbrev Text := List Char

/-- Why the reader throws, and the index of the character. -/
inductive CsvError where
  | malformedQuote (index : Nat)
  | textAfterQuote (index : Nat)
  | unterminatedQuote

def CsvError.message : CsvError → String
  | .malformedQuote index => s!"Malformed CSV quote at character {index}."
  | .textAfterQuote index => s!"Unexpected text after CSV quote at character {index}."
  | .unterminatedQuote => "Unterminated CSV quote."

/-- The variables of the loop. -/
structure CsvReader where
  result : List (List Text)
  row : List Text
  field : Text
  (quoted closed : Bool)

section

variable (reader : CsvReader)

def CsvReader.push (char : Char) : CsvReader := { reader with field := reader.field ++ [char] }

def CsvReader.endField : CsvReader :=
  { reader with row := reader.row ++ [reader.field], field := [], closed := false }

def CsvReader.endRow : CsvReader :=
  { reader with result := reader.result ++ [reader.row], row := [] }

end

/-- `length` -/
def units (text : Text) : Nat := (text.flatMap Json.codeUnitsOf).length

/-- The loop on the rest of a source; a `skipped` character is the second of a pair. -/
def readCsv (length : Nat) (skipped : Bool) (reader : CsvReader) : Text → Except CsvError CsvReader
  | [] => .ok reader
  | char :: rest =>
    if skipped then readCsv length false reader rest
    else if reader.quoted then
      if char = '"' ∧ rest.head? = some '"' then readCsv length true (reader.push '"') rest
      else if char = '"' then readCsv length false { reader with quoted := false, closed := true } rest
      else readCsv length false (reader.push char) rest
    else if char = '"' then
      if reader.field ≠ [] ∨ reader.closed then .error (.malformedQuote (length - units (char :: rest)))
      else readCsv length false { reader with quoted := true } rest
    else if char = ',' then readCsv length false reader.endField rest
    else if char = '\n' ∨ char = '\r' then
      readCsv length (char = '\r' ∧ rest.head? = some '\n') reader.endField.endRow rest
    else if reader.closed then .error (.textAfterQuote (length - units (char :: rest)))
    else readCsv length false (reader.push char) rest

/-- The end of the source. -/
def CsvReader.finish (reader : CsvReader) : Except CsvError (List (List Text)) :=
  if reader.quoted then .error .unterminatedQuote
  else
    let ended := if reader.field ≠ [] ∨ reader.closed ∨ reader.row ≠ [] then reader.endField.endRow else reader
    .ok (ended.result.filter fun fields => fields.length != 1 || fields.any fun field => strip field != [])

def parseCsvRecords (csv : Text) : Except CsvError (List (List Text)) :=
  let source := if csv.head? = some '\uFEFF' then csv.tail else csv
  readCsv (units source) false ⟨[], [], [], false, false⟩ source >>= CsvReader.finish

def csvSpecials : List Char := ['"', ',', '\r', '\n']

def doubled (char : Char) : Text := if char = '"' then ['"', '"'] else [char]

/-- A missing value is an empty text. -/
def csvField (value : Option Text) : Text :=
  let text := value.getD []
  if text.any csvSpecials.contains then '"' :: (text.flatMap doubled ++ ['"']) else text

def csvDocument (header : List Text) (rows : List (List (Option Text))) : Text :=
  ['\r', '\n'].intercalate ([','].intercalate header :: rows.map fun row => [','].intercalate (row.map csvField)) ++
    ['\r', '\n']

section RoundTrip

variable {length : Nat} {result : List (List Text)} {row : List Text} {field text rest : Text}

theorem readCsv_plain (plain : text.any csvSpecials.contains = false) :
    readCsv length false ⟨result, row, field, false, false⟩ (text ++ rest) =
      readCsv length false ⟨result, row, field ++ text, false, false⟩ rest := by
  induction text generalizing field with
  | nil => rw [List.append_nil, List.nil_append]
  | cons char text ih =>
    simp only [List.any_cons, Bool.or_eq_false_iff] at plain
    have other : char ≠ '"' ∧ char ≠ ',' ∧ char ≠ '\r' ∧ char ≠ '\n' := by simpa [csvSpecials] using plain.1
    rw [List.cons_append, readCsv, List.append_cons, ← ih plain.2]
    simp [other, CsvReader.push]

theorem readCsv_doubled (ends : rest.head? ≠ some '"') :
    readCsv length false ⟨result, row, field, true, false⟩ (text.flatMap doubled ++ '"' :: rest) =
      readCsv length false ⟨result, row, field ++ text, false, true⟩ rest := by
  induction text generalizing field with
  | nil =>
    rw [List.flatMap_nil, List.nil_append, List.append_nil, readCsv]
    cases rest <;> simp_all
  | cons char text ih =>
    rw [List.append_cons field, ← ih, List.flatMap_cons, List.append_assoc]
    by_cases quote : char = '"'
    · subst quote
      rfl
    · simp [doubled, quote, readCsv, CsvReader.push]

/-- A field is read up to what comes after it. -/
theorem readCsv_csvField (value : Option Text) (ends : rest.head? ≠ some '"') :
    ∃ closed, readCsv length false ⟨result, row, [], false, false⟩ (csvField value ++ rest) =
      readCsv length false ⟨result, row, value.getD [], false, closed⟩ rest := by
  unfold csvField
  dsimp only
  split_ifs with special
  · refine ⟨true, ?_⟩
    rw [List.cons_append, List.append_assoc, ← List.nil_append (value.getD []), ← readCsv_doubled ends, readCsv]
    rfl
  · exact ⟨false, readCsv_plain (Bool.eq_false_iff.mpr special)⟩

/-- A row is read up to its line break. -/
theorem readCsv_row (fields : List (Option Text)) (nonempty : fields ≠ []) :
    readCsv length false ⟨result, row, [], false, false⟩ ([','].intercalate (fields.map csvField) ++ '\r' :: '\n' :: rest) =
      readCsv length false ⟨result ++ [row ++ fields.map (·.getD [])], [], [], false, false⟩ rest := by
  induction fields generalizing row with
  | nil => exact absurd rfl nonempty
  | cons value later ih =>
    cases later with
    | nil =>
      obtain ⟨closed, read⟩ := @readCsv_csvField length result row ('\r' :: '\n' :: rest) value (by simp)
      rw [List.map_singleton, List.intercalate_singleton, read]
      rfl
    | cons next later =>
      simp only [List.map_cons, List.intercalate_cons_cons, List.append_assoc, List.cons_append, List.nil_append] at ih ⊢
      obtain ⟨closed, read⟩ := @readCsv_csvField length result row (',' :: _) value (by simp)
      rw [read]
      refine (@ih (row ++ [value.getD []]) (by simp)).trans ?_
      rw [List.append_assoc]
      rfl

theorem readCsv_rows (rows : List (List (Option Text))) (nonempty : ∀ fields ∈ rows, fields ≠ []) :
    readCsv length false ⟨result, [], [], false, false⟩
        (rows.flatMap fun fields => [','].intercalate (fields.map csvField) ++ ['\r', '\n']) =
      .ok ⟨result ++ rows.map (·.map (·.getD [])), [], [], false, false⟩ := by
  induction rows generalizing result with
  | nil => simp [readCsv]
  | cons fields rows ih =>
    simp only [List.flatMap_cons, List.append_assoc, List.cons_append, List.nil_append] at ih ⊢
    rw [readCsv_row fields (nonempty fields List.mem_cons_self),
      ih fun later member => nonempty later (List.mem_cons_of_mem _ member), List.map_cons, List.append_assoc]
    rfl

theorem intercalate_append (separator line : Text) (lines : List Text) :
    separator.intercalate (line :: lines) ++ separator = (line :: lines).flatMap (· ++ separator) := by
  induction lines generalizing line with
  | nil => simp
  | cons next lines ih =>
    rw [List.intercalate_cons_cons, List.append_assoc, ih]
    simp only [List.flatMap_cons, List.append_assoc]

/-- What the writer writes is read back: the header and the text of every value. -/
theorem parseCsvRecords_csvDocument {header : List Text} {rows : List (List (Option Text))} (wide : 2 ≤ header.length)
    (plain : ∀ column ∈ header, column.any csvSpecials.contains = false ∧ column.head? ≠ some '\uFEFF')
    (full : ∀ fields ∈ rows, 2 ≤ fields.length) :
    parseCsvRecords (csvDocument header rows) = .ok (header :: rows.map (·.map (·.getD []))) := by
  have written : (header.map some).map csvField = header := by
    rw [List.map_map, List.map_congr_left fun column member => ?_, List.map_id]
    simp only [Function.comp_apply, csvField, Option.getD_some, (plain column member).1, Bool.false_eq_true, if_false, id]
  have lines : csvDocument header rows = (header.map some :: rows).flatMap fun fields =>
      [','].intercalate (fields.map csvField) ++ ['\r', '\n'] := by
    rw [csvDocument, intercalate_append, List.flatMap_cons, List.flatMap_cons, List.flatMap_map, written]
  have unmarked : (csvDocument header rows).head? ≠ some '\uFEFF' := by
    rcases header with _ | ⟨_ | ⟨char, first⟩, _ | ⟨second, header⟩⟩ <;> simp_all [csvDocument, List.intercalate_cons_cons]
  have nonempty : ∀ fields ∈ header.map some :: rows, 2 ≤ fields.length :=
    List.forall_mem_cons.mpr ⟨by rwa [List.length_map], full⟩
  have read : readCsv (units (csvDocument header rows)) false ⟨[], [], [], false, false⟩ (csvDocument header rows) = _ :=
    lines ▸ readCsv_rows (header.map some :: rows) fun fields member =>
      List.ne_nil_of_length_pos (Nat.lt_of_lt_of_le Nat.two_pos (nonempty fields member))
  have texts : (header.map some :: rows).map (·.map (·.getD [])) = header :: rows.map (·.map (·.getD [])) := by simp
  rw [List.nil_append, texts] at read
  rw [parseCsvRecords, if_neg unmarked, read, ← texts]
  refine congrArg Except.ok (List.filter_eq_self.mpr fun fields member => ?_)
  obtain ⟨values, found, rfl⟩ := List.mem_map.mp member
  have several : (values.map (·.getD [])).length ≠ 1 := by
    have := nonempty values found
    rw [List.length_map]
    omega
  rw [bne_iff_ne.mpr several, Bool.true_or]

/-- A quote, a comma and a missing value. -/
theorem parseCsvRecords_csvDocument_quoted :
    parseCsvRecords "symbol,name\r\n\"A\"\"B,C\",\r\n".toList = .ok [["symbol".toList, "name".toList], ["A\"B,C".toList, []]] :=
  @parseCsvRecords_csvDocument ["symbol".toList, "name".toList] [[some "A\"B,C".toList, none]] (by decide) (by decide)
    (by decide)

end RoundTrip

end AiTrader.Universe
