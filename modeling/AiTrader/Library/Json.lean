import Mathlib.Data.List.Sort
import Mathlib.Data.List.Lex
import Mathlib.Tactic.IntervalCases

/-! # JSON values and their canonical text

A value is written with the fields of every object in a fixed order. -/

namespace AiTrader.Library

/-- The characters of a number as JavaScript writes it. -/
def isNumberChar (c : Char) : Bool := c.isDigit || c == '-' || c == '+' || c == '.' || c == 'e'

/-- A number, by the text that JavaScript gives it. -/
structure NumberText where
  text : List Char
  present : text ≠ []
  numeric : ∀ c ∈ text, isNumberChar c = true

inductive Json where
  | null
  | bool (value : Bool)
  | number (value : NumberText)
  | string (value : String)
  | array (items : List Json)
  | object (fields : List (String × Json))

namespace Json

/-- A natural number. -/
def ofNat (value : Nat) : Json :=
  .number ⟨Nat.toDigits 10 value, Nat.toDigits_ne_nil, fun c member => by
    have digit : c.isDigit = true := Nat.isDigit_of_mem_toDigits (by decide) (by decide) member
    simp [isNumberChar, digit]⟩

def ofOption {Value : Type} (field : Value → Json) : Option Value → Json
  | some value => field value
  | none => .null

theorem ofNat_injective : Function.Injective ofNat := by
  intro first second same
  have digits : Nat.toDigits 10 first = Nat.toDigits 10 second := congrArg NumberText.text (Json.number.inj same)
  have value := congrArg (Nat.ofDigitChars 10 · 0) digits
  simpa only [Nat.ofDigitChars_toDigits (Nat.lt_of_sub_eq_succ rfl : 1 < 10) (Nat.le_refl 10)] using value

theorem ofOption_injective {Value : Type} {field : Value → Json} (injective : Function.Injective field)
    (filled : ∀ value, field value ≠ .null) : Function.Injective (ofOption field) := by
  intro first second same
  cases first with
  | none =>
    cases second with
    | none => rfl
    | some value => exact absurd same.symm (filled value)
  | some value =>
    cases second with
    | none => exact absurd same (filled value)
    | some other => exact congrArg some (injective same)

def hexDigit (digit : Nat) : Char := if digit < 10 then Char.ofNat (48 + digit) else Char.ofNat (87 + digit)

/-- A character inside a string literal. -/
def escape (c : Char) : List Char :=
  if c = '"' then ['\\', '"']
  else if c = '\\' then ['\\', '\\']
  else if c.toNat = 8 then ['\\', 'b']
  else if c.toNat = 9 then ['\\', 't']
  else if c.toNat = 10 then ['\\', 'n']
  else if c.toNat = 12 then ['\\', 'f']
  else if c.toNat = 13 then ['\\', 'r']
  else if c.toNat < 32 then ['\\', 'u', '0', '0', hexDigit (c.toNat / 16), hexDigit (c.toNat % 16)]
  else [c]

def quote (value : String) : List Char := '"' :: (value.toList.flatMap escape ++ ['"'])

mutual

/-- The text of a value, its fields in the order they stand in. -/
def text : Json → List Char
  | .null => ['n', 'u', 'l', 'l']
  | .bool true => ['t', 'r', 'u', 'e']
  | .bool false => ['f', 'a', 'l', 's', 'e']
  | .number value => value.text
  | .string value => quote value
  | .array [] => ['[', ']']
  | .array (first :: rest) => '[' :: (text first ++ itemsText rest)
  | .object [] => ['{', '}']
  | .object (first :: rest) => '{' :: (fieldText first ++ fieldsText rest)

/-- The items after the first, and the end of the array. -/
def itemsText : List Json → List Char
  | [] => [']']
  | first :: rest => ',' :: (text first ++ itemsText rest)

def fieldText : String × Json → List Char
  | (key, value) => quote key ++ ':' :: text value

def fieldsText : List (String × Json) → List Char
  | [] => ['}']
  | first :: rest => ',' :: (fieldText first ++ fieldsText rest)

end

variable {rest tail : List Char}

def hexValue (c : Char) : Nat := if c.toNat < 58 then c.toNat - 48 else c.toNat - 87

/-- Read one character of a string literal back. -/
def unescape : List Char → Char × List Char
  | '\\' :: 'b' :: rest => (Char.ofNat 8, rest)
  | '\\' :: 't' :: rest => (Char.ofNat 9, rest)
  | '\\' :: 'n' :: rest => (Char.ofNat 10, rest)
  | '\\' :: 'f' :: rest => (Char.ofNat 12, rest)
  | '\\' :: 'r' :: rest => (Char.ofNat 13, rest)
  | '\\' :: 'u' :: _ :: _ :: high :: low :: rest => (Char.ofNat (16 * hexValue high + hexValue low), rest)
  | '\\' :: c :: rest => (c, rest)
  | c :: rest => (c, rest)
  | [] => (' ', [])

theorem char_of_toNat_lt {bound : Nat} {holds : Char → Prop} (small : ∀ code < bound, holds (Char.ofNat code)) (c : Char)
    (below : c.toNat < bound) : holds c := by
  have held := small c.toNat below
  rwa [Char.ofNat_toNat] at held

theorem unescape_escape (c : Char) (rest : List Char) : unescape (escape c ++ rest) = (c, rest) := by
  by_cases control : c.toNat < 32
  · revert rest
    refine @char_of_toNat_lt _ (fun c => ∀ rest, unescape (escape c ++ rest) = (c, rest)) ?_ c control
    intro code below rest
    interval_cases code <;> rfl
  · have plain : escape c = if c = '"' then ['\\', '"'] else if c = '\\' then ['\\', '\\'] else [c] := by
      simp only [escape]
      have other : c.toNat ≠ 8 ∧ c.toNat ≠ 9 ∧ c.toNat ≠ 10 ∧ c.toNat ≠ 12 ∧ c.toNat ≠ 13 := by omega
      simp only [other, control, if_false]
    rw [plain]
    split
    case isTrue same => rw [same]; rfl
    case isFalse other =>
      split
      case isTrue same => rw [same]; rfl
      case isFalse backslash =>
        unfold unescape
        split <;> simp_all

/-- No character of a string literal begins like its end. -/
theorem escape_eq_cons (c : Char) : ∃ first rest, escape c = first :: rest ∧ first ≠ '"' := by
  unfold escape
  split_ifs with quoted
  all_goals first
    | exact ⟨_, _, rfl, by decide⟩
    | exact ⟨_, _, rfl, quoted⟩

theorem flatMap_escape_inj {first second : List Char}
    (same : first.flatMap escape ++ '"' :: rest = second.flatMap escape ++ '"' :: tail) : first = second ∧ rest = tail := by
  induction first generalizing second with
  | nil =>
    cases second with
    | nil => exact ⟨rfl, (List.cons.inj same).2⟩
    | cons c later =>
      obtain ⟨start, after, written, other⟩ := escape_eq_cons c
      rw [List.flatMap_nil, List.flatMap_cons, written] at same
      exact absurd (List.cons.inj same).1.symm other
  | cons c before ih =>
    cases second with
    | nil =>
      obtain ⟨start, after, written, other⟩ := escape_eq_cons c
      rw [List.flatMap_nil, List.flatMap_cons, written] at same
      exact absurd (List.cons.inj same).1 other
    | cons d later =>
      rw [List.flatMap_cons, List.flatMap_cons, List.append_assoc, List.append_assoc] at same
      have read := congrArg unescape same
      rw [unescape_escape, unescape_escape] at read
      obtain ⟨rfl, others⟩ := Prod.mk.inj read
      obtain ⟨rfl, ends⟩ := ih others
      exact ⟨rfl, ends⟩

theorem quote_append_inj {first second : String}
    (same : quote first ++ rest = quote second ++ tail) : first = second ∧ rest = tail := by
  simp only [quote, List.cons_append, List.append_assoc, List.cons.injEq, true_and] at same
  obtain ⟨chars, ends⟩ := flatMap_escape_inj same
  exact ⟨String.toList_injective chars, ends⟩

variable {fields : List (String × Json)}

/-- What kind of value begins with a character. -/
def kindOf (c : Char) : Nat :=
  if isNumberChar c then 3 else if c = 'n' then 0 else if c = 't' ∨ c = 'f' then 1 else if c = '"' then 4
  else if c = '[' then 5 else if c = '{' then 6 else 7

def kind : Json → Nat
  | .null => 0
  | .bool _ => 1
  | .number _ => 3
  | .string _ => 4
  | .array _ => 5
  | .object _ => 6

/-- No number goes on into this text. -/
def Ends (rest : List Char) : Prop := ∀ c tail, rest = c :: tail → isNumberChar c = false

theorem ends_cons {c : Char} (other : isNumberChar c = false) : Ends (c :: rest) := by
  rintro _ _ ⟨⟩
  exact other

theorem text_eq_cons {value : Json} : ∃ c rest, text value = c :: rest ∧ kindOf c = kind value := by
  cases value with
  | null => exact ⟨_, _, rfl, rfl⟩
  | bool value => cases value <;> exact ⟨_, _, rfl, rfl⟩
  | number value =>
    obtain ⟨written, present, numeric⟩ := value
    cases written with
    | nil => exact absurd rfl present
    | cons c rest => exact ⟨c, rest, rfl, if_pos (numeric c List.mem_cons_self)⟩
  | string value => exact ⟨_, _, rfl, rfl⟩
  | array items => cases items <;> exact ⟨_, _, rfl, rfl⟩
  | object fields => cases fields <;> exact ⟨_, _, rfl, rfl⟩

/-- Texts that agree at their start belong to values of one kind. -/
theorem kind_eq {first second : Json} (same : text first ++ rest = text second ++ tail) : kind first = kind second := by
  obtain ⟨c, after, written, here⟩ := text_eq_cons
  obtain ⟨d, later, other, there⟩ := text_eq_cons
  rw [written, other] at same
  rw [← here, ← there, (List.cons.inj same).1]

theorem ends_itemsText {items : List Json} : Ends (itemsText items ++ rest) := by
  cases items <;> exact ends_cons rfl

theorem ends_fieldsText : Ends (fieldsText fields ++ rest) := by
  cases fields <;> exact ends_cons rfl

/-- No value begins like the end of an array. -/
theorem text_ne_bracket (value : Json) {rest tail : List Char} : ']' :: rest ≠ text value ++ tail := by
  obtain ⟨c, after, written, here⟩ := text_eq_cons
  rw [written]
  intro same
  obtain rfl := (List.cons.inj same).1
  cases value <;> cases here

theorem numberText_append_inj {first second : NumberText} (ends : Ends rest) (other : Ends tail)
    (same : first.text ++ rest = second.text ++ tail) : first = second ∧ rest = tail := by
  have split : ∀ (number : NumberText) (after : List Char), Ends after →
      (number.text ++ after).takeWhile isNumberChar = number.text := by
    intro number after ends
    rw [List.takeWhile_append_of_pos number.numeric]
    cases after with
    | nil => rw [List.takeWhile_nil, List.append_nil]
    | cons c later => rw [List.takeWhile_cons_of_neg (by simp [ends c later rfl]), List.append_nil]
  have texts : first.text = second.text := by
    rw [← split first rest ends, same, split second tail other]
  rw [texts] at same
  refine ⟨?_, List.append_cancel_left same⟩
  cases first
  cases second
  cases texts
  rfl

mutual

/-- A text is read in one way. -/
theorem text_append_inj : ∀ (first second : Json) {rest tail : List Char}, Ends rest → Ends tail →
    text first ++ rest = text second ++ tail → first = second ∧ rest = tail
  | .null, second, rest, tail, _, _, same => by
    cases second with
    | null => exact ⟨rfl, List.append_cancel_left same⟩
    | _ => cases kind_eq same
  | .bool value, second, rest, tail, _, _, same => by
    cases second with
    | bool other =>
      cases value <;> cases other <;> simp [text] at same ⊢ <;> exact same
    | _ => cases kind_eq same
  | .number value, second, rest, tail, ends, other, same => by
    cases second with
    | number given =>
      obtain ⟨rfl, after⟩ := numberText_append_inj ends other same
      exact ⟨rfl, after⟩
    | _ => cases kind_eq same
  | .string value, second, rest, tail, _, _, same => by
    cases second with
    | string given =>
      obtain ⟨rfl, after⟩ := quote_append_inj same
      exact ⟨rfl, after⟩
    | _ => cases kind_eq same
  | .array [], second, rest, tail, _, _, same => by
    cases second with
    | array items =>
      cases items with
      | nil => exact ⟨rfl, List.append_cancel_left same⟩
      | cons item later =>
        simp only [text, List.cons_append, List.cons.injEq, true_and, List.append_assoc] at same
        exact absurd same (text_ne_bracket item)
    | _ => cases kind_eq same
  | .array (item :: later), second, rest, tail, _, _, same => by
    cases second with
    | array items =>
      cases items with
      | nil =>
        simp only [text, List.cons_append, List.cons.injEq, true_and, List.append_assoc] at same
        exact absurd same.symm (text_ne_bracket item)
      | cons given others =>
        simp only [text, List.cons_append, List.cons.injEq, true_and, List.append_assoc] at same
        obtain ⟨rfl, items⟩ := text_append_inj item given (ends_itemsText) (ends_itemsText) same
        obtain ⟨rfl, after⟩ := itemsText_append_inj later others items
        exact ⟨rfl, after⟩
    | _ => cases kind_eq same
  | .object [], second, rest, tail, _, _, same => by
    cases second with
    | object fields =>
      cases fields with
      | nil => exact ⟨rfl, List.append_cancel_left same⟩
      | cons field later =>
        obtain ⟨name, content⟩ := field
        cases (List.cons.inj (List.cons.inj same).2).1
    | _ => cases kind_eq same
  | .object ((key, value) :: later), second, rest, tail, _, _, same => by
    cases second with
    | object fields =>
      cases fields with
      | nil => cases (List.cons.inj (List.cons.inj same).2).1
      | cons given others =>
        obtain ⟨name, content⟩ := given
        simp only [text, fieldText, List.cons_append, List.cons.injEq, true_and, List.append_assoc] at same
        obtain ⟨rfl, written⟩ := quote_append_inj same
        obtain ⟨rfl, fields⟩ := text_append_inj value content (ends_fieldsText) (ends_fieldsText)
          (List.cons.inj written).2
        obtain ⟨rfl, after⟩ := fieldsText_append_inj later others fields
        exact ⟨rfl, after⟩
    | _ => cases kind_eq same

theorem itemsText_append_inj : ∀ (first second : List Json) {rest tail : List Char},
    itemsText first ++ rest = itemsText second ++ tail → first = second ∧ rest = tail
  | [], second, rest, tail, same => by
    cases second with
    | nil => exact ⟨rfl, (List.cons.inj same).2⟩
    | cons item later => cases (List.cons.inj same).1
  | item :: later, second, rest, tail, same => by
    cases second with
    | nil => cases (List.cons.inj same).1
    | cons given others =>
      simp only [itemsText, List.cons_append, List.cons.injEq, true_and, List.append_assoc] at same
      obtain ⟨rfl, items⟩ := text_append_inj item given (ends_itemsText) (ends_itemsText) same
      obtain ⟨rfl, after⟩ := itemsText_append_inj later others items
      exact ⟨rfl, after⟩

theorem fieldsText_append_inj : ∀ (first second : List (String × Json)) {rest tail : List Char},
    fieldsText first ++ rest = fieldsText second ++ tail → first = second ∧ rest = tail
  | [], second, rest, tail, same => by
    cases second with
    | nil => exact ⟨rfl, (List.cons.inj same).2⟩
    | cons field later => cases (List.cons.inj same).1
  | (key, value) :: later, second, rest, tail, same => by
    cases second with
    | nil => cases (List.cons.inj same).1
    | cons given others =>
      obtain ⟨name, content⟩ := given
      simp only [fieldsText, fieldText, List.cons_append, List.cons.injEq, true_and, List.append_assoc] at same
      obtain ⟨rfl, written⟩ := quote_append_inj same
      obtain ⟨rfl, fields⟩ := text_append_inj value content (ends_fieldsText) (ends_fieldsText)
        (List.cons.inj written).2
      obtain ⟨rfl, after⟩ := fieldsText_append_inj later others fields
      exact ⟨rfl, after⟩

end

theorem text_injective {first second : Json} (same : text first = text second) : first = second := by
  refine (@text_append_inj first second [] [] ?_ ?_ (by rw [same])).1 <;> exact nofun

section Order

variable (order : String → String → Prop) [DecidableRel order]

mutual

/-- The value with the fields of every object in the given order of their names. -/
def sorted : Json → Json
  | .array items => .array (sortedItems items)
  | .object fields => .object ((sortedFields fields).insertionSort fun first second => order first.1 second.1)
  | .null => .null
  | .bool value => .bool value
  | .number value => .number value
  | .string value => .string value

def sortedItems : List Json → List Json
  | [] => []
  | item :: rest => sorted item :: sortedItems rest

def sortedFields : List (String × Json) → List (String × Json)
  | [] => []
  | (key, value) :: rest => (key, sorted value) :: sortedFields rest

end

mutual

/-- No object of the value has two fields of one name. -/
def Distinct : Json → Prop
  | .array items => DistinctItems items
  | .object fields => (fields.map Prod.fst).Nodup ∧ DistinctFields fields
  | _ => True

def DistinctItems : List Json → Prop
  | [] => True
  | item :: rest => Distinct item ∧ DistinctItems rest

def DistinctFields : List (String × Json) → Prop
  | [] => True
  | (_, value) :: rest => Distinct value ∧ DistinctFields rest

end

theorem sortedFields_eq_map : sortedFields order fields = fields.map fun field => (field.1, sorted order field.2) := by
  induction fields with
  | nil => rfl
  | cons field rest ih =>
    rw [List.map_cons, ← ih]
    rfl

theorem sortedItems_eq_map (items : List Json) : sortedItems order items = items.map (sorted order) := by
  induction items with
  | nil => rfl
  | cons item rest ih => exact congrArg (sorted order item :: ·) ih

variable {order} {inner : String → String → Prop} [DecidableRel inner]

variable {second : List (String × Json)}

/-- Fields with distinct names have one order. -/
theorem insertionSort_eq_of_perm [Std.Total order] [IsTrans String order] [Std.Antisymm order]
    {first : List (String × Json)} (same : first.Perm second) (distinct : (second.map Prod.fst).Nodup) :
    first.insertionSort (fun one other => order one.1 other.1) = second.insertionSort fun one other => order one.1 other.1 := by
  have total : Std.Total fun (one other : String × Json) => order one.1 other.1 := ⟨fun one other => Std.Total.total one.1 other.1⟩
  have trans : IsTrans (String × Json) fun one other => order one.1 other.1 := ⟨fun _ _ _ => IsTrans.trans _ _ _⟩
  refine @List.Perm.eq_of_pairwise _ (fun one other => order one.1 other.1) _ _ ?_ (List.pairwise_insertionSort _ _)
    (List.pairwise_insertionSort _ _) ((List.perm_insertionSort _ first).trans (same.trans (List.perm_insertionSort _ second).symm))
  intro one other member listed below above
  have here : one ∈ second := same.subset ((List.mem_insertionSort _).mp member)
  have there : other ∈ second := (List.mem_insertionSort _).mp listed
  exact List.inj_on_of_nodup_map distinct here there (Std.Antisymm.antisymm _ _ below above)

theorem map_fst_sortedFields (fields : List (String × Json)) : (sortedFields order fields).map Prod.fst = fields.map Prod.fst := by
  rw [sortedFields_eq_map, List.map_map]
  rfl

/-- Equal objects have equal fields. -/
theorem sorted_eq_of_field {first : List (String × Json)} {key : String} {value other : Json}
    (same : sorted order (.object first) = sorted order (.object second)) (given : (key, value) ∈ first)
    (found : (key, other) ∈ second) (distinct : (second.map Prod.fst).Nodup) : sorted order value = sorted order other := by
  have equal := Json.object.inj same
  have listed : (key, sorted order value) ∈ sortedFields order second := by
    rw [← List.mem_insertionSort fun one other => order one.1 other.1, ← equal, List.mem_insertionSort, sortedFields_eq_map]
    exact List.mem_map_of_mem given
  have present : (key, sorted order other) ∈ sortedFields order second := by
    rw [sortedFields_eq_map]
    exact List.mem_map_of_mem found
  rw [← @map_fst_sortedFields order] at distinct
  exact congrArg Prod.snd (List.inj_on_of_nodup_map distinct listed present rfl)

mutual

/-- Another order of the fields beforehand makes no difference. -/
theorem sorted_sorted [Std.Total order] [IsTrans String order] [Std.Antisymm order] :
    ∀ {value : Json}, Distinct value → sorted order (sorted inner value) = sorted order value
  | .null, _ | .bool _, _ | .number _, _ | .string _, _ => rfl
  | .array items, distinct => congrArg Json.array (@sortedItems_sortedItems _ _ _ items distinct)
  | .object fields, distinct => by
    obtain ⟨names, values⟩ := distinct
    have inside : sortedFields order (sortedFields inner fields) = sortedFields order fields :=
      sortedFields_sortedFields values
    show Json.object _ = Json.object _
    rw [← inside]
    refine congrArg Json.object (insertionSort_eq_of_perm ?_ ?_)
    · rw [sortedFields_eq_map order, sortedFields_eq_map order]
      exact (List.perm_insertionSort _ _).map _
    · rw [map_fst_sortedFields, map_fst_sortedFields]
      exact names

theorem sortedItems_sortedItems [Std.Total order] [IsTrans String order] [Std.Antisymm order] :
    ∀ {items : List Json}, DistinctItems items → sortedItems order (sortedItems inner items) = sortedItems order items
  | [], _ => rfl
  | _ :: _, distinct => congrArg₂ List.cons (sorted_sorted distinct.1) (sortedItems_sortedItems distinct.2)

theorem sortedFields_sortedFields [Std.Total order] [IsTrans String order] [Std.Antisymm order] :
    ∀ {fields : List (String × Json)}, DistinctFields fields →
      sortedFields order (sortedFields inner fields) = sortedFields order fields
  | [], _ => rfl
  | (key, _) :: _, distinct =>
    congrArg₂ List.cons (congrArg (Prod.mk key) (sorted_sorted distinct.1)) (sortedFields_sortedFields distinct.2)

end

end Order

/-- The UTF-16 code units of a character. -/
def codeUnitsOf (c : Char) : List Nat :=
  if c.toNat < 65536 then [c.toNat] else [55296 + (c.toNat - 65536) / 1024, 56320 + (c.toNat - 65536) % 1024]

def codeUnits (value : String) : List Nat := value.toList.flatMap codeUnitsOf

/-- The order in which JavaScript sorts strings. -/
def codeUnitOrder (first second : String) : Prop := codeUnits first ≤ codeUnits second

instance : DecidableRel codeUnitOrder := fun first second => inferInstanceAs (Decidable (codeUnits first ≤ codeUnits second))

/-- Read one character back. -/
def decodeUnits : List Nat → Nat × List Nat
  | [] => (0, [])
  | [unit] => (unit, [])
  | unit :: next :: rest =>
    if 55296 ≤ unit ∧ unit < 56320 then (65536 + (unit - 55296) * 1024 + (next - 56320), rest) else (unit, next :: rest)

theorem decodeUnits_codeUnitsOf (c : Char) (rest : List Nat) : decodeUnits (codeUnitsOf c ++ rest) = (c.toNat, rest) := by
  unfold codeUnitsOf
  split
  case isTrue basic =>
    have scalar : c.toNat < 55296 ∨ 57343 < c.toNat := by
      rcases c.valid with below | ⟨above, _⟩
      · exact .inl below
      · exact .inr above
    cases rest with
    | nil => rfl
    | cons next later =>
      show (if 55296 ≤ c.toNat ∧ c.toNat < 56320 then _ else _) = _
      rw [if_neg (by omega)]
  case isFalse supplementary =>
    have bounded : c.toNat < 1114112 := by
      rcases c.valid with below | ⟨_, above⟩
      · exact Nat.lt_trans below (by decide)
      · exact above
    show (if _ ∧ _ then _ else _) = _
    rw [if_pos (by omega)]
    refine Prod.ext ?_ rfl
    omega

theorem codeUnits_injective {first second : String} (same : codeUnits first = codeUnits second) : first = second := by
  have present : ∀ c, codeUnitsOf c ≠ [] := by
    intro c none
    unfold codeUnitsOf at none
    split at none <;> cases none
  have chars : ∀ one other : List Char, one.flatMap codeUnitsOf = other.flatMap codeUnitsOf → one = other := by
    intro one
    induction one with
    | nil =>
      intro other same
      cases other with
      | nil => rfl
      | cons c rest => exact absurd (List.append_eq_nil_iff.mp same.symm).1 (present c)
    | cons c rest ih =>
      intro other same
      cases other with
      | nil => exact absurd (List.append_eq_nil_iff.mp same).1 (present c)
      | cons d later =>
        have read := congrArg decodeUnits same
        rw [List.flatMap_cons, List.flatMap_cons, decodeUnits_codeUnitsOf, decodeUnits_codeUnitsOf] at read
        obtain ⟨code, others⟩ := Prod.mk.inj read
        rw [ih later others, Char.toNat_inj.mp code]
  exact String.toList_injective (chars _ _ same)

instance : Std.Total codeUnitOrder := ⟨fun first second => le_total (codeUnits first) (codeUnits second)⟩

instance : IsTrans String codeUnitOrder := ⟨fun _ _ _ first second => le_trans (α := List Nat) first second⟩

instance : Std.Antisymm codeUnitOrder := ⟨fun _ _ below above => codeUnits_injective (le_antisymm below above)⟩

end Json

end AiTrader.Library
