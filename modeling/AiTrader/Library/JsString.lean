import Mathlib.Data.List.DropRight

/-! # Blanks of a JavaScript text

White space and line terminators, as `trim` removes them and `\\s` matches them. -/

namespace AiTrader.Library

/-- The code points of white space and line terminators. -/
def blankCodes : List Nat :=
  [0x9, 0xA, 0xB, 0xC, 0xD, 0x20, 0xA0, 0x1680, 0x2000, 0x2001, 0x2002, 0x2003, 0x2004, 0x2005, 0x2006, 0x2007, 0x2008,
    0x2009, 0x200A, 0x2028, 0x2029, 0x202F, 0x205F, 0x3000, 0xFEFF]

def isBlank (letter : Char) : Bool := blankCodes.contains letter.toNat

/-- A text without the blanks at both of its ends. -/
def strip (letters : List Char) : List Char := (letters.dropWhile isBlank).rdropWhile isBlank

/-- A text without blanks is not shortened. -/
theorem strip_of_no_blank {letters : List Char} (bare : ∀ letter ∈ letters, isBlank letter = false) :
    strip letters = letters := by
  have front : letters.dropWhile isBlank = letters := by
    rw [List.dropWhile_eq_self_iff]
    intro nonempty
    simp [bare _ (List.getElem_mem nonempty)]
  rw [strip, front, List.rdropWhile_eq_self_iff]
  intro nonempty
  simp [bare _ (List.getLast_mem nonempty)]

/-- Neither digits nor a point are blanks. -/
theorem isBlank_digit {letter : Char} (isDigit : letter.isDigit = true) : isBlank letter = false := by
  have bounds : 48 ≤ letter.toNat ∧ letter.toNat ≤ 57 := by
    simpa [Char.isDigit, UInt32.le_iff_toNat_le] using isDigit
  simp only [isBlank, blankCodes, List.contains_eq_mem, decide_eq_false_iff_not, List.mem_cons, List.not_mem_nil,
    or_false]
  omega

end AiTrader.Library
