import Mathlib.Data.List.Basic

/-! # Parts of a text

A text that is joined of parts by a separator has these parts again, as far as they do not contain it. -/

namespace AiTrader.Library

namespace Separated

variable {α : Type} {separator : α} {first second rest other : List α}

/-- The part before the first separator. -/
theorem head_inj (plain : separator ∉ first) (bare : separator ∉ second)
    (same : first ++ separator :: rest = second ++ separator :: other) : first = second ∧ rest = other := by
  induction first generalizing second with
  | nil =>
    cases second with
    | nil => exact ⟨rfl, (List.cons.inj same).2⟩
    | cons letter others =>
      obtain ⟨own, _⟩ := List.cons.inj same
      exact absurd (own ▸ List.mem_cons_self) bare
  | cons letter others ih =>
    cases second with
    | nil =>
      obtain ⟨own, _⟩ := List.cons.inj same
      exact absurd (own ▸ List.mem_cons_self) plain
    | cons next remaining =>
      obtain ⟨rfl, tails⟩ := List.cons.inj same
      obtain ⟨rfl, rests⟩ := ih (fun member => plain (List.mem_cons_of_mem _ member))
        (fun member => bare (List.mem_cons_of_mem _ member)) tails
      exact ⟨rfl, rests⟩

/-- The part after the last separator. -/
theorem last_inj (plain : separator ∉ rest) (bare : separator ∉ other)
    (same : first ++ separator :: rest = second ++ separator :: other) : first = second ∧ rest = other := by
  have backwards : rest.reverse ++ separator :: first.reverse = other.reverse ++ separator :: second.reverse := by
    simpa using congrArg List.reverse same
  obtain ⟨rests, firsts⟩ := head_inj (by simpa using plain) (by simpa using bare) backwards
  exact ⟨List.reverse_injective firsts, List.reverse_injective rests⟩

/-- A number is printed as digits. -/
theorem not_mem_toString {letter : Char} (letters : letter.isDigit = false) (number : Nat) :
    letter ∉ (toString number).toList := by
  intro member
  rw [Nat.toString_eq_repr, Nat.toList_repr] at member
  have digit := Nat.isDigit_of_mem_toDigits (by decide) (by decide) member
  rw [letters] at digit
  cases digit

theorem toString_inj {left right : Nat} (same : (toString left).toList = (toString right).toList) : left = right := by
  rw [Nat.toString_eq_repr, Nat.toList_repr, Nat.toString_eq_repr, Nat.toList_repr] at same
  have numbers := congrArg (fun letters => Nat.ofDigitChars 10 letters 0) same
  simpa only [Nat.ofDigitChars_ten_toDigits] using numbers

end Separated

end AiTrader.Library
