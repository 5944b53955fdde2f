import Mathlib.Data.List.Basic
import RecordPattern.Json.Reader
import RecordPattern.Proofs.Text.Printable

namespace RecordPattern.Json

open Text

variable {fuel : Nat} {c : Char} {rest : List Char}

-- The characters that stand in a text as they are.
structure IsLiteral (c : Char) : Prop where
  notQuote : c ≠ '"'
  notBackslash : c ≠ '\\'
  visible : 32 ≤ c.toNat

-- A character stands for itself, is escaped by a character of its own, or is a control that is
-- written as four digits.
inductive EscapedAs (c : Char) : List Char → Prop
  | literal (h : IsLiteral c) : EscapedAs c [c]
  | short (e : Char) (hvalue : escapeValue? e = some c) (hu : e ≠ 'u') (hvisible : 32 ≤ e.toNat) :
      EscapedAs c ['\\', e]
  | units (h : c.toNat < 32) : EscapedAs c ('\\' :: 'u' :: toHex 4 c.toNat)

theorem escapedChar_escapedAs (c : Char) : EscapedAs c (escapedChar c) := by
  unfold escapedChar
  split
  next h => subst h; exact .short _ rfl (by decide) (by decide)
  next hquote =>
    split
    next h => subst h; exact .short _ rfl (by decide) (by decide)
    next hbackslash =>
      split
      next h => subst h; exact .short _ rfl (by decide) (by decide)
      split
      next h => subst h; exact .short _ rfl (by decide) (by decide)
      split
      next h => subst h; exact .short _ rfl (by decide) (by decide)
      split
      next h => subst h; exact .short _ rfl (by decide) (by decide)
      split
      next h => subst h; exact .short _ rfl (by decide) (by decide)
      split
      next h => exact .units h
      next h => exact .literal ⟨hquote, hbackslash, by omega⟩

theorem readText?_literal (h : IsLiteral c) :
    readText? (fuel + 1) (c :: rest) =
      (readText? fuel rest).map fun (more, rest) => (c :: more, rest) := by
  rw [readText?, if_neg (Nat.not_lt.mpr h.visible)]
  · cases readText? fuel rest <;> rfl
  · exact h.notQuote
  · intro _ hc
    exact absurd hc h.notBackslash
  · intro _ _ hc
    exact absurd hc h.notBackslash

theorem readText?_short {e : Char} (hvalue : escapeValue? e = some c) (hu : e ≠ 'u') :
    readText? (fuel + 1) ('\\' :: e :: rest) =
      (readText? fuel rest).map fun (more, rest) => (c :: more, rest) := by
  rw [readText?]
  · rw [hvalue]
    cases readText? fuel rest <;> rfl
  · exact hu

-- The four digits of a control are read as what they stand for.
theorem readEscapedUnits?_toHex (h : c.toNat < 32) :
    readEscapedUnits? (toHex 4 c.toNat ++ rest) = some (c, rest) := by
  have hall : ∀ value < 32, ((toHex 4 value).all fun digit => (hexValue? digit).isSome) = true ∧
      ofHexDigits (toHex 4 value) = value := by
    decide
  obtain ⟨hdigits, hvalue⟩ := hall c.toNat h
  obtain ⟨a, b, d, e, hhex⟩ : ∃ a b d e, toHex 4 c.toNat = [a, b, d, e] := ⟨_, _, _, _, rfl⟩
  rw [hhex] at hdigits hvalue
  have hunit : readUnit? (a :: b :: d :: e :: rest) = some (c.toNat, rest) := by
    rw [readUnit?, if_pos hdigits, hvalue]
  rw [hhex]
  simp only [List.cons_append, List.nil_append, readEscapedUnits?, hunit, bind, Option.bind]
  rw [if_neg (by simp; omega), if_neg (by simp; omega), Char.ofNat_toNat]

theorem readText?_units (h : c.toNat < 32) :
    readText? (fuel + 1) ('\\' :: 'u' :: (toHex 4 c.toNat ++ rest)) =
      (readText? fuel rest).map fun (more, rest) => (c :: more, rest) := by
  rw [readText?, readEscapedUnits?_toHex h]
  simp only [bind, Option.bind]
  cases readText? fuel rest <;> rfl

-- An escaped character is read as what it was.
theorem readText?_escapedChar (fuel : Nat) (c : Char) (rest : List Char) :
    readText? (fuel + 1) (escapedChar c ++ rest) =
      (readText? fuel rest).map fun (more, rest) => (c :: more, rest) := by
  have hescaped := escapedChar_escapedAs c
  generalize escapedChar c = escaped at hescaped
  cases hescaped with
  | literal h => exact readText?_literal h
  | short e hvalue hu _ => exact readText?_short hvalue hu
  | units h => exact readText?_units h

-- A text in quotes is read back, given enough fuel for its characters.
theorem readText?_escaped {text : List Char} (hfuel : text.length < fuel) :
    readText? fuel (text.flatMap escapedChar ++ '"' :: rest) = some (text, rest) := by
  induction text generalizing fuel with
  | nil =>
      obtain ⟨fuel, rfl⟩ : ∃ more, fuel = more + 1 := ⟨fuel - 1, by simp at hfuel; omega⟩
      rfl
  | cons c text ih =>
      rw [List.length_cons] at hfuel
      obtain ⟨fuel, rfl⟩ : ∃ more, fuel = more + 1 := ⟨fuel - 1, by omega⟩
      rw [List.flatMap_cons, List.append_assoc, readText?_escapedChar, ih (by omega)]
      rfl

theorem escapedChar_ne_nil (c : Char) : escapedChar c ≠ [] := by
  have hescaped := escapedChar_escapedAs c
  generalize escapedChar c = escaped at hescaped
  cases hescaped <;> simp

-- No control stands in an escaped text.
theorem visible_of_mem_escapedChar {d : Char} (h : d ∈ escapedChar c) : 32 ≤ d.toNat := by
  have hescaped := escapedChar_escapedAs c
  generalize escapedChar c = escaped at hescaped h
  cases hescaped with
  | literal hliteral =>
      rw [List.mem_singleton.mp h]
      exact hliteral.visible
  | short e _ _ hvisible =>
      rcases List.mem_cons.mp h with rfl | h
      · decide
      · rw [List.mem_singleton.mp h]
        exact hvisible
  | units =>
      rcases List.mem_cons.mp h with rfl | h
      · decide
      rcases List.mem_cons.mp h with rfl | h
      · decide
      · exact visible_of_isPrintable (isPrintable_of_mem_toHex h)

theorem visible_of_mem_textChars {text : String} (h : c ∈ textChars text) : 32 ≤ c.toNat := by
  rcases List.mem_cons.mp h with rfl | h
  · decide
  rcases List.mem_append.mp h with h | h
  · obtain ⟨d, _, hd⟩ := List.mem_flatMap.mp h
    exact visible_of_mem_escapedChar hd
  · rw [List.mem_singleton.mp h]
    decide

end RecordPattern.Json
