import Mathlib.Data.List.Basic
import RecordPattern.Json.Reader

namespace RecordPattern.Json

open Text

variable {rest : List Char}

-- What follows a value: nothing, or a comma or a closing bracket.
def Ended (rest : List Char) : Prop :=
  ∀ c, rest.head? = some c → c = ',' ∨ c = ']' ∨ c = '\x7d'

theorem Ended.head?_ne (h : Ended rest) {c : Char} (hc : c ≠ ',' ∧ c ≠ ']' ∧ c ≠ '\x7d') :
    rest.head? ≠ some c := by
  intro hhead
  rcases h c hhead with rfl | rfl | rfl <;> simp at hc

theorem Ended.takeWhile_isDigit (h : Ended rest) : rest.takeWhile Char.isDigit = [] := by
  cases rest with
  | nil => rfl
  | cons c more =>
      apply List.takeWhile_cons_of_neg
      rcases h c rfl with rfl | rfl | rfl <;> decide

theorem isDigit_of_mem_toDigits {n : Nat} : ∀ c ∈ Nat.toDigits 10 n, c.isDigit = true :=
  fun _ => Nat.isDigit_of_mem_toDigits (by decide) (by decide)

-- Only the number zero is written with a zero in front.
theorem head?_toDigits {n : Nat} (hn : 0 < n) : (Nat.toDigits 10 n).head? ≠ some '0' := by
  induction n using Nat.strongRecOn with
  | ind n ih =>
      rw [Nat.toDigits_eq_if (by decide)]
      split
      next hsmall =>
        have hall : ∀ digit < 10, 0 < digit → digit.digitChar ≠ '0' := by decide
        simpa using hall n hsmall hn
      next hlarge =>
        have hmore := ih (n / 10) (by omega) (by omega)
        rwa [List.head?_append_of_ne_nil _ Nat.toDigits_ne_nil]

theorem no_leading_zero (n : Nat) :
    ¬(1 < (Nat.toDigits 10 n).length ∧ (Nat.toDigits 10 n).head? = some '0') := by
  rintro ⟨hlength, hhead⟩
  rcases Nat.eq_zero_or_pos n with rfl | hn
  · simp at hlength
  · exact head?_toDigits hn hhead

theorem digitValue?_of_isDigit {c : Char} (h : c.isDigit = true) :
    digitValue? c = some (c.toNat - 48) := by
  have hrange : '0' ≤ c ∧ c ≤ '9' := by
    simp only [Char.isDigit, Bool.and_eq_true, decide_eq_true_eq] at h
    exact h
  simp [digitValue?, hrange]

theorem ofDigits_toDigits (n : Nat) : ofDigits 10 digitValue? (Nat.toDigits 10 n) = n := by
  have hsame : ofDigits 10 digitValue? (Nat.toDigits 10 n) =
      Nat.ofDigitChars 10 (Nat.toDigits 10 n) 0 := by
    unfold ofDigits Nat.ofDigitChars
    apply List.foldl_ext
    intro total c hc
    rw [digitValue?_of_isDigit (isDigit_of_mem_toDigits c hc), Nat.mul_comm]
    rfl
  rw [hsame, Nat.ofDigitChars_toDigits (by decide) (by decide)]

-- After an optional sign, digits are read up to what follows them.
theorem readNumber?_of_unsigned {text : List Char} {n : Nat} (h : Ended rest)
    (hunsigned : (if text.head? = some '-' then text.drop 1 else text) =
      Nat.toDigits 10 n ++ rest) :
    readNumber? text = some (.int (if text.head? = some '-' then -(n : Int) else n), rest) := by
  have hwhole : (Nat.toDigits 10 n ++ rest).takeWhile Char.isDigit = Nat.toDigits 10 n := by
    rw [List.takeWhile_append_of_pos isDigit_of_mem_toDigits, h.takeWhile_isDigit, List.append_nil]
  have hnot : ¬((Nat.toDigits 10 n).isEmpty || (1 < (Nat.toDigits 10 n).length &&
      (Nat.toDigits 10 n).head? = some '0')) = true := by
    have hzero := no_leading_zero n
    simpa [Nat.toDigits_ne_nil] using hzero
  have hpoint : rest.head? ≠ some '.' := h.head?_ne (by decide)
  have hlower : rest.head? ≠ some 'e' := h.head?_ne (by decide)
  have hupper : rest.head? ≠ some 'E' := h.head?_ne (by decide)
  unfold readNumber?
  simp only [hunsigned, hwhole, List.drop_left, if_neg hnot, if_neg hpoint, ofDigits_toDigits]
  simp [hlower, hupper]

theorem head?_toDigits_append (n : Nat) (rest : List Char) :
    (Nat.toDigits 10 n ++ rest).head? ≠ some '-' := by
  rw [List.head?_append_of_ne_nil _ Nat.toDigits_ne_nil]
  intro hhead
  have hdigit := isDigit_of_mem_toDigits _ (List.mem_of_head? hhead)
  exact absurd hdigit (by decide)

-- The text of an integer: the digits of its size, after a sign if it is negative.
theorem toList_toString (value : Int) :
    (toString value).toList =
      if 0 ≤ value then Nat.toDigits 10 value.toNat else '-' :: Nat.toDigits 10 value.natAbs := by
  cases value with
  | ofNat n => exact Nat.toList_repr
  | negSucc n =>
      change ("-" ++ (n + 1).repr).toList = '-' :: Nat.toDigits 10 (n + 1)
      rw [String.toList_append, Nat.toList_repr]
      rfl

-- An integer is read back from its text.
theorem readNumber?_int (value : Int) (h : Ended rest) :
    readNumber? ((toString value).toList ++ rest) = some (.int value, rest) := by
  rw [toList_toString]
  split
  next hsign =>
    have hnot := head?_toDigits_append value.toNat rest
    rw [readNumber?_of_unsigned h (n := value.toNat) (by rw [if_neg hnot]), if_neg hnot,
      Int.toNat_of_nonneg hsign]
  next hsign =>
    have hvalue : -(value.natAbs : Int) = value := by omega
    rw [readNumber?_of_unsigned h (n := value.natAbs) rfl, List.cons_append, List.head?_cons,
      if_pos rfl, hvalue]

-- The text of an integer consists of digits and perhaps a sign, and is not empty.
theorem exists_toList_toString (value : Int) : ∃ c more, (toString value).toList = c :: more := by
  rw [toList_toString]
  split
  · exact List.exists_cons_of_ne_nil Nat.toDigits_ne_nil
  · exact ⟨_, _, rfl⟩

theorem mem_toString {value : Int} {c : Char} (h : c ∈ (toString value).toList) :
    c = '-' ∨ c.isDigit = true := by
  rw [toList_toString] at h
  split at h
  · exact Or.inr (isDigit_of_mem_toDigits c h)
  · exact (List.mem_cons.mp h).imp_right (isDigit_of_mem_toDigits c)

theorem visible_of_mem_toString {value : Int} {c : Char} (h : c ∈ (toString value).toList) :
    32 ≤ c.toNat := by
  rcases mem_toString h with rfl | hdigit
  · decide
  · simp only [Char.isDigit, Bool.and_eq_true, decide_eq_true_eq] at hdigit
    exact Nat.le_trans (by decide) (UInt32.le_iff_toNat_le.mp hdigit.1)

end RecordPattern.Json
