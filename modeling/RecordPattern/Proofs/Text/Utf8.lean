import Mathlib.Data.List.Basic
import RecordPattern.Proofs.Outcome
import RecordPattern.Text.Utf8

namespace RecordPattern.Text.Utf8

open Outcome

variable {share code position seen : Nat} {ranges : List (Nat × Nat)} {byte : UInt8}
  {bytes rest after : List UInt8}

theorem decodeFrom_cons (hlead : lead? byte = some (share, ranges))
    (hcontinued : continued share 1 ranges rest = .ok (code, after)) :
    decodeFrom position (byte :: rest) =
      (decodeFrom (position + 1 + ranges.length) after).map (Char.ofNat code :: ·) := by
  rw [decodeFrom]
  split
  next hnone => cases hlead.symm.trans hnone
  next hsome =>
    cases hlead.symm.trans hsome
    split
    next herror => cases hcontinued.symm.trans herror
    next hok =>
      cases hcontinued.symm.trans hok
      rfl

-- A byte in the range that is asked for adds its last six bits.
theorem continued_cons {low high value : Nat} (hvalue : value < 64) (hlow : low ≤ value + 128)
    (hhigh : value + 128 ≤ high) :
    continued code seen ((low, high) :: ranges) (UInt8.ofNat (value + 128) :: rest) =
      continued (code * 64 + value) (seen + 1) ranges rest := by
  have hbyte : (UInt8.ofNat (value + 128)).toNat = value + 128 := by
    rw [UInt8.toNat_ofNat']
    omega
  have hmod : (value + 128) % 64 = value := by omega
  rw [continued, hbyte, hmod]
  simp [hlow, hhigh]

-- What the first byte of each length says.
theorem lead?_one : ∀ value < 0x80, lead? (UInt8.ofNat value) = some (value, []) := by
  decide

theorem lead?_two {value : Nat} (hlow : 2 ≤ value) (hhigh : value < 32) :
    lead? (UInt8.ofNat (value + 192)) = some (value, [tail]) := by
  have hall : ∀ more < 30, lead? (UInt8.ofNat (more + 2 + 192)) = some (more + 2, [tail]) := by
    decide
  have hmore := hall (value - 2) (by omega)
  rwa [Nat.sub_add_cancel hlow] at hmore

theorem lead?_three : ∀ value < 16, lead? (UInt8.ofNat (value + 224)) =
    some (value, [(if value = 0 then 0xA0 else 0x80, if value = 13 then 0x9F else 0xBF), tail]) := by
  decide

theorem lead?_four : ∀ value < 5, lead? (UInt8.ofNat (value + 240)) =
    some (value, [(if value = 0 then 0x90 else 0x80, if value = 4 then 0x8F else 0xBF), tail,
      tail]) := by
  decide

-- A character is read back from the bytes that it is written as, whatever follows.
theorem decodeFrom_encodeChar (position : Nat) (c : Char) (rest : List UInt8) :
    decodeFrom position (String.utf8EncodeChar c ++ rest) =
      (decodeFrom (position + (String.utf8EncodeChar c).length) rest).map (c :: ·) := by
  have hvalid : c.toNat < 0xD800 ∨ (0xDFFF < c.toNat ∧ c.toNat < 0x110000) := c.valid
  have hvalue : c.val.toNat = c.toNat := rfl
  unfold String.utf8EncodeChar
  simp only [hvalue]
  split
  next hone =>
    rw [List.singleton_append, decodeFrom_cons (lead?_one _ (by omega)) rfl, Char.ofNat_toNat]
    rfl
  split
  next htwo =>
    have hlead : c.toNat / 64 % 32 = c.toNat / 64 := by omega
    have hcode : c.toNat / 64 * 64 + c.toNat % 64 = c.toNat := by omega
    rw [hlead]
    have hcontinued : continued (c.toNat / 64) 1 [tail] (UInt8.ofNat (c.toNat % 64 + 128) :: rest) =
        .ok (c.toNat, rest) := by
      rw [tail, continued_cons (by omega) (by omega) (by omega), hcode]
      rfl
    rw [List.cons_append, List.singleton_append,
      decodeFrom_cons (lead?_two (by omega) (by omega)) hcontinued, Char.ofNat_toNat]
    rfl
  split
  next hthree =>
    have hlead : c.toNat / 4096 % 16 = c.toNat / 4096 := by omega
    have hcode : (c.toNat / 4096 * 64 + c.toNat / 64 % 64) * 64 + c.toNat % 64 = c.toNat := by omega
    rw [hlead]
    have hcontinued : continued (c.toNat / 4096) 1
        [(if c.toNat / 4096 = 0 then 0xA0 else 0x80, if c.toNat / 4096 = 13 then 0x9F else 0xBF), tail]
        (UInt8.ofNat (c.toNat / 64 % 64 + 128) :: UInt8.ofNat (c.toNat % 64 + 128) :: rest) =
        .ok (c.toNat, rest) := by
      rw [tail, continued_cons (by omega) (by split <;> omega) (by split <;> omega),
        continued_cons (by omega) (by omega) (by omega), hcode]
      rfl
    simp only [List.cons_append, List.nil_append]
    rw [decodeFrom_cons (lead?_three _ (by omega)) hcontinued, Char.ofNat_toNat]
    rfl
  next hfour =>
    have hlead : c.toNat / 262144 % 8 = c.toNat / 262144 := by omega
    have hcode : ((c.toNat / 262144 * 64 + c.toNat / 4096 % 64) * 64 + c.toNat / 64 % 64) * 64 +
        c.toNat % 64 = c.toNat := by
      omega
    rw [hlead]
    have hcontinued : continued (c.toNat / 262144) 1
        [(if c.toNat / 262144 = 0 then 0x90 else 0x80, if c.toNat / 262144 = 4 then 0x8F else 0xBF),
          tail, tail]
        (UInt8.ofNat (c.toNat / 4096 % 64 + 128) :: UInt8.ofNat (c.toNat / 64 % 64 + 128) ::
          UInt8.ofNat (c.toNat % 64 + 128) :: rest) = .ok (c.toNat, rest) := by
      rw [tail, continued_cons (by omega) (by split <;> omega) (by split <;> omega),
        continued_cons (by omega) (by omega) (by omega),
        continued_cons (by omega) (by omega) (by omega), hcode]
      rfl
    simp only [List.cons_append, List.nil_append]
    rw [decodeFrom_cons (lead?_four _ (by omega)) hcontinued, Char.ofNat_toNat]
    rfl

-- What was encoded is decoded again.
theorem decode_encode (text : List Char) : decode (encode text) = .ok text := by
  suffices h : ∀ position, decodeFrom position (encode text) = .ok text from h 0
  induction text with
  | nil =>
      intro position
      rw [encode, List.flatMap_nil, decodeFrom]
  | cons c rest ih =>
      intro position
      rw [encode, List.flatMap_cons, decodeFrom_encodeChar]
      exact map_eq_ok.mpr ⟨rest, ih _, rfl⟩

-- What a first byte can say, for each length of a character.
theorem lead?_eq_some (h : lead? byte = some (share, ranges)) :
    (byte.toNat = share ∧ share < 0x80 ∧ ranges = []) ∨
      (byte.toNat = share + 192 ∧ 2 ≤ share ∧ share < 32 ∧ ranges = [tail]) ∨
      (byte.toNat = share + 224 ∧ share < 16 ∧ ranges =
        [(if share = 0 then 0xA0 else 0x80, if share = 13 then 0x9F else 0xBF), tail]) ∨
      (byte.toNat = share + 240 ∧ share < 5 ∧ ranges =
        [(if share = 0 then 0x90 else 0x80, if share = 4 then 0x8F else 0xBF), tail, tail]) := by
  simp only [lead?, tail] at h ⊢
  split_ifs at h <;> simp only [Option.some.injEq, Prod.mk.injEq] at h
  all_goals
    obtain ⟨rfl, rfl⟩ := h
    grind

theorem exists_of_continued_cons {low high result : Nat} (hlow : 128 ≤ low) (hhigh : high < 192)
    (h : continued code seen ((low, high) :: ranges) bytes = .ok (result, after)) :
    ∃ value rest, bytes = UInt8.ofNat (value + 128) :: rest ∧ value < 64 ∧ low ≤ value + 128 ∧
      value + 128 ≤ high ∧
      continued (code * 64 + value) (seen + 1) ranges rest = .ok (result, after) := by
  cases bytes with
  | nil => cases h
  | cons byte rest =>
      rw [continued] at h
      split at h
      next hrange =>
        rw [Bool.and_eq_true, decide_eq_true_eq, decide_eq_true_eq] at hrange
        obtain ⟨value, hvalue⟩ := Nat.exists_eq_add_of_le' (Nat.le_trans hlow hrange.1)
        have hmod : byte.toNat % 64 = value := by omega
        rw [hmod] at h
        refine ⟨value, rest, ?_, by omega, by omega, by omega, h⟩
        rw [← hvalue, UInt8.ofNat_toNat]
      next => cases h

theorem toNat_ofNat (h : code.isValidChar) : (Char.ofNat code).val.toNat = code := by
  unfold Char.ofNat
  rw [dif_pos h]
  rfl

-- What was read as one character is what that character is written as.
theorem encodeChar_of_continued (hlead : lead? byte = some (share, ranges))
    (hcontinued : continued share 1 ranges rest = .ok (code, after)) :
    byte :: rest = String.utf8EncodeChar (Char.ofNat code) ++ after := by
  rw [← UInt8.ofNat_toNat (x := byte)]
  rcases lead?_eq_some hlead with ⟨hbyte, hhigh, rfl⟩ | ⟨hbyte, hlow, hhigh, rfl⟩ |
    ⟨hbyte, hhigh, rfl⟩ | ⟨hbyte, hhigh, rfl⟩
  · cases hcontinued
    simp only [String.utf8EncodeChar, toNat_ofNat (Or.inl (by omega) : share.isValidChar), hbyte]
    rw [if_pos (by omega)]
    rfl
  · obtain ⟨first, _, rfl, hfirst, _, _, hrest⟩ :=
      exists_of_continued_cons (by omega) (by omega) hcontinued
    cases hrest
    generalize hcode : share * 64 + first = code
    have hparts : code / 64 % 32 = share ∧ code % 64 = first := by omega
    simp only [String.utf8EncodeChar, toNat_ofNat (Or.inl (by omega) : code.isValidChar), hbyte, hparts]
    rw [if_neg (by omega), if_pos (by omega)]
    rfl
  · obtain ⟨first, _, rfl, hfirst, hfrom, hto, hrest⟩ :=
      exists_of_continued_cons (by split <;> omega) (by split <;> omega) hcontinued
    obtain ⟨second, _, rfl, hsecond, _, _, hrest⟩ :=
      exists_of_continued_cons (by omega) (by omega) hrest
    cases hrest
    generalize hcode : (share * 64 + first) * 64 + second = code
    have hparts : code / 4096 % 16 = share ∧ code / 64 % 64 = first ∧ code % 64 = second := by omega
    have hlong : 2047 < code := by split_ifs at hfrom <;> omega
    have hvalid : code.isValidChar := by
      unfold Nat.isValidChar
      split_ifs at hto <;> omega
    simp only [String.utf8EncodeChar, toNat_ofNat hvalid, hbyte, hparts]
    rw [if_neg (by omega), if_neg (by omega), if_pos (by omega)]
    rfl
  · obtain ⟨first, _, rfl, hfirst, hfrom, hto, hrest⟩ :=
      exists_of_continued_cons (by split <;> omega) (by split <;> omega) hcontinued
    obtain ⟨second, _, rfl, hsecond, _, _, hrest⟩ :=
      exists_of_continued_cons (by omega) (by omega) hrest
    obtain ⟨third, _, rfl, hthird, _, _, hrest⟩ :=
      exists_of_continued_cons (by omega) (by omega) hrest
    cases hrest
    generalize hcode : ((share * 64 + first) * 64 + second) * 64 + third = code
    have hparts : code / 262144 % 8 = share ∧ code / 4096 % 64 = first ∧ code / 64 % 64 = second ∧
        code % 64 = third := by
      omega
    have hlong : 65535 < code := by split_ifs at hfrom <;> omega
    have hvalid : code.isValidChar := Or.inr ⟨by omega, by split_ifs at hto <;> omega⟩
    simp only [String.utf8EncodeChar, toNat_ofNat hvalid, hbyte, hparts]
    rw [if_neg (by omega), if_neg (by omega), if_neg (by omega)]
    rfl

theorem encode_of_decodeFrom {text : List Char} (h : decodeFrom position bytes = .ok text) :
    bytes = encode text := by
  fun_induction decodeFrom position bytes generalizing text with
  | case1 =>
      cases h
      rfl
  | case2 => cases h
  | case3 => cases h
  | case4 position byte rest share ranges hlead code after hcontinued ih =>
      obtain ⟨more, hmore, h⟩ := bind_eq_ok.mp h
      cases h
      rw [encode, List.flatMap_cons, ← encode, ← ih hmore]
      exact encodeChar_of_continued hlead hcontinued

-- Bytes decode to a text just if they are what it is encoded as.
theorem decode_eq_ok_iff {text : List Char} : decode bytes = .ok text ↔ bytes = encode text :=
  ⟨encode_of_decodeFrom, fun h => h ▸ decode_encode text⟩

end RecordPattern.Text.Utf8
