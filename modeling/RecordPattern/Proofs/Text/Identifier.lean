import RecordPattern.Text.Blank
import RecordPattern.Text.Identifier

namespace RecordPattern.Text

namespace Ranges

-- No range of one table meets a range of the other.
def Apart (first second : Ranges) : Prop :=
  ∀ a ∈ first.bounds, ∀ b ∈ second.bounds, a.2 < b.1 ∨ b.2 < a.1

theorem contains_eq_true_iff {ranges : Ranges} {code : Nat} :
    ranges.contains code = true ↔ ∃ range ∈ ranges.bounds, range.1 ≤ code ∧ code ≤ range.2 := by
  simp [contains, List.any_eq_true]

theorem Apart.contains_eq_false {first second : Ranges} (h : first.Apart second) {code : Nat}
    (hf : first.contains code = true) : second.contains code = false := by
  obtain ⟨a, ha, hlo, hhi⟩ := contains_eq_true_iff.mp hf
  rw [← Bool.not_eq_true, contains_eq_true_iff]
  rintro ⟨b, hb, hlo', hhi'⟩
  have hapart := h a ha b hb
  omega

end Ranges

-- The blanks outside ASCII.
def foreignBlanks : Ranges := ⟨[
  (0x85, 0x85), (0xA0, 0xA0), (0x1680, 0x1680), (0x2000, 0x200A), (0x2028, 0x2029),
  (0x202F, 0x202F), (0x205F, 0x205F), (0x3000, 0x3000)]⟩

theorem foreignStarts_apart : foreignStarts.Apart foreignBlanks := by
  unfold Ranges.Apart
  decide +kernel

theorem foreignContinuations_apart : foreignContinuations.Apart foreignBlanks := by
  unfold Ranges.Apart
  decide +kernel

theorem foreignBlanks_contains_of_isBlank {c : Char} (hforeign : ¬c.toNat < 128)
    (h : isBlank c = true) : foreignBlanks.contains c.toNat = true := by
  simp only [isBlank, hforeign, if_false, Bool.or_eq_true, Bool.and_eq_true, decide_eq_true_eq] at h
  simp only [Ranges.contains, foreignBlanks, List.any_cons, List.any_nil, Bool.or_eq_true,
    Bool.and_eq_true, decide_eq_true_eq]
  omega

theorem isIdentifierPart_of_isIdentifierStart {c : Char} (h : isIdentifierStart c = true) :
    isIdentifierPart c = true := by
  unfold isIdentifierStart at h
  unfold isIdentifierPart
  split
  next hascii =>
    rw [if_pos hascii, Bool.or_eq_true] at h
    simp only [Char.isAlphanum, Bool.or_eq_true]
    exact h.imp_left Or.inl
  next hforeign =>
    rw [if_neg hforeign] at h
    rw [h, Bool.true_or]

-- Letters, digits and the underscore all come after the blanks of ASCII.
theorem lt_toNat_of_isAlphanum {c : Char} (h : (c.isAlphanum || c = '_') = true) :
    32 < c.toNat := by
  have hlt : ∀ {low : UInt32}, low ≤ c.val → 32 < low.toNat → 32 < c.toNat :=
    fun hle hlow => Nat.lt_of_lt_of_le hlow (UInt32.le_iff_toNat_le.mp hle)
  have hword : c.isAlphanum = (c.isUpper || c.isLower || c.isDigit) := rfl
  rw [hword, Bool.or_eq_true, Bool.or_eq_true, Bool.or_eq_true, decide_eq_true_eq] at h
  rcases h with ((hupper | hlower) | hdigit) | rfl
  · have hrange : 'A'.val ≤ c.val ∧ c.val ≤ 'Z'.val := of_decide_eq_true hupper
    exact hlt hrange.1 (by decide)
  · have hlow : 'a'.val ≤ c.val := of_decide_eq_true ((Bool.and_eq_true _ _).mp hlower).1
    exact hlt hlow (by decide)
  · have hlow : '0'.val ≤ c.val := of_decide_eq_true ((Bool.and_eq_true _ _).mp hdigit).1
    exact hlt hlow (by decide)
  · decide

-- The characters of identifiers are no blanks.
theorem isBlank_eq_false_of_isIdentifierPart {c : Char} (h : isIdentifierPart c = true) :
    isBlank c = false := by
  rw [← Bool.not_eq_true]
  intro hblank
  unfold isIdentifierPart at h
  split at h
  next hascii =>
    have hlt := lt_toNat_of_isAlphanum h
    simp only [isBlank, hascii, if_true, Bool.or_eq_true, Bool.and_eq_true, decide_eq_true_eq] at hblank
    omega
  next hforeign =>
    have hcontains := foreignBlanks_contains_of_isBlank hforeign hblank
    rcases (Bool.or_eq_true _ _).mp h with hstart | hpart
    · rw [foreignStarts_apart.contains_eq_false hstart] at hcontains
      cases hcontains
    · rw [foreignContinuations_apart.contains_eq_false hpart] at hcontains
      cases hcontains

-- An identifier is made of such characters only.
theorem isIdentifierPart_of_mem {name : List Char} (h : isIdentifier name = true) :
    ∀ c ∈ name, isIdentifierPart c = true := by
  cases name with
  | nil => cases h
  | cons first rest =>
      simp only [isIdentifier, Bool.and_eq_true, List.all_eq_true] at h
      exact List.forall_mem_cons.mpr ⟨isIdentifierPart_of_isIdentifierStart h.1, h.2⟩

theorem not_isIdentifierPart_brace : isIdentifierPart '\x7d' = false := by decide

end RecordPattern.Text
