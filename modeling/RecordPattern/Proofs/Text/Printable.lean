import RecordPattern.Text.Quoted
import RecordPattern.Text.Utf8

namespace RecordPattern.Text

variable {c d quote : Char}

-- Controls are not printable.
theorem visible_of_isPrintable (h : isPrintable c = true) : 32 ≤ c.toNat := by
  unfold isPrintable at h
  split at h
  · simp only [Bool.and_eq_true, decide_eq_true_eq] at h
    exact h.1
  · omega

theorem isPrintable_hexDigit {value : Nat} (h : value < 16) : isPrintable (hexDigit value) = true := by
  have hall : ∀ digit < 16, isPrintable (hexDigit digit) = true := by decide
  exact hall value h

theorem isPrintable_of_mem_toHex {width value : Nat} (h : c ∈ toHex width value) :
    isPrintable c = true := by
  induction width generalizing value with
  | zero => cases h
  | succ width ih =>
      rcases List.mem_append.mp h with h | h
      · exact ih h
      · obtain rfl := List.mem_singleton.mp h
        exact isPrintable_hexDigit (Nat.mod_lt _ (by decide))

theorem isPrintable_quoteFor (text : List Char) : isPrintable (quoteFor text) = true := by
  unfold quoteFor
  split <;> decide

theorem isPrintable_of_mem_quotedChar (hquote : isPrintable quote = true)
    (h : d ∈ quotedChar quote c) : isPrintable d = true := by
  have hescape {letter : Char} {digits : List Char} (hletter : isPrintable letter = true)
      (hdigits : ∀ digit ∈ digits, isPrintable digit = true) (h : d ∈ '\\' :: letter :: digits) :
      isPrintable d = true := by
    rcases List.mem_cons.mp h with rfl | h
    · decide
    rcases List.mem_cons.mp h with rfl | h
    · exact hletter
    · exact hdigits d h
  unfold quotedChar at h
  split at h
  next hspecial =>
    refine hescape ?_ (List.forall_mem_nil _) h
    simp only [Bool.or_eq_true, decide_eq_true_eq] at hspecial
    rcases hspecial with rfl | rfl
    · exact hquote
    · decide
  split at h
  · exact hescape (by decide) (List.forall_mem_nil _) h
  split at h
  · exact hescape (by decide) (List.forall_mem_nil _) h
  split at h
  · exact hescape (by decide) (List.forall_mem_nil _) h
  split at h
  next hprintable =>
    obtain rfl := List.mem_singleton.mp h
    exact hprintable
  split at h
  · exact hescape (by decide) (fun _ => isPrintable_of_mem_toHex) h
  split at h
  · exact hescape (by decide) (fun _ => isPrintable_of_mem_toHex) h
  · exact hescape (by decide) (fun _ => isPrintable_of_mem_toHex) h

-- Quotes show text with printable characters only, whatever the text holds.
theorem isPrintable_of_mem_quoted {text : String} (h : c ∈ (quoted text).toList) :
    isPrintable c = true := by
  rw [quoted, String.toList_ofList, quotedChars] at h
  have hquote := isPrintable_quoteFor text.toList
  rcases List.mem_cons.mp h with rfl | h
  · exact hquote
  rcases List.mem_append.mp h with h | h
  · obtain ⟨d, _, hc⟩ := List.mem_flatMap.mp h
    exact isPrintable_of_mem_quotedChar hquote hc
  · obtain rfl := List.mem_singleton.mp h
    exact hquote

theorem isPrintable_of_isDigit (h : c.isDigit = true) : isPrintable c = true := by
  simp only [Char.isDigit, Bool.and_eq_true, decide_eq_true_eq, UInt32.le_iff_toNat_le] at h
  have hlow : 48 ≤ c.toNat := h.1
  have hhigh : c.toNat ≤ 57 := h.2
  unfold isPrintable
  rw [if_pos (by omega)]
  simp only [Bool.and_eq_true, decide_eq_true_eq]
  omega

theorem isPrintable_of_mem_toString {n : Nat} (h : c ∈ (toString n).toList) : isPrintable c = true := by
  rw [Nat.toString_eq_repr, Nat.toList_repr] at h
  exact isPrintable_of_isDigit (Nat.isDigit_of_mem_toDigits (by decide) (by decide) h)

-- What is said about bytes that are no text is printable throughout.
theorem Utf8Error.isPrintable_of_mem_message {error : Utf8Error} (h : c ∈ error.message.toList) :
    isPrintable c = true := by
  have hfixed {fixed : String} (hall : fixed.toList.all isPrintable = true) (h : c ∈ fixed.toList) :
      isPrintable c = true := List.all_eq_true.mp hall c h
  have hreason : error.issue.reason.toList.all isPrintable = true := by
    cases error.issue <;> decide
  unfold Utf8Error.message at h
  simp only [String.toList_append, List.mem_append] at h
  rcases h with ((h | h) | h) | h
  · exact hfixed (by decide) h
  · split at h
    · simp only [String.toList_append, List.mem_append, String.toList_ofList] at h
      rcases h with ((h | h) | h) | h
      · exact hfixed (by decide) h
      · exact isPrintable_of_mem_toHex h
      · exact hfixed (by decide) h
      · exact isPrintable_of_mem_toString h
    · simp only [String.toList_append, List.mem_append] at h
      rcases h with ((h | h) | h) | h
      · exact hfixed (by decide) h
      · exact isPrintable_of_mem_toString h
      · exact hfixed (by decide) h
      · exact isPrintable_of_mem_toString h
  · exact hfixed (by decide) h
  · exact hfixed hreason h

end RecordPattern.Text
