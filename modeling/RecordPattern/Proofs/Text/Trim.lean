import Mathlib.Data.List.TakeWhile
import RecordPattern.Text.Blank

namespace RecordPattern.Text

theorem trimEnd_cons (c : Char) (rest : List Char) :
    trimEnd (c :: rest) = if (trimEnd rest).isEmpty && isBlank c then [] else c :: trimEnd rest :=
  rfl

-- What is dropped at the end is blank.
theorem exists_trimEnd (text : List Char) :
    ∃ trail, text = trimEnd text ++ trail ∧ ∀ c ∈ trail, isBlank c = true := by
  induction text with
  | nil => exact ⟨[], rfl, by simp⟩
  | cons c rest ih =>
      obtain ⟨trail, hrest, hblank⟩ := ih
      rw [trimEnd_cons]
      split
      next hdrop =>
        rw [Bool.and_eq_true, List.isEmpty_iff] at hdrop
        rw [hdrop.1, List.nil_append] at hrest
        exact ⟨c :: rest, rfl, List.forall_mem_cons.mpr ⟨hdrop.2, hrest ▸ hblank⟩⟩
      next => exact ⟨trail, congrArg (c :: ·) hrest, hblank⟩

theorem exists_trim (text : List Char) :
    ∃ lead trail, text = lead ++ trim text ++ trail ∧ (∀ c ∈ lead, isBlank c = true) ∧
      ∀ c ∈ trail, isBlank c = true := by
  obtain ⟨trail, hend, htrail⟩ := exists_trimEnd (trimStart text)
  refine ⟨text.takeWhile isBlank, trail, ?_, fun c hc => List.mem_takeWhile_imp hc, htrail⟩
  rw [List.append_assoc, trim, ← hend]
  exact List.takeWhile_append_dropWhile.symm

theorem trimEnd_of_blank {trail : List Char} (h : ∀ c ∈ trail, isBlank c = true) :
    trimEnd trail = [] := by
  induction trail with
  | nil => rfl
  | cons c rest ih =>
      obtain ⟨hc, hrest⟩ := List.forall_mem_cons.mp h
      rw [trimEnd_cons, ih hrest, hc]
      rfl

-- A word without blanks is all that is left of it between blanks.
theorem trimEnd_append {word trail : List Char} (hword : ∀ c ∈ word, isBlank c = false)
    (htrail : ∀ c ∈ trail, isBlank c = true) : trimEnd (word ++ trail) = word := by
  induction word with
  | nil => exact trimEnd_of_blank htrail
  | cons c rest ih =>
      obtain ⟨hc, hrest⟩ := List.forall_mem_cons.mp hword
      rw [List.cons_append, trimEnd_cons, ih hrest, hc, Bool.and_false]
      rfl

theorem trim_append {lead word trail : List Char} (hlead : ∀ c ∈ lead, isBlank c = true)
    (hword : ∀ c ∈ word, isBlank c = false) (hne : word ≠ [])
    (htrail : ∀ c ∈ trail, isBlank c = true) : trim (lead ++ word ++ trail) = word := by
  cases word with
  | nil => exact absurd rfl hne
  | cons first rest =>
      have hstart : trimStart (lead ++ first :: rest ++ trail) = first :: rest ++ trail := by
        unfold trimStart
        rw [List.append_assoc, List.dropWhile_append_of_pos hlead, List.cons_append,
          List.dropWhile_cons_of_neg (by simp [hword first])]
      rw [trim, hstart]
      exact trimEnd_append hword htrail

end RecordPattern.Text
