import RecordPattern.Proofs.Schema.InlineFlags
import RecordPattern.Proofs.Text.Run

namespace RecordPattern.InlineFlags

def BeginsGroup (text : List Char) : Prop :=
  ∃ letters rest, IsWord letters ∧ text = writeGroup letters ++ rest

-- A pattern as the flag groups at its start, one after another, and a rest that begins with no
-- further one.
structure Decomposes (pattern : List Char) (groups : List (List Char)) (rest : List Char) : Prop where
  words : ∀ letters ∈ groups, IsWord letters
  pattern_eq : pattern = groups.flatMap writeGroup ++ rest
  rest_free : ¬BeginsGroup rest

-- A pattern in a group of its own, with flags that hold for it alone.
def writeScoped (letters rest : List Char) : List Char :=
  '(' :: '?' :: (letters ++ ':' :: (rest ++ [')']))

variable {pattern letters rest : List Char} {groups : List (List Char)}

theorem writeGroup_unique {other more : List Char} (hword : IsWord letters) (hother : IsWord other)
    (h : writeGroup letters ++ rest = writeGroup other ++ more) : letters = other ∧ rest = more := by
  have hclose : isFlagLetter ')' = false := by decide
  have hinner : letters ++ ')' :: rest = other ++ ')' :: more := by simpa [writeGroup] using h
  obtain ⟨hsame, _, hrest⟩ := Text.run_unique hword.flags hclose hother.flags hclose hinner
  exact ⟨hsame, hrest⟩

-- Flags that hold for a group alone are followed by a colon, where those of a flag group end.
theorem not_beginsGroup_writeScoped (hletters : ∀ c ∈ letters, isFlagLetter c = true) :
    ¬BeginsGroup (writeScoped letters rest) := by
  rintro ⟨other, more, hother, h⟩
  have hinner : letters ++ ':' :: (rest ++ [')']) = other ++ ')' :: more := by
    simpa [writeScoped, writeGroup] using h
  have hcolon : ':' = ')' :=
    (Text.run_unique hletters (by decide) hother.flags (by decide) hinner).2.1
  exact absurd hcolon (by decide)

theorem splitGroup?_writeGroup (hword : IsWord letters) (rest : List Char) :
    splitGroup? (writeGroup letters ++ rest) = some (letters, rest) := by
  have htaken : (letters ++ ')' :: rest).takeWhile isFlagLetter = letters :=
    Text.takeWhile_until hword.flags (by decide) rest
  obtain ⟨first, others, rfl⟩ := List.exists_cons_of_ne_nil hword.nonempty
  have hpattern : writeGroup (first :: others) ++ rest =
      '(' :: '?' :: ((first :: others) ++ ')' :: rest) := by simp [writeGroup]
  rw [hpattern, splitGroup?]
  simp only [htaken, List.drop_left]

theorem splitGroup?_eq_none_iff : splitGroup? pattern = none ↔ ¬BeginsGroup pattern := by
  constructor
  · rintro hnone ⟨letters, rest, hword, rfl⟩
    rw [splitGroup?_writeGroup hword] at hnone
    cases hnone
  · intro hfree
    cases hsplit : splitGroup? pattern with
    | none => rfl
    | some found =>
        obtain ⟨hword, hpattern⟩ := splitGroup?_eq_some hsplit
        exact absurd ⟨_, _, hword, hpattern⟩ hfree

-- Groups are taken off the start as long as there are any.
theorem exists_decomposes (pattern : List Char) : ∃ groups rest, Decomposes pattern groups rest := by
  by_cases hbegins : BeginsGroup pattern
  · obtain ⟨letters, after, hword, rfl⟩ := hbegins
    have hshorter : after.length < (writeGroup letters ++ after).length := by
      simp only [writeGroup, List.cons_append, List.length_cons, List.length_append]
      omega
    obtain ⟨groups, rest, h⟩ := exists_decomposes after
    refine ⟨letters :: groups, rest, List.forall_mem_cons.mpr ⟨hword, h.words⟩, ?_, h.rest_free⟩
    rw [List.flatMap_cons, List.append_assoc, ← h.pattern_eq]
  · exact ⟨[], pattern, by simp, rfl, hbegins⟩
termination_by pattern.length

theorem Decomposes.unique {others : List (List Char)} {last : List Char}
    (h : Decomposes pattern groups rest) (hother : Decomposes pattern others last) :
    groups = others ∧ rest = last := by
  obtain ⟨hwords, rfl, hfree⟩ := h
  obtain ⟨hothers, hpattern, hlast⟩ := hother
  induction groups generalizing others with
  | nil =>
      cases others with
      | nil => exact ⟨rfl, hpattern⟩
      | cons other others =>
          refine absurd ⟨other, others.flatMap writeGroup ++ last, hothers other (by simp), ?_⟩ hfree
          simpa using hpattern
  | cons letters groups ih =>
      obtain ⟨hword, hwords⟩ := List.forall_mem_cons.mp hwords
      cases others with
      | nil =>
          refine absurd ⟨letters, groups.flatMap writeGroup ++ rest, hword, ?_⟩ hlast
          simpa using hpattern.symm
      | cons other others =>
          obtain ⟨hother, hfurther⟩ := List.forall_mem_cons.mp hothers
          rw [List.flatMap_cons, List.flatMap_cons, List.append_assoc, List.append_assoc] at hpattern
          obtain ⟨rfl, hafter⟩ := writeGroup_unique hword hother hpattern
          obtain ⟨rfl, hrest⟩ := ih hwords hfurther hafter
          exact ⟨rfl, hrest⟩

theorem length_le_length_flatMap_writeGroup (groups : List (List Char)) :
    groups.length ≤ (groups.flatMap writeGroup).length := by
  induction groups with
  | nil => simp
  | cons letters groups ih =>
      rw [List.flatMap_cons, List.length_append, List.length_cons]
      have hgroup : 1 ≤ (writeGroup letters).length := by simp [writeGroup]
      omega

-- As many steps as there are groups are enough.
theorem splitGroups_of_le {fuel : Nat} (hwords : ∀ letters ∈ groups, IsWord letters)
    (hfree : ¬BeginsGroup rest) (hfuel : groups.length ≤ fuel) :
    splitGroups fuel (groups.flatMap writeGroup ++ rest) = (groups.flatten, rest) := by
  induction groups generalizing fuel with
  | nil =>
      cases fuel with
      | zero => rfl
      | succ fuel => simp [splitGroups, splitGroup?_eq_none_iff.mpr hfree]
  | cons letters groups ih =>
      obtain ⟨hword, hwords⟩ := List.forall_mem_cons.mp hwords
      obtain ⟨fuel, rfl⟩ := Nat.exists_eq_succ_of_ne_zero (n := fuel) (by
        rw [List.length_cons] at hfuel
        omega)
      rw [List.flatMap_cons, List.append_assoc, splitGroups, splitGroup?_writeGroup hword]
      simp only [ih hwords (Nat.le_of_succ_le_succ hfuel), List.flatten_cons]

theorem Decomposes.split_eq (h : Decomposes pattern groups rest) :
    split pattern = (groups.flatten, rest) := by
  have hlength : groups.length ≤ pattern.length := by
    have hgroups := length_le_length_flatMap_writeGroup groups
    rw [h.pattern_eq, List.length_append]
    omega
  have hsplit := splitGroups_of_le h.words h.rest_free hlength
  rwa [← h.pattern_eq] at hsplit

theorem Decomposes.scopeChars_eq (h : Decomposes pattern groups rest) :
    scopeChars pattern = if groups = [] then pattern else writeScoped groups.flatten rest := by
  unfold scopeChars
  rw [h.split_eq]
  by_cases hgroups : groups = []
  · subst hgroups
    rfl
  · obtain ⟨first, others, hflags⟩ :=
      List.exists_cons_of_ne_nil (IsWord.flatten hgroups h.words).nonempty
    rw [if_neg hgroups, hflags]
    rfl

theorem not_beginsGroup_scopeChars (pattern : List Char) : ¬BeginsGroup (scopeChars pattern) := by
  obtain ⟨groups, rest, h⟩ := exists_decomposes pattern
  rw [h.scopeChars_eq]
  by_cases hgroups : groups = []
  · subst hgroups
    rw [if_pos rfl, h.pattern_eq]
    exact h.rest_free
  · rw [if_neg hgroups]
    exact not_beginsGroup_writeScoped (IsWord.flatten hgroups h.words).flags

-- What begins with no flag group is left as it is.
theorem scopeChars_of_not_beginsGroup (hfree : ¬BeginsGroup pattern) :
    scopeChars pattern = pattern := by
  have h : Decomposes pattern [] pattern := ⟨by simp, rfl, hfree⟩
  rw [h.scopeChars_eq, if_pos rfl]

theorem writeScoped_unique {other more : List Char}
    (hletters : ∀ c ∈ letters, isFlagLetter c = true) (hother : ∀ c ∈ other, isFlagLetter c = true)
    (h : writeScoped letters rest = writeScoped other more) : letters = other ∧ rest = more := by
  have hcolon : isFlagLetter ':' = false := by decide
  have hinner : letters ++ ':' :: (rest ++ [')']) = other ++ ':' :: (more ++ [')']) := by
    simpa [writeScoped] using h
  obtain ⟨hsame, _, hrest⟩ := Text.run_unique hletters hcolon hother hcolon hinner
  exact ⟨hsame, List.append_cancel_right hrest⟩

-- A pattern comes apart in one way into flag groups and a rest. If there are any groups their
-- letters make one scoped group around the rest, in which nothing changes; so no flags for the
-- whole are left at the start, and nothing is lost but how the letters were grouped.
theorem scope_normalises (pattern : String) :
    (∃! parts : List (List Char) × List Char, Decomposes pattern.toList parts.1 parts.2) ∧
    (∀ groups rest, Decomposes pattern.toList groups rest →
      scope pattern =
        if groups = [] then pattern else String.ofList (writeScoped groups.flatten rest)) ∧
    ¬BeginsGroup (scope pattern).toList ∧
    scope (scope pattern) = scope pattern ∧
    ∀ (other : String) (groups others : List (List Char)) (rest last : List Char),
      Decomposes pattern.toList groups rest → Decomposes other.toList others last →
      groups ≠ [] → others ≠ [] → scope pattern = scope other →
        groups.flatten = others.flatten ∧ rest = last := by
  have hscope : ∀ (source : String) groups rest, Decomposes source.toList groups rest →
      scope source =
        if groups = [] then source else String.ofList (writeScoped groups.flatten rest) := by
    intro source groups rest h
    rw [scope, h.scopeChars_eq]
    split <;> simp
  have hfree : ¬BeginsGroup (scope pattern).toList := by
    rw [scope, String.toList_ofList]
    exact not_beginsGroup_scopeChars _
  refine ⟨?_, hscope pattern, hfree, ?_, ?_⟩
  · obtain ⟨groups, rest, h⟩ := exists_decomposes pattern.toList
    refine ⟨(groups, rest), h, fun parts hparts => ?_⟩
    obtain ⟨hgroups, hrest⟩ := hparts.unique h
    exact Prod.ext hgroups hrest
  · rw [scope, scopeChars_of_not_beginsGroup hfree, String.ofList_toList]
  · intro other groups others rest last h hother hgroups hothers hsame
    rw [hscope pattern groups rest h, hscope other others last hother, if_neg hgroups,
      if_neg hothers, String.ofList_inj] at hsame
    exact writeScoped_unique (IsWord.flatten hgroups h.words).flags
      (IsWord.flatten hothers hother.words).flags hsame

example : scope "(?i)(?mm)(?-s:a)(?i)" = "(?imm:(?-s:a)(?i))" := by decide +kernel

end RecordPattern.InlineFlags
