import RecordPattern.Proofs.Regex.FlagLetters
import RecordPattern.Schema.InlineFlags

namespace RecordPattern

open Regex

namespace InlineFlags

-- Letters that make a flag group.
structure IsWord (letters : List Char) : Prop where
  nonempty : letters ≠ []
  flags : ∀ c ∈ letters, isFlagLetter c = true

def writeGroup (letters : List Char) : List Char :=
  '(' :: '?' :: (letters ++ [')'])

theorem ofLetter?_isSome {c : Char} (h : isFlagLetter c = true) :
    (Flags.ofLetter? c).isSome = true := by
  have hmem := List.contains_iff_mem.mp h
  simp only [List.mem_cons, List.not_mem_nil, or_false] at hmem
  rcases hmem with rfl | rfl | rfl | rfl | rfl | rfl | rfl <;> rfl

theorem IsWord.ofLetter? {letters : List Char} (h : IsWord letters) :
    ∀ c ∈ letters, (Flags.ofLetter? c).isSome = true :=
  fun c hc => ofLetter?_isSome (h.flags c hc)

theorem IsWord.ne_backslash {letters : List Char} (h : IsWord letters) :
    ∀ c ∈ letters, c ≠ '\\' := by
  rintro c hc rfl
  cases h.flags _ hc

theorem splitGroup?_eq_some {pattern letters rest : List Char}
    (h : splitGroup? pattern = some (letters, rest)) :
    IsWord letters ∧ pattern = writeGroup letters ++ rest := by
  unfold splitGroup? at h
  split at h
  next tail =>
    simp only at h
    split at h
    next hletters hdrop =>
      cases h
      have htake := List.prefix_iff_eq_take.mp (List.takeWhile_prefix isFlagLetter (l := tail))
      have hsplit := List.take_append_drop (tail.takeWhile isFlagLetter).length tail
      rw [← htake, hdrop] at hsplit
      refine ⟨⟨by simp [hletters], fun c hc => List.mem_takeWhile_imp hc⟩, ?_⟩
      simpa [writeGroup] using hsplit.symm
    · cases h
  · cases h

-- The flag groups at the start of a pattern are taken off it one by one.
theorem splitGroups_eq (fuel : Nat) (pattern : List Char) :
    ∃ groups : List (List Char), (∀ letters ∈ groups, IsWord letters) ∧
      (splitGroups fuel pattern).1 = groups.flatten ∧
      pattern = groups.flatMap writeGroup ++ (splitGroups fuel pattern).2 := by
  induction fuel generalizing pattern with
  | zero => exact ⟨[], by simp, rfl, rfl⟩
  | succ fuel ih =>
      rw [splitGroups]
      split
      next letters rest hgroup =>
        obtain ⟨hword, rfl⟩ := splitGroup?_eq_some hgroup
        obtain ⟨groups, hwords, hflags, hrest⟩ := ih rest
        refine ⟨letters :: groups, List.forall_mem_cons.mpr ⟨hword, hwords⟩, ?_, ?_⟩
        · rw [List.flatten_cons, ← hflags]
        · rw [List.flatMap_cons, List.append_assoc, ← hrest]
      · exact ⟨[], by simp, rfl, rfl⟩

theorem IsWord.flatten {groups : List (List Char)} (hne : groups ≠ [])
    (hwords : ∀ letters ∈ groups, IsWord letters) : IsWord groups.flatten where
  nonempty := by
    obtain ⟨letters, groups, rfl⟩ := List.exists_cons_of_ne_nil hne
    have hfirst := (hwords letters List.mem_cons_self).nonempty
    simp [hfirst]
  flags := by
    intro c hc
    obtain ⟨letters, hletters, hc⟩ := List.mem_flatten.mp hc
    exact (hwords letters hletters).flags c hc

-- A pattern is left as it is, or the flag groups at its start become one around the rest of it.
theorem scopeChars_eq (pattern : List Char) :
    scopeChars pattern = pattern ∨
      ∃ groups rest, groups ≠ [] ∧ (∀ letters ∈ groups, IsWord letters) ∧
        pattern = groups.flatMap writeGroup ++ rest ∧
        scopeChars pattern = '(' :: '?' :: (groups.flatten ++ ':' :: (rest ++ [')'])) := by
  obtain ⟨groups, hwords, hflags, hpattern⟩ := splitGroups_eq pattern.length pattern
  cases hsplit : split pattern with
  | mk letters rest =>
      rw [← split, hsplit] at hflags hpattern
      cases letters with
      | nil =>
          left
          rw [scopeChars, hsplit]
      | cons c letters =>
          have hne : groups ≠ [] := by
            rintro rfl
            cases hflags
          right
          refine ⟨groups, rest, hne, hwords, hpattern, ?_⟩
          rw [scopeChars, hsplit, ← hflags]

end InlineFlags

namespace Regex.Reading

open InlineFlags

-- The flag groups at the start of a pattern add to the flags of the whole.
theorem run_wholeFlags_of_groups {groups : List (List Char)} (hwords : ∀ letters ∈ groups, IsWord letters)
    {cursor : Cursor} {rest : List Char} (hcursor : cursor.Before (groups.flatMap writeGroup ++ rest))
    {flags : Flags} {fuel : Nat} {final : Reading} {regex : Regex}
    (hrun : run fuel (atStart cursor flags) = .ok final) (hends : final.Ends regex) :
    ∃ past fewer, past.Before rest ∧
      run fewer (atStart past (flags.union (.ofLetters groups.flatten))) = .ok final ∧
      ∀ stage ∈ stages fewer (atStart past (flags.union (.ofLetters groups.flatten))),
        stage ∈ stages fuel (atStart cursor flags) := by
  induction groups generalizing cursor flags fuel with
  | nil =>
      rw [List.flatten_nil, show Flags.ofLetters [] = .none from rfl, Flags.union_none]
      exact ⟨cursor, fuel, hcursor, hrun, fun _ => id⟩
  | cons letters groups ih =>
      obtain ⟨hword, hwords⟩ := List.forall_mem_cons.mp hwords
      have htokens : Token.ofChars ((letters :: groups).flatMap writeGroup ++ rest) =
          (.plain '(' :: .plain '?' :: (letters.map .plain ++ .plain ')' ::
            (Token.ofChars (groups.flatMap writeGroup ++ rest)).1),
          (Token.ofChars (groups.flatMap writeGroup ++ rest)).2) := by
        simp only [List.flatMap_cons, writeGroup, List.cons_append, List.append_assoc,
          List.nil_append]
        simp only [Token.ofChars_cons (show '(' ≠ '\\' by decide), Token.ofChars_append hword.ne_backslash,
          Token.ofChars_cons (show '?' ≠ '\\' by decide), Token.ofChars_cons (show ')' ≠ '\\' by decide)]
      have hrest := hcursor.rest
      rw [htokens] at hrest
      obtain ⟨next, fewer, hstep, hrun, rfl⟩ := run_of_open hrest hrun hends
      obtain ⟨past, hpast, hdangling, hintact, rfl⟩ :=
        step_wholeFlags hword.nonempty hword.ofLetter? hrest hstep
      have hbefore : past.Before (groups.flatMap writeGroup ++ rest) :=
        ⟨hpast, by rw [hdangling, hcursor.dangling, htokens], hintact⟩
      obtain ⟨last, left, hlast, hrun, hstages⟩ := ih hwords hbefore hrun
      rw [Flags.union_assoc, ← Flags.ofLetters_append, ← List.flatten_cons] at hrun hstages
      refine ⟨last, left, hlast, hrun, fun stage hstage => ?_⟩
      exact mem_stages_of_step (by rw [Cursor.next?]; exact congrArg List.head? hrest) (by simp) hstep
        (hstages stage hstage)

end Regex.Reading

end RecordPattern
