import RecordPattern.Proofs.Outcome
import RecordPattern.Proofs.Text.Run
import RecordPattern.Regex.Cursor

namespace RecordPattern.Regex

open Outcome

namespace Token

-- A character other than a backslash is a token by itself, whatever follows.
theorem ofChars_cons {c : Char} (hc : c ≠ '\\') (rest : List Char) :
    ofChars (c :: rest) = (.plain c :: (ofChars rest).1, (ofChars rest).2) := by
  rw [ofChars]
  · rintro rfl _
    exact hc rfl
  · rintro _ _ rfl _
    exact hc rfl

theorem ofChars_append {word : List Char} (hword : ∀ c ∈ word, c ≠ '\\') (rest : List Char) :
    ofChars (word ++ rest) = (word.map .plain ++ (ofChars rest).1, (ofChars rest).2) := by
  induction word with
  | nil => rfl
  | cons c word ih =>
      obtain ⟨hc, hword⟩ := List.forall_mem_cons.mp hword
      rw [List.cons_append, ofChars_cons hc, ih hword]
      rfl

-- A character after a pattern is a token by itself, unless a backslash ends the pattern.
theorem ofChars_append_cons (pattern : List Char) {c : Char} (hc : c ≠ '\\') (rest : List Char) :
    (ofChars (pattern ++ c :: rest)).1 = (ofChars pattern).1 ++
      (if (ofChars pattern).2 then .escaped c else .plain c) :: (ofChars rest).1 := by
  induction pattern using ofChars.induct with
  | case1 => rw [List.nil_append, ofChars_cons hc]; rfl
  | case2 => rfl
  | case3 d more _ _ _ ih =>
      rw [List.cons_append, List.cons_append, ofChars, ofChars]
      exact congrArg (Token.escaped d :: ·) ih
  | case4 d more hlast hmore _ _ _ ih =>
      have hd : d ≠ '\\' := by
        rintro rfl
        cases more with
        | nil => exact hlast rfl rfl
        | cons e more => exact hmore e more rfl rfl
      rw [List.cons_append, ofChars_cons hd, ih, ofChars_cons hd]
      rfl

theorem textOf_map_plain (word : List Char) : textOf (word.map .plain) = word := by
  induction word with
  | nil => rfl
  | cons c word ih =>
      rw [List.map_cons, textOf, List.flatMap_cons]
      exact congrArg (c :: ·) ih

end Token

namespace Cursor

variable {cursor after : Cursor} {count : Nat}

theorem skip_eq_ok (h : cursor.skip count = .ok after) :
    after.rest = cursor.rest.drop count ∧ after.dangling = cursor.dangling ∧
      (0 < count → after.dangling.isSome → after.rest ≠ []) := by
  unfold skip at h
  simp only at h
  split at h
  · cases h
  next hends =>
    cases h
    refine ⟨rfl, rfl, fun hcount hdangling => ?_⟩
    simpa [hcount, hdangling] using hends

-- A cursor stands before a text when it has yet to read the tokens of it.
structure Before (cursor : Cursor) (text : List Char) : Prop where
  rest : cursor.rest = (Token.ofChars text).1
  dangling : cursor.dangling.isSome = (Token.ofChars text).2
  intact : cursor.dangling.isSome → cursor.rest ≠ []

theorem before_of_ofPattern {pattern : List Char} (h : ofPattern pattern = .ok cursor) :
    cursor.Before pattern := by
  unfold ofPattern at h
  simp only at h
  split at h
  · cases h
  next hends =>
    cases h
    refine ⟨rfl, ?_, fun hdangling => ?_⟩
    · cases (Token.ofChars pattern).2 <;> rfl
    · cases hends' : (Token.ofChars pattern).2 <;> simp_all

-- A run of tokens that does not go to the end stops before a token that ends it.
theorem takeWhile_splits {accept : Token → Bool} {tokens : List Token}
    (h : (tokens.takeWhile accept).length < tokens.length) :
    ∃ last rest, tokens = tokens.takeWhile accept ++ last :: rest ∧ accept last = false := by
  induction tokens with
  | nil => cases h
  | cons token tokens ih =>
      by_cases htoken : accept token = true
      · rw [List.takeWhile_cons_of_pos htoken] at h ⊢
        obtain ⟨last, rest, hsplit, hlast⟩ := ih (Nat.lt_of_succ_lt_succ h)
        exact ⟨last, rest, congrArg (token :: ·) hsplit, hlast⟩
      · rw [List.takeWhile_cons_of_neg htoken]
        exact ⟨token, tokens, rfl, by simpa using htoken⟩

theorem drop_past {tokens taken rest : List Token} {last : Token}
    (h : tokens = taken ++ last :: rest) : tokens.drop (taken.length + 1) = rest := by
  subst h
  rw [List.append_cons, List.drop_left' (by simp)]

-- A name is read up to the first token that ends it.
theorem takeName_eq_ok {terminator : Char} {what : String} {name : List Char}
    (h : cursor.takeName terminator what = .ok (name, after)) :
    ∃ taken rest, cursor.rest = taken ++ .plain terminator :: rest ∧
      (∀ token ∈ taken, token ≠ .plain terminator) ∧ name = Token.textOf taken ∧
      after.rest = rest ∧ after.dangling = cursor.dangling ∧
      (after.dangling.isSome → after.rest ≠ []) := by
  unfold takeName at h
  simp only at h
  split at h
  next hless =>
    obtain ⟨last, rest, hsplit, hlast⟩ := takeWhile_splits hless
    obtain ⟨middle, hskip, h⟩ := bind_eq_ok.mp h
    split at h
    · cases h
    · cases h
      obtain ⟨hrest, hdangling, hintact⟩ := skip_eq_ok hskip
      rw [drop_past hsplit] at hrest
      refine ⟨_, rest, ?_, fun token ht => ?_, rfl, hrest, hdangling, hintact (Nat.succ_pos _)⟩
      · have hterminator : last = .plain terminator := by simpa using hlast
        rwa [hterminator] at hsplit
      · simpa using List.mem_takeWhile_imp ht
  · obtain ⟨middle, _, h⟩ := bind_eq_ok.mp h
    split at h
    · cases h
    · cases h

theorem split_unique {terminator : Token} {first second rest last : List Token}
    (hfirst : ∀ token ∈ first, token ≠ terminator) (hsecond : ∀ token ∈ second, token ≠ terminator)
    (h : first ++ terminator :: rest = second ++ terminator :: last) :
    first = second ∧ rest = last := by
  have hstops : decide (terminator ≠ terminator) = false := by simp
  obtain ⟨hsame, _, hrest⟩ := Text.run_unique (p := fun token => decide (token ≠ terminator))
    (by simpa using hfirst) hstops (by simpa using hsecond) hstops h
  exact ⟨hsame, hrest⟩

end Cursor

end RecordPattern.Regex
