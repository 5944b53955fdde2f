import RecordPattern.Proofs.Regex.Stages

namespace RecordPattern.Regex

open Outcome Cursor

namespace Flags

variable {flags on : Flags}

-- The flags that a run of letters asks for.
def ofLetters (letters : List Char) : Flags :=
  letters.foldl (fun flags c => flags.union ((ofLetter? c).getD none)) none

theorem union_none (flags : Flags) : flags.union none = flags := by
  simp [union, none]

theorem none_union (flags : Flags) : none.union flags = flags := by
  simp [union, none]

theorem union_assoc (first second third : Flags) :
    (first.union second).union third = first.union (second.union third) := by
  simp [union, Bool.or_assoc]

theorem foldl_union (letters : List Char) (flags : Flags) :
    letters.foldl (fun flags c => flags.union ((ofLetter? c).getD none)) flags =
      flags.union (ofLetters letters) := by
  induction letters generalizing flags with
  | nil => exact (union_none flags).symm
  | cons c letters ih =>
      rw [ofLetters, List.foldl_cons, List.foldl_cons, ih, ih, none_union, union_assoc]

theorem ofLetters_append (first second : List Char) :
    ofLetters (first ++ second) = (ofLetters first).union (ofLetters second) := by
  rw [ofLetters, List.foldl_append, foldl_union, ← ofLetters]

-- Flags of a group are flags of the whole when no two alphabets are asked for.
theorem inside_eq_union (hlocale : (flags.union on).locale = false)
    (halphabets : ((flags.union on).ascii && (flags.union on).unicode) = false) :
    flags.inside on none = flags.union on := by
  obtain ⟨_, _, _, _, ascii, unicode, locale, _⟩ := flags
  obtain ⟨_, _, _, _, ascii', unicode', locale', _⟩ := on
  cases ascii <;> cases unicode <;> cases locale <;> cases ascii' <;> cases unicode' <;>
    cases locale' <;> simp_all [inside, union, diff, none, alphabets]

end Flags

namespace FlagGroup

variable {letters : List Char} {ending : Char} {rest : List Token} {cursor after : Cursor}

-- One more token is read either as the end of the flags or as a flag.
theorem readOn_eq_ok {fuel : Nat} {flag found : Flags} {token : Token}
    {result : Flags × Token × Cursor} (hnext : cursor.next? = some token)
    (h : readOn fuel cursor flag found = .ok result) :
    ∃ fewer past, cursor.skip 1 = .ok past ∧
      ((token = .plain ')' ∨ token = .plain '-' ∨ token = .plain ':') ∧
          result = (found.union flag, token, past) ∨
        ∃ next, flagOf? token = some next ∧
          readOn fewer past next (found.union flag) = .ok result) := by
  cases fuel with
  | zero => cases h
  | succ fewer =>
      simp only [readOn] at h
      split at h
      · cases h
      · split at h
        · cases h
        · rw [hnext] at h
          obtain ⟨past, hskip, h⟩ := bind_eq_ok.mp h
          split at h
          next hend =>
            cases h
            simp only [Bool.or_eq_true, decide_eq_true_eq, or_assoc] at hend
            exact ⟨fewer, past, hskip, .inl ⟨hend, rfl⟩⟩
          · split at h
            next next hflag => exact ⟨fewer, past, hskip, .inr ⟨next, hflag, h⟩⟩
            · cases h

-- Letters that are flags are read up to a parenthesis or a colon.
theorem readOn_letters (hletters : ∀ c ∈ letters, (Flags.ofLetter? c).isSome)
    (hending : ending = ')' ∨ ending = ':')
    (hrest : cursor.rest = letters.map .plain ++ .plain ending :: rest) {fuel : Nat}
    {flag found on : Flags} {token : Token}
    (h : readOn fuel cursor flag found = .ok (on, token, after)) :
    on = letters.foldl (fun flags c => flags.union ((Flags.ofLetter? c).getD .none))
        (found.union flag) ∧
      token = .plain ending ∧ after.rest = rest ∧ after.dangling = cursor.dangling ∧
      (after.dangling.isSome → after.rest ≠ []) := by
  induction letters generalizing fuel cursor flag found with
  | nil =>
      have hnext : cursor.next? = some (.plain ending) := by
        rw [Cursor.next?, hrest]
        rfl
      obtain ⟨fewer, past, hskip, h⟩ := readOn_eq_ok hnext h
      obtain ⟨hpast, hdangling, hintact⟩ := skip_eq_ok hskip
      rw [hrest] at hpast
      rcases h with ⟨_, heq⟩ | ⟨next, hflag, _⟩
      · cases heq
        exact ⟨rfl, rfl, hpast, hdangling, hintact Nat.one_pos⟩
      · rcases hending with rfl | rfl <;> cases hflag
  | cons c letters ih =>
      obtain ⟨hc, hletters⟩ := List.forall_mem_cons.mp hletters
      have hnext : cursor.next? = some (.plain c) := by
        rw [Cursor.next?, hrest]
        rfl
      obtain ⟨fewer, past, hskip, h⟩ := readOn_eq_ok hnext h
      obtain ⟨hpast, hdangling, _⟩ := skip_eq_ok hskip
      rw [hrest] at hpast
      rcases h with ⟨hend, _⟩ | ⟨next, hflag, h⟩
      · -- none of the characters that end the letters is a flag
        rcases hend with hc' | hc' | hc' <;> cases hc' <;> cases hc
      · obtain ⟨hon, htoken, hafter, hdangling', hintact⟩ := ih hletters hpast h
        refine ⟨?_, htoken, hafter, hdangling'.trans hdangling, hintact⟩
        rw [hon, List.foldl_cons, show Flags.ofLetter? c = some next from hflag, Option.getD_some]

theorem read_letters {c : Char} (hc : (Flags.ofLetter? c).isSome)
    (hletters : ∀ d ∈ letters, (Flags.ofLetter? d).isSome) (hending : ending = ')' ∨ ending = ':')
    (hrest : cursor.rest = letters.map .plain ++ .plain ending :: rest) {group : FlagGroup}
    (h : read cursor (.plain c) = .ok (group, after)) :
    group = (if ending = ')' then .global (.ofLetters (c :: letters))
        else .inside (.ofLetters (c :: letters)) .none) ∧
      after.rest = rest ∧ after.dangling = cursor.dangling ∧
      (after.dangling.isSome → after.rest ≠ []) := by
  obtain ⟨flag, hflag⟩ := Option.isSome_iff_exists.mp hc
  simp only [read, flagOf?, hflag] at h
  obtain ⟨⟨on, token, past⟩, hread, h⟩ := bind_eq_ok.mp h
  obtain ⟨hon, htoken, hpast, hdangling, hintact⟩ := readOn_letters hletters hending hrest hread
  have hall : on = .ofLetters (c :: letters) := by
    rw [hon, Flags.ofLetters, List.foldl_cons, hflag, Option.getD_some]
  rcases hending with rfl | rfl
  · simp only [htoken, if_true] at h
    cases h
    exact ⟨by rw [hall, if_pos rfl], hpast, hdangling, hintact⟩
  · rw [if_neg (by simp [htoken])] at h
    obtain ⟨⟨off, last⟩, hinside, h⟩ := bind_eq_ok.mp h
    simp only [readInside, htoken, if_true] at hinside
    split at hinside
    · cases hinside
    · cases hinside
      cases h
      exact ⟨by rw [hall, if_neg (by decide)], hpast, hdangling, hintact⟩

end FlagGroup

namespace Reading

variable {reading next : Reading} {letters : List Char} {rest : List Token}

-- A question mark and the letter of a flag open a group of flags.
theorem openExtension_flag {start : Nat} {cursor : Cursor} {c : Char}
    (hc : (Flags.ofLetter? c).isSome) (hnext : cursor.next? = some (.plain c))
    (h : openExtension reading start cursor = .ok next) :
    ∃ past, cursor.skip 1 = .ok past ∧ openFlags reading start (.plain c) past = .ok next := by
  simp only [openExtension, hnext] at h
  obtain ⟨past, hskip, h⟩ := bind_eq_ok.mp h
  refine ⟨past, hskip, ?_⟩
  split at h
  case h_9 => rwa [FlagGroup.flagOf?, hc, Bool.true_or, if_pos rfl] at h
  -- the other characters that have a meaning there are no flags
  all_goals
    rename_i htoken
    cases htoken
    cases hc

-- What a group of flags asks for.
theorem step_flags {ending : Char} (hempty : letters ≠ [])
    (hletters : ∀ c ∈ letters, (Flags.ofLetter? c).isSome) (hending : ending = ')' ∨ ending = ':')
    (hrest : reading.cursor.rest =
      .plain '(' :: .plain '?' :: (letters.map .plain ++ .plain ending :: rest))
    (h : step reading (.plain '(') = .ok next) :
    ∃ start first cursor past group, FlagGroup.read cursor first = .ok (group, past) ∧
      openFlags reading start first cursor = .ok next ∧
      group = (if ending = ')' then .global (.ofLetters letters)
        else .inside (.ofLetters letters) .none) ∧
      past.rest = rest ∧ past.dangling = reading.cursor.dangling ∧
      (past.dangling.isSome → past.rest ≠ []) := by
  obtain ⟨c, letters, rfl⟩ := List.exists_cons_of_ne_nil hempty
  obtain ⟨hc, hletters⟩ := List.forall_mem_cons.mp hletters
  obtain ⟨start, cursor, hcursor, hdangling, h⟩ := step_extension hrest h
  have hnext : cursor.next? = some (.plain c) := by
    rw [Cursor.next?, hcursor]
    rfl
  obtain ⟨past, hskip, h⟩ := openExtension_flag hc hnext h
  obtain ⟨hpast, hdangling', _⟩ := skip_eq_ok hskip
  rw [hcursor] at hpast
  have hopen := h
  obtain ⟨⟨group, last⟩, hread, _⟩ := bind_eq_ok.mp h
  obtain ⟨hgroup, hlast, hdangling'', hintact⟩ :=
    FlagGroup.read_letters hc hletters hending hpast hread
  exact ⟨start, .plain c, past, last, group, hread, hopen, hgroup, hlast,
    hdangling''.trans (hdangling'.trans hdangling), hintact⟩

-- Flags up to a colon are flags of a group that they open.
theorem step_scopedFlags (hempty : letters ≠ [])
    (hletters : ∀ c ∈ letters, (Flags.ofLetter? c).isSome)
    (hrest : reading.cursor.rest =
      .plain '(' :: .plain '?' :: (letters.map .plain ++ .plain ':' :: rest))
    (h : step reading (.plain '(') = .ok next) :
    ∃ cursor start, cursor.rest = rest ∧
      next = reading.openFrame .scope start
        (reading.frame.flags.inside (.ofLetters letters) .none) cursor := by
  obtain ⟨start, first, cursor, past, group, hread, h, rfl, hpast, _, _⟩ :=
    step_flags hempty hletters (.inr rfl) hrest h
  simp only [openFlags] at h
  obtain ⟨_, hsame, h⟩ := bind_eq_ok.mp h
  cases hread.symm.trans hsame
  cases h
  exact ⟨past, start, hpast, rfl⟩

-- Flags up to a parenthesis are flags of the whole pattern.
theorem step_wholeFlags {flags : Flags} {cursor : Cursor} (hempty : letters ≠ [])
    (hletters : ∀ c ∈ letters, (Flags.ofLetter? c).isSome)
    (hrest : cursor.rest = .plain '(' :: .plain '?' :: (letters.map .plain ++ .plain ')' :: rest))
    (h : step (atStart cursor flags) (.plain '(') = .ok next) :
    ∃ past, past.rest = rest ∧ past.dangling = cursor.dangling ∧
      (past.dangling.isSome → past.rest ≠ []) ∧
      next = atStart past (flags.union (.ofLetters letters)) := by
  obtain ⟨start, first, inside, past, group, hread, h, rfl, hpast, hdangling, hintact⟩ :=
    step_flags hempty hletters (.inl rfl) hrest h
  simp only [openFlags] at h
  obtain ⟨_, hsame, h⟩ := bind_eq_ok.mp h
  cases hread.symm.trans hsame
  cases h
  exact ⟨past, hpast, hdangling, hintact, rfl⟩

end Reading

end RecordPattern.Regex
