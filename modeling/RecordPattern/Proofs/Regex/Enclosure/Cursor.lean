import RecordPattern.Proofs.Regex.Cursor

namespace RecordPattern.Regex

open Outcome

-- What may follow a pattern that stands inside of groups: it begins with a closing parenthesis,
-- which a backslash may make plain, and it has no line break.
structure Closing where
  tokens : List Token
  head : ∀ c, tokens.head? = some (.plain c) → c = ')'
  noBreak : .plain '\n' ∉ tokens

namespace Cursor

-- One cursor has the tokens of another before it, and then more. A backslash at the end of the
-- inner pattern would take the parenthesis after it.
structure Within (closing : Closing) (inner outer : Cursor) : Prop where
  rest : outer.rest = inner.rest ++ closing.tokens
  intact : inner.dangling.isSome → inner.rest ≠ []
  dangling : inner.dangling.isSome ∨ closing.tokens.head? = some (.plain ')')

-- Two computations read the same, and from there the one still has what is left of the other.
abbrev Agree {α : Type} (closing : Closing) (first second : Read (α × Cursor)) : Prop :=
  Relates (fun result other => result.1 = other.1 ∧ Within closing result.2 other.2) first second

variable {closing : Closing} {inner outer : Cursor}

theorem length_pos_of_next? {token : Token} (hnext : inner.next? = some token) :
    1 ≤ inner.rest.length := by
  obtain ⟨rest, hrest⟩ := List.head?_eq_some_iff.mp hnext
  simp [hrest]

theorem length_pos_of_nextIs {c : Char} (h : inner.nextIs c = true) : 1 ≤ inner.rest.length :=
  length_pos_of_next? (of_decide_eq_true h : inner.next? = some (.plain c))

namespace Within

theorem next?_eq (h : Within closing inner outer) {token : Token} (hnext : inner.next? = some token) :
    outer.next? = some token := by
  rw [next?, h.rest, List.head?_append_of_ne_nil]
  · exact hnext
  · rintro hempty
    simp [next?, hempty] at hnext

-- A character that does not close a group is next to both cursors or to none.
theorem nextIs_eq (h : Within closing inner outer) {c : Char}
    (hc : c ≠ ')') : outer.nextIs c = inner.nextIs c := by
  cases hnext : inner.next? with
  | some token => simp only [nextIs, h.next?_eq hnext, hnext]
  | none =>
      have hempty : inner.rest = [] := List.head?_eq_none_iff.mp hnext
      have hhead : closing.tokens.head? ≠ some (.plain c) := fun he => hc (closing.head c he)
      simp [nextIs, next?, h.rest, hempty, hhead]

theorem skip (h : Within closing inner outer) {count : Nat} (hcount : count ≤ inner.rest.length) :
    Relates (Within closing) (inner.skip count) (outer.skip count) := by
  intro after further hafter hfurther
  obtain ⟨hrest, hdangling, hintact⟩ := skip_eq_ok hafter
  obtain ⟨hlast, _⟩ := skip_eq_ok hfurther
  refine ⟨?_, fun hsome => ?_, hdangling ▸ h.dangling⟩
  · rw [hlast, hrest, h.rest, List.drop_append_of_le_length hcount]
  · rcases Nat.eq_zero_or_pos count with rfl | hpos
    · rw [hrest, List.drop_zero]
      exact h.intact (hdangling ▸ hsome)
    · exact hintact hpos hsome

-- A token that is next to the inner cursor is skipped by both.
theorem skipNext (h : Within closing inner outer) {token : Token}
    (hnext : inner.next? = some token) :
    Relates (Within closing) (inner.skip 1) (outer.skip 1) :=
  h.skip (length_pos_of_next? hnext)

end Within

theorem plainRun_length_le (accept : Char → Bool) (limit : Nat) (tokens : List Token) :
    (plainRun accept limit tokens).length ≤ tokens.length := by
  induction limit generalizing tokens with
  | zero => simp [plainRun]
  | succ limit ih =>
      cases tokens with
      | nil => simp [plainRun]
      | cons token rest =>
          cases token with
          | escaped c => simp [plainRun]
          | plain c =>
              rw [plainRun]
              split
              · exact Nat.succ_le_succ (ih rest)
              · exact Nat.zero_le _

-- A run of characters ends before what closes the groups around it.
theorem plainRun_append {accept : Char → Bool} (haccept : accept ')' = false) (limit : Nat)
    (tokens : List Token) :
    plainRun accept limit (tokens ++ closing.tokens) = plainRun accept limit tokens := by
  induction limit generalizing tokens with
  | zero => simp [plainRun]
  | succ limit ih =>
      cases tokens with
      | nil =>
          have hhead := closing.head
          revert hhead
          rcases closing.tokens with _ | ⟨token | token, rest⟩ <;> intro hhead
          · rfl
          · simp [plainRun, hhead token rfl, haccept]
          · simp [plainRun]
      | cons token rest =>
          cases token with
          | escaped c => simp [plainRun]
          | plain c => simp only [List.cons_append, plainRun, ih]

theorem plainRun_eq_of_le (accept : Char → Bool) {limit : Nat} {tokens : List Token}
    (hlimit : tokens.length ≤ limit) :
    plainRun accept limit tokens = plainRun accept tokens.length tokens := by
  induction tokens generalizing limit with
  | nil => simp [plainRun]
  | cons token rest ih =>
      obtain ⟨limit, rfl⟩ := Nat.exists_eq_add_of_le' (Nat.le_trans (Nat.succ_pos _) hlimit)
      cases token with
      | escaped c => simp [plainRun]
      | plain c => rw [plainRun, ih (Nat.le_of_succ_le_succ hlimit), List.length_cons, plainRun]

-- All digits that come next, however many tokens follow.
theorem digits_append (closing : Closing) {limit limit' : Nat} {tokens : List Token}
    (hlimit : tokens.length ≤ limit) (hlimit' : tokens.length ≤ limit') :
    plainRun Char.isDigit limit' (tokens ++ closing.tokens) = plainRun Char.isDigit limit tokens := by
  rw [plainRun_append (by decide), plainRun_eq_of_le _ hlimit, plainRun_eq_of_le _ hlimit']

theorem head?_append (closing : Closing) (tokens : List Token) {c : Char} (hc : c ≠ ')') :
    ((tokens ++ closing.tokens).head? = some (.plain c)) = (tokens.head? = some (.plain c)) := by
  cases tokens with
  | nil => simpa using fun hhead => hc (closing.head c hhead)
  | cons token rest => rfl

theorem takeRun_eq_ok {cursor after : Cursor} {limit : Nat} {accept : Char → Bool}
    {run : List Char} (h : cursor.takeRun limit accept = .ok (run, after)) :
    run = plainRun accept limit cursor.rest ∧ cursor.skip run.length = .ok after := by
  obtain ⟨last, hskip, h⟩ := bind_eq_ok.mp h
  cases h
  exact ⟨rfl, hskip⟩

theorem takeRun_agree (h : Within closing inner outer) {accept : Char → Bool}
    (haccept : accept ')' = false) (limit : Nat) :
    Agree closing (inner.takeRun limit accept) (outer.takeRun limit accept) := by
  unfold takeRun
  simp only [h.rest, plainRun_append haccept]
  refine .bind _ (h.skip (plainRun_length_le _ _ _)) fun after further hafter => ?_
  exact .ok ⟨rfl, hafter⟩

-- A name that is read ends before what closes the groups around it.
theorem takeName_agree (h : Within closing inner outer) (terminator : Char) (what : String) :
    Agree closing (inner.takeName terminator what) (outer.takeName terminator what) := by
  rintro ⟨name, after⟩ ⟨other, further⟩ hname hother
  obtain ⟨taken, rest, hsplit, htaken, rfl, hrest, hdangling, hintact⟩ := takeName_eq_ok hname
  obtain ⟨taken', rest', hsplit', htaken', rfl, hrest', _, _⟩ := takeName_eq_ok hother
  rw [h.rest, hsplit, List.append_assoc, List.cons_append] at hsplit'
  obtain ⟨rfl, rfl⟩ := split_unique htaken htaken' hsplit'
  exact ⟨rfl, by rw [hrest, hrest'], hintact, hdangling ▸ h.dangling⟩

end Cursor

end RecordPattern.Regex
