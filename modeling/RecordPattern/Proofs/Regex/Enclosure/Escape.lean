import RecordPattern.Proofs.Regex.Enclosure.Cursor
import RecordPattern.Regex.CharClass

namespace RecordPattern.Regex

open Outcome Cursor Text

variable {closing : Closing} {inner outer : Cursor}

namespace Escape

theorem hexCode_agree (h : Within closing inner outer) (c : Char)
    (length : Nat) : Agree closing (hexCode inner c length) (hexCode outer c length) := by
  unfold hexCode
  refine .bind _ (takeRun_agree h (by decide) length) ?_
  rintro ⟨digits, after⟩ ⟨_, further⟩ ⟨rfl, hafter⟩
  refine .ite (fun _ => .errorLeft _) fun _ => .ite (fun _ => .errorLeft _) fun _ => ?_
  exact .ite (fun _ => .errorLeft _) fun _ => .ok ⟨rfl, hafter⟩

theorem namedCode_agree (h : Within closing inner outer) :
    Agree closing (namedCode inner) (namedCode outer) := by
  unfold namedCode
  rw [h.nextIs_eq (by decide)]
  cases hbrace : inner.nextIs '\x7b' with
  | false => exact .errorLeft _
  | true =>
      have hnext : inner.next? = some (.plain '\x7b') := of_decide_eq_true hbrace
      refine .bind _ (h.skipNext hnext) fun inside further hinside => ?_
      refine .bind _ (takeName_agree hinside _ _) ?_
      rintro ⟨name, after⟩ ⟨_, last⟩ ⟨rfl, hafter⟩
      simp only
      cases codeOfName? (String.ofList name) with
      | none => exact .errorLeft _
      | some code => exact .ok ⟨rfl, hafter⟩

theorem octalCode_agree (h : Within closing inner outer) (c : Char) (digits : List Char) :
    Agree closing (octalCode inner c digits) (octalCode outer c digits) := by
  unfold octalCode
  exact .ite (fun _ => .errorLeft _) fun _ => .ok ⟨rfl, h⟩

theorem itself_agree (h : Within closing inner outer) (c : Char) :
    Agree closing (itself inner c) (itself outer c) := by
  unfold itself
  exact .ite (fun _ => .errorLeft _) fun _ => .ok ⟨rfl, h⟩

-- An escape of a code by itself is one for both cursors or for none.
theorem sharedCode?_agree (h : Within closing inner outer) (c : Char) :
    (sharedCode? inner c = none ∧ sharedCode? outer c = none) ∨
      ∃ first second, sharedCode? inner c = some first ∧ sharedCode? outer c = some second ∧
        Agree closing first second := by
  unfold sharedCode?
  cases hexLength? c with
  | some length => exact .inr ⟨_, _, rfl, rfl, hexCode_agree h c length⟩
  | none =>
      by_cases hname : c = 'N'
      · exact .inr ⟨_, _, if_pos hname, if_pos hname, namedCode_agree h⟩
      · exact .inl ⟨if_neg hname, if_neg hname⟩

theorem inClass_agree (h : Within closing inner outer) (c : Char) :
    Agree closing (inClass inner c) (inClass outer c) := by
  have hreturn : ∀ {first second : Read (Nat × Cursor)}, Agree closing first second →
      Agree closing (first >>= fun result => pure (ClassItem.code result.1, result.2))
        (second >>= fun result => pure (ClassItem.code result.1, result.2)) := by
    intro first second hread
    refine .bind _ hread ?_
    rintro ⟨code, after⟩ ⟨_, further⟩ ⟨rfl, hafter⟩
    exact .ok ⟨rfl, hafter⟩
  unfold inClass
  split
  · exact .ok ⟨rfl, h⟩
  · exact .ok ⟨rfl, h⟩
  · rcases sharedCode?_agree h c with ⟨hnone, hnone'⟩ | ⟨first, second, hsome, hsome', hread⟩
    · simp only [hnone, hnone']
      split
      · refine .bind _ (takeRun_agree h (by decide) 2) ?_
        rintro ⟨digits, after⟩ ⟨_, further⟩ ⟨rfl, hafter⟩
        exact hreturn (octalCode_agree hafter c digits)
      · split
        · exact .errorLeft _
        · exact hreturn (itself_agree h c)
    · simp only [hsome, hsome']
      exact hreturn hread

end Escape

namespace CharClass

theorem readEnd_agree (h : Within closing inner outer) (token : Token) :
    Agree closing (readEnd inner token) (readEnd outer token) := by
  cases token with
  | plain c => exact .ok ⟨rfl, h⟩
  | escaped c => exact Escape.inClass_agree h c

theorem rangeOf_agree (first last : Token) (low high : ClassItem) :
    Relates (· = ·) (rangeOf inner first last low high) (rangeOf outer first last low high) := by
  unfold rangeOf
  split
  · exact .ite (fun _ => .errorLeft _) fun _ => .ok rfl
  · exact .errorLeft _

-- The parts of a class do not depend on how many tokens there are after it.
theorem readItems_agree (start start' : Nat) (fuel fuel' : Nat)
    (h : Within closing inner outer) (found : List ClassItem) :
    Agree closing (readItems start fuel inner found) (readItems start' fuel' outer found) := by
  induction fuel generalizing fuel' inner outer found with
  | zero => exact .errorLeft _
  | succ fuel ih =>
      cases fuel' with
      | zero => exact .errorRight _
      | succ fuel' =>
          simp only [readItems]
          cases hnext : inner.next? with
          | none => exact .errorLeft _
          | some first =>
              simp only [h.next?_eq hnext]
              refine .bind _ (h.skipNext hnext) fun after further hafter => ?_
              refine .ite (fun _ => .ok ⟨rfl, hafter⟩) fun _ => ?_
              refine .bind _ (readEnd_agree hafter first) ?_
              rintro ⟨low, after⟩ ⟨_, further⟩ ⟨rfl, hafter⟩
              simp only [hafter.nextIs_eq (c := '-') (by decide)]
              cases hdash : after.nextIs '-' with
              | false => exact ih fuel' hafter _
              | true =>
                  have hminus : after.next? = some (.plain '-') := of_decide_eq_true hdash
                  refine .bind _ (hafter.skipNext hminus) fun dash dash' hdash => ?_
                  cases hlast : dash.next? with
                  | none => exact .errorLeft _
                  | some last =>
                      simp only [hdash.next?_eq hlast]
                      refine .bind _ (hdash.skipNext hlast) fun after further hafter => ?_
                      refine .ite (fun _ => .ok ⟨rfl, hafter⟩) fun _ => ?_
                      refine .bind _ (readEnd_agree hafter last) ?_
                      rintro ⟨high, after⟩ ⟨_, further⟩ ⟨rfl, hafter⟩
                      refine .bind _ (rangeOf_agree first last low high) ?_
                      rintro range _ rfl
                      exact ih fuel' hafter _

theorem read_agree (h : Within closing inner outer) (flags : Flags) :
    Agree closing (read inner flags) (read outer flags) := by
  unfold read
  have hcaret := h.nextIs_eq (c := '^') (by decide)
  have hlength : (inner.nextIs '^').toNat ≤ inner.rest.length := by
    cases hnext : inner.nextIs '^' with
    | false => exact Nat.zero_le _
    | true => exact length_pos_of_nextIs hnext
  simp only [hcaret]
  refine .bind _ (h.skip hlength) fun inside further hinside => ?_
  refine .bind _ (readItems_agree _ _ _ _ hinside []) ?_
  rintro ⟨items, after⟩ ⟨_, last⟩ ⟨rfl, hafter⟩
  exact .ok ⟨rfl, hafter⟩

end CharClass

end RecordPattern.Regex
