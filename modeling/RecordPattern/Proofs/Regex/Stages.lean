import RecordPattern.Proofs.Regex.Cursor
import RecordPattern.Proofs.Regex.Reading
import RecordPattern.Proofs.Text.Identifier

namespace RecordPattern.Regex

open Outcome Text

namespace Reading

-- The states that a reading passes through, each before a part of the pattern.
def stages : Nat → Reading → List Reading
  | 0, reading => [reading]
  | fuel + 1, reading =>
    reading :: match reading.cursor.next? with
      | none => []
      | some token =>
        if token = .plain ')' && reading.outer.isEmpty then []
        else match step reading token with
          | .ok next => stages fuel next
          | .error _ => []

variable {reading stage next final : Reading} {fuel : Nat}

-- From every stage on, reading goes on to the same end.
theorem run_of_mem_stages (hstage : stage ∈ stages fuel reading)
    (hrun : run fuel reading = .ok final) : ∃ left, run left stage = .ok final := by
  induction fuel generalizing reading with
  | zero =>
      rw [stages, List.mem_singleton] at hstage
      exact ⟨0, hstage ▸ hrun⟩
  | succ fuel ih =>
      rcases List.mem_cons.mp hstage with rfl | hstage
      · exact ⟨fuel + 1, hrun⟩
      · unfold run at hrun
        cases hnext : reading.cursor.next? with
        | none => simp [hnext] at hstage
        | some token =>
            simp only [hnext] at hstage hrun
            split at hstage
            · cases hstage
            next hopen =>
              rw [if_neg hopen] at hrun
              cases hstep : step reading token with
              | error error => simp [hstep] at hstage
              | ok next =>
                  simp only [hstep] at hstage hrun
                  exact ih hstage hrun

-- The stages after a step are stages.
theorem mem_stages_of_step {token : Token} (hnext : reading.cursor.next? = some token)
    (hopen : ¬(token = .plain ')' && reading.outer.isEmpty) = true)
    (hstep : step reading token = .ok next) (hstage : stage ∈ stages fuel next) :
    stage ∈ stages (fuel + 1) reading := by
  rw [stages, hnext]
  simp only [if_neg hopen, hstep]
  exact List.mem_cons_of_mem _ hstage

theorem isIdentifierPart_ne {name : List Char} (h : isIdentifier name = true) {c : Char}
    (hc : isIdentifierPart c = false) : ∀ d ∈ name, d ≠ c := by
  rintro d hd rfl
  rw [isIdentifierPart_of_mem h d hd] at hc
  cases hc

-- A parenthesis with a question mark after it is read as an extension.
theorem step_extension {rest : List Token}
    (hrest : reading.cursor.rest = .plain '(' :: .plain '?' :: rest)
    (h : step reading (.plain '(') = .ok next) :
    ∃ start cursor, cursor.rest = rest ∧ cursor.dangling = reading.cursor.dangling ∧
      openExtension reading start cursor = .ok next := by
  obtain ⟨first, hfirst, h⟩ := bind_eq_ok.mp h
  obtain ⟨hrest₁, hdangling₁, _⟩ := Cursor.skip_eq_ok hfirst
  rw [hrest, List.drop_one, List.tail_cons] at hrest₁
  rw [if_neg (by simp [isMark]), if_neg (by simp)] at h
  have hquestion : first.nextIs '?' = true := by simp [Cursor.nextIs, Cursor.next?, hrest₁]
  simp only [openGroup, hquestion, if_true] at h
  obtain ⟨second, hsecond, h⟩ := bind_eq_ok.mp h
  obtain ⟨hrest₂, hdangling₂, _⟩ := Cursor.skip_eq_ok hsecond
  rw [hrest₁, List.drop_one, List.tail_cons] at hrest₂
  exact ⟨_, second, hrest₂, hdangling₂.trans hdangling₁, h⟩

-- A named group that is read opens the next group under its name.
theorem step_openNamed {name : List Char} {rest : List Token} (hname : isIdentifier name = true)
    (hrest : reading.cursor.rest = .plain '(' :: .plain '?' :: .plain 'P' :: .plain '<' ::
      (name.map .plain ++ .plain '>' :: rest))
    (h : step reading (.plain '(') = .ok next) :
    ∃ cursor start, cursor.rest = rest ∧ cursor.dangling = reading.cursor.dangling ∧
      (cursor.dangling.isSome → cursor.rest ≠ []) ∧
      next = openFrame { reading with groups := reading.groups.opened (some (String.ofList name)) }
        (.capture (reading.groups.count + 1)) start reading.frame.flags cursor := by
  obtain ⟨start, first, hrest₁, hdangling₁, h⟩ := step_extension hrest h
  simp only [openExtension, Cursor.next?, hrest₁, List.head?_cons] at h
  obtain ⟨second, hsecond, h⟩ := bind_eq_ok.mp h
  obtain ⟨hrest₂, hdangling₂, _⟩ := Cursor.skip_eq_ok hsecond
  rw [hrest₁, List.drop_one, List.tail_cons] at hrest₂
  simp only [openNamed, Cursor.next?, hrest₂, List.head?_cons, if_true] at h
  obtain ⟨third, hthird, h⟩ := bind_eq_ok.mp h
  obtain ⟨hrest₃, hdangling₃, _⟩ := Cursor.skip_eq_ok hthird
  rw [hrest₂, List.drop_one, List.tail_cons] at hrest₃
  obtain ⟨⟨given, last⟩, hgiven, h⟩ := bind_eq_ok.mp h
  obtain ⟨⟨word, after⟩, hword, hgiven⟩ := bind_eq_ok.mp hgiven
  -- the name stops at the first angle bracket, which is the one after it
  have hplain : ∀ token ∈ name.map Token.plain, token ≠ .plain '>' := by
    intro token ht
    obtain ⟨c, hc, rfl⟩ := List.mem_map.mp ht
    exact fun he => isIdentifierPart_ne hname (by decide) c hc (Token.plain.inj he)
  obtain ⟨taken, left, hsplit, htaken, rfl, hrest₄, hdangling₄, hintact⟩ :=
    Cursor.takeName_eq_ok hword
  obtain ⟨rfl, rfl⟩ := Cursor.split_unique hplain htaken (hrest₃.symm.trans hsplit)
  simp only [Token.textOf_map_plain, hname, if_true] at hgiven
  cases hgiven
  simp only [openCapture, Option.bind_some] at h
  split at h
  · cases h
  · cases h
    exact ⟨last, start, hrest₄,
      hdangling₄.trans (hdangling₃.trans (hdangling₂.trans hdangling₁)), hintact, rfl⟩

-- Reading goes on from a stage before an opening parenthesis by a step.
theorem run_of_open {rest : List Token} {left : Nat} {regex : Regex}
    (hrest : reading.cursor.rest = .plain '(' :: rest) (hrun : run left reading = .ok final)
    (hends : final.Ends regex) :
    ∃ next fewer, step reading (.plain '(') = .ok next ∧ run fewer next = .ok final ∧
      left = fewer + 1 := by
  cases left with
  | zero =>
      cases hrun
      have hempty := hends.rest
      rw [hrest] at hempty
      cases hempty
  | succ fewer =>
      unfold run at hrun
      simp only [Cursor.next?, hrest, List.head?_cons] at hrun
      rw [if_neg (by simp)] at hrun
      obtain ⟨next, hstep, hrun⟩ := bind_eq_ok.mp hrun
      exact ⟨next, fewer, hstep, hrun, rfl⟩

end Reading

-- The rest of a pattern is come to as a part of it, and not inside a class, an escape or a comment.
def Reaches (pattern : String) (flags : Nat) (rest : List Char) : Prop :=
  ∃ cursor, Cursor.ofPattern pattern.toList = .ok cursor ∧
    ∃ stage ∈ (Reading.atStart cursor (.ofBits flags)).stages (cursor.rest.length + 1),
      stage.cursor.rest = (Token.ofChars rest).1

instance {pattern : String} {flags : Nat} {rest : List Char} :
    Decidable (Reaches pattern flags rest) := by
  unfold Reaches
  infer_instance

-- A named group that is come to as a part of a pattern is a group of the compiled pattern.
theorem name_mem_of_reaches {pattern : String} {flags : Nat} {regex : Regex} {name rest : List Char}
    (h : compile pattern flags = .ok regex) (hname : isIdentifier name = true)
    (hreaches : Reaches pattern flags ('(' :: '?' :: 'P' :: '<' :: (name ++ '>' :: rest))) :
    String.ofList name ∈ regex.names.map Prod.fst := by
  obtain ⟨cursor, final, hcursor, hrun, hends⟩ := compile_ends h
  obtain ⟨same, hsame, stage, hstage, hrest⟩ := hreaches
  cases hcursor.symm.trans hsame
  have hplain : ∀ c ∈ name, c ≠ '\\' := Reading.isIdentifierPart_ne hname (by decide)
  simp only [Token.ofChars_cons (show '(' ≠ '\\' by decide), Token.ofChars_append hplain,
    Token.ofChars_cons (show '?' ≠ '\\' by decide), Token.ofChars_cons (show 'P' ≠ '\\' by decide),
    Token.ofChars_cons (show '<' ≠ '\\' by decide),
    Token.ofChars_cons (show '>' ≠ '\\' by decide)] at hrest
  obtain ⟨left, hleft⟩ := Reading.run_of_mem_stages hstage hrun
  obtain ⟨next, fewer, hstep, hrun, _⟩ := Reading.run_of_open hrest hleft hends
  obtain ⟨after, start, _, _, _, rfl⟩ := Reading.step_openNamed hname hrest hstep
  rw [hends.regex_eq]
  refine Reading.run_names fewer ?_ final hrun
  simp [Reading.openFrame, Groups.opened]

end RecordPattern.Regex
