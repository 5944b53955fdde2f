import Mathlib.Data.List.Infix
import RecordPattern.Command.Echo
import RecordPattern.Proofs.Text.Run

namespace RecordPattern.Command

variable {seen text rest plain other sequence : List Char} {c : Char}

-- A character that may stand between the bracket and the letter of a control sequence.
def IsParameter (c : Char) : Prop :=
  (c.isDigit || c = ';' || c = '?') = true

-- A control sequence of the terminal.
def IsSequence (sequence : List Char) : Prop :=
  ∃ parameters letter, sequence = '\x1b' :: '[' :: (parameters ++ [letter]) ∧
    (∀ c ∈ parameters, IsParameter c) ∧ letter.isAlpha = true

-- A text without its control sequences, which are looked for from the left to the right.
inductive Plain : List Char → List Char → Prop
  | nil : Plain [] []
  | sequence {sequence rest plain : List Char} (h : IsSequence sequence) (hrest : Plain rest plain) :
      Plain (sequence ++ rest) plain
  | char {c : Char} {rest plain : List Char}
      (h : ∀ sequence, IsSequence sequence → ¬ sequence <+: c :: rest) (hrest : Plain rest plain) :
      Plain (c :: rest) (c :: plain)

theorem IsParameter.not_isAlpha (h : IsParameter c) : c.isAlpha = false := by
  simp only [IsParameter, Bool.or_eq_true, decide_eq_true_eq] at h
  rcases h with (hdigit | rfl) | rfl
  · cases halpha : c.isAlpha with
    | false => rfl
    | true =>
        have hletter : c.isAlpha = (decide (c.val ≥ 'A'.val ∧ c.val ≤ 'Z'.val) ||
            decide (c.val ≥ 'a'.val) && decide (c.val ≤ 'z'.val)) := rfl
        rw [hletter] at halpha
        simp only [Char.isDigit, Bool.or_eq_true, Bool.and_eq_true, decide_eq_true_eq, ge_iff_le,
          UInt32.le_iff_toNat_le] at hdigit halpha
        change 48 ≤ c.toNat ∧ c.toNat ≤ 57 at hdigit
        change (65 ≤ c.toNat ∧ c.toNat ≤ 90) ∨ (97 ≤ c.toNat ∧ c.toNat ≤ 122) at halpha
        omega
  · rfl
  · rfl

theorem IsParameter.ne_escape (h : IsParameter c) : c ≠ '\x1b' := by
  rintro rfl
  cases h

theorem not_startsWith_sequence (h : c ≠ '\x1b') :
    ∀ sequence, IsSequence sequence → ¬ sequence <+: c :: rest := by
  rintro _ ⟨parameters, letter, rfl, _⟩ hprefix
  exact h (List.cons_prefix_cons.mp hprefix).1.symm

-- Where no escape stands, nothing is removed.
theorem Plain.append (h : '\x1b' ∉ text) (hrest : Plain rest plain) :
    Plain (text ++ rest) (text ++ plain) := by
  induction text with
  | nil => exact hrest
  | cons c text ih =>
      rw [List.mem_cons, not_or] at h
      exact .char (not_startsWith_sequence (Ne.symm h.1)) (ih h.2)

theorem Plain.of_not_mem (h : '\x1b' ∉ text) : Plain text text := by
  have hplain := Plain.append h .nil
  rwa [List.append_nil] at hplain

-- What comes after the bracket decides how long a sequence is.
theorem parameters_unique {first second : List Char} {letter other : Char} {rest more : List Char}
    (hfirst : ∀ c ∈ first, IsParameter c) (hletter : letter.isAlpha = true)
    (hsecond : ∀ c ∈ second, IsParameter c) (hother : other.isAlpha = true)
    (h : first ++ letter :: rest = second ++ other :: more) :
    first = second ∧ letter = other ∧ rest = more := by
  have hrun : ∀ parameters : List Char, (∀ c ∈ parameters, IsParameter c) →
      ∀ c ∈ parameters, (!c.isAlpha) = true := by
    intro parameters hparameters c hc
    rw [(hparameters c hc).not_isAlpha]
    rfl
  exact Text.run_unique (p := fun c => !c.isAlpha) (hrun first hfirst) (by simp [hletter])
    (hrun second hsecond) (by simp [hother]) h

theorem IsSequence.unique {first second more : List Char} (hfirst : IsSequence first)
    (hsecond : IsSequence second) (h : first ++ rest = second ++ more) : rest = more := by
  obtain ⟨parameters, letter, rfl, hparameters, hletter⟩ := hfirst
  obtain ⟨others, other, rfl, hothers, hother⟩ := hsecond
  simp only [List.cons_append, List.append_assoc, List.nil_append, List.cons.injEq, true_and] at h
  exact (parameters_unique hparameters hletter hothers hother h).2.2

-- A text has one plain form.
theorem Plain.unique (h : Plain text plain) (hother : Plain text other) : plain = other := by
  induction h generalizing other with
  | nil =>
      generalize htext : [] = text at hother
      cases hother with
      | nil => rfl
      | sequence h _ =>
          obtain ⟨_, _, rfl, _⟩ := h
          cases htext
      | char => cases htext
  | @sequence first rest plain h _ ih =>
      generalize htext : first ++ rest = text at hother
      cases hother with
      | nil =>
          obtain ⟨_, _, rfl, _⟩ := h
          cases htext
      | sequence hsecond hrest =>
          cases h.unique hsecond htext
          exact ih hrest
      | char hnone => exact absurd (htext ▸ List.prefix_append first rest) (hnone first h)
  | @char c rest plain hnone _ ih =>
      generalize htext : c :: rest = text at hother
      cases hother with
      | nil => cases htext
      | @sequence second more _ h _ =>
          exact absurd (htext ▸ List.prefix_append second more) (hnone second h)
      | char _ hrest =>
          obtain ⟨rfl, rfl⟩ := List.cons.inj htext
          rw [ih hrest]

-- What has been seen, in reverse, of a sequence that is not at its end yet.
inductive Begun : List Char → Prop
  | nil : Begun []
  | escape : Begun ['\x1b']
  | bracket {parameters : List Char} (h : ∀ c ∈ parameters, IsParameter c) :
      Begun (parameters ++ ['[', '\x1b'])

theorem goesOn_bracket (parameters : List Char) (c : Char) :
    goesOn (parameters ++ ['[', '\x1b']) c = true ↔ IsParameter c := by
  cases parameters with
  | nil => exact Iff.rfl
  | cons first more => cases more <;> exact Iff.rfl

theorem Begun.cons (h : Begun seen) (hc : goesOn seen c = true) : Begun (c :: seen) := by
  cases h with
  | nil =>
      obtain rfl := of_decide_eq_true hc
      exact .escape
  | escape =>
      obtain rfl := of_decide_eq_true hc
      exact Begun.bracket (List.forall_mem_nil IsParameter)
  | @bracket parameters h =>
      have hparameter := (goesOn_bracket parameters c).mp hc
      exact Begun.bracket (List.forall_mem_cons.mpr ⟨hparameter, h⟩)

theorem Begun.isSequence (h : Begun seen) (hc : endsSequence seen c = true) :
    IsSequence (seen.reverse ++ [c]) := by
  simp only [endsSequence, Bool.and_eq_true, decide_eq_true_eq] at hc
  obtain ⟨hlength, halpha⟩ := hc
  cases h with
  | nil => cases hlength
  | escape => cases hlength with | step h => cases h
  | @bracket parameters h =>
      refine ⟨parameters.reverse, c, by simp, ?_, halpha⟩
      exact fun d hd => h d (List.mem_reverse.mp hd)

theorem endsSequence_of_isAlpha {parameters : List Char} (h : c.isAlpha = true) :
    endsSequence (parameters ++ ['[', '\x1b']) c = true := by
  simp [endsSequence, h]

-- If parameters begin a longer sequence, the text after them continues it.
theorem exists_continuation {first second : List Char} {letter : Char} {more : List Char}
    (hfirst : ∀ c ∈ first, IsParameter c) (hletter : letter.isAlpha = true)
    (hsecond : ∀ c ∈ second, IsParameter c) (h : first ++ letter :: more = second ++ rest) :
    ∃ c, rest.head? = some c ∧ (IsParameter c ∨ c.isAlpha = true) := by
  induction second generalizing first with
  | nil =>
      rw [List.nil_append] at h
      subst h
      cases first with
      | nil => exact ⟨letter, rfl, Or.inr hletter⟩
      | cons c first => exact ⟨c, rfl, Or.inl (hfirst c List.mem_cons_self)⟩
  | cons d second ih =>
      obtain ⟨hd, hsecond⟩ := List.forall_mem_cons.mp hsecond
      cases first with
      | nil =>
          obtain ⟨rfl, _⟩ := List.cons.inj h
          cases hletter.symm.trans hd.not_isAlpha
      | cons c first => exact ih (List.forall_mem_cons.mp hfirst).2 hsecond (List.cons.inj h).2

-- A sequence that breaks off is kept.
theorem Begun.keeps (h : Begun seen) (hrest : Plain rest plain)
    (hbreak : ∀ c, rest.head? = some c → goesOn seen c = false ∧ endsSequence seen c = false) :
    Plain (seen.reverse ++ rest) (seen.reverse ++ plain) := by
  cases h with
  | nil => exact hrest
  | escape =>
      refine .char ?_ hrest
      rintro _ ⟨parameters, letter, rfl, _⟩ ⟨more, hmore⟩
      obtain ⟨_, hmore⟩ := List.cons.inj hmore
      subst hmore
      cases (hbreak '[' rfl).1
  | @bracket parameters h =>
      have hreverse : ∀ c ∈ parameters.reverse, IsParameter c :=
        fun c hc => h c (List.mem_reverse.mp hc)
      have hno : '\x1b' ∉ '[' :: parameters.reverse := by
        rw [List.mem_cons, not_or]
        exact ⟨by decide, fun hmem => (hreverse _ hmem).ne_escape rfl⟩
      rw [List.reverse_append]
      refine .char ?_ (Plain.append hno hrest)
      rintro _ ⟨others, letter, rfl, hothers, hletter⟩ ⟨more, hmore⟩
      have hsame : others ++ letter :: more = parameters.reverse ++ rest := by simpa using hmore
      obtain ⟨c, hc, hcontinues⟩ := exists_continuation hothers hletter hreverse hsame
      obtain ⟨hstays, hends⟩ := hbreak c hc
      rcases hcontinues with hparameter | halpha
      · cases hstays.symm.trans ((goesOn_bracket parameters c).mpr hparameter)
      · cases hends.symm.trans (endsSequence_of_isAlpha halpha)

-- What is printed is the plain form of a text.
theorem plain_plainChars (h : Begun seen) (rest : List Char) :
    Plain (seen.reverse ++ rest) (plainChars seen rest) := by
  induction rest generalizing seen with
  | nil =>
      rw [plainChars]
      simpa using h.keeps .nil fun _ hc => by cases hc
  | cons c rest ih =>
      rw [plainChars]
      split
      next hends =>
        rw [List.append_cons]
        exact .sequence (h.isSequence hends) (ih .nil)
      next hends =>
        split
        next hgoes => simpa using ih (h.cons hgoes)
        next hgoes =>
          have hbreak : ∀ d, (c :: rest).head? = some d →
              goesOn seen d = false ∧ endsSequence seen d = false := by
            intro d hd
            cases hd
            exact ⟨eq_false_of_ne_true hgoes, eq_false_of_ne_true hends⟩
          split
          next hescape =>
            obtain rfl := of_decide_eq_true hescape
            exact h.keeps (ih .escape) hbreak
          next hescape =>
            have hne : c ≠ '\x1b' := fun heq => hescape (decide_eq_true heq)
            exact h.keeps (.char (not_startsWith_sequence hne) (ih .nil)) hbreak

theorem Plain.append_lineFeed (h : Plain text plain) : Plain (text ++ ['\n']) (plain ++ ['\n']) := by
  induction h with
  | nil => exact .of_not_mem (by decide)
  | sequence h _ ih =>
      rw [List.append_assoc]
      exact .sequence h ih
  | @char c rest plain hnone _ ih =>
      refine .char (fun sequence h hprefix => ?_) ih
      rw [show c :: rest.append ['\n'] = (c :: rest) ++ ['\n'] from rfl,
        List.prefix_concat_iff] at hprefix
      rcases hprefix with hwhole | hprefix
      · obtain ⟨parameters, letter, rfl, _, hletter⟩ := h
        rw [← List.cons_append, ← List.cons_append] at hwhole
        obtain ⟨_, hlast⟩ := List.append_inj' hwhole rfl
        cases hlast
        cases hletter
      · exact hnone sequence h hprefix

-- A message is printed in its plain form, on a line of its own.
theorem echo_of_plain {message : String} (h : Plain message.toList plain) :
    echo message = String.ofList plain ++ "\n" := by
  have hplain : plainChars [] (message.toList ++ ['\n']) = plain ++ ['\n'] :=
    (plain_plainChars .nil _).unique h.append_lineFeed
  rw [echo, String.toList_append]
  exact (congrArg String.ofList hplain).trans String.ofList_append

example : echo "\x1b[1mbold\x1b[" = "bold\x1b[\n" := by decide

end RecordPattern.Command
