import RecordPattern.Proofs.Template.Grammar

namespace RecordPattern.Template

open Text

variable {literal inner rest : List Char} {offset start : Nat}

theorem readLiteral_cons {first : Char} (h : ¬(first = '\x7b' ∧ rest.head? = some '\x7b')) :
    readLiteral literal offset (first :: rest) =
      readLiteral (first :: literal) (offset + 1) rest := by
  rw [readLiteral]
  rintro after rfl rfl
  exact h ⟨rfl, rfl⟩

theorem readAction_cons {first : Char} (h : ¬(first = '\x7d' ∧ rest.head? = some '\x7d')) :
    readAction literal start inner (first :: rest) =
      readAction literal start (first :: inner) rest := by
  rw [readAction]
  rintro after rfl rfl
  exact h ⟨rfl, rfl⟩

-- Literal text is read up to the first two opening braces.
theorem readLiteral_append {before : List Char} (hbefore : BeforePair '\x7b' before) :
    readLiteral literal offset (before ++ '\x7b' :: '\x7b' :: rest) =
      readAction (literal.reverse ++ before) (offset + before.length) [] rest := by
  induction before generalizing literal offset with
  | nil => simp [readLiteral]
  | cons first before ih =>
      obtain ⟨hfirst, hbefore⟩ := beforePair_cons.mp hbefore
      have hlength : offset + 1 + before.length = offset + (first :: before).length := by
        rw [List.length_cons]
        omega
      rw [List.cons_append, readLiteral_cons, ih hbefore, hlength]
      · simp
      · cases before <;> simpa using hfirst

theorem readLiteral_of_open {tail : List Char} (htail : ¬['\x7b', '\x7b'] <:+: tail) :
    readLiteral literal offset tail = .ok ⟨[], literal.reverse ++ tail⟩ := by
  induction tail generalizing literal offset with
  | nil => simp [readLiteral]
  | cons first tail ih =>
      rw [pair_infix_cons, not_or] at htail
      rw [readLiteral_cons htail.1, ih htail.2]
      simp

-- An action is read up to the first two closing braces.
theorem readAction_append {before : List Char} (hbefore : BeforePair '\x7d' before) :
    readAction literal start inner (before ++ '\x7d' :: '\x7d' :: rest) =
      readAction literal start (before.reverse ++ inner) ('\x7d' :: '\x7d' :: rest) := by
  induction before generalizing inner with
  | nil => rfl
  | cons first before ih =>
      obtain ⟨hfirst, hbefore⟩ := beforePair_cons.mp hbefore
      rw [List.cons_append, readAction_cons, ih hbefore]
      · simp
      · cases before <;> simpa using hfirst

theorem readAction_of_field {field : String} (hbefore : BeforePair '\x7d' inner)
    (hfield : fieldOf start inner = .ok field) :
    readAction literal start [] (inner ++ '\x7d' :: '\x7d' :: rest) =
      (readLiteral [] (start + inner.length + 4) rest).map
        (cons literal ⟨field, start, start + inner.length + 4⟩) := by
  rw [readAction_append hbefore, readAction]
  simp only [List.append_nil, List.reverse_reverse, hfield, List.length_reverse]

theorem readAction_of_error {error : TemplateError} (hbefore : BeforePair '\x7d' inner)
    (hfield : fieldOf start inner = .error error) :
    readAction literal start [] (inner ++ '\x7d' :: '\x7d' :: rest) = .error error := by
  rw [readAction_append hbefore, readAction]
  simp only [List.append_nil, List.reverse_reverse, hfield]

theorem readAction_of_unclosed (hrest : ¬['\x7d', '\x7d'] <:+: rest) :
    readAction literal start inner rest =
      .error (.unclosed start (String.ofList ('\x7b' :: '\x7b' :: (inner.reverse ++ rest)))) := by
  induction rest generalizing inner with
  | nil => simp [readAction]
  | cons first rest ih =>
      rw [pair_infix_cons, not_or] at hrest
      rw [readAction_cons hrest.1, ih hrest.2]
      simp

theorem fieldOf_inner (start : Nat) (action : Action) :
    fieldOf start action.inner = .ok (String.ofList action.name) := by
  unfold fieldOf
  rw [action.trim_inner]
  simp only [action.name_identifier, if_true]

-- A piece is read as what it is, and reading goes on after it.
theorem readLiteral_piece (piece : Piece) :
    readLiteral [] offset (piece.chars ++ rest) =
      (readLiteral [] (offset + piece.chars.length) rest).map
        (cons piece.literal (piece.placeholder offset)) := by
  have hlength : offset + piece.literal.length + piece.action.inner.length + 4 =
      offset + piece.chars.length := by
    simp [Piece.chars, Action.chars]
    omega
  rw [piece.chars_eq, readLiteral_append piece.beforePair_literal,
    readAction_of_field piece.action.beforePair_inner (fieldOf_inner _ _), hlength]
  rfl

-- Any number of pieces is.
theorem readLiteral_pieces (pieces : List Piece) :
    readLiteral [] offset (pieces.flatMap Piece.chars ++ rest) =
      (readLiteral [] (offset + (pieces.flatMap Piece.chars).length) rest).map fun template =>
        { template with pieces := Piece.cut offset pieces ++ template.pieces } := by
  induction pieces generalizing offset with
  | nil =>
      rw [List.flatMap_nil, List.nil_append, List.length_nil, Nat.add_zero]
      cases readLiteral [] offset rest <;> rfl
  | cons piece pieces ih =>
      rw [List.flatMap_cons, List.append_assoc, readLiteral_piece, ih, List.length_append,
        ← Nat.add_assoc]
      cases readLiteral [] (offset + piece.chars.length + (pieces.flatMap Piece.chars).length) rest <;>
        rfl

theorem Derivation.parseChars_chars (derivation : Derivation) :
    parseChars derivation.chars = .ok derivation.template := by
  unfold parseChars Derivation.chars Derivation.template
  rw [readLiteral_pieces, readLiteral_of_open derivation.tail_open]
  simp [Except.map]

namespace Stuck

variable {stuck : Stuck} {error : TemplateError}

theorem beforePair_literal (stuck : Stuck) : BeforePair '\x7b' stuck.literal :=
  beforePair_iff.mpr ⟨stuck.literal_open, stuck.literal_end⟩

-- A text with the same pieces fails if only reading the action does.
theorem parseChars_opened {rest : List Char}
    (h : ∀ literal, readAction literal stuck.position [] rest = .error error) :
    parseChars (stuck.before ++ '\x7b' :: '\x7b' :: rest) = .error error := by
  unfold position before at h
  rw [List.length_append] at h
  unfold parseChars before
  rw [List.append_assoc, readLiteral_pieces, readLiteral_append stuck.beforePair_literal,
    Nat.zero_add, h]
  rfl

-- What fits is that the action has no end, or what comes of the text up to its end.
theorem Reports.open_or_closed (h : stuck.Reports error) :
    (¬['\x7d', '\x7d'] <:+: stuck.rest ∧
      error = .unclosed stuck.position (String.ofList ('\x7b' :: '\x7b' :: stuck.rest))) ∨
    ∃ inner after, stuck.rest = inner ++ '\x7d' :: '\x7d' :: after ∧ BeforePair '\x7d' inner ∧
      fieldOf stuck.position inner = .error error := by
  unfold fieldOf
  cases h with
  | unclosed hopen => exact Or.inl ⟨hopen, rfl⟩
  | empty hrest hfirst hinner =>
      right
      refine ⟨_, _, hrest, hfirst, ?_⟩
      rw [hinner]
  | unsupported hrest hfirst hinner hdot =>
      right
      refine ⟨_, _, hrest, hfirst, ?_⟩
      rw [hinner]
      simp [hdot]
  | invalidReference hrest hfirst hinner hname =>
      right
      refine ⟨_, _, hrest, hfirst, ?_⟩
      rw [hinner]
      simp [hname]

-- Errors that fit are those that come up.
theorem Reports.parseChars_chars (h : stuck.Reports error) :
    parseChars stuck.chars = .error error := by
  apply Stuck.parseChars_opened
  intro literal
  rcases h.open_or_closed with ⟨hopen, rfl⟩ | ⟨inner, after, hrest, hinner, hfield⟩
  · exact readAction_of_unclosed hopen
  · rw [hrest]
    exact readAction_of_error hinner hfield

-- Some error always fits.
theorem exists_reports (stuck : Stuck) : ∃ error, stuck.Reports error := by
  rcases exists_first_pair '\x7d' stuck.rest with hopen | ⟨inner, after, hrest, hfirst⟩
  · exact ⟨_, .unclosed hopen⟩
  · cases hinner : trim inner with
    | nil => exact ⟨_, .empty hrest hfirst hinner⟩
    | cons first others =>
        by_cases hdot : first = '.'
        · subst hdot
          cases hname : isIdentifier others with
          | false => exact ⟨_, .invalidReference hrest hfirst hinner hname⟩
          | true =>
              obtain ⟨action, rfl, _⟩ := Action.exists_of_trim hinner hname
              refine absurd ⟨after, ?_⟩ (stuck.malformed action)
              simp [Action.chars, hrest]
        · exact ⟨_, .unsupported hrest hfirst hinner hdot⟩

end Stuck

-- Every text is a template or is stuck somewhere. The induction goes from action to action.
theorem exists_derivation_or_stuck (text : List Char) :
    (∃ derivation : Derivation, derivation.chars = text) ∨ ∃ stuck : Stuck, stuck.chars = text := by
  rcases exists_first_pair '\x7b' text with hopen | ⟨literal, rest, htext, hliteral⟩
  · exact Or.inl ⟨⟨[], text, hopen⟩, rfl⟩
  · obtain ⟨hopen, hend⟩ := beforePair_iff.mp hliteral
    by_cases hwell : ∃ action : Action, action.chars <+: '\x7b' :: '\x7b' :: rest
    · obtain ⟨action, after, hafter⟩ := hwell
      have hpiece : (Piece.mk literal action hopen hend).chars ++ after = text := by
        rw [htext, ← hafter, Piece.chars, List.append_assoc]
      have hshorter : after.length < text.length := by
        rw [← hpiece]
        simp [Piece.chars, Action.chars]
        omega
      rcases exists_derivation_or_stuck after with ⟨derivation, hd⟩ | ⟨stuck, hs⟩
      · left
        refine ⟨{ derivation with pieces := ⟨literal, action, hopen, hend⟩ :: derivation.pieces }, ?_⟩
        rw [← hpiece, ← hd]
        simp [Derivation.chars]
      · right
        refine ⟨{ stuck with pieces := ⟨literal, action, hopen, hend⟩ :: stuck.pieces }, ?_⟩
        rw [← hpiece, ← hs]
        simp [Stuck.chars, Stuck.before]
    · refine Or.inr ⟨⟨[], literal, rest, hopen, hend, fun action ha => hwell ⟨action, ha⟩⟩, ?_⟩
      exact htext.symm
termination_by text.length

-- The names of a list without repetition, in the order in which they first occur.
structure FirstSeen (names fields : List String) : Prop where
  nodup : fields.Nodup
  same : ∀ name, name ∈ fields ↔ name ∈ names
  ordered : fields.Pairwise fun first second => names.idxOf first < names.idxOf second

-- Leaving some names out does not change which of two others comes first.
theorem idxOf_lt_of_filter {p : String → Bool} {names : List String} {first second : String}
    (hsecond : p second = true)
    (h : (names.filter p).idxOf first < (names.filter p).idxOf second) :
    names.idxOf first < names.idxOf second := by
  induction names with
  | nil => exact absurd h (by simp)
  | cons name names ih =>
      rw [List.filter_cons] at h
      by_cases hname : name = second
      · subst hname
        rw [if_pos hsecond] at h
        simp at h
      · rw [List.idxOf_cons_ne _ hname]
        by_cases hsame : name = first
        · rw [hsame, List.idxOf_cons_self]
          omega
        · rw [List.idxOf_cons_ne _ hsame]
          have hrest : (names.filter p).idxOf first < (names.filter p).idxOf second := by
            split at h
            · rw [List.idxOf_cons_ne _ hname, List.idxOf_cons_ne _ hsame] at h
              omega
            · exact h
          have := ih hrest
          omega

theorem firstSeen_eraseDups (names : List String) : FirstSeen names names.eraseDups := by
  cases names with
  | nil => exact ⟨by simp, by simp, by simp⟩
  | cons name names =>
      have hshorter : (names.filter fun other => !other == name).length ≤ names.length :=
        List.length_filter_le _ _
      have ih := firstSeen_eraseDups (names.filter fun other => !other == name)
      have hother : ∀ other ∈ (names.filter fun other => !other == name).eraseDups,
          other ≠ name := by
        intro other ho
        rw [List.mem_eraseDups, List.mem_filter] at ho
        simpa using ho.2
      refine ⟨?_, fun _ => List.mem_eraseDups, ?_⟩
      · rw [List.eraseDups_cons, List.nodup_cons]
        exact ⟨fun hmem => hother name hmem rfl, ih.nodup⟩
      · rw [List.eraseDups_cons, List.pairwise_cons]
        refine ⟨fun other ho => ?_, ih.ordered.imp_of_mem fun {first second} hf hs hlt => ?_⟩
        · rw [List.idxOf_cons_self, List.idxOf_cons_ne _ (hother other ho).symm]
          omega
        · rw [List.idxOf_cons_ne _ (hother first hf).symm, List.idxOf_cons_ne _ (hother second hs).symm]
          have := idxOf_lt_of_filter (by simpa using hother second hs) hlt
          omega
termination_by names.length

-- The first of those names that pass a test are the first names that do.
theorem eraseDups_filter (p : String → Bool) (names : List String) :
    (names.filter p).eraseDups = names.eraseDups.filter p := by
  cases names with
  | nil => rfl
  | cons name names =>
      have hshorter : (names.filter fun other => !other == name).length ≤ names.length :=
        List.length_filter_le _ _
      have ih := eraseDups_filter p (names.filter fun other => !other == name)
      rw [List.filter_filter] at ih
      by_cases hname : p name = true
      · rw [List.eraseDups_cons, List.filter_cons_of_pos hname, List.filter_cons_of_pos hname,
          List.eraseDups_cons, List.filter_filter, ← ih]
        simp only [Bool.and_comm]
      · have hsame : (names.filter fun other => p other && !other == name) = names.filter p := by
          apply List.filter_congr
          intro other _
          by_cases hother : other = name
          · subst hother
            simp [hname]
          · simp [hother]
        rw [List.eraseDups_cons, List.filter_cons_of_neg hname, List.filter_cons_of_neg hname, ← ih,
          hsame]
termination_by names.length

-- Between the offsets of a placeholder stands the action it comes from.
theorem Piece.cut_slices (before after : List Char) (pieces : List Piece) :
    List.Forall₂ (fun placeholder piece =>
        placeholder.field = String.ofList piece.action.name ∧
          ((before ++ (pieces.flatMap Piece.chars ++ after)).take placeholder.stop).drop
            placeholder.start = piece.action.chars)
      ((cut before.length pieces).map (·.2)) pieces := by
  induction pieces generalizing before with
  | nil => exact .nil
  | cons piece pieces ih =>
      refine .cons ⟨rfl, ?_⟩ ?_
      · have htext : before ++ ((piece :: pieces).flatMap Piece.chars ++ after) =
            (before ++ piece.chars) ++ (pieces.flatMap Piece.chars ++ after) := by simp
        have hstop : (piece.placeholder before.length).stop = (before ++ piece.chars).length := by
          simp [placeholder]
        have hstart : (piece.placeholder before.length).start =
            (before ++ piece.literal).length := by simp [placeholder]
        rw [htext, hstop, List.take_left, hstart, chars, ← List.append_assoc, List.drop_left]
      · have hnext := ih (before ++ piece.chars)
        rw [List.length_append] at hnext
        simpa using hnext

theorem Piece.cut_fields (offset : Nat) (pieces : List Piece) :
    ((cut offset pieces).map (·.2)).map Placeholder.field =
      pieces.map fun piece => String.ofList piece.action.name := by
  induction pieces generalizing offset with
  | nil => rfl
  | cons piece pieces ih => exact congrArg (_ :: ·) (ih _)

theorem parse_eq_ok_iff {text : String} {template : Template} :
    parse text = .ok template ↔
      ∃ derivation : Derivation, derivation.chars = text.toList ∧
        template = derivation.template := by
  constructor
  · intro h
    rcases exists_derivation_or_stuck text.toList with ⟨derivation, hd⟩ | ⟨stuck, hs⟩
    · refine ⟨derivation, hd, ?_⟩
      rw [parse, ← hd, derivation.parseChars_chars] at h
      exact (Except.ok.inj h).symm
    · obtain ⟨error, hreports⟩ := stuck.exists_reports
      rw [parse, ← hs, hreports.parseChars_chars] at h
      cases h
  · rintro ⟨derivation, hd, rfl⟩
    rw [parse, ← hd, derivation.parseChars_chars]

theorem parse_eq_error_iff {text : String} {error : TemplateError} :
    parse text = .error error ↔
      ∃ stuck : Stuck, stuck.chars = text.toList ∧ stuck.Reports error := by
  constructor
  · intro h
    rcases exists_derivation_or_stuck text.toList with ⟨derivation, hd⟩ | ⟨stuck, hs⟩
    · rw [parse, ← hd, derivation.parseChars_chars] at h
      cases h
    · obtain ⟨other, hreports⟩ := stuck.exists_reports
      rw [parse, ← hs, hreports.parseChars_chars] at h
      cases h
      exact ⟨stuck, hs, hreports⟩
  · rintro ⟨stuck, hs, hreports⟩
    rw [parse, ← hs, hreports.parseChars_chars]

-- Reading a text follows the grammar. A text is a template when it has a derivation, which is then
-- the only one and gives the placeholders with their offsets; otherwise it is stuck, and the error
-- is one that fits where it is.
theorem parse_grammar (text : String) :
    (∀ template, parse text = .ok template ↔
      ∃ derivation : Derivation, derivation.chars = text.toList ∧
        template = derivation.template) ∧
    (∀ first second : Derivation, first.chars = text.toList → second.chars = text.toList →
      first = second) ∧
    (∀ derivation : Derivation, derivation.chars = text.toList →
      List.Forall₂ (fun placeholder piece =>
          placeholder.field = String.ofList piece.action.name ∧
            (text.toList.take placeholder.stop).drop placeholder.start = piece.action.chars)
        derivation.template.placeholders derivation.pieces ∧
      FirstSeen (derivation.pieces.map fun piece => String.ofList piece.action.name)
        derivation.template.fields) ∧
    ∀ error, parse text = .error error ↔
      ∃ stuck : Stuck, stuck.chars = text.toList ∧ error.position = stuck.position ∧
        stuck.Reports error := by
  refine ⟨fun template => parse_eq_ok_iff, fun first second hf hs => ?_, fun derivation hd => ?_,
    fun error => ?_⟩
  · exact Derivation.chars_injective (hf.trans hs.symm)
  · refine ⟨?_, ?_⟩
    · rw [← hd]
      exact Piece.cut_slices [] derivation.tail derivation.pieces
    · have hnames : derivation.template.placeholders.map Placeholder.field = _ :=
        Piece.cut_fields 0 derivation.pieces
      rw [fields, hnames]
      exact firstSeen_eraseDups _
  · have hposition : ∀ stuck : Stuck, stuck.Reports error → error.position = stuck.position := by
      intro stuck hreports
      cases hreports <;> rfl
    rw [parse_eq_error_iff]
    exact exists_congr fun stuck => and_congr_right fun _ =>
      ⟨fun hreports => ⟨hposition stuck hreports, hreports⟩, And.right⟩

-- Of three opening braces the first two open an action, and the third is part of it.
example : parse "\x7b\x7b\x7b.A\x7d\x7d" = .error (.unsupported 0 "\x7b.A") := by decide +kernel

end RecordPattern.Template
