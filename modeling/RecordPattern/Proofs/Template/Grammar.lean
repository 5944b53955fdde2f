import RecordPattern.Proofs.Outcome
import RecordPattern.Proofs.Text.Identifier
import RecordPattern.Proofs.Text.Pair
import RecordPattern.Proofs.Text.Run
import RecordPattern.Proofs.Text.Trim
import RecordPattern.Template.Template

namespace RecordPattern.Template

open Text

-- A well-formed action: between the braces, a dot and an identifier with blanks around them.
structure Action where
  lead : List Char
  name : List Char
  trail : List Char
  lead_blank : ∀ c ∈ lead, isBlank c = true
  name_identifier : isIdentifier name = true
  trail_blank : ∀ c ∈ trail, isBlank c = true

namespace Action

def inner (action : Action) : List Char :=
  action.lead ++ '.' :: action.name ++ action.trail

def chars (action : Action) : List Char :=
  '\x7b' :: '\x7b' :: (action.inner ++ ['\x7d', '\x7d'])

end Action

-- Literal text with the action after it. The two opening braces are those of the action: none
-- stand in the literal text, and it does not end in one.
structure Piece where
  literal : List Char
  action : Action
  literal_open : ¬['\x7b', '\x7b'] <:+: literal
  literal_end : literal.getLast? ≠ some '\x7b'

namespace Piece

def chars (piece : Piece) : List Char :=
  piece.literal ++ piece.action.chars

-- The reference that the action of a piece makes when the piece begins at an offset.
def placeholder (piece : Piece) (offset : Nat) : Placeholder :=
  ⟨String.ofList piece.action.name, offset + piece.literal.length, offset + piece.chars.length⟩

-- Pieces that follow one another from an offset on.
def cut : Nat → List Piece → List (List Char × Placeholder)
  | _, [] => []
  | offset, piece :: rest =>
    (piece.literal, piece.placeholder offset) :: cut (offset + piece.chars.length) rest

end Piece

-- A text that is a template: pieces one after another, and literal text at the end.
structure Derivation where
  pieces : List Piece
  tail : List Char
  tail_open : ¬['\x7b', '\x7b'] <:+: tail

namespace Derivation

def chars (derivation : Derivation) : List Char :=
  derivation.pieces.flatMap Piece.chars ++ derivation.tail

def template (derivation : Derivation) : Template :=
  ⟨Piece.cut 0 derivation.pieces, derivation.tail⟩

end Derivation

-- A text that is none: after some pieces, two braces open what is no well-formed action.
structure Stuck where
  pieces : List Piece
  literal : List Char
  rest : List Char
  literal_open : ¬['\x7b', '\x7b'] <:+: literal
  literal_end : literal.getLast? ≠ some '\x7b'
  malformed : ∀ action : Action, ¬action.chars <+: '\x7b' :: '\x7b' :: rest

namespace Stuck

-- The text before the braces.
def before (stuck : Stuck) : List Char :=
  stuck.pieces.flatMap Piece.chars ++ stuck.literal

def chars (stuck : Stuck) : List Char :=
  stuck.before ++ '\x7b' :: '\x7b' :: stuck.rest

def position (stuck : Stuck) : Nat :=
  stuck.before.length

-- The errors that fit. Without two closing braces after the opening ones the action is unclosed;
-- else what stands before the first two of them, without the blanks around it, is at fault.
inductive Reports (stuck : Stuck) : TemplateError → Prop
  | unclosed (hopen : ¬['\x7d', '\x7d'] <:+: stuck.rest) :
      Reports stuck (.unclosed stuck.position (String.ofList ('\x7b' :: '\x7b' :: stuck.rest)))
  | empty {inner after : List Char} (hrest : stuck.rest = inner ++ '\x7d' :: '\x7d' :: after)
      (hfirst : BeforePair '\x7d' inner) (hinner : trim inner = []) :
      Reports stuck (.empty stuck.position)
  | unsupported {inner after : List Char} {first : Char} {others : List Char}
      (hrest : stuck.rest = inner ++ '\x7d' :: '\x7d' :: after)
      (hfirst : BeforePair '\x7d' inner) (hinner : trim inner = first :: others)
      (hdot : first ≠ '.') :
      Reports stuck (.unsupported stuck.position (String.ofList (trim inner)))
  | invalidReference {inner after name : List Char}
      (hrest : stuck.rest = inner ++ '\x7d' :: '\x7d' :: after)
      (hfirst : BeforePair '\x7d' inner) (hinner : trim inner = '.' :: name)
      (hname : isIdentifier name = false) :
      Reports stuck (.invalidReference stuck.position (String.ofList (trim inner)))

end Stuck

namespace Action

variable {action : Action}

-- What stands between blanks in an action has no blanks itself.
theorem word_not_blank (action : Action) : ∀ c ∈ '.' :: action.name, isBlank c = false := by
  refine List.forall_mem_cons.mpr ⟨by decide, fun c hc => ?_⟩
  exact isBlank_eq_false_of_isIdentifierPart (isIdentifierPart_of_mem action.name_identifier c hc)

theorem trim_inner (action : Action) : trim action.inner = '.' :: action.name :=
  trim_append action.lead_blank action.word_not_blank (by simp) action.trail_blank

theorem not_mem_inner_brace (action : Action) : '\x7d' ∉ action.inner := by
  have hblank : isBlank '\x7d' = false := by decide
  unfold inner
  simp only [List.mem_append, List.mem_cons, not_or]
  refine ⟨⟨fun h => ?_, by decide, fun h => ?_⟩, fun h => ?_⟩
  · rw [action.lead_blank _ h] at hblank
    cases hblank
  · have hpart := isIdentifierPart_of_mem action.name_identifier _ h
    rw [not_isIdentifierPart_brace] at hpart
    cases hpart
  · rw [action.trail_blank _ h] at hblank
    cases hblank

-- So the first two closing braces after an action has begun are those that end it.
theorem beforePair_inner (action : Action) : BeforePair '\x7d' action.inner := by
  have hnot := action.not_mem_inner_brace
  rw [beforePair_iff]
  refine ⟨fun h => hnot (h.subset (by simp)), fun h => hnot (List.mem_of_getLast? h)⟩

-- What is left of an action's inside is a dot and an identifier only if the action is well-formed.
theorem exists_of_trim {inner name : List Char} (h : trim inner = '.' :: name)
    (hname : isIdentifier name = true) :
    ∃ action : Action, action.inner = inner ∧ action.name = name := by
  obtain ⟨lead, trail, hinner, hlead, htrail⟩ := exists_trim inner
  rw [h] at hinner
  exact ⟨⟨lead, name, trail, hlead, hname, htrail⟩, hinner.symm, rfl⟩

theorem takeWhile_inner (action : Action) : action.inner.takeWhile isBlank = action.lead := by
  have hdot : isBlank '.' = false := by decide
  unfold inner
  rw [List.append_assoc, List.cons_append]
  exact takeWhile_until action.lead_blank hdot _

theorem inner_injective {first second : Action} (h : first.inner = second.inner) :
    first = second := by
  have hword : '.' :: first.name = '.' :: second.name := by
    rw [← first.trim_inner, ← second.trim_inner, h]
  have hlead : first.lead = second.lead := by
    rw [← first.takeWhile_inner, ← second.takeWhile_inner, h]
  have htrail : first.trail = second.trail := by
    unfold inner at h
    rw [hword, hlead] at h
    exact List.append_cancel_left h
  obtain ⟨_, _, _, _, _, _⟩ := first
  obtain ⟨_, _, _, _, _, _⟩ := second
  cases hword
  cases hlead
  cases htrail
  rfl

end Action

namespace Piece

theorem beforePair_literal (piece : Piece) : BeforePair '\x7b' piece.literal :=
  beforePair_iff.mpr ⟨piece.literal_open, piece.literal_end⟩

theorem chars_eq (piece : Piece) (rest : List Char) :
    piece.chars ++ rest = piece.literal ++ '\x7b' :: '\x7b' ::
      (piece.action.inner ++ '\x7d' :: '\x7d' :: rest) := by
  simp [chars, Action.chars]

-- The first piece of a text is determined by it.
theorem chars_unique {first second : Piece} {rest other : List Char}
    (h : first.chars ++ rest = second.chars ++ other) : first = second ∧ rest = other := by
  rw [chars_eq, chars_eq] at h
  obtain ⟨hliteral, hafter⟩ := first_pair_unique first.beforePair_literal second.beforePair_literal h
  obtain ⟨hinner, hrest⟩ :=
    first_pair_unique first.action.beforePair_inner second.action.beforePair_inner hafter
  have haction := Action.inner_injective hinner
  obtain ⟨_, _, _, _⟩ := first
  obtain ⟨_, _, _, _⟩ := second
  cases hliteral
  cases haction
  exact ⟨rfl, hrest⟩

theorem pair_infix_chars (piece : Piece) (rest : List Char) :
    ['\x7b', '\x7b'] <:+: piece.chars ++ rest := by
  rw [chars_eq]
  exact ⟨piece.literal, piece.action.inner ++ '\x7d' :: '\x7d' :: rest, by simp⟩

end Piece

-- A text has one derivation at most.
theorem Derivation.chars_injective {first second : Derivation} (h : first.chars = second.chars) :
    first = second := by
  obtain ⟨pieces, tail, htail⟩ := first
  obtain ⟨others, last, hlast⟩ := second
  unfold chars at h
  simp only at h
  induction pieces generalizing others with
  | nil =>
      cases others with
      | nil =>
          cases h
          rfl
      | cons other rest =>
          refine absurd ?_ htail
          rw [List.flatMap_nil, List.nil_append] at h
          rw [h, List.flatMap_cons, List.append_assoc]
          exact other.pair_infix_chars _
  | cons piece rest ih =>
      cases others with
      | nil =>
          refine absurd ?_ hlast
          rw [List.flatMap_nil, List.nil_append] at h
          rw [← h, List.flatMap_cons, List.append_assoc]
          exact piece.pair_infix_chars _
      | cons other others =>
          rw [List.flatMap_cons, List.flatMap_cons, List.append_assoc, List.append_assoc] at h
          obtain ⟨rfl, hrest⟩ := Piece.chars_unique h
          cases ih others hrest
          rfl

end RecordPattern.Template
