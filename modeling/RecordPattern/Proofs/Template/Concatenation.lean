import RecordPattern.Proofs.Template.Parsing

namespace RecordPattern

-- What is found in a text, where that text comes after another one of some length.

def Placeholder.shifted (distance : Nat) (placeholder : Placeholder) : Placeholder :=
  { placeholder with
    start := distance + placeholder.start
    stop := distance + placeholder.stop }

def TemplateError.shifted (distance : Nat) : TemplateError → TemplateError
  | .unclosed position rest => .unclosed (distance + position) rest
  | .empty position => .empty (distance + position)
  | .unsupported position action => .unsupported (distance + position) action
  | .invalidReference position action => .invalidReference (distance + position) action
  | .unknownField position field => .unknownField (distance + position) field

namespace Template

open Text

variable {distance offset : Nat} {literal other inner text : List Char} {fault : TemplateError}

-- Two readings of one text, the second with some distance to go before it: they find the same
-- placeholders or fail in the same way, and all offsets differ by the distance.
inductive Shifts (distance : Nat) : Except TemplateError Template → Except TemplateError Template → Prop
  | read {template moved : Template}
      (h : moved.placeholders = template.placeholders.map (·.shifted distance)) :
      Shifts distance (.ok template) (.ok moved)
  | failed (fault : TemplateError) : Shifts distance (.error fault) (.error (fault.shifted distance))

theorem Shifts.cons {first second : Except TemplateError Template} (h : Shifts distance first second)
    (placeholder : Placeholder) :
    Shifts distance (first.map (cons literal placeholder))
      (second.map (cons other (placeholder.shifted distance))) := by
  cases h with
  | read h => exact .read (congrArg (placeholder.shifted distance :: ·) h)
  | failed fault => exact .failed fault

theorem fieldOf_shifted (distance start : Nat) (inner : List Char) :
    fieldOf (distance + start) inner = (fieldOf start inner).mapError (·.shifted distance) := by
  unfold fieldOf
  split
  · rfl
  · split <;> rfl
  · rfl

-- The literal text before it does not matter. The induction goes from action to action.
theorem readLiteral_shifts (distance offset : Nat) (literal other text : List Char) :
    Shifts distance (readLiteral literal offset text) (readLiteral other (distance + offset) text) := by
  rcases exists_first_pair '\x7b' text with hopen | ⟨before, rest, rfl, hbefore⟩
  · rw [readLiteral_of_open hopen, readLiteral_of_open hopen]
    exact .read rfl
  · rw [readLiteral_append hbefore, readLiteral_append hbefore, Nat.add_assoc]
    rcases exists_first_pair '\x7d' rest with hopen | ⟨inner, after, rfl, hinner⟩
    · rw [readAction_of_unclosed hopen, readAction_of_unclosed hopen]
      exact .failed _
    · have hmoved := fieldOf_shifted distance (offset + before.length) inner
      cases hfield : fieldOf (offset + before.length) inner with
      | error fault =>
          rw [hfield] at hmoved
          rw [readAction_of_error hinner hfield, readAction_of_error hinner hmoved]
          exact .failed fault
      | ok field =>
          rw [hfield] at hmoved
          rw [readAction_of_field hinner hfield, readAction_of_field hinner hmoved]
          have hstop : distance + (offset + before.length) + inner.length + 4 =
              distance + (offset + before.length + inner.length + 4) := by omega
          have hshorter : after.length <
              (before ++ '\x7b' :: '\x7b' :: (inner ++ '\x7d' :: '\x7d' :: after)).length := by
            simp only [List.length_append, List.length_cons]
            omega
          rw [hstop]
          exact (readLiteral_shifts distance _ [] [] after).cons _
termination_by text.length

-- Literal text is read on beyond the end of a text, unless two braces meet there.
theorem readLiteral_tail {tail rest : List Char} (htail : ¬['\x7b', '\x7b'] <:+: tail)
    (hseam : ¬(tail.getLast? = some '\x7b' ∧ rest.head? = some '\x7b')) :
    readLiteral literal offset (tail ++ rest) =
      readLiteral (tail.reverse ++ literal) (offset + tail.length) rest := by
  induction tail generalizing literal offset with
  | nil => simp
  | cons first tail ih =>
      rw [pair_infix_cons, not_or] at htail
      have hfirst : ¬(first = '\x7b' ∧ (tail ++ rest).head? = some '\x7b') := by
        cases tail with
        | nil => simpa using hseam
        | cons second tail => simpa using htail.1
      have hlater : ¬(tail.getLast? = some '\x7b' ∧ rest.head? = some '\x7b') := by
        rintro ⟨hlast, hhead⟩
        refine hseam ⟨?_, hhead⟩
        rw [List.getLast?_cons, hlast]
        rfl
      have hlength : offset + 1 + tail.length = offset + (first :: tail).length := by
        rw [List.length_cons]
        omega
      rw [List.cons_append, readLiteral_cons hfirst, ih htail.2 hlater, hlength]
      simp

-- After a text that is a template reading goes on as it began, with the literal text at its end.
theorem Derivation.parseChars_append (derivation : Derivation) {rest : List Char}
    (hseam : ¬(derivation.chars.getLast? = some '\x7b' ∧ rest.head? = some '\x7b')) :
    parseChars (derivation.chars ++ rest) =
      (readLiteral derivation.tail.reverse (derivation.chars.length + 0) rest).map fun template =>
        { template with pieces := Piece.cut 0 derivation.pieces ++ template.pieces } := by
  have htail : ¬(derivation.tail.getLast? = some '\x7b' ∧ rest.head? = some '\x7b') := by
    rintro ⟨hlast, hhead⟩
    refine hseam ⟨?_, hhead⟩
    rw [chars, List.getLast?_append, hlast]
    rfl
  unfold parseChars chars
  rw [List.append_assoc, readLiteral_pieces, readLiteral_tail derivation.tail_open htail,
    List.append_nil, List.length_append, Nat.zero_add, Nat.add_zero]

-- Two templates one after the other: what the second refers to is shifted, and only its new fields
-- are added.
structure Joined (distance : Nat) (first second whole : Template) : Prop where
  placeholders : whole.placeholders =
    first.placeholders ++ second.placeholders.map (·.shifted distance)
  fields : whole.fields = first.fields ++ second.fields.filter fun field => field ∉ first.fields

theorem joined_of_placeholders {first second whole : Template}
    (h : whole.placeholders = first.placeholders ++ second.placeholders.map (·.shifted distance)) :
    Joined distance first second whole := by
  refine ⟨h, ?_⟩
  have hmoved : (second.placeholders.map (·.shifted distance)).map Placeholder.field =
      second.placeholders.map Placeholder.field := by
    rw [List.map_map]
    rfl
  have hnew : ∀ field, (!(first.placeholders.map Placeholder.field).elem field) =
      decide (field ∉ first.fields) := by
    intro field
    have hmem : field ∈ first.fields ↔ field ∈ first.placeholders.map Placeholder.field :=
      List.mem_eraseDups
    rw [List.elem_eq_mem, decide_not, decide_eq_decide.mpr hmem]
  rw [fields, h, List.map_append, hmoved, List.eraseDups_append, List.removeAll, eraseDups_filter]
  simp only [hnew]
  rfl

-- Two texts with no brace on both sides of the seam: either both the second and the whole are
-- templates, or both fail.
theorem Derivation.parse_append_cases {derivation : Derivation} {first second : String}
    (hsource : derivation.chars = first.toList)
    (hseam : ¬(first.toList.getLast? = some '\x7b' ∧ second.toList.head? = some '\x7b')) :
    (∃ other whole, parse second = .ok other ∧ parse (first ++ second) = .ok whole ∧
      Joined first.length derivation.template other whole) ∨
    ∃ fault, parse second = .error fault ∧
      parse (first ++ second) = .error (fault.shifted first.length) := by
  have hopen : ¬(derivation.chars.getLast? = some '\x7b' ∧ second.toList.head? = some '\x7b') := by
    rwa [hsource]
  have hwhole := derivation.parseChars_append hopen
  rw [hsource, ← String.toList_append, String.length_toList] at hwhole
  change parse (first ++ second) = _ at hwhole
  have hshifts : Shifts first.length (parse second)
      (readLiteral derivation.tail.reverse (first.length + 0) second.toList) :=
    readLiteral_shifts first.length 0 [] derivation.tail.reverse second.toList
  cases hsecond : parse second with
  | ok other =>
      rw [hsecond] at hshifts
      left
      generalize readLiteral derivation.tail.reverse (first.length + 0) second.toList = read
        at hshifts hwhole
      cases hshifts with
      | read h =>
          refine ⟨other, _, rfl, hwhole, joined_of_placeholders ?_⟩
          rw [placeholders, List.map_append, ← h]
          rfl
  | error fault =>
      rw [hsecond] at hshifts
      right
      generalize readLiteral derivation.tail.reverse (first.length + 0) second.toList = read
        at hshifts hwhole
      cases hshifts
      exact ⟨fault, rfl, hwhole⟩

-- Parsing goes through two texts one after the other, if no two braces meet between them. A fault in
-- the first comes up whatever follows, if it is not that an action has no end yet.
theorem parse_append (first second : String) :
    (∀ template, parse first = .ok template →
      ¬(first.toList.getLast? = some '\x7b' ∧ second.toList.head? = some '\x7b') →
      ((∃ whole, parse (first ++ second) = .ok whole) ↔ ∃ other, parse second = .ok other) ∧
      (∀ other, parse second = .ok other → ∃ whole, parse (first ++ second) = .ok whole ∧
        Joined first.length template other whole) ∧
      ∀ fault, parse second = .error fault →
        parse (first ++ second) = .error (fault.shifted first.length)) ∧
    ∀ fault, parse first = .error fault → (∀ position rest, fault ≠ .unclosed position rest) →
      parse (first ++ second) = .error fault := by
  constructor
  · intro template htemplate hseam
    obtain ⟨derivation, hsource, rfl⟩ := parse_eq_ok_iff.mp htemplate
    rcases derivation.parse_append_cases hsource hseam with
      ⟨other, whole, hsecond, hwhole, hjoined⟩ | ⟨fault, hsecond, hwhole⟩
    · simp only [hsecond, hwhole]
      refine ⟨by simp, fun _ h => ⟨whole, rfl, ?_⟩, by simp⟩
      cases h
      exact hjoined
    · simp [hsecond, hwhole]
  · intro fault hfault hclosed
    obtain ⟨stuck, hsource, hreports⟩ := parse_eq_error_iff.mp hfault
    rcases hreports.open_or_closed with ⟨_, rfl⟩ | ⟨inner, after, hrest, hinner, hfield⟩
    · exact absurd rfl (hclosed _ _)
    · have hchars : stuck.chars ++ second.toList = stuck.before ++
          '\x7b' :: '\x7b' :: (inner ++ '\x7d' :: '\x7d' :: (after ++ second.toList)) := by
        rw [Stuck.chars, hrest]
        simp
      rw [parse, String.toList_append, ← hsource, hchars]
      apply Stuck.parseChars_opened
      intro literal
      exact readAction_of_error hinner hfield

-- A brace on one side of the seam, closing braces that belong to no action, and a reference of the
-- second text to a field of the first. Then a fault in the first text, whatever the second is.
theorem parse_append_brace :
    (∃ template other whole, parse "x\x7b\x7b.A\x7d\x7d\x7b" = .ok template ∧
      parse "2\x7d\x7d\x7b\x7b.B\x7d\x7d\x7b\x7b .A \x7d\x7d" = .ok other ∧
      parse ("x\x7b\x7b.A\x7d\x7d\x7b" ++ "2\x7d\x7d\x7b\x7b.B\x7d\x7d\x7b\x7b .A \x7d\x7d") = .ok whole ∧
      whole.placeholders = [⟨"A", 1, 7⟩, ⟨"B", 11, 17⟩, ⟨"A", 17, 25⟩] ∧ whole.fields = ["A", "B"]) ∧
    ∀ second, parse ("x\x7b\x7b \x7d\x7d\x7b" ++ second) = .error (.empty 1) := by
  constructor
  · have hready : (∃ template, parse "x\x7b\x7b.A\x7d\x7d\x7b" = .ok template ∧
          template.placeholders = [⟨"A", 1, 7⟩]) ∧
        ∃ other, parse "2\x7d\x7d\x7b\x7b.B\x7d\x7d\x7b\x7b .A \x7d\x7d" = .ok other ∧
          other.placeholders = [⟨"B", 3, 9⟩, ⟨"A", 9, 17⟩] := by
      decide +kernel
    obtain ⟨⟨template, htemplate, hbefore⟩, other, hother, hafter⟩ := hready
    obtain ⟨whole, hwhole, hjoined⟩ :=
      ((parse_append _ _).1 template htemplate (by decide)).2.1 other hother
    have hplaceholders : whole.placeholders = [⟨"A", 1, 7⟩, ⟨"B", 11, 17⟩, ⟨"A", 17, 25⟩] := by
      rw [hjoined.placeholders, hbefore, hafter]
      rfl
    refine ⟨template, other, whole, htemplate, hother, hwhole, hplaceholders, ?_⟩
    rw [fields, hplaceholders]
    rfl
  · intro second
    have hfault : parse "x\x7b\x7b \x7d\x7d\x7b" = .error (.empty 1) := by decide +kernel
    exact (parse_append _ second).2 _ hfault (by simp)

-- Braces that meet between two texts open an action that is in neither.
example : (parse "\x7b").map fields = .ok [] ∧ (parse "\x7b.A\x7d\x7d").map fields = .ok [] ∧
    (parse "\x7b\x7b.A\x7d\x7d").map fields = .ok ["A"] := by
  decide +kernel

end Template

end RecordPattern
