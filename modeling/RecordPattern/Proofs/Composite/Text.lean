import RecordPattern.Proofs.Composite.Assembly
import RecordPattern.Proofs.Schema.Entry
import RecordPattern.Proofs.Template.Parsing

namespace RecordPattern

open Outcome

namespace Template

-- The fields that a template refers to, place by place.
def Derivation.references (derivation : Derivation) : List String :=
  derivation.pieces.map fun piece => String.ofList piece.action.name

-- The literal text of a template, with other text in the places of its references.
def Derivation.interleaved (derivation : Derivation) (groups : List String) : List Char :=
  (List.zipWith (fun piece group => piece.literal ++ group.toList) derivation.pieces groups).flatten ++
    derivation.tail

end Template

-- The groups for references to the fields of a schema. A group is named for its field and for how
-- many references before it are to that field; references to other fields do not count.
structure GroupsFor (schema : List (Value × Value)) (references groups : List String) : Prop where
  length_eq : groups.length = references.length
  group : ∀ place field, references[place]? = some field → ∃ pattern,
    Value.lookup? schema field = some (.text pattern) ∧
      groups[place]? = some ("(?P<" ++ groupName field ((references.take place).count field) ++ ">" ++
        InlineFlags.scope pattern ++ ")")

def Insertion.group (insertion : Insertion) : String :=
  wrapGroup insertion.name insertion.pattern

variable {flags : Nat} {schema : List (Value × Value)} {wrapped : List WrappedField}
  {source : String}

theorem exists_lookup?_of_key (hsynthesize : synthesize flags schema = .ok wrapped) {name : String}
    (hname : .text name ∈ schema.map Prod.fst) :
    ∃ pattern, Value.lookup? schema name = some (.text pattern) := by
  obtain ⟨fields, hschema, _, _⟩ := synthesize_eq_ok_iff.mp hsynthesize
  cases hlookup : Value.lookup? schema name with
  | none =>
      obtain ⟨entry, hentry, hkey⟩ := List.mem_map.mp hname
      exact absurd hkey (Value.lookup?_eq_none_iff.mp hlookup entry hentry)
  | some value =>
      obtain ⟨entry, hfind, rfl⟩ := Option.map_eq_some_iff.mp hlookup
      have hentry := List.mem_of_find?_eq_some hfind
      rw [hschema] at hentry
      obtain ⟨field, _, rfl⟩ := List.mem_map.mp hentry
      exact ⟨field.2, rfl⟩

namespace Template

variable {earlier : List String} {pieces : List (List Char × Placeholder)}

theorem length_insertionsAfter :
    (insertionsAfter wrapped earlier pieces).length = pieces.length := by
  induction pieces generalizing earlier with
  | nil => rfl
  | cons piece rest ih => simp [insertionsAfter, ih]

-- The references before a place are those before the template and those of the pieces up to it.
theorem insertionsAfter_getElem? {place : Nat} {piece : List Char × Placeholder}
    (h : pieces[place]? = some piece) :
    (insertionsAfter wrapped earlier pieces)[place]? = some ⟨piece.1, piece.2.field,
      groupName piece.2.field (earlier.count piece.2.field +
        ((pieces.take place).map (·.2.field)).count piece.2.field),
      patternOf wrapped piece.2.field⟩ := by
  induction pieces generalizing earlier place with
  | nil => cases h
  | cons first rest ih =>
      cases place with
      | zero =>
          cases h
          simp [insertionsAfter]
      | succ place =>
          have hrest := @ih (first.2.field :: earlier) place h
          have hcount : (first.2.field :: earlier).count piece.2.field +
              ((rest.take place).map (·.2.field)).count piece.2.field =
                earlier.count piece.2.field +
                  (((first :: rest).take (place + 1)).map (·.2.field)).count piece.2.field := by
            rw [List.take_succ_cons, List.map_cons, List.count_cons, List.count_cons]
            omega
          rw [hcount] at hrest
          exact hrest

theorem flatMap_text_cut {offset : Nat} {pieces : List Piece} :
    (insertionsAfter wrapped earlier (Piece.cut offset pieces)).flatMap Insertion.text =
      (List.zipWith (fun piece group => piece.literal ++ group.toList) pieces
        ((insertionsAfter wrapped earlier (Piece.cut offset pieces)).map Insertion.group)).flatten := by
  induction pieces generalizing earlier offset with
  | nil => rfl
  | cons piece rest ih =>
      simp only [Piece.cut, insertionsAfter, List.flatMap_cons, List.map_cons, List.zipWith_cons_cons,
        List.flatten_cons, ih]
      rfl

namespace Derivation

variable {derivation : Derivation}

theorem placeholders_template (derivation : Derivation) :
    derivation.template.placeholders.map Placeholder.field = derivation.references :=
  Piece.cut_fields 0 derivation.pieces

-- Filling a template leaves its literal text as it is, whatever the groups between it are.
theorem filled_template (derivation : Derivation) (wrapped : List WrappedField) :
    derivation.template.filled wrapped =
      String.ofList (derivation.interleaved
        ((derivation.template.insertions wrapped).map Insertion.group)) :=
  congrArg (fun text => String.ofList (text ++ derivation.tail)) flatMap_text_cut

theorem groupsFor_insertions (hsynthesize : synthesize flags schema = .ok wrapped)
    (hknown : ∀ field ∈ derivation.references, .text field ∈ schema.map Prod.fst) :
    GroupsFor schema derivation.references
      ((derivation.template.insertions wrapped).map Insertion.group) := by
  have hfields : derivation.template.pieces.map (·.2.field) = derivation.references := by
    rw [← derivation.placeholders_template, placeholders, List.map_map]
    rfl
  constructor
  · rw [List.length_map, insertions, length_insertionsAfter, ← hfields, List.length_map]
  · intro place field hfield
    obtain ⟨pattern, hlookup⟩ :=
      exists_lookup?_of_key hsynthesize (hknown field (List.mem_of_getElem? hfield))
    refine ⟨pattern, hlookup, ?_⟩
    rw [← hfields, List.getElem?_map] at hfield
    obtain ⟨piece, hpiece, rfl⟩ := Option.map_eq_some_iff.mp hfield
    have hpattern : patternOf wrapped piece.2.field = InlineFlags.scope pattern := by
      rw [patternOf, findField?_of_lookup? hsynthesize hlookup]
      rfl
    rw [List.getElem?_map, insertions, insertionsAfter_getElem? hpiece, List.count_nil, Nat.zero_add,
      List.map_take, hfields, hpattern]
    rfl

end Derivation

end Template

namespace Composite

open Template

-- The composite of a template is its literal text with a group in the place of each reference,
-- whether the engine takes it or not. A sub-pattern is put there as it is, whatever it looks like.
-- The flags may differ from those that the sub-patterns were checked with.
theorem assemble_interleaves {checked : Nat}
    (hsynthesize : synthesize checked schema = .ok wrapped) {derivation : Derivation}
    (hsource : derivation.chars = source.toList)
    (hknown : ∀ field ∈ derivation.references, .text field ∈ schema.map Prod.fst) :
    ∃ groups text, GroupsFor schema derivation.references groups ∧
      text = String.ofList (derivation.interleaved groups) ∧
      ((∃ regex index, Regex.compile text flags = .ok regex ∧
          assemble source wrapped flags = .ok ⟨text, regex, index⟩) ∨
        ∃ cause, Regex.compile text flags = .error cause ∧
          assemble source wrapped flags = .error (failure text cause)) := by
  have hregular := synthesize_regular hsynthesize
  have hparse := parse_eq_ok_iff.mpr ⟨derivation, hsource, rfl⟩
  have hnamed : ∀ placeholder ∈ derivation.template.placeholders,
      placeholder.field ∈ wrapped.map WrappedField.name := by
    intro placeholder hp
    have hfield : placeholder.field ∈ derivation.references := by
      rw [← derivation.placeholders_template]
      exact List.mem_map_of_mem hp
    obtain ⟨pattern, hlookup⟩ := exists_lookup?_of_key hsynthesize (hknown _ hfield)
    exact known_of_lookup? hsynthesize hlookup
  refine ⟨_, _, Derivation.groupsFor_insertions hsynthesize hknown,
    derivation.filled_template wrapped, ?_⟩
  cases hregex : Regex.compile (derivation.template.filled wrapped) flags with
  | ok regex =>
      obtain ⟨index, _, hassemble, _, _⟩ := assemble_of_compiles hregular hparse hnamed hregex
      exact Or.inl ⟨regex, index, rfl, hassemble⟩
  | error cause =>
      exact Or.inr ⟨cause, rfl, assemble_of_error hregular hparse hnamed hregex⟩

-- A sub-pattern that looks like a reference to the other field, and references to the two fields
-- by turns.
theorem assemble_interleaves_repeated :
    ∃ wrapped derivation groups composite,
      synthesize 0 [(.text "A", .text "(?i)x\x7b\x7b.B\x7d\x7d"), (.text "B", .text "y")] = .ok wrapped ∧
      Derivation.chars derivation =
        "-\x7b\x7b.A\x7d\x7d\x7b\x7b.B\x7d\x7d\x7b\x7b .A \x7d\x7d\x7b\x7b.A\x7d\x7d+".toList ∧
      derivation.references = ["A", "B", "A", "A"] ∧
      GroupsFor [(.text "A", .text "(?i)x\x7b\x7b.B\x7d\x7d"), (.text "B", .text "y")]
        derivation.references groups ∧
      assemble "-\x7b\x7b.A\x7d\x7d\x7b\x7b.B\x7d\x7d\x7b\x7b .A \x7d\x7d\x7b\x7b.A\x7d\x7d+" wrapped 0 =
        .ok composite ∧
      composite.pattern = String.ofList (derivation.interleaved groups) ∧
      composite.pattern = "-(?P<A>(?i:x\x7b\x7b.B\x7d\x7d))(?P<B>y)(?P<A__2>(?i:x\x7b\x7b.B\x7d\x7d))" ++
        "(?P<A__3>(?i:x\x7b\x7b.B\x7d\x7d))+" := by
  have hready : ∃ wrapped,
      synthesize 0 [(.text "A", .text "(?i)x\x7b\x7b.B\x7d\x7d"), (.text "B", .text "y")] = .ok wrapped ∧
      ∃ composite,
        assemble "-\x7b\x7b.A\x7d\x7d\x7b\x7b.B\x7d\x7d\x7b\x7b .A \x7d\x7d\x7b\x7b.A\x7d\x7d+" wrapped 0 =
          .ok composite ∧
        composite.pattern = "-(?P<A>(?i:x\x7b\x7b.B\x7d\x7d))(?P<B>y)(?P<A__2>(?i:x\x7b\x7b.B\x7d\x7d))" ++
          "(?P<A__3>(?i:x\x7b\x7b.B\x7d\x7d))+" := by
    decide +kernel
  have hparse : ∃ template,
      parse "-\x7b\x7b.A\x7d\x7d\x7b\x7b.B\x7d\x7d\x7b\x7b .A \x7d\x7d\x7b\x7b.A\x7d\x7d+" = .ok template ∧
      template.placeholders.map Placeholder.field = ["A", "B", "A", "A"] := by
    decide +kernel
  obtain ⟨wrapped, hsynthesize, composite, hassemble, hpattern⟩ := hready
  obtain ⟨_, hparse, hfields⟩ := hparse
  obtain ⟨derivation, hsource, rfl⟩ := parse_eq_ok_iff.mp hparse
  rw [derivation.placeholders_template] at hfields
  have hknown : ∀ field ∈ derivation.references, Value.text field ∈
      [(Value.text "A", Value.text "(?i)x\x7b\x7b.B\x7d\x7d"), (.text "B", .text "y")].map Prod.fst := by
    rw [hfields]
    simp
  obtain ⟨groups, text, hgroups, htext, hresult⟩ := assemble_interleaves hsynthesize hsource hknown
  have hsame : composite.pattern = text := by
    rcases hresult with ⟨_, _, _, hok⟩ | ⟨_, _, herror⟩
    · cases hok.symm.trans hassemble
      rfl
    · cases herror.symm.trans hassemble
  exact ⟨wrapped, derivation, groups, composite, hsynthesize, hsource, hfields, hgroups, hassemble,
    hsame.trans htext, hpattern⟩

end Composite

end RecordPattern
