import RecordPattern.Proofs.Composite.Assembly

namespace RecordPattern

open Capture GroupIndex Outcome

variable {flags : Nat} {first second : List (Value × Value)} {wrapped other : List WrappedField}
  {source : String} {template : Template}

-- Two schemas give a template's references the same sub-patterns.
def Template.SameFields (template : Template) (first second : List (Value × Value)) : Prop :=
  ∀ placeholder ∈ template.placeholders, ∃ pattern,
    Value.lookup? first placeholder.field = some (.text pattern) ∧
      Value.lookup? second placeholder.field = some (.text pattern)

namespace Composite

-- The groups that take the places of references depend on the sub-patterns of their fields only.
theorem insertionsAfter_congr {earlier : List String} {pieces : List (List Char × Placeholder)}
    (h : ∀ piece ∈ pieces, Template.patternOf wrapped piece.2.field =
      Template.patternOf other piece.2.field) :
    Template.insertionsAfter wrapped earlier pieces = Template.insertionsAfter other earlier pieces := by
  induction pieces generalizing earlier with
  | nil => rfl
  | cons piece rest ih =>
      obtain ⟨hfirst, hrest⟩ := List.forall_mem_cons.mp h
      simp only [Template.insertionsAfter, hfirst, ih hrest]

theorem filled_congr (hfirst : synthesize flags first = .ok wrapped)
    (hsecond : synthesize flags second = .ok other) (hsame : template.SameFields first second) :
    template.filled wrapped = template.filled other := by
  have hinsertions : template.insertions wrapped = template.insertions other := by
    refine insertionsAfter_congr fun piece hp => ?_
    obtain ⟨pattern, hf, hs⟩ := hsame piece.2 (List.mem_map_of_mem hp)
    unfold Template.patternOf
    rw [findField?_of_lookup? hfirst hf, findField?_of_lookup? hsecond hs]
  unfold Template.filled
  rw [hinsertions]

-- What is listed for a field is the same for every list of fields that has it.
theorem positionsOf_congr {regex : Regex} (hnumbered : Regex.Numbered regex.names regex.groupCount)
    {references further : References} {index twin : GroupIndex} {fields known : List String}
    (hreserved : ∀ field ∈ fields, isReserved field.toList = false)
    (hunreserved : ∀ field ∈ known, isReserved field.toList = false)
    (htallied : references.Tallied (template.placeholders.map Placeholder.field))
    (hcounted : further.Tallied (template.placeholders.map Placeholder.field))
    (hbuild : build regex fields references.aliases = .ok index)
    (htwin : build regex known further.aliases = .ok twin) {field : String}
    (hf : field ∈ fields) (hk : field ∈ known) :
    positionsOf index field = positionsOf twin field := by
  rw [build_positionsOf hbuild hf, build_positionsOf htwin hk]
  refine List.filter_congr fun position _ => decide_eq_decide.mpr ?_
  rw [ownerAt?_eq_some_iff hnumbered hreserved htallied hf,
    ownerAt?_eq_some_iff hnumbered hunreserved hcounted hk]

-- Two schemas that agree on the fields a template refers to make the same composite of it, or
-- fail alike. A field of both has the same groups, and every match gives it the same text.
theorem assemble_of_sameFields (hfirst : synthesize flags first = .ok wrapped)
    (hsecond : synthesize flags second = .ok other)
    (hsame : ∀ template, Template.parse source = .ok template → template.SameFields first second) :
    Alike (fun composite twin =>
        composite.pattern = twin.pattern ∧ composite.regex = twin.regex ∧
          ∀ field ∈ wrapped.map WrappedField.name, field ∈ other.map WrappedField.name →
            positionsOf composite.index field = positionsOf twin.index field ∧
              ∀ submatches,
                (resolve submatches composite.index (wrapped.map WrappedField.name)).lookup field =
                  (resolve submatches twin.index (other.map WrappedField.name)).lookup field)
      (assemble source wrapped flags) (assemble source other flags) := by
  cases hparse : Template.parse source with
  | error error =>
      have hfail : ∀ fields, assemble source fields flags = .error (.template error) := by
        intro fields
        simp only [assemble, Template.fillText, hparse, Except.mapError, bind, Except.bind]
      rw [hfail, hfail]
      rfl
  | ok template =>
      have hfields := hsame template hparse
      have hregular := synthesize_regular hfirst
      have hother := synthesize_regular hsecond
      have hknown : ∀ placeholder ∈ template.placeholders,
          placeholder.field ∈ wrapped.map WrappedField.name := by
        intro placeholder hp
        obtain ⟨_, hlookup, _⟩ := hfields placeholder hp
        exact known_of_lookup? hfirst hlookup
      have hlisted : ∀ placeholder ∈ template.placeholders,
          placeholder.field ∈ other.map WrappedField.name := by
        intro placeholder hp
        obtain ⟨_, _, hlookup⟩ := hfields placeholder hp
        exact known_of_lookup? hsecond hlookup
      have hfilled := filled_congr hfirst hsecond hfields
      cases hregex : Regex.compile (template.filled wrapped) flags with
      | error cause =>
          rw [assemble_of_error hregular hparse hknown hregex,
            assemble_of_error hother hparse hlisted (hfilled ▸ hregex), hfilled]
          rfl
      | ok regex =>
          obtain ⟨index, references, hassemble, htallied, hbuild⟩ :=
            assemble_of_compiles hregular hparse hknown hregex
          obtain ⟨twin, further, htwin, hcounted, hrebuild⟩ :=
            assemble_of_compiles hother hparse hlisted (hfilled ▸ hregex)
          rw [hassemble, htwin]
          refine ⟨hfilled, rfl, fun field hf ho => ?_⟩
          have hpositions : positionsOf index field = positionsOf twin field :=
            positionsOf_congr (Regex.compile_numbered hregex) hregular.unreserved hother.unreserved
              htallied hcounted hbuild hrebuild hf ho
          refine ⟨hpositions, fun submatches => ?_⟩
          rw [lookup_resolve, lookup_resolve, if_pos hf, if_pos ho, hpositions]

-- A group of the template has the name of a field that only one of the schemas has.
theorem assemble_of_sameFields_foreign :
    ∃ wrapped other composite twin,
      synthesize 0 [(.text "B", .text "y"), (.text "A", .text "x")] = .ok wrapped ∧
      synthesize 0 [(.text "A", .text "x")] = .ok other ∧
      Template.SameFields ⟨[("(?P<B>q)".toList, ⟨"A", 8, 14⟩), ([], ⟨"A", 14, 20⟩)], []⟩
        [(.text "B", .text "y"), (.text "A", .text "x")] [(.text "A", .text "x")] ∧
      assemble "(?P<B>q)\x7b\x7b.A\x7d\x7d\x7b\x7b.A\x7d\x7d" wrapped 0 = .ok composite ∧
      assemble "(?P<B>q)\x7b\x7b.A\x7d\x7d\x7b\x7b.A\x7d\x7d" other 0 = .ok twin ∧
      positionsOf composite.index "B" = [1] ∧ composite.pattern = twin.pattern ∧
      positionsOf composite.index "A" = positionsOf twin.index "A" := by
  have hready : ∃ wrapped,
      synthesize 0 [(.text "B", .text "y"), (.text "A", .text "x")] = .ok wrapped ∧
      ∃ other, synthesize 0 [(.text "A", .text "x")] = .ok other ∧
      ∃ composite, assemble "(?P<B>q)\x7b\x7b.A\x7d\x7d\x7b\x7b.A\x7d\x7d" wrapped 0 = .ok composite ∧
      ∃ twin, assemble "(?P<B>q)\x7b\x7b.A\x7d\x7d\x7b\x7b.A\x7d\x7d" other 0 = .ok twin ∧
      positionsOf composite.index "B" = [1] ∧ "A" ∈ wrapped.map WrappedField.name ∧
      "A" ∈ other.map WrappedField.name := by
    decide +kernel
  have hparse : Template.parse "(?P<B>q)\x7b\x7b.A\x7d\x7d\x7b\x7b.A\x7d\x7d" =
      .ok ⟨[("(?P<B>q)".toList, ⟨"A", 8, 14⟩), ([], ⟨"A", 14, 20⟩)], []⟩ := by
    decide +kernel
  have hsame : Template.SameFields ⟨[("(?P<B>q)".toList, ⟨"A", 8, 14⟩), ([], ⟨"A", 14, 20⟩)], []⟩
      [(.text "B", .text "y"), (.text "A", .text "x")] [(.text "A", .text "x")] := by
    intro placeholder hp
    simp only [Template.placeholders, List.map_cons, List.map_nil, List.mem_cons,
      List.not_mem_nil, or_false] at hp
    rcases hp with rfl | rfl <;> exact ⟨"x", rfl, rfl⟩
  obtain ⟨wrapped, hfirst, other, hsecond, composite, hassemble, twin, htwin, hforeign, hf, ho⟩ :=
    hready
  have hcommon : ∀ template, Template.parse "(?P<B>q)\x7b\x7b.A\x7d\x7d\x7b\x7b.A\x7d\x7d" =
      .ok template → template.SameFields [(.text "B", .text "y"), (.text "A", .text "x")]
        [(.text "A", .text "x")] := by
    intro template ht
    rw [← Except.ok.inj (hparse.symm.trans ht)]
    exact hsame
  have h := @assemble_of_sameFields 0 _ _ wrapped other
    "(?P<B>q)\x7b\x7b.A\x7d\x7d\x7b\x7b.A\x7d\x7d" hfirst hsecond hcommon
  rw [hassemble, htwin] at h
  exact ⟨wrapped, other, composite, twin, hfirst, hsecond, hsame, hassemble, htwin, hforeign, h.1,
    (h.2.2 "A" hf ho).1⟩

end Composite

end RecordPattern
