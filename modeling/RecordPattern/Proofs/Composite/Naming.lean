import RecordPattern.Proofs.Composite.Assembly

namespace RecordPattern.Composite

open Capture Text GroupIndex

variable {flags : Nat} {schema : List (Value × Value)} {wrapped : List WrappedField}
  {source : String} {template : Template}

theorem insertion_field_mem
    (hknown : ∀ placeholder ∈ template.placeholders,
      placeholder.field ∈ wrapped.map WrappedField.name) {insertion : Insertion}
    (h : insertion ∈ template.insertions wrapped) :
    insertion.field ∈ wrapped.map WrappedField.name := by
  obtain ⟨hfield, _⟩ := Template.exists_groupName_of_mem h
  obtain ⟨piece, hp, hsame⟩ := List.mem_map.mp hfield
  exact hsame ▸ hknown piece.2 (List.mem_map_of_mem hp)

theorem aliasName_notMem (hregular : WrappedField.Regular wrapped) (field : String)
    (occurrence : Nat) : aliasName field occurrence ∉ wrapped.map WrappedField.name := by
  intro hmem
  have hunreserved := hregular.unreserved _ hmem
  rw [isReserved_aliasName] at hunreserved
  cases hunreserved

-- A group that is listed for a field is not listed for another: its name stands for one of them.
theorem eq_of_listed {regex : Regex} {fields : List String} {aliases : List (String × String)}
    {index : GroupIndex} (hbuild : build regex fields aliases = .ok index) {field other : String}
    (hfield : field ∈ fields) (hother : other ∈ fields) {position : Nat}
    (hf : position ∈ positionsOf index field) (ho : position ∈ positionsOf index other) :
    field = other := by
  rw [build_positionsOf hbuild hfield, List.mem_filter, decide_eq_true_iff] at hf
  rw [build_positionsOf hbuild hother, List.mem_filter, decide_eq_true_iff] at ho
  exact Option.some.inj (hf.2.symm.trans ho.2)

-- Filling a template puts groups in the places of its references whose names are told apart, each
-- an identifier; the references to a field get its name and then its numbered names, none of which
-- is a field's. So every composite that compiles has an index, where no group is listed for two
-- fields and the groups of a field have different names among those of its references.
theorem groups_apart (hsynthesize : synthesize flags schema = .ok wrapped)
    (hparse : Template.parse source = .ok template)
    (hknown : ∀ placeholder ∈ template.placeholders,
      placeholder.field ∈ wrapped.map WrappedField.name) :
    (∃ references, Template.fillText source (wrapped.map WrappedField.name)
        (renderReference wrapped) ⟨[], []⟩ = .ok (template.filled wrapped, references)) ∧
      ((template.insertions wrapped).map Insertion.name).Nodup ∧
      (∀ insertion ∈ template.insertions wrapped, isIdentifier insertion.name.toList = true) ∧
      (∀ field, ((template.insertions wrapped).filter (·.field = field)).map Insertion.name =
        groupNames field (template.referenceCount field)) ∧
      (∀ field occurrence, aliasName field occurrence ∉ wrapped.map WrappedField.name) ∧
      ∀ regex, Regex.compile (template.filled wrapped) flags = .ok regex →
        ∃ index, assemble source wrapped flags = .ok ⟨template.filled wrapped, regex, index⟩ ∧
          (∀ field ∈ wrapped.map WrappedField.name, ∀ other ∈ wrapped.map WrappedField.name,
            ∀ position ∈ positionsOf index field, position ∈ positionsOf index other →
              field = other) ∧
          ∀ field, 1 ≤ template.referenceCount field → ∃ names : List String, names.Nodup ∧
            names ⊆ groupNames field (template.referenceCount field) ∧
            (positionsOf index field).map (nameAt? regex) = names.map some := by
  have hregular := synthesize_regular hsynthesize
  have hreferenced : ∀ field, 1 ≤ template.referenceCount field →
      field ∈ wrapped.map WrappedField.name := by
    intro field hcount
    obtain ⟨placeholder, hp, rfl⟩ := List.mem_map.mp (List.count_pos_iff.mp hcount)
    exact hknown placeholder hp
  refine ⟨?_, ?_, fun insertion hi => ?_, Template.insertions_names_of_field template wrapped,
    aliasName_notMem hregular, fun regex hregex => ?_⟩
  · obtain ⟨references, hfill, _⟩ := fillText_of_known hregular hparse hknown
    exact ⟨references, hfill⟩
  · exact Template.insertionsAfter_names_nodup fun piece hp =>
      hregular.unreserved _ (hknown piece.2 (List.mem_map_of_mem hp))
  · obtain ⟨_, before, _, hname⟩ := Template.exists_groupName_of_mem hi
    rw [hname]
    exact isIdentifier_groupName (hregular.identifier _ (insertion_field_mem hknown hi)) before
  · obtain ⟨index, references, hassemble, htallied, hbuild⟩ :=
      assemble_of_compiles hregular hparse hknown hregex
    have hnumbered := Regex.compile_numbered hregex
    refine ⟨index, hassemble, fun field hf other ho position => ?_, fun field hcount => ?_⟩
    · exact eq_of_listed hbuild hf ho
    · have hlists := lists_of_build hnumbered hregular.unreserved htallied hbuild
        (hreferenced field hcount)
      refine ⟨index.namesOf regex field, hlists.nodup, fun name hname => ?_, hlists.named⟩
      exact (Template.standsFor_iff hcount).mp ((hlists.mem_iff name).mp hname).2

-- One field's name is another's with an underscore after it, so their numbered names nearly meet.
theorem groups_apart_underscore :
    ∃ wrapped, ∃ template : Template, ∃ regex index,
      synthesize 0 [(.text "A", .text "x"), (.text "A_", .text "y")] = .ok wrapped ∧
      Template.parse "\x7b\x7b.A\x7d\x7d\x7b\x7b.A_\x7d\x7d\x7b\x7b.A\x7d\x7d\x7b\x7b.A_\x7d\x7d" =
        .ok template ∧
      ((template.insertions wrapped).map Insertion.name).Nodup ∧
      (template.insertions wrapped).map Insertion.name = ["A", "A_", "A__2", "A___2"] ∧
      Regex.compile (template.filled wrapped) 0 = .ok regex ∧
      assemble "\x7b\x7b.A\x7d\x7d\x7b\x7b.A_\x7d\x7d\x7b\x7b.A\x7d\x7d\x7b\x7b.A_\x7d\x7d" wrapped 0 =
        .ok ⟨template.filled wrapped, regex, index⟩ ∧
      ∃ names : List String, names.Nodup ∧ names ⊆ groupNames "A_" (template.referenceCount "A_") ∧
        (positionsOf index "A_").map (nameAt? regex) = names.map some := by
  have hready : ∃ wrapped,
      synthesize 0 [(.text "A", .text "x"), (.text "A_", .text "y")] = .ok wrapped ∧
      ∃ template : Template, Template.parse
        "\x7b\x7b.A\x7d\x7d\x7b\x7b.A_\x7d\x7d\x7b\x7b.A\x7d\x7d\x7b\x7b.A_\x7d\x7d" = .ok template ∧
      (∀ placeholder ∈ template.placeholders,
        placeholder.field ∈ wrapped.map WrappedField.name) ∧
      (template.insertions wrapped).map Insertion.name = ["A", "A_", "A__2", "A___2"] ∧
      1 ≤ template.referenceCount "A_" ∧
      ∃ regex, Regex.compile (template.filled wrapped) 0 = .ok regex ∧ regex.groupCount = 4 := by
    decide +kernel
  obtain ⟨wrapped, hsynthesize, template, hparse, hknown, hnames, hcount, regex, hregex, _⟩ := hready
  obtain ⟨_, hnodup, _, _, _, hindex⟩ := groups_apart hsynthesize hparse hknown
  obtain ⟨index, hassemble, _, hlisted⟩ := hindex regex hregex
  exact ⟨wrapped, template, regex, index, hsynthesize, hparse, hnodup, hnames, hregex, hassemble,
    hlisted "A_" hcount⟩

end RecordPattern.Composite
