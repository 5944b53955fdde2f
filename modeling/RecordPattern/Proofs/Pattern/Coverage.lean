import Mathlib.Data.List.Perm.Subperm
import RecordPattern.Proofs.Composite.Assembly
import RecordPattern.Proofs.Pattern.Compiled
import RecordPattern.Proofs.Regex.Stages

namespace RecordPattern

open Capture Outcome Text GroupIndex

-- The text of a composite from a group on that takes the place of a reference.
def Insertion.remainder (insertion : Insertion) (after : List Insertion) (tail : List Char) :
    List Char :=
  (wrapGroup insertion.name insertion.pattern).toList ++ (after.flatMap Insertion.text ++ tail)

-- Every reference to a field stands in its composite where a part of the pattern is read, rather
-- than inside a class, an escape or a comment.
def Template.StandsOpen (template : Template) (wrapped : List WrappedField) (flags : Nat)
    (field : String) : Prop :=
  ∀ before insertion after, template.insertions wrapped = before ++ insertion :: after →
    insertion.field = field → Regex.Reaches (template.filled wrapped) flags
      (insertion.remainder after template.tail)

theorem Composite.assemble_inserts {source : String} {wrapped : List WrappedField} {flags : Nat}
    {composite : Composite} (hregular : WrappedField.Regular wrapped)
    (h : assemble source wrapped flags = .ok composite) :
    ∃ template, Template.parse source = .ok template ∧
      composite.pattern = template.filled wrapped ∧
      Regex.compile (template.filled wrapped) flags = .ok composite.regex ∧
      ∀ field ∈ wrapped.map WrappedField.name,
        composite.index.Lists composite.regex template field := by
  obtain ⟨filled, hfill, _⟩ := bind_eq_ok.mp h
  obtain ⟨template, hparse, hknown, _⟩ := Template.fillText_eq_ok (mapError_eq_ok.mp hfill)
  cases hregex : Regex.compile (template.filled wrapped) flags with
  | error cause =>
      rw [assemble_of_error hregular hparse hknown hregex] at h
      cases h
  | ok regex =>
      obtain ⟨index, references, hassemble, htallied, hbuild⟩ :=
        assemble_of_compiles hregular hparse hknown hregex
      cases hassemble.symm.trans h
      exact ⟨template, hparse, rfl, hregex, fun field hf => lists_of_build
        (Regex.compile_numbered hregex) hregular.unreserved htallied hbuild hf⟩

namespace Pattern

variable {store : Store} {source : String} {schema : Value} {flags : Nat} {pattern : Pattern}

theorem compile_assembles (h : compile store source schema flags = .ok pattern) :
    WrappedField.Regular pattern.wrapped ∧
      Composite.assemble source pattern.wrapped flags = .ok pattern.composite := by
  obtain ⟨_, hstaged⟩ := compileStaged_eq_ok.mp (mapError_eq_ok.mp h)
  exact ⟨synthesize_regular hstaged.wrapped, hstaged.composite⟩

-- A reference that stands open has a group of its name in the composite.
theorem names_of_standsOpen {template : Template} {wrapped : List WrappedField} {regex : Regex}
    {field : String} (hidentifier : isIdentifier field.toList = true)
    (hregex : Regex.compile (template.filled wrapped) flags = .ok regex)
    (hopen : template.StandsOpen wrapped flags field) :
    groupNames field (template.referenceCount field) ⊆ regex.names.map Prod.fst := by
  intro name hname
  rw [← Template.insertions_names_of_field template wrapped field] at hname
  obtain ⟨insertion, hinsertion, rfl⟩ := List.mem_map.mp hname
  obtain ⟨hmem, hfield⟩ := List.mem_filter.mp hinsertion
  rw [decide_eq_true_iff] at hfield
  obtain ⟨before, after, hsplit⟩ := List.append_of_mem hmem
  obtain ⟨_, earlier, _, hnamed⟩ := Template.exists_groupName_of_mem hmem
  have hid : isIdentifier insertion.name.toList = true := by
    rw [hnamed, hfield]
    exact isIdentifier_groupName hidentifier earlier
  have hreaches := hopen before insertion after hsplit hfield
  have hremainder : insertion.remainder after template.tail =
      '(' :: '?' :: 'P' :: '<' :: (insertion.name.toList ++ '>' ::
        (insertion.pattern.toList ++ ')' :: (after.flatMap Insertion.text ++ template.tail))) := by
    simp [Insertion.remainder, wrapGroup]
  rw [hremainder] at hreaches
  have hgroup := Regex.name_mem_of_reaches hregex hid hreaches
  rwa [String.ofList_toList] at hgroup

-- Different items among as many different ones are all of them.
theorem length_eq_iff_subset {small large : List String} (hsmall : small.Nodup)
    (hlarge : large.Nodup) (h : small ⊆ large) :
    small.length = large.length ↔ large ⊆ small := by
  have hsubperm := hsmall.subperm h
  constructor
  · intro hsame name hname
    exact (hsubperm.perm_of_length_le (Nat.le_of_eq hsame.symm)).mem_iff.mpr hname
  · intro hback
    exact Nat.le_antisymm hsubperm.length_le (hlarge.subperm hback).length_le

-- A field has at most one group for each reference to it. It has one for each just when the names
-- for its references are all groups of the composite, and they are when the references stand open.
theorem references_counted (hcompile : compile store source schema flags = .ok pattern) :
    ∃ template, Template.parse source = .ok template ∧
      pattern.composite.pattern = template.filled pattern.wrapped ∧
      ∀ field ∈ pattern.fieldNames, 1 ≤ template.referenceCount field →
        (positionsOf pattern.composite.index field).length ≤ template.referenceCount field ∧
        ((positionsOf pattern.composite.index field).length = template.referenceCount field ↔
          groupNames field (template.referenceCount field) ⊆
            pattern.composite.regex.names.map Prod.fst) ∧
        (template.StandsOpen pattern.wrapped flags field →
          (positionsOf pattern.composite.index field).length = template.referenceCount field) := by
  obtain ⟨hregular, hassemble⟩ := compile_assembles hcompile
  obtain ⟨template, hparse, hfilled, hregex, hlists⟩ :=
    Composite.assemble_inserts hregular hassemble
  refine ⟨template, hparse, hfilled, fun field hf hcount => ?_⟩
  have hlist := hlists field hf
  have hlength : (positionsOf pattern.composite.index field).length =
      (pattern.composite.index.namesOf pattern.composite.regex field).length := by
    simpa using congrArg List.length hlist.named
  have hnumber : (groupNames field (template.referenceCount field)).length =
      template.referenceCount field := by simp [groupNames]
  have hsubset : pattern.composite.index.namesOf pattern.composite.regex field ⊆
      groupNames field (template.referenceCount field) := fun name hname =>
    (Template.standsFor_iff hcount).mp ((hlist.mem_iff name).mp hname).2
  have hall : groupNames field (template.referenceCount field) ⊆
      pattern.composite.index.namesOf pattern.composite.regex field ↔
        groupNames field (template.referenceCount field) ⊆
          pattern.composite.regex.names.map Prod.fst :=
    forall₂_congr fun name hname => by
      rw [hlist.mem_iff, Template.standsFor_iff hcount, and_iff_left hname]
  have hexact := length_eq_iff_subset hlist.nodup
    (groupNames_nodup (hregular.unreserved field hf) _) hsubset
  rw [← hlength, hnumber, hall] at hexact
  refine ⟨?_, hexact, fun hopen => hexact.mpr ?_⟩
  · rw [hlength, ← hnumber]
    exact (hlist.nodup.subperm hsubset).length_le
  · exact names_of_standsOpen (hregular.identifier field hf) hregex hopen

-- Two references to a field stand open, although a class and a comment come before them.
theorem references_counted_open :
    ∃ pattern, ∃ template : Template,
      compile .empty "[(](?#()\x7b\x7b.A\x7d\x7d|(\x7b\x7b.A\x7d\x7d)"
        (.mapping false [(.text "A", .text "x")]) 0 = .ok pattern ∧
      "A" ∈ pattern.fieldNames ∧ template.referenceCount "A" = 2 ∧
      template.StandsOpen pattern.wrapped 0 "A" ∧
      (positionsOf pattern.composite.index "A").length = template.referenceCount "A" := by
  have hready : ∃ pattern, compile .empty "[(](?#()\x7b\x7b.A\x7d\x7d|(\x7b\x7b.A\x7d\x7d)"
      (.mapping false [(.text "A", .text "x")]) 0 = .ok pattern ∧ "A" ∈ pattern.fieldNames ∧
      pattern.wrapped = [⟨"A", "x", "(?P<A>x)"⟩] := by
    decide +kernel
  have hparse : ∃ template, Template.parse "[(](?#()\x7b\x7b.A\x7d\x7d|(\x7b\x7b.A\x7d\x7d)" =
      .ok template ∧ template.insertions [⟨"A", "x", "(?P<A>x)"⟩] =
        [⟨"[(](?#()".toList, "A", "A", "x"⟩, ⟨['|', '('], "A", "A__2", "x"⟩] ∧
      template.tail = [')'] ∧ template.referenceCount "A" = 2 := by
    decide +kernel
  obtain ⟨pattern, hcompile, hfield, hwrapped⟩ := hready
  obtain ⟨template, hparse, hinsertions, htail, hcount⟩ := hparse
  obtain ⟨same, hsame, _, h⟩ := references_counted hcompile
  cases hparse.symm.trans hsame
  have hopen : template.StandsOpen pattern.wrapped 0 "A" := by
    intro before insertion after hsplit _
    rw [hwrapped, hinsertions] at hsplit
    rw [Template.filled, hwrapped, hinsertions, htail]
    rcases before with _ | ⟨first, _ | ⟨second, rest⟩⟩
    · cases hsplit
      decide +kernel
    · cases hsplit
      decide +kernel
    · cases rest <;> cases hsplit
  exact ⟨pattern, template, hcompile, hfield, hcount, hopen, (h "A" hfield (by omega)).2.2 hopen⟩

-- A reference inside a class is left without a group, and so its field without a text.
theorem class_reference_unbound :
    ¬∀ store source schema flags pattern template,
      compile store source schema flags = .ok pattern → Template.parse source = .ok template →
        ∀ field ∈ pattern.fieldNames, 1 ≤ template.referenceCount field →
          (positionsOf pattern.composite.index field).length = template.referenceCount field := by
  have hready : ∃ pattern, compile .empty "[\x7b\x7b.A\x7d\x7d]"
      (.mapping false [(.text "A", .text "x")]) 0 = .ok pattern ∧ "A" ∈ pattern.fieldNames ∧
      positionsOf pattern.composite.index "A" = [] ∧
      ∃ template, Template.parse "[\x7b\x7b.A\x7d\x7d]" = .ok template ∧
        template.referenceCount "A" = 1 := by
    decide +kernel
  obtain ⟨pattern, hcompile, hfield, hnone, template, hparse, hcount⟩ := hready
  intro hall
  have h := hall _ _ _ _ pattern template hcompile hparse "A" hfield (by omega)
  rw [hnone, hcount] at h
  cases h

end Pattern

end RecordPattern
