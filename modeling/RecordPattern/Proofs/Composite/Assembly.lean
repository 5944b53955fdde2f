import Mathlib.Data.List.Nodup
import RecordPattern.Proofs.Composite.GroupIndex
import RecordPattern.Proofs.Composite.Insertion

namespace RecordPattern

open Capture Outcome Text

-- A field that a template refers to has just the names that its references get.
theorem Template.standsFor_iff {template : Template} {name field : String}
    (hreferenced : 1 ≤ template.referenceCount field) :
    template.StandsFor name field ↔ name ∈ groupNames field (template.referenceCount field) := by
  rw [mem_groupNames_iff]
  constructor
  · rintro (rfl | ⟨occurrence, htwo, hle, rfl⟩)
    · exact ⟨0, hreferenced, rfl⟩
    · refine ⟨occurrence - 1, by omega, ?_⟩
      rw [groupName, if_neg (by omega), Nat.sub_add_cancel (by omega)]
  · rintro ⟨earlier, hlt, rfl⟩
    unfold groupName
    split
    · exact Or.inl rfl
    · exact Or.inr ⟨earlier + 1, by omega, hlt, rfl⟩

theorem Template.checkFields_of_known {template : Template} {known : List String}
    (h : ∀ placeholder ∈ template.placeholders, placeholder.field ∈ known) :
    template.checkFields known = .ok () := by
  have hnone : template.placeholders.find? (!known.contains ·.field) = none :=
    List.find?_eq_none.mpr fun placeholder hp => by simpa using h placeholder hp
  unfold checkFields
  rw [hnone]

namespace GroupIndex

variable {regex : Regex} {fields : List String} {references : References} {template : Template}
  {index : GroupIndex} {field : String}

-- Every name that stands for a field stands for one that is known, so no group is left over.
theorem exists_build (hknown : ∀ placeholder ∈ template.placeholders, placeholder.field ∈ fields)
    (htallied : references.Tallied (template.placeholders.map Placeholder.field)) (regex : Regex) :
    ∃ index, build regex fields references.aliases = .ok index := by
  have howner : ∀ position field, ownerAt? regex fields references.aliases position = some field →
      field ∈ fields := by
    intro position field howner
    obtain ⟨name, _, hname⟩ := Option.bind_eq_some_iff.mp howner
    unfold ownerOf? at hname
    split at hname
    next hc =>
      cases hname
      exact List.contains_iff_mem.mp hc
    next =>
      obtain ⟨occurrence, htwo, hle, _⟩ := (htallied.lookup_eq_some_iff name field).mp hname
      have hcount : 0 < (template.placeholders.map Placeholder.field).count field := by omega
      obtain ⟨placeholder, hp, rfl⟩ := List.mem_map.mp (List.count_pos_iff.mp hcount)
      exact hknown placeholder hp
  have hnone : ((positions regex).findSome? fun position =>
      (ownerAt? regex fields references.aliases position).filter (!fields.contains ·)) = none := by
    refine List.findSome?_eq_none_iff.mpr fun position _ => ?_
    cases ho : ownerAt? regex fields references.aliases position with
    | none => rfl
    | some field => simp [howner position field ho]
  simp only [build, hnone]
  exact ⟨_, rfl⟩

-- The names of the groups that are listed for a field.
def namesOf (index : GroupIndex) (regex : Regex) (field : String) : List String :=
  (positionsOf index field).filterMap (nameAt? regex)

-- The index lists the groups of a field by name, each once.
structure Lists (index : GroupIndex) (regex : Regex) (template : Template) (field : String) :
    Prop where
  named : (positionsOf index field).map (nameAt? regex) = (index.namesOf regex field).map some
  nodup : (index.namesOf regex field).Nodup
  mem_iff : ∀ name, name ∈ index.namesOf regex field ↔
    name ∈ regex.names.map Prod.fst ∧ template.StandsFor name field

theorem map_eq_map_some_filterMap {α β : Type} {f : α → Option β} {items : List α}
    (h : ∀ item ∈ items, (f item).isSome) : items.map f = (items.filterMap f).map some := by
  induction items with
  | nil => rfl
  | cons item rest ih =>
      obtain ⟨hitem, hrest⟩ := List.forall_mem_cons.mp h
      obtain ⟨result, hresult⟩ := Option.isSome_iff_exists.mp hitem
      rw [List.map_cons, ih hrest, List.filterMap_cons_some hresult, List.map_cons, hresult]

theorem lists_of_build (hnumbered : Regex.Numbered regex.names regex.groupCount)
    (hreserved : ∀ field ∈ fields, isReserved field.toList = false)
    (htallied : references.Tallied (template.placeholders.map Placeholder.field))
    (hbuild : build regex fields references.aliases = .ok index) (hfield : field ∈ fields) :
    index.Lists regex template field := by
  obtain ⟨hascending, hmem⟩ := build_mem_iff hnumbered hreserved htallied hbuild hfield
  refine ⟨map_eq_map_some_filterMap fun position hp => ?_, ?_, fun name => ?_⟩
  · obtain ⟨name, hname, _⟩ := (hmem position).mp hp
    rw [(nameAt?_eq_some_iff hnumbered).mpr hname]
    rfl
  · refine List.Nodup.filterMap (fun first second name hf hs => ?_) (hascending.imp Nat.ne_of_lt)
    exact congrArg Prod.snd (hnumbered.eq_of_name ((nameAt?_eq_some_iff hnumbered).mp hf)
      ((nameAt?_eq_some_iff hnumbered).mp hs) rfl)
  · simp only [namesOf, List.mem_filterMap, hmem, nameAt?_eq_some_iff hnumbered, List.mem_map]
    constructor
    · rintro ⟨position, ⟨other, hother, hstands⟩, hname⟩
      have hsame := hnumbered.eq_of_number hother hname rfl
      cases hsame
      exact ⟨⟨_, hname, rfl⟩, hstands⟩
    · rintro ⟨⟨⟨_, position⟩, hname, rfl⟩, hstands⟩
      exact ⟨position, ⟨_, hname, hstands⟩, hname⟩

end GroupIndex

-- Fields are wrapped as groups of their names, which are identifiers and none of those reserved.
structure WrappedField.Regular (wrapped : List WrappedField) : Prop where
  group : ∀ field ∈ wrapped, field.group = wrapGroup field.name field.pattern
  identifier : ∀ name ∈ wrapped.map WrappedField.name, isIdentifier name.toList = true
  unreserved : ∀ name ∈ wrapped.map WrappedField.name, isReserved name.toList = false

theorem synthesize_regular {flags : Nat} {schema : List (Value × Value)}
    {wrapped : List WrappedField} (h : synthesize flags schema = .ok wrapped) :
    WrappedField.Regular wrapped := by
  have hfields : ∀ field ∈ wrapped, ∃ entry, FieldOf flags entry field := fun field hf =>
    let ⟨entry, _, hentry⟩ := exists_of_mapM h hf
    ⟨entry, wrapField_eq_ok hentry⟩
  refine ⟨fun field hf => ?_, fun name hn => ?_, fun name hn => ?_⟩
  · obtain ⟨_, hof⟩ := hfields field hf
    exact hof.group
  · obtain ⟨field, hf, rfl⟩ := List.mem_map.mp hn
    obtain ⟨_, hof⟩ := hfields field hf
    exact hof.identifier
  · obtain ⟨field, hf, rfl⟩ := List.mem_map.mp hn
    obtain ⟨_, hof⟩ := hfields field hf
    exact hof.unreserved

namespace Composite

variable {source : String} {template : Template} {wrapped : List WrappedField} {flags : Nat}

-- How a failure of the engine to compile a composite is reported.
def failure (pattern : String) : Regex.CompileError → PatternError
  | .malformed cause => .composite pattern cause
  | .refused refusal => .refused refusal

theorem fillText_of_known (hregular : WrappedField.Regular wrapped)
    (hparse : Template.parse source = .ok template)
    (hknown : ∀ placeholder ∈ template.placeholders,
      placeholder.field ∈ wrapped.map WrappedField.name) :
    ∃ references : References,
      Template.fillText source (wrapped.map WrappedField.name) (renderReference wrapped) ⟨[], []⟩ =
        .ok (template.filled wrapped, references) ∧
      references.Tallied (template.placeholders.map Placeholder.field) := by
  refine ⟨_, ?_, fill_tallied template hknown⟩
  rw [← fill_fst hregular.group hknown]
  exact bind_eq_ok.mpr ⟨template, hparse, bind_eq_ok.mpr
    ⟨(), Template.checkFields_of_known hknown, rfl⟩⟩

-- A template whose references are all known fails only if the engine refuses its composite.
theorem assemble_of_error (hregular : WrappedField.Regular wrapped)
    (hparse : Template.parse source = .ok template)
    (hknown : ∀ placeholder ∈ template.placeholders,
      placeholder.field ∈ wrapped.map WrappedField.name) {cause : Regex.CompileError}
    (hregex : Regex.compile (template.filled wrapped) flags = .error cause) :
    assemble source wrapped flags = .error (failure (template.filled wrapped) cause) := by
  obtain ⟨references, hfill, _⟩ := fillText_of_known hregular hparse hknown
  simp only [assemble, hfill, Except.mapError, bind, Except.bind, hregex]
  cases cause <;> rfl

theorem assemble_of_compiles (hregular : WrappedField.Regular wrapped)
    (hparse : Template.parse source = .ok template)
    (hknown : ∀ placeholder ∈ template.placeholders,
      placeholder.field ∈ wrapped.map WrappedField.name) {regex : Regex}
    (hregex : Regex.compile (template.filled wrapped) flags = .ok regex) :
    ∃ index references, assemble source wrapped flags = .ok ⟨template.filled wrapped, regex, index⟩ ∧
      References.Tallied references (template.placeholders.map Placeholder.field) ∧
      GroupIndex.build regex (wrapped.map WrappedField.name) references.aliases = .ok index := by
  obtain ⟨references, hfill, htallied⟩ := fillText_of_known hregular hparse hknown
  obtain ⟨index, hindex⟩ := GroupIndex.exists_build hknown htallied regex
  refine ⟨index, references, ?_, htallied, hindex⟩
  simp only [assemble, hfill, Except.mapError, bind, Except.bind, hregex, hindex]
  rfl

end Composite

end RecordPattern
