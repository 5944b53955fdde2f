import RecordPattern.Proofs.Capture.Resolution
import RecordPattern.Proofs.Composite.References
import RecordPattern.Proofs.Regex.Numbering

namespace RecordPattern

open Capture

-- The groups of a compiled pattern that capture for a field of its template.
def Regex.IsGroupOf (regex : Regex) (template : Template) (field : String) (position : Nat) :
    Prop :=
  ∃ name, (name, position) ∈ regex.names ∧ template.StandsFor name field

namespace GroupIndex

variable {regex : Regex} {fields : List String} {aliases : List (String × String)}
  {position : Nat} {name field : String}

theorem mem_positions_iff : position ∈ positions regex ↔ 1 ≤ position ∧ position ≤ regex.groupCount := by
  simp only [positions, List.mem_map, List.mem_range]
  constructor
  · rintro ⟨i, hi, rfl⟩
    omega
  · rintro ⟨hlo, hhi⟩
    exact ⟨position - 1, by omega, by omega⟩

theorem positions_ascending (regex : Regex) : (positions regex).Pairwise (· < ·) := by
  rw [positions, List.pairwise_map]
  exact List.pairwise_lt_range.imp (fun h => Nat.succ_lt_succ h)

theorem nameAt?_eq_some_iff_of_nodup (hapart : (regex.names.map Prod.snd).Nodup) :
    nameAt? regex position = some name ↔ (name, position) ∈ regex.names := by
  have hname : nameAt? regex position =
      (regex.names.find? fun entry => entry.2 = position).map Prod.fst := rfl
  rw [hname, Option.map_eq_some_iff]
  constructor
  · rintro ⟨⟨given, group⟩, hfind, rfl⟩
    have hgroup : group = position := by simpa using List.find?_some hfind
    exact hgroup ▸ List.mem_of_find?_eq_some hfind
  · intro hm
    cases hfind : regex.names.find? fun entry => entry.2 = position with
    | none =>
        have hne := List.find?_eq_none.mp hfind _ hm
        simp at hne
    | some entry =>
        have hgroup : entry.2 = position := by simpa using List.find?_some hfind
        have hsame := List.inj_on_of_nodup_map hapart (List.mem_of_find?_eq_some hfind) hm hgroup
        exact ⟨entry, rfl, congrArg Prod.fst hsame⟩

theorem nameAt?_eq_some_iff (h : Regex.Numbered regex.names regex.groupCount) :
    nameAt? regex position = some name ↔ (name, position) ∈ regex.names :=
  nameAt?_eq_some_iff_of_nodup (h.ascending.imp Nat.ne_of_lt)

theorem ownerOf?_eq_some_iff {references : References} {template : Template}
    (hreserved : ∀ field ∈ fields, isReserved field.toList = false)
    (htallied : references.Tallied (template.placeholders.map Placeholder.field))
    (hfield : field ∈ fields) :
    ownerOf? fields references.aliases name = some field ↔ template.StandsFor name field := by
  unfold ownerOf? Template.StandsFor Template.referenceCount
  rw [← htallied.lookup_eq_some_iff]
  split
  next hname =>
    rw [List.contains_iff_mem] at hname
    -- a name that is a field's is nobody's further name
    have hnone : references.aliases.lookup name ≠ some field := by
      intro hl
      obtain ⟨occurrence, _, _, rfl⟩ := (htallied.lookup_eq_some_iff name field).mp hl
      simpa [isReserved_aliasName] using hreserved _ hname
    simp [hnone]
  next hname =>
    have hne : name ≠ field := by
      rintro rfl
      exact hname (List.contains_iff_mem.mpr hfield)
    simp [hne]

theorem ownerAt?_eq_some_iff {references : References} {template : Template}
    (hnumbered : Regex.Numbered regex.names regex.groupCount)
    (hreserved : ∀ field ∈ fields, isReserved field.toList = false)
    (htallied : references.Tallied (template.placeholders.map Placeholder.field))
    (hfield : field ∈ fields) :
    ownerAt? regex fields references.aliases position = some field ↔
      regex.IsGroupOf template field position := by
  unfold ownerAt? Regex.IsGroupOf
  rw [Option.bind_eq_some_iff]
  simp only [nameAt?_eq_some_iff hnumbered, ownerOf?_eq_some_iff hreserved htallied hfield]

theorem build_eq_ok {index : GroupIndex} (h : build regex fields aliases = .ok index) :
    index = fields.eraseDups.map fun field => (field, (positions regex).filter fun position =>
      ownerAt? regex fields aliases position = some field) := by
  simp only [build] at h
  split at h
  · cases h
  · exact (Except.ok.inj h).symm

theorem build_positionsOf {index : GroupIndex} (h : build regex fields aliases = .ok index)
    (hfield : field ∈ fields) :
    positionsOf index field =
      (positions regex).filter fun position => ownerAt? regex fields aliases position = some field := by
  have hlookup := lookup_filterMap (fun field => some ((positions regex).filter fun position =>
    ownerAt? regex fields aliases position = some field)) fields.eraseDups field
  simp only [Option.map_some, List.filterMap_eq_map', List.mem_eraseDups, hfield, if_true] at hlookup
  rw [positionsOf, build_eq_ok h, hlookup]
  rfl

-- The index lists just the groups of each field, in ascending order.
theorem build_mem_iff {references : References} {template : Template} {index : GroupIndex}
    (hnumbered : Regex.Numbered regex.names regex.groupCount)
    (hreserved : ∀ field ∈ fields, isReserved field.toList = false)
    (htallied : references.Tallied (template.placeholders.map Placeholder.field))
    (hbuild : build regex fields references.aliases = .ok index) (hfield : field ∈ fields) :
    (positionsOf index field).Pairwise (· < ·) ∧
      ∀ position, position ∈ positionsOf index field ↔ regex.IsGroupOf template field position := by
  rw [build_positionsOf hbuild hfield]
  refine ⟨(positions_ascending regex).filter _, fun position => ?_⟩
  rw [List.mem_filter, mem_positions_iff, decide_eq_true_iff,
    ownerAt?_eq_some_iff hnumbered hreserved htallied hfield]
  refine ⟨And.right, fun hgroup => ⟨?_, hgroup⟩⟩
  obtain ⟨name, hname, _⟩ := hgroup
  exact hnumbered.inRange _ hname

end GroupIndex

end RecordPattern
