import RecordPattern.Proofs.Record.Schema
import RecordPattern.Proofs.Record.Writing

namespace RecordPattern

open Outcome Value

namespace RecordType

end RecordType

namespace Declares

variable {store : Store} {contents schema : Value} {shape : Shape} {name : String}

theorem field?_eq (h : Declares contents shape) (hn : name ∈ shape.fields) :
    ∃ text, contents.field? name = some (.text text) := by
  cases h with
  | @mapping readOnly fields =>
      have hpresent : .text name ∈ (Value.mapping readOnly
          (fields.map fun field => (.text field.1, .text field.2))).keys := by
        obtain ⟨field, hf, rfl⟩ := List.mem_map.mp hn
        exact List.mem_map.mpr ⟨_, List.mem_map_of_mem hf, rfl⟩
      obtain ⟨value, hvalue⟩ := Option.isSome_iff_exists.mp (isSome_field? hpresent)
      obtain ⟨field, _, hfield⟩ := List.mem_map.mp (mem_of_lookup? hvalue)
      cases hfield
      exact ⟨field.2, hvalue⟩
  | @record type held others hkind hfrozen hfields =>
      obtain ⟨i, hi⟩ := RecordType.exists_index? hn
      have hvalue : (Value.record type held others).field? name = some (held i) := by
        simp [Value.field?, attribute?, hi]
      obtain ⟨_, text, htext⟩ := hfields (type.fields[i], held i) (List.mem_ofFn.mpr ⟨i, rfl⟩)
      exact ⟨text, hvalue.trans (congrArg some htext)⟩

theorem get_eq (h : Declares contents shape) (hn : name ∈ shape.fields) :
    shape.kind.get name contents = .ok ((contents.field? name).getD .null) := by
  obtain ⟨text, htext⟩ := h.field?_eq hn
  cases h with
  | mapping fields => rfl
  | @record type held others hkind hfrozen hfields =>
      have hvalue : attribute? type held others name = some (.text text) := htext
      rw [htext]
      cases hk : type.kind <;> simp [RecordKind.shapeKind, ShapeKind.get, hvalue]

theorem read_eq (h : Declares contents shape) : shape.read contents =
    .ok (shape.fields.map fun name => (name, (contents.field? name).getD .null)) := by
  rw [Shape.read, mapM_eq_ok, List.forall₂_map_right_iff, List.forall₂_same]
  intro name hn
  rw [h.get_eq hn]
  rfl

end Declares

namespace Shape

end Shape

end RecordPattern
