import RecordPattern.Pattern.Compile
import RecordPattern.Proofs.Composite.GroupIndex
import RecordPattern.Proofs.Record.Schema

namespace RecordPattern

open Outcome Capture

namespace Shape

theorem read_eq_ok {shape : Shape} {contents : Value} {fields : List (String × Value)}
    (h : shape.read contents = .ok fields) : fields.map Prod.fst = shape.fields := by
  have hname : ∀ (name : String) (field : String × Value),
      (do return (name, ← shape.kind.get name contents)) = Except.ok (ε := AccessError) field →
        field.1 = name := by
    intro name field hfield
    obtain ⟨_, _, hfield⟩ := bind_eq_ok.mp hfield
    cases hfield
    rfl
  simpa using map_eq_of_mapM id Prod.fst h hname

end Shape

namespace Pattern

-- What each stage of compiling has given, once there is a pattern.
structure Staged (store : Store) (source : String) (schema : Value) (flags : Nat) (pattern : Pattern)
    (fields : List (String × Value)) : Prop where
  shape : Shape.ofSchema store schema = .ok pattern.shape
  read : pattern.shape.read (store.contents schema) = .ok fields
  wrapped : synthesize flags (fields.map fun (name, value) => (.text name, value)) =
    .ok pattern.wrapped
  composite : Composite.assemble source pattern.wrapped flags = .ok pattern.composite

theorem compileStaged_eq_ok {store : Store} {source : String} {schema : Value} {flags : Nat}
    {pattern : Pattern} :
    compileStaged store source schema flags = .ok pattern ↔
      ∃ fields, Staged store source schema flags pattern fields := by
  constructor
  · intro h
    obtain ⟨_, hshape, h⟩ := bind_eq_ok.mp h
    obtain ⟨fields, hread, h⟩ := bind_eq_ok.mp h
    obtain ⟨_, hwrapped, h⟩ := bind_eq_ok.mp h
    obtain ⟨_, hcomposite, h⟩ := bind_eq_ok.mp h
    cases h
    exact ⟨fields, mapError_eq_ok.mp hshape, mapError_eq_ok.mp hread, mapError_eq_ok.mp hwrapped,
      mapError_eq_ok.mp hcomposite⟩
  · rintro ⟨fields, h⟩
    refine bind_eq_ok.mpr ⟨_, mapError_eq_ok.mpr h.shape, ?_⟩
    refine bind_eq_ok.mpr ⟨_, mapError_eq_ok.mpr h.read, ?_⟩
    refine bind_eq_ok.mpr ⟨_, mapError_eq_ok.mpr h.wrapped, ?_⟩
    exact bind_eq_ok.mpr ⟨_, mapError_eq_ok.mpr h.composite, rfl⟩

end Pattern

end RecordPattern
