import RecordPattern.Proofs.Composite.Assembly
import RecordPattern.Proofs.Pattern.Compiled
import RecordPattern.Proofs.Record.Fit
import RecordPattern.Proofs.Schema.Failure

namespace RecordPattern

open Outcome

namespace Pattern

-- The stage that compiling ends at, all before it being in order.
inductive EndsAt (store : Store) (source : String) (schema : Value) (flags : Nat) :
    Stage → PatternError → Prop
  | shape {fault : SchemaError} (hfault : Shape.ofSchema store schema = .error fault) :
      EndsAt store source schema flags .shape (.schema fault)
  | fields {shape : Shape} {fields : List (String × Value)} {error : PatternError}
      (hshape : Shape.ofSchema store schema = .ok shape)
      (hread : shape.read (store.contents schema) = .ok fields)
      (hfault : synthesize flags (fields.map fun (name, value) => (.text name, value)) =
        .error error) :
      EndsAt store source schema flags .synthesize error
  | template {shape : Shape} {fields : List (String × Value)} {wrapped : List WrappedField}
      {error : PatternError} (hshape : Shape.ofSchema store schema = .ok shape)
      (hread : shape.read (store.contents schema) = .ok fields)
      (hwrapped : synthesize flags (fields.map fun (name, value) => (.text name, value)) =
        .ok wrapped)
      (hfault : Composite.assemble source wrapped flags = .error error) :
      EndsAt store source schema flags .assemble error

variable {store : Store} {source : String} {schema : Value} {flags : Nat} {site : Site}
  {cause : Regex.CompileError} {stage : Stage} {error : PatternError}

theorem compileStaged_eq_error : compileStaged store source schema flags = .error (stage, error) ↔
    EndsAt store source schema flags stage error := by
  constructor
  · intro h
    rcases bind_eq_error.mp h with hfails | ⟨shape, hshape, h⟩
    · obtain ⟨_, hfault, hsame⟩ := mapError_eq_error.mp hfails
      cases hsame
      exact .shape hfault
    · have hshape := mapError_eq_ok.mp hshape
      have hread := (Shape.ofSchema_eq_ok_iff.mp hshape).read_eq
      rcases bind_eq_error.mp h with hfails | ⟨same, hsame, h⟩
      · obtain ⟨_, hfault, _⟩ := mapError_eq_error.mp hfails
        cases hread.symm.trans hfault
      · cases hread.symm.trans (mapError_eq_ok.mp hsame)
        rcases bind_eq_error.mp h with hfails | ⟨wrapped, hwrapped, h⟩
        · obtain ⟨_, hfault, hsame⟩ := mapError_eq_error.mp hfails
          cases hsame
          exact .fields hshape hread hfault
        · rcases bind_eq_error.mp h with hfails | ⟨_, _, h⟩
          · obtain ⟨_, hfault, hsame⟩ := mapError_eq_error.mp hfails
            cases hsame
            exact .template hshape hread (mapError_eq_ok.mp hwrapped) hfault
          · cases h
  · intro h
    cases h with
    | shape hfault => exact bind_eq_error.mpr (Or.inl (mapError_eq_error.mpr ⟨_, hfault, rfl⟩))
    | fields hshape hread hfault =>
        refine bind_eq_error.mpr (Or.inr ⟨_, mapError_eq_ok.mpr hshape, ?_⟩)
        refine bind_eq_error.mpr (Or.inr ⟨_, mapError_eq_ok.mpr hread, ?_⟩)
        exact bind_eq_error.mpr (Or.inl (mapError_eq_error.mpr ⟨_, hfault, rfl⟩))
    | template hshape hread hwrapped hfault =>
        refine bind_eq_error.mpr (Or.inr ⟨_, mapError_eq_ok.mpr hshape, ?_⟩)
        refine bind_eq_error.mpr (Or.inr ⟨_, mapError_eq_ok.mpr hread, ?_⟩)
        refine bind_eq_error.mpr (Or.inr ⟨_, mapError_eq_ok.mpr hwrapped, ?_⟩)
        exact bind_eq_error.mpr (Or.inl (mapError_eq_error.mpr ⟨_, hfault, rfl⟩))

end Pattern

end RecordPattern
