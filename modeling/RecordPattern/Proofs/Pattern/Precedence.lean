import RecordPattern.Proofs.Composite.Fault
import RecordPattern.Proofs.Pattern.Failure
import RecordPattern.Proofs.Schema.Entry

namespace RecordPattern

open Outcome

namespace Pattern

-- A schema that is read as fields with sub-patterns, all of which are accepted.
structure Admits (store : Store) (schema : Value) (flags : Nat) (shape : Shape)
    (fields : List (String × String)) : Prop where
  shaped : Shape.ofSchema store schema = .ok shape
  read : shape.read (store.contents schema) = .ok (fields.map fun field => (field.1, .text field.2))
  accepted : ∀ field ∈ fields, Accepted flags field.1 field.2

def wrappedFields (fields : List (String × String)) : List WrappedField :=
  fields.map fun field => .of field.1 field.2

-- The error that compiling ends with, and the stage. What is wrong with the shape of the schema
-- comes first, then what is wrong with a field after fields that are accepted, whatever the
-- template, then what is wrong with the template.
inductive FailsBy (store : Store) (source : String) (schema : Value) (flags : Nat) :
    Stage → PatternError → Prop
  | shape {fault : SchemaError} (hshape : Shape.ofSchema store schema = .error fault) :
      FailsBy store source schema flags .shape (.schema fault)
  | field {shape : Shape} {before : List (String × String)} {name : String} {value : Value}
      {after : List (String × Value)} {error : PatternError}
      (hshape : Shape.ofSchema store schema = .ok shape)
      (hread : shape.read (store.contents schema) =
        .ok ((before.map fun field => (field.1, .text field.2)) ++ (name, value) :: after))
      (hbefore : ∀ field ∈ before, Accepted flags field.1 field.2)
      (hfault : EntryFault flags (.text name, value) error) :
      FailsBy store source schema flags .synthesize error
  | template {shape : Shape} {fields : List (String × String)} {error : PatternError}
      (hfields : Admits store schema flags shape fields)
      (hfault : TemplateFault source flags (wrappedFields fields) error) :
      FailsBy store source schema flags .assemble error

-- What compiling gives: the schema is admitted, the references of the template are all known, and
-- the engine takes the composite.
inductive Succeeds (store : Store) (source : String) (schema : Value) (flags : Nat) :
    Shape → List WrappedField → String → Regex → Prop
  | intro {shape : Shape} {fields : List (String × String)} {derivation : Template.Derivation}
      {regex : Regex} (hfields : Admits store schema flags shape fields)
      (hsource : derivation.chars = source.toList)
      (hknown : ∀ placeholder ∈ derivation.template.placeholders,
        placeholder.field ∈ (wrappedFields fields).map WrappedField.name)
      (hregex : Regex.compile (derivation.template.filled (wrappedFields fields)) flags = .ok regex) :
      Succeeds store source schema flags shape (wrappedFields fields)
        (derivation.template.filled (wrappedFields fields)) regex

variable {store : Store} {source : String} {schema : Value} {flags : Nat} {shape : Shape}
  {fields : List (String × String)} {wrapped : List WrappedField} {text : String} {regex : Regex}
  {stage : Stage} {error : PatternError}

-- The fields of a record are the entries of a schema with names for keys.
theorem keyed_injective : Function.Injective
    fun fields : List (String × Value) => fields.map fun field => (Value.text field.1, field.2) := by
  refine List.map_injective_iff.mpr ?_
  rintro ⟨name, value⟩ ⟨other, held⟩ h
  cases h
  rfl

theorem Admits.synthesize (h : Admits store schema flags shape fields) :
    synthesize flags ((fields.map fun field => (field.1, Value.text field.2)).map
      fun field => (.text field.1, field.2)) = .ok (wrappedFields fields) := by
  refine synthesize_eq_ok_iff.mpr ⟨fields, ?_, h.accepted, rfl⟩
  rw [List.map_map]
  rfl

theorem exists_admits {contents : List (String × Value)} (hshape : Shape.ofSchema store schema = .ok shape)
    (hread : shape.read (store.contents schema) = .ok contents)
    (hwrapped : RecordPattern.synthesize flags (contents.map fun field => (.text field.1, field.2)) =
      .ok wrapped) :
    ∃ fields, Admits store schema flags shape fields ∧ wrapped = wrappedFields fields := by
  obtain ⟨fields, hfields, haccepted, hwrapped⟩ := synthesize_eq_ok_iff.mp hwrapped
  have hcontents : contents = fields.map fun field => (field.1, .text field.2) := by
    apply keyed_injective
    simp only [hfields, List.map_map, Function.comp_def]
  exact ⟨fields, ⟨hshape, hcontents ▸ hread, haccepted⟩, hwrapped⟩

theorem Admits.regular (h : Admits store schema flags shape fields) :
    WrappedField.Regular (wrappedFields fields) :=
  synthesize_regular h.synthesize

theorem Admits.length_eq (h : Admits store schema flags shape fields) :
    (wrappedFields fields).length = shape.fields.length := by
  have hnames := congrArg List.length (Shape.read_eq_ok h.read)
  simpa [wrappedFields] using hnames

theorem compileStaged_eq_error_iff (htyped : error.isTyped = true) :
    compileStaged store source schema flags = .error (stage, error) ↔
      FailsBy store source schema flags stage error := by
  rw [compileStaged_eq_error]
  constructor
  · intro h
    cases h with
    | shape hfault => exact .shape hfault
    | fields hshape hread hfault =>
        obtain ⟨before, entry, after, hsplit, hbefore, hentry⟩ :=
          (synthesize_eq_error_iff htyped).mp hfault
        obtain ⟨earlier, rest, rfl, hearlier, hrest⟩ := List.map_eq_append_iff.mp hsplit
        obtain ⟨field, later, rfl, rfl, rfl⟩ := List.map_eq_cons_iff.mp hrest
        have hkeyed : earlier = before.map fun field => (field.1, .text field.2) := by
          apply keyed_injective
          simp only [hearlier, List.map_map, Function.comp_def]
        exact .field hshape (hkeyed ▸ hread) hbefore hentry
    | template hshape hread hwrapped hfault =>
        obtain ⟨fields, hfields, rfl⟩ := exists_admits hshape hread hwrapped
        exact .template hfields
          ((Composite.assemble_eq_error_iff hfields.regular htyped).mp hfault)
  · intro h
    cases h with
    | shape hshape => exact .shape hshape
    | @field shape before name value after error hshape hread hbefore hfault =>
        refine .fields hshape hread ((synthesize_eq_error_iff htyped).mpr ⟨before,
          (.text name, value), after.map fun field => (.text field.1, field.2), ?_, hbefore, hfault⟩)
        simp only [List.map_append, List.map_map, List.map_cons, Function.comp_def]
    | template hfields hfault =>
        exact .template hfields.shaped hfields.read hfields.synthesize
          ((Composite.assemble_eq_error_iff hfields.regular htyped).mpr hfault)

theorem compileStaged_eq_ok_iff :
    (∃ index, compileStaged store source schema flags = .ok ⟨shape, wrapped, ⟨text, regex, index⟩⟩) ↔
      Succeeds store source schema flags shape wrapped text regex := by
  simp only [compileStaged_eq_ok]
  constructor
  · rintro ⟨index, _, hstaged⟩
    obtain ⟨fields, hfields, rfl⟩ := exists_admits hstaged.shape hstaged.read hstaged.wrapped
    obtain ⟨derivation, hsource, hknown, rfl, hregex⟩ :=
      (Composite.assemble_eq_ok_iff hfields.regular).mp ⟨index, hstaged.composite⟩
    exact .intro hfields hsource hknown hregex
  · rintro ⟨hfields, hsource, hknown, hregex⟩
    obtain ⟨index, hassemble⟩ := (Composite.assemble_eq_ok_iff hfields.regular).mpr
      ⟨_, hsource, hknown, rfl, hregex⟩
    exact ⟨index, _, hfields.shaped, hfields.read, hfields.synthesize, hassemble⟩

theorem FailsBy.isTyped (h : FailsBy store source schema flags stage error) :
    error.isTyped = true := by
  cases h with
  | shape hshape => rfl
  | field hshape hread hbefore hfault => cases hfault <;> rfl
  | template hfields hfault => cases hfault <;> rfl

theorem FailsBy.events_eq (h : FailsBy store source schema flags stage error) :
    events (compileStaged store source schema flags) = [.compileFailed stage error.kind] := by
  rw [(compileStaged_eq_error_iff h.isTyped).mpr h]
  simp only [events, h.isTyped, if_true]

theorem Succeeds.events_eq (h : Succeeds store source schema flags shape wrapped text regex) :
    events (compileStaged store source schema flags) =
      [.compiled text regex.groupCount shape.fields.length] := by
  obtain ⟨index, hcompile⟩ := compileStaged_eq_ok_iff.mpr h
  have hlength : wrapped.length = shape.fields.length := by
    obtain ⟨hfields, _, _, _⟩ := h
    exact hfields.length_eq
  rw [hcompile, ← hlength]
  rfl

-- A failure is logged only for an error of the library's own, with its stage.
theorem failsBy_of_mem_events {kind : String}
    (h : .compileFailed stage kind ∈ events (compileStaged store source schema flags)) :
    ∃ error, FailsBy store source schema flags stage error ∧ kind = error.kind := by
  cases hcompile : compileStaged store source schema flags with
  | ok pattern =>
      rw [hcompile] at h
      cases List.mem_singleton.mp h
  | error failure =>
      obtain ⟨failed, error⟩ := failure
      rw [hcompile, events] at h
      by_cases htyped : error.isTyped = true
      · rw [if_pos htyped] at h
        cases List.mem_singleton.mp h
        exact ⟨error, (compileStaged_eq_error_iff htyped).mp hcompile, rfl⟩
      · rw [if_neg htyped] at h
        cases h

-- Each kind of error belongs to a stage, except that both the shape of a schema and its entries can
-- be at fault.
theorem FailsBy.kind_stage (h : FailsBy store source schema flags stage error) :
    (error.kind = "EmptyPatternError" ∨ error.kind = "InvalidPatternError" → stage = .synthesize) ∧
      (error.kind = "TemplateSyntaxError" ∨ error.kind = "UnknownFieldReferenceError" ∨
        error.kind = "PatternCompileError" → stage = .assemble) := by
  cases h with
  | shape hshape => simp [PatternError.kind]
  | field hshape hread hbefore hfault => cases hfault <;> simp [PatternError.kind]
  | @template shape fields error hfields hfault =>
      cases hfault with
      | @malformed stuck fault hsource hreports => cases hreports <;> simp [PatternError.kind]
      | unknown hsource hfirst => simp [PatternError.kind]
      | composite hsource hknown hregex => simp [PatternError.kind]

-- Where compiling gives a pattern or an error of the library's own, that is settled by the first
-- fault in the order of the stages, and one event is logged of it: the pattern's figures, or the
-- kind of the error with the stage that it comes from.
theorem compile_precedence (store : Store) (source : String) (schema : Value) (flags : Nat) :
    (∀ error, compile store source schema flags = .error error ∧ error.isTyped = true ↔
      ∃ stage, FailsBy store source schema flags stage error) ∧
    (∀ shape wrapped text regex,
      (∃ index, compile store source schema flags = .ok ⟨shape, wrapped, ⟨text, regex, index⟩⟩) ↔
        Succeeds store source schema flags shape wrapped text regex) ∧
    (∀ stage error, FailsBy store source schema flags stage error →
      events (compileStaged store source schema flags) = [.compileFailed stage error.kind]) ∧
    (∀ shape wrapped text regex, Succeeds store source schema flags shape wrapped text regex →
      events (compileStaged store source schema flags) =
        [.compiled text regex.groupCount shape.fields.length]) ∧
    ∀ stage kind, .compileFailed stage kind ∈ events (compileStaged store source schema flags) →
      (kind = "EmptyPatternError" ∨ kind = "InvalidPatternError" → stage = .synthesize) ∧
        (kind = "TemplateSyntaxError" ∨ kind = "UnknownFieldReferenceError" ∨
          kind = "PatternCompileError" → stage = .assemble) := by
  refine ⟨fun error => ?_, fun shape wrapped text regex => ?_, fun _ _ h => h.events_eq,
    fun _ _ _ _ h => h.events_eq, fun stage kind h => ?_⟩
  · constructor
    · rintro ⟨hcompile, htyped⟩
      obtain ⟨⟨stage, _⟩, hstaged, rfl⟩ := mapError_eq_error.mp hcompile
      exact ⟨stage, (compileStaged_eq_error_iff htyped).mp hstaged⟩
    · rintro ⟨stage, hfails⟩
      have hstaged := (compileStaged_eq_error_iff hfails.isTyped).mpr hfails
      exact ⟨mapError_eq_error.mpr ⟨(stage, error), hstaged, rfl⟩, hfails.isTyped⟩
  · rw [← compileStaged_eq_ok_iff]
    exact exists_congr fun index => mapError_eq_ok
  · obtain ⟨error, hfails, rfl⟩ := failsBy_of_mem_events h
    exact hfails.kind_stage

-- A template with an unknown reference before an unclosed action, and a schema with an empty
-- sub-pattern: the schema is at fault, and without the empty sub-pattern the unclosed action is.
example : compile .empty "\x7b\x7b.C\x7d\x7d\x7b\x7b"
    (.mapping false [(.text "A", .text "x"), (.text "B", .text "")]) 0 = .error (.emptyPattern "B") := by
  decide +kernel

example : compile .empty "\x7b\x7b.C\x7d\x7d\x7b\x7b" (.mapping false [(.text "A", .text "x")]) 0 =
    .error (.template (.unclosed 6 "\x7b\x7b")) := by
  decide +kernel

end Pattern

end RecordPattern
