import RecordPattern.Proofs.Record.Acceptance

namespace RecordPattern

open Outcome Value

-- A class of some kind takes a field that is declared as text, and a model only one that can be
-- written to.
def FieldDecl.Fits (kind : RecordKind) (decl : FieldDecl) : Prop :=
  decl.declared.text = "str" ∧ (kind = .model → decl.readOnly = false)

-- A declared field that a class of some kind takes, with a text in it.
def FieldDecl.HoldsText (kind : RecordKind) (field : FieldDecl × Value) : Prop :=
  field.1.Fits kind ∧ ∃ text, field.2 = .text text

-- Records of both kinds are read and written alike.
def RecordKind.shapeKind : RecordKind → ShapeKind
  | .model => .model
  | _ => .dataClass

-- A value that can serve as a schema, and the shape that it declares: a mapping from texts to texts,
-- or a record of a class that can be written to, with fields that are declared as text and hold text.
inductive Declares : Value → Shape → Prop
  | mapping {readOnly : Bool} (fields : List (String × String)) :
      Declares (.mapping readOnly (fields.map fun field => (.text field.1, .text field.2)))
        ⟨.mapping, none, fields.map Prod.fst⟩
  | record {type : RecordType} {held : Fin type.fields.length → Value}
      {others : List (String × Value)} (hkind : type.kind ≠ .plain) (hfrozen : type.frozen = false)
      (hfields : ∀ field ∈ declared type held, FieldDecl.HoldsText type.kind field) :
      Declares (.record type held others)
        ⟨type.kind.shapeKind, some type, type.fields.map FieldDecl.name⟩

-- What is wrong with a field of a record. Its declaration is judged before the value it holds.
inductive BadField (store : Store) (decl : FieldDecl) (value : Value) :
    RecordKind → SchemaError → Prop
  | readOnly (hdecl : decl.readOnly = true) :
      BadField store decl value .model (.fieldNotWritable decl.name "read-only")
  | modelType (hwritable : decl.readOnly = false) (hdecl : decl.declared.text ≠ "str") :
      BadField store decl value .model
        (.fieldNotWritable decl.name ("declared as " ++ decl.declared.label .model))
  | dataClassType (hdecl : decl.declared.text ≠ "str") :
      BadField store decl value .dataClass
        (.fieldDeclared decl.name (decl.declared.label .dataClass))
  | held {kind : RecordKind} (hdecl : decl.Fits kind) (hvalue : ∀ text, value ≠ .text text) :
      BadField store decl value kind (.fieldNotText decl.name (store.typeName value))

namespace Shape

variable {store : Store} {schema : Value} {shape : Shape} {entry : Value × Value} {name : String}
  {error : SchemaError} {decl : FieldDecl} {value : Value} {kind : RecordKind} {type : RecordType}
  {held : Fin type.fields.length → Value} {others : List (String × Value)}

theorem entryField_eq_ok_iff :
    entryField store entry = .ok name ↔ ∃ text, entry = (.text name, .text text) := by
  unfold entryField
  constructor
  · intro h
    split at h <;> cases h
    exact ⟨_, rfl⟩
  · rintro ⟨text, rfl⟩
    rfl

theorem checkText_eq_ok_iff : checkText store name value = .ok () ↔ ∃ text, value = .text text := by
  cases value <;> simp [checkText]

theorem checkText_eq_error_iff : checkText store name value = .error error ↔
    (∀ text, value ≠ .text text) ∧ error = .fieldNotText name (store.typeName value) := by
  cases value <;> simp [checkText, eq_comm]

-- A field of a record, as its kind of class judges it.
def recordField (store : Store) : RecordKind → FieldDecl × Value → Except SchemaError String
  | .model => modelField store
  | _ => dataClassField store

-- Once its declaration fits, a field is judged by what it holds.
theorem recordField_of_fits (h : decl.Fits kind) : recordField store kind (decl, value) =
    (checkText store decl.name value).map fun _ => decl.name := by
  have htext : decl.declared.isText = true := decide_eq_true h.1
  cases kind with
  | model =>
      change modelField store (decl, value) = _
      have hwritable : ¬decl.readOnly = true := by simp [h.2 rfl]
      rw [modelField, if_neg hwritable, if_pos htext]
      cases checkText store decl.name value <;> rfl
  | _ =>
      change dataClassField store (decl, value) = _
      rw [dataClassField, if_pos htext]
      cases checkText store decl.name value <;> rfl

-- Otherwise what it holds does not matter.
theorem recordField_of_not_fits (store : Store) (value : Value) (h : ¬decl.Fits kind)
    (hkind : kind ≠ .plain) : ∃ error, recordField store kind (decl, value) = .error error ∧
      ∀ other, BadField store decl value kind other ↔ other = error := by
  cases kind with
  | plain => exact absurd rfl hkind
  | dataClass =>
      have htext : decl.declared.text ≠ "str" := fun htext => h ⟨htext, by simp⟩
      refine ⟨_, if_neg (by simpa [DeclaredType.isText] using htext), fun other => ⟨fun hbad => ?_, ?_⟩⟩
      · cases hbad with
        | dataClassType => rfl
        | held hdecl => exact absurd hdecl h
      · rintro rfl
        exact .dataClassType htext
  | model =>
      cases hwritable : decl.readOnly with
      | true =>
          refine ⟨_, if_pos hwritable, fun other => ⟨fun hbad => ?_, ?_⟩⟩
          · cases hbad with
            | readOnly => rfl
            | modelType hfalse => cases hfalse.symm.trans hwritable
            | held hdecl => exact absurd hdecl h
          · rintro rfl
            exact .readOnly hwritable
      | false =>
          have htext : decl.declared.text ≠ "str" := fun htext => h ⟨htext, fun _ => hwritable⟩
          have hfails : recordField store .model (decl, value) = .error
              (.fieldNotWritable decl.name ("declared as " ++ decl.declared.label .model)) := by
            simp [recordField, modelField, hwritable, DeclaredType.isText, htext]
          refine ⟨_, hfails, fun other => ⟨fun hbad => ?_, ?_⟩⟩
          · cases hbad with
            | readOnly htrue => cases hwritable.symm.trans htrue
            | modelType => rfl
            | held hdecl => exact absurd hdecl h
          · rintro rfl
            exact .modelType hwritable htext

theorem recordField_eq_ok_iff (hkind : kind ≠ .plain) {field : FieldDecl × Value} :
    recordField store kind field = .ok name ↔
      FieldDecl.HoldsText kind field ∧ field.1.name = name := by
  obtain ⟨decl, value⟩ := field
  by_cases hfits : decl.Fits kind
  · rw [recordField_of_fits hfits, map_eq_ok]
    constructor
    · rintro ⟨⟨⟩, hheld, hname⟩
      exact ⟨⟨hfits, checkText_eq_ok_iff.mp hheld⟩, hname⟩
    · rintro ⟨⟨_, hheld⟩, hname⟩
      exact ⟨(), checkText_eq_ok_iff.mpr hheld, hname⟩
  · obtain ⟨error, hfails, _⟩ := recordField_of_not_fits store value hfits hkind
    simp [hfails, hfits, FieldDecl.HoldsText]

theorem mapM_entryField_eq_ok_iff {entries : List (Value × Value)} {names : List String} :
    entries.mapM (entryField store) = .ok names ↔ ∃ fields : List (String × String),
      entries = (fields.map fun field => (.text field.1, .text field.2)) ∧
        fields.map Prod.fst = names := by
  rw [mapM_eq_ok]
  constructor
  · intro h
    induction h with
    | nil => exact ⟨[], rfl, rfl⟩
    | cons hfirst _ ih =>
        obtain ⟨text, rfl⟩ := entryField_eq_ok_iff.mp hfirst
        obtain ⟨fields, rfl, rfl⟩ := ih
        exact ⟨(_, text) :: fields, rfl, rfl⟩
  · rintro ⟨fields, rfl, rfl⟩
    rw [List.forall₂_map_left_iff, List.forall₂_map_right_iff, List.forall₂_same]
    exact fun field _ => entryField_eq_ok_iff.mpr ⟨field.2, rfl⟩

theorem mapM_recordField_eq_ok_iff (hkind : kind ≠ .plain) {fields : List (FieldDecl × Value)}
    {names : List String} :
    fields.mapM (recordField store kind) = .ok names ↔
      (∀ field ∈ fields, FieldDecl.HoldsText kind field) ∧
        (fields.map fun field => field.1.name) = names := by
  rw [mapM_eq_ok]
  simp only [recordField_eq_ok_iff hkind]
  constructor
  · intro h
    induction h with
    | nil => simp
    | cons hfirst _ ih =>
        obtain ⟨hfield, rfl⟩ := hfirst
        rw [List.forall_mem_cons, List.map_cons, ih.2]
        exact ⟨⟨hfield, ih.1⟩, rfl⟩
  · rintro ⟨hall, rfl⟩
    rw [List.forall₂_map_right_iff, List.forall₂_same]
    exact fun field hfield => ⟨hall field hfield, rfl⟩

theorem ofSchema_mapping {readOnly : Bool} {entries : List (Value × Value)}
    (h : store.contents schema = .mapping readOnly entries) :
    ofSchema store schema =
      (entries.mapM (entryField store)).map fun names => ⟨.mapping, none, names⟩ := by
  unfold ofSchema
  simp only [h]
  cases entries.mapM (entryField store) <;> rfl

theorem ofSchema_record (h : store.contents schema = .record type held others)
    (hkind : type.kind ≠ .plain) (hfrozen : type.frozen = false) :
    ofSchema store schema = ((declared type held).mapM (recordField store type.kind)).map
      fun names => ⟨type.kind.shapeKind, some type, names⟩ := by
  unfold ofSchema
  simp only [h, hfrozen]
  generalize declared type held = fields
  cases hk : type.kind with
  | plain => exact absurd hk hkind
  | dataClass =>
      change _ = Except.map _ (fields.mapM (dataClassField store))
      cases fields.mapM (dataClassField store) <;> rfl
  | model =>
      change _ = Except.map _ (fields.mapM (modelField store))
      cases fields.mapM (modelField store) <;> rfl

theorem ofSchema_frozen (h : store.contents schema = .record type held others)
    (hkind : type.kind ≠ .plain) (hfrozen : type.frozen = true) :
    ofSchema store schema = .error (.frozenType type.name) := by
  unfold ofSchema
  simp only [h, hfrozen]
  cases hk : type.kind with
  | plain => exact absurd hk hkind
  | _ => rfl

theorem ofSchema_notARecord
    (hmapping : ∀ readOnly entries, store.contents schema ≠ .mapping readOnly entries)
    (hrecord : ∀ type held others, store.contents schema = .record type held others →
      type.kind = .plain) :
    ofSchema store schema = .error (.notARecord (store.contents schema).typeName) := by
  unfold ofSchema
  split
  next readOnly entries h => exact absurd h (hmapping readOnly entries)
  next type held others h =>
    simp only [hrecord type held others h, h]
    rfl
  · rfl

theorem plain_of_record {contents : Value} (h : contents = .record type held others)
    (hkind : type.kind = .plain) : ∀ (other : RecordType) (new : Fin other.fields.length → Value)
      (more : List (String × Value)), contents = .record other new more → other.kind = .plain := by
  subst h
  intro other new more hother
  cases hother
  exact hkind

theorem declared_names (type : RecordType) (held : Fin type.fields.length → Value) :
    ((declared type held).map fun field => field.1.name) = type.fields.map FieldDecl.name :=
  List.ext_getElem (by simp [declared]) (by simp [declared])

-- A schema has a shape just if it declares one.
theorem ofSchema_eq_ok_iff :
    ofSchema store schema = .ok shape ↔ Declares (store.contents schema) shape := by
  constructor
  · intro h
    cases hcontents : store.contents schema with
    | mapping readOnly entries =>
        rw [ofSchema_mapping hcontents] at h
        obtain ⟨names, hnames, rfl⟩ := map_eq_ok.mp h
        obtain ⟨fields, rfl, rfl⟩ := mapM_entryField_eq_ok_iff.mp hnames
        exact .mapping fields
    | record type held others =>
        by_cases hkind : type.kind = .plain
        · rw [ofSchema_notARecord (by simp [hcontents]) (plain_of_record hcontents hkind)] at h
          cases h
        · cases hfrozen : type.frozen with
          | true =>
              rw [ofSchema_frozen hcontents hkind hfrozen] at h
              cases h
          | false =>
              rw [ofSchema_record hcontents hkind hfrozen] at h
              obtain ⟨names, hnames, rfl⟩ := map_eq_ok.mp h
              obtain ⟨hfields, rfl⟩ := (mapM_recordField_eq_ok_iff hkind).mp hnames
              rw [declared_names]
              exact .record hkind hfrozen hfields
    | _ =>
        rw [ofSchema_notARecord (by simp [hcontents]) (by simp [hcontents])] at h
        cases h
  · intro h
    generalize hcontents : store.contents schema = contents at h
    cases h with
    | mapping fields =>
        rw [ofSchema_mapping hcontents]
        exact map_eq_ok.mpr ⟨_, mapM_entryField_eq_ok_iff.mpr ⟨fields, rfl, rfl⟩, rfl⟩
    | record hkind hfrozen hfields =>
        rw [ofSchema_record hcontents hkind hfrozen, ← declared_names]
        exact map_eq_ok.mpr ⟨_, (mapM_recordField_eq_ok_iff hkind).mpr ⟨hfields, rfl⟩, rfl⟩

end Shape

end RecordPattern
