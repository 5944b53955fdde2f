import RecordPattern.Record.Access

namespace RecordPattern

open Text

-- Why a value cannot serve as a schema. A name that is no text is given as messages show it.
inductive SchemaError where
  | notARecord (typeName : String)
  | keyNotText (shown typeName : String)
  | frozenType (typeName : String)
  | fieldNotText (field typeName : String)
  | fieldDeclared (field label : String)
  | fieldNotWritable (field reason : String)
  | nameNotText (shown : String)
  | nameNotIdentifier (field : String)
  | nameReserved (field : String)
  deriving DecidableEq, Repr

namespace SchemaError

def message : SchemaError → String
  | .notARecord typeName =>
    "schema must be a mapping, a dataclass instance or a pydantic model instance, is a " ++ typeName
  | .keyNotText shown typeName => "field names must be strings, " ++ shown ++ " is a " ++ typeName
  | .frozenType typeName => "fields must be writable, " ++ typeName ++ " is frozen"
  | .fieldNotText field typeName => "fields must be strings, " ++ field ++ " is a " ++ typeName
  | .fieldDeclared field label =>
    "fields must be strings, " ++ field ++ " is declared as " ++ label
  | .fieldNotWritable field reason =>
    "fields must be writable strings, " ++ field ++ " is " ++ reason
  | .nameNotText shown => "field names must be non-empty strings, got " ++ shown
  | .nameNotIdentifier field => "field name " ++ quoted field ++ " is not a valid group name"
  | .nameReserved field =>
    "field name " ++ quoted field ++ " ends with a reserved suffix (__<digits>)"

-- The field that an error is about, if it has a proper name.
def field? : SchemaError → Option String
  | .fieldNotText field _ | .fieldDeclared field _ | .fieldNotWritable field _
  | .nameNotIdentifier field | .nameReserved field => some field
  | .notARecord _ | .keyNotText _ _ | .frozenType _ | .nameNotText _ => none

end SchemaError

-- Why a value cannot receive the fields of a match.
inductive Mismatch where
  | notMutable (typeName : String)
  | unknownKeys (keys : List String)
  | fieldNotText (field typeName : String)
  | otherType (expected actual : String)
  | notASequence (typeName : String)
  deriving DecidableEq, Repr

def Mismatch.message : Mismatch → String
  | .notMutable typeName => "values must be a mutable mapping, is " ++ typeName
  | .unknownKeys keys =>
    "values has keys that are not schema fields: [" ++
      Value.commaSeparated (keys.map quoted) ++ "]"
  | .fieldNotText field typeName =>
    "values[" ++ quoted field ++ "] must be a string, is a " ++ typeName
  | .otherType expected actual => "values must be " ++ expected ++ ", is " ++ actual
  | .notASequence typeName => "values must be a sequence of records, is " ++ typeName

-- What a schema says about records: their kind, their type unless they are mappings, and their
-- fields in the order of declaration.
structure Shape where
  kind : ShapeKind
  recordType : Option RecordType
  fields : List String
  deriving DecidableEq, Repr

namespace Shape

def typeName (shape : Shape) : String :=
  match shape.recordType with
  | some type => type.name
  | none => "mapping"

-- The field that an entry of a mapping declares.
def entryField (store : Store) (entry : Value × Value) : Except SchemaError String :=
  match entry with
  | (.text name, .text _) => .ok name
  | (.text name, value) => .error (.fieldNotText name (store.typeName value))
  | (key, _) => .error (.keyNotText key.display (store.typeName key))

def checkText (store : Store) (field : String) (value : Value) : Except SchemaError Unit :=
  match value with
  | .text _ => .ok ()
  | value => .error (.fieldNotText field (store.typeName value))

-- A field of a data class is declared as text and holds text.
def dataClassField (store : Store) (field : FieldDecl × Value) : Except SchemaError String := do
  let (decl, value) := field
  if decl.declared.isText then
    checkText store decl.name value
    return decl.name
  else .error (.fieldDeclared decl.name (decl.declared.label .dataClass))

-- A field of a model must not be read-only besides.
def modelField (store : Store) (field : FieldDecl × Value) : Except SchemaError String := do
  let (decl, value) := field
  if decl.readOnly then .error (.fieldNotWritable decl.name "read-only")
  else if decl.declared.isText then
    checkText store decl.name value
    return decl.name
  else
    .error (.fieldNotWritable decl.name ("declared as " ++ decl.declared.label .model))

-- The shape of a schema. The kind of value is judged first, then whether its type can be
-- written to, then each field in turn.
def ofSchema (store : Store) (schema : Value) : Except SchemaError Shape := do
  match store.contents schema with
  | .mapping _ entries => return ⟨.mapping, none, ← entries.mapM (entryField store)⟩
  | .record type held _ =>
    let fields := Value.declared type held
    match type.kind with
    | .plain => .error (.notARecord type.name)
    | .dataClass =>
      if type.frozen then .error (.frozenType type.name)
      else return ⟨.dataClass, some type, ← fields.mapM (dataClassField store)⟩
    | .model =>
      if type.frozen then .error (.frozenType type.name)
      else return ⟨.model, some type, ← fields.mapM (modelField store)⟩
  | other => .error (.notARecord other.typeName)

-- The fields of a record with their values, in the order of declaration.
def read (shape : Shape) (contents : Value) : Except AccessError (List (String × Value)) :=
  shape.fields.mapM fun name => do return (name, ← shape.kind.get name contents)

-- A field that a mapping has must hold text or nothing.
def checkEntry (store : Store) (entries : List (Value × Value)) (field : String) :
    Except Mismatch Unit :=
  match Value.lookup? entries field with
  | none | some .null | some (.text _) => .ok ()
  | some value => .error (.fieldNotText field (store.typeName value))

def checkEntries (store : Store) (fields : List String) (entries : List (Value × Value)) :
    Except Mismatch Unit := do
  let unknown := entries.filter fun (key, _) => !fields.any key.isText
  if unknown.isEmpty then fields.forM (checkEntry store entries)
  else .error (.unknownKeys ((unknown.map fun (key, _) => key.plainText).mergeSort (· ≤ ·)))

-- Whether a value can receive the fields of a match.
def check (shape : Shape) (store : Store) (value : Value) : Except Mismatch Unit :=
  match shape.recordType, store.contents value with
  | none, .mapping false entries => checkEntries store shape.fields entries
  | none, other => .error (.notMutable other.typeName)
  | some expected, .record actual _ _ =>
    if actual = expected then .ok () else .error (.otherType expected.name actual.name)
  | some expected, other => .error (.otherType expected.name other.typeName)

-- Writes one field: its new text if there is one, and empty text if it has no value at all.
def writeField (kind : ShapeKind) (resolved : List (String × String)) (contents : Value)
    (field : String) : Except AccessError Value :=
  match resolved.lookup field with
  | some text => kind.set field (.text text) contents
  | none => do
    match ← kind.get field contents with
    | .null => kind.set field (.text "") contents
    | _ => return contents

def writeFields (kind : ShapeKind) (resolved : List (String × String)) :
    List String → Value → Value × Option AccessError
  | [], contents => (contents, none)
  | field :: rest, contents =>
    match writeField kind resolved contents field with
    | .ok next => writeFields kind resolved rest next
    | .error error => (contents, some error)

-- Writes resolved fields into a record and leaves its other fields as they are; gives the record
-- as it is afterwards and what stopped the writing, if anything did.
def write (shape : Shape) (contents : Value) (resolved : List (String × String)) :
    Value × Option AccessError :=
  writeFields shape.kind resolved shape.fields contents

-- Writes into the object that a value stands for.
def writeTo (shape : Shape) (store : Store) (target : Value) (resolved : List (String × String)) :
    Store × Option AccessError :=
  let (contents, error) := shape.write (store.contents target) resolved
  match target with
  | .object id => (store.set id contents, error)
  | _ => (store, error)

end Shape

end RecordPattern
