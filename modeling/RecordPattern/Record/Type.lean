namespace RecordPattern

-- The declared type of a field as it is written, and whether it is written in quotes.
structure DeclaredType where
  text : String
  quoted : Bool
  deriving DecidableEq, Repr

structure FieldDecl where
  name : String
  declared : DeclaredType
  readOnly : Bool
  deriving DecidableEq, Repr

-- Data classes and models have declared fields; a plain class is no record.
inductive RecordKind where
  | dataClass
  | model
  | plain
  deriving DecidableEq, Repr

-- A class of records. Classes are told apart by `id`, since two may share a name.
structure RecordType where
  id : String
  name : String
  kind : RecordKind
  frozen : Bool
  fields : List FieldDecl
  deriving DecidableEq, Repr

namespace DeclaredType

def isText (declared : DeclaredType) : Bool :=
  declared.text = "str"

-- A generic type is shown with the module it comes from.
def resolvedLabel (declared : DeclaredType) : String :=
  if declared.text = "Optional[str]" then "typing.Optional[str]" else declared.text

-- How messages show a declared type. A model resolves quoted types, a data class does not.
def label (declared : DeclaredType) (kind : RecordKind) : String :=
  if declared.quoted && kind ≠ .model then declared.text else declared.resolvedLabel

end DeclaredType

namespace RecordType

-- Where a field of a class stands among those that it declares.
def index? (type : RecordType) (name : String) : Option (Fin type.fields.length) :=
  type.fields.findFinIdx? (·.name = name)

-- Declares a field; one that the base declares too keeps its place.
def declare (fields : List FieldDecl) (field : FieldDecl) : List FieldDecl :=
  if fields.any (·.name = field.name) then
    fields.map fun earlier => if earlier.name = field.name then field else earlier
  else fields ++ [field]

-- The type that extends a base by fields of its own.
def extending (base own : RecordType) : RecordType :=
  { own with
    kind := if own.kind = .plain then base.kind else own.kind
    frozen := own.frozen || (base.frozen && own.kind ≠ .dataClass)
    fields := own.fields.foldl declare base.fields }

end RecordType

end RecordPattern
