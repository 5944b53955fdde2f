import RecordPattern.Record.Shape
import RecordPattern.Regex.Search
import RecordPattern.Schema.InlineFlags
import RecordPattern.Template.Fill

namespace RecordPattern

open Text

-- Why a schema, a template or their combination has no compiled pattern.
inductive PatternError where
  | schema (error : SchemaError)
  | emptyPattern (field : String)
  | invalidPattern (field pattern : String) (cause : Regex.Malformed)
  | template (error : TemplateError)
  | composite (pattern : String) (cause : Regex.Malformed)
  | refused (refusal : Regex.Refusal)
  | unlistedField (field : String)
  | unreadable (error : AccessError)
  deriving DecidableEq, Repr

-- A field with its sub-pattern and the capture group around it.
structure WrappedField where
  name : String
  pattern : String
  group : String
  deriving DecidableEq, Repr

-- Writes a capture group.
def wrapGroup (name pattern : String) : String :=
  "(?P<" ++ name ++ ">" ++ pattern ++ ")"

-- The group name of a further reference to a field.
def aliasName (field : String) (occurrence : Nat) : String :=
  field ++ "__" ++ toString occurrence

-- Whether a name ends in two underscores and decimal digits, as group names of further
-- references do.
def isReserved (name : List Char) : Bool :=
  let digits := name.reverse.takeWhile isDecimalDigit
  match digits, name.reverse.drop digits.length with
  | _ :: _, '_' :: '_' :: _ => true
  | _, _ => false

-- The name of a field, which has to do as a group name.
def fieldName (key : Value) : Except SchemaError String :=
  match key with
  | .text name =>
    if name.isEmpty then .error (.nameNotText key.display)
    else if !isIdentifier name.toList then .error (.nameNotIdentifier name)
    else if isReserved name.toList then .error (.nameReserved name)
    else .ok name
  | key => .error (.nameNotText key.display)

-- Compiles a pattern for the sake of its errors.
def checkPattern (field pattern candidate : String) (flags : Nat) : Except PatternError Unit :=
  match Regex.compile candidate flags with
  | .ok _ => .ok ()
  | .error (.malformed cause) => .error (.invalidPattern field pattern cause)
  | .error (.refused refusal) => .error (.refused refusal)

-- Wraps one field of a schema. Its sub-pattern has to compile on its own and wrapped.
def wrapField (flags : Nat) (entry : Value × Value) : Except PatternError WrappedField := do
  let name ← (fieldName entry.1).mapError .schema
  match entry.2 with
  | .text pattern =>
    if pattern.isEmpty then .error (.emptyPattern name)
    else
      let inner := InlineFlags.scope pattern
      let group := wrapGroup name inner
      checkPattern name pattern pattern flags
      checkPattern name pattern group flags
      return ⟨name, inner, group⟩
  | value => .error (.schema (.fieldNotText name value.typeName))

-- Wraps the fields of a schema in order; the first fault ends it.
def synthesize (flags : Nat) (schema : List (Value × Value)) :
    Except PatternError (List WrappedField) :=
  schema.mapM (wrapField flags)

end RecordPattern
