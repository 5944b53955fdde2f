import RecordPattern.Record.Store

namespace RecordPattern

-- Why a field of a value cannot be read or set.
inductive AccessError where
  | noAttribute (owner name : String)
  | noItems (owner : String)
  | noField (owner field : String)
  | frozenField (field : String)
  deriving DecidableEq, Repr

namespace AccessError

def message : AccessError → String
  | .noAttribute owner name =>
    "'" ++ owner ++ "' object has no attribute '" ++ name ++ "'"
  | .noItems owner => "'" ++ owner ++ "' object does not support item assignment"
  | .noField owner field => "\"" ++ owner ++ "\" object has no field \"" ++ field ++ "\""
  | .frozenField field => "cannot assign to field '" ++ field ++ "'"

end AccessError

-- How the fields of a record are reached.
inductive ShapeKind where
  | mapping
  | dataClass
  | model
  deriving DecidableEq, Repr

namespace ShapeKind

-- Reads a field; a key that a mapping lacks reads as `null`.
def get (kind : ShapeKind) (name : String) (contents : Value) : Except AccessError Value :=
  match kind, contents with
  | .mapping, .mapping _ entries => .ok ((Value.lookup? entries name).getD .null)
  | .mapping, other => .error (.noAttribute other.typeName "get")
  | _, .record type held others =>
    match Value.attribute? type held others name with
    | some value => .ok value
    | none => .error (.noAttribute type.name name)
  | _, other => .error (.noAttribute other.typeName name)

-- Sets an attribute that is not declared; a new one goes to the end.
def assignOther (others : List (String × Value)) (name : String) (value : Value) :
    List (String × Value) :=
  if others.any (·.1 = name) then
    others.map fun (other, old) => (other, if other = name then value else old)
  else others ++ [(name, value)]

-- Sets an attribute of a record. One that is not declared goes to the others, but a model takes
-- none of these.
def setAttribute (type : RecordType) (held : Fin type.fields.length → Value)
    (others : List (String × Value)) (name : String) (value : Value) : Except AccessError Value :=
  if type.frozen then .error (.frozenField name)
  else
    match type.index? name with
    | some i => .ok (.record type (fun j => if j = i then value else held j) others)
    | none =>
      if type.kind = .model then .error (.noField type.name name)
      else .ok (.record type held (assignOther others name value))

-- Sets a field.
def set (kind : ShapeKind) (name : String) (value : Value) (contents : Value) :
    Except AccessError Value :=
  match kind, contents with
  | .mapping, .mapping false entries => .ok (.mapping false (Value.assign entries name value))
  | .mapping, other => .error (.noItems other.typeName)
  | _, .record type held others => setAttribute type held others name value
  | _, other => .error (.noAttribute other.typeName name)

end ShapeKind

end RecordPattern
