import RecordPattern.Number.Shortest
import RecordPattern.Record.Type
import RecordPattern.Text.Quoted

namespace RecordPattern

open Number Text

-- The values that schemas, outputs and documents are made of. An `object` is what a store holds
-- at an index; other mappings and records are values in place. A record is an instance with plain
-- attributes: it holds a value for each field that its class declares, and may have others besides.
inductive Value where
  | null
  | bool (value : Bool)
  | int (value : Int)
  | float (value : Binary64)
  | text (value : String)
  | bytes (value : List UInt8)
  | list (items : List Value)
  | tuple (items : List Value)
  | set (items : List Value)
  | mapping (readOnly : Bool) (entries : List (Value × Value))
  | record (type : RecordType) (held : Fin type.fields.length → Value)
      (others : List (String × Value))
  | recordType (type : RecordType)
  | object (id : Nat)
  | moment (text : String)
  deriving Inhabited

namespace Value

-- The name of a value's type in messages.
def typeName : Value → String
  | .null => "NoneType"
  | .bool _ => "bool"
  | .int _ => "int"
  | .float _ => "float"
  | .text _ => "str"
  | .bytes _ => "bytes"
  | .list _ => "list"
  | .tuple _ => "tuple"
  | .set _ => "set"
  | .mapping true _ => "mappingproxy"
  | .mapping false _ => "dict"
  | .record type _ _ => type.name
  | .recordType type => if type.kind = .model then "ModelMetaclass" else "type"
  | .object _ => "object"
  | .moment _ => "datetime"

def isText (value : Value) (text : String) : Bool :=
  match value with
  | .text other => other = text
  | _ => false

-- The value at a text key.
def lookup? (entries : List (Value × Value)) (key : String) : Option Value :=
  (entries.find? fun (other, _) => other.isText key).map (·.2)

-- Sets the value at a text key; a new key goes to the end.
def assign (entries : List (Value × Value)) (key : String) (value : Value) : List (Value × Value) :=
  if entries.any fun (other, _) => other.isText key then
    entries.map fun (other, old) => (other, if other.isText key then value else old)
  else entries ++ [(.text key, value)]

-- The declared fields of a record with what it holds in them, in their order.
def declared (type : RecordType) (held : Fin type.fields.length → Value) :
    List (FieldDecl × Value) :=
  List.ofFn fun i => (type.fields[i], held i)

-- What a record holds under a name: in a declared field, or else in another attribute.
def attribute? (type : RecordType) (held : Fin type.fields.length → Value)
    (others : List (String × Value)) (name : String) : Option Value :=
  match type.index? name with
  | some i => some (held i)
  | none => others.lookup name

def commaSeparated (items : List String) : String :=
  ", ".intercalate items

def boolText (value : Bool) : String :=
  if value then "True" else "False"

mutual

-- A value as messages show it.
def display : Value → String
  | .null => "None"
  | .bool value => boolText value
  | .int value => toString value
  | .float value => value.text "inf" "nan"
  | .text value => quoted value
  | .bytes value => quotedBytes value
  | .list items => "[" ++ commaSeparated (displayAll items) ++ "]"
  | .tuple [item] => "(" ++ display item ++ ",)"
  | .tuple items => "(" ++ commaSeparated (displayAll items) ++ ")"
  | .set [] => "set()"
  | .set items => "\x7b" ++ commaSeparated (displayAll items) ++ "\x7d"
  | .mapping readOnly entries =>
    let shown := "\x7b" ++ commaSeparated (displayEntries entries) ++ "\x7d"
    if readOnly then "mappingproxy(" ++ shown ++ ")" else shown
  | .record type held _ =>
    let shown := List.ofFn fun i => type.fields[i].name ++ "=" ++ display (held i)
    type.name ++ "(" ++ commaSeparated shown ++ ")"
  | .recordType type => "<class '" ++ type.name ++ "'>"
  | .object id => "<object " ++ toString id ++ ">"
  | .moment shown => shown

def displayAll : List Value → List String
  | [] => []
  | item :: rest => display item :: displayAll rest

def displayEntries : List (Value × Value) → List String
  | [] => []
  | (key, value) :: rest => (display key ++ ": " ++ display value) :: displayEntries rest

end

-- A value as text of its own: a text is not quoted.
def plainText : Value → String
  | .text value => value
  | value => value.display

-- The integer that a number equals, if any; truth values count as zero and one.
def integral? : Value → Option Int
  | .bool value => some value.toNat
  | .int value => some value
  | .float value => value.toInt?
  | _ => none

-- Whether two keys are one key of a mapping.
def sameKey (a b : Value) : Bool :=
  match a.integral?, b.integral? with
  | some x, some y => x = y
  | none, none => a.typeName = b.typeName && a.display = b.display
  | _, _ => false

-- A later entry for a key replaces the value of the earlier one.
def insertEntry (entries : List (Value × Value)) (key value : Value) : List (Value × Value) :=
  if entries.any fun (other, _) => other.sameKey key then
    entries.map fun (other, old) => (other, if other.sameKey key then value else old)
  else entries ++ [(key, value)]

def mergeEntries (entries : List (Value × Value)) : List (Value × Value) :=
  entries.foldl (fun merged (key, value) => insertEntry merged key value) []

end Value

end RecordPattern
