import RecordPattern.Json.Document
import RecordPattern.Number.IntegerText
import RecordPattern.Record.Value

namespace RecordPattern

-- Why a value has no JSON form.
inductive JsonError where
  | unsupported (typeName : String)
  | badKey (typeName : String)
  | incomparable (left right : String)
  | longInteger
  deriving DecidableEq, Repr

namespace JsonError

def message : JsonError → String
  | .unsupported typeName => "Object of type " ++ typeName ++ " is not JSON serializable"
  | .badKey typeName => "keys must be str, int, float, bool or None, not " ++ typeName
  | .incomparable left right =>
    "'<' not supported between instances of '" ++ left ++ "' and '" ++ right ++ "'"
  | .longInteger =>
    "Exceeds the limit (" ++ toString Number.maxDecimalDigits ++ " digits) for integer string " ++
      "conversion; use sys.set_int_max_str_digits() to increase the limit"

-- The name of an error's kind in messages.
def kind : JsonError → String
  | .unsupported _ | .badKey _ | .incomparable _ _ => "TypeError"
  | .longInteger => "ValueError"

end JsonError

namespace Json

-- The text of a mapping's key.
def keyText (key : Value) : Except JsonError String :=
  match key with
  | .text value => .ok value
  | .null => .ok "null"
  | .bool value => .ok (if value then "true" else "false")
  | .int value => if Number.hasText value then .ok (toString value) else .error .longInteger
  | .float value => .ok (value.text "Infinity" "NaN")
  | other => .error (.badKey other.typeName)

-- Keys that can be ordered among each other.
inductive KeyClass where
  | number
  | text
  | other (typeName : String)
  deriving DecidableEq

def keyClass : Value → KeyClass
  | .bool _ | .int _ | .float _ => .number
  | .text _ => .text
  | other => .other other.typeName

-- The first two neighbours of a list of keys that cannot be ordered.
def incomparable? : List Value → Option JsonError
  | first :: second :: rest =>
    if keyClass first = keyClass second && keyClass first ≠ .other "NoneType" then
      incomparable? (second :: rest)
    else some (.incomparable second.typeName first.typeName)
  | _ => none

-- A number as a quotient; values that are not finite lie beyond all others.
def quotient : Value → Int × Nat
  | .bool value => (value.toNat, 1)
  | .int value => (value, 1)
  | .float number =>
    let sign (size : Nat) : Int := if number.negative then -size else size
    match number.magnitude with
    | .finite mantissa (.ofNat e) => (sign (mantissa * Nat.pow 2 e), 1)
    | .finite mantissa (.negSucc e) => (sign mantissa, Nat.pow 2 (e + 1))
    | _ => (sign (Nat.pow 2 2000), 1)
  | _ => (0, 1)

def keyBefore (a b : Value) : Bool :=
  match a, b with
  | .text a, .text b => a ≤ b
  | a, b =>
    let (p, q) := quotient a
    let (r, s) := quotient b
    p * s ≤ r * q

def sortEntries {α : Type} (entries : List (Value × α)) : Except JsonError (List (Value × α)) :=
  match incomparable? (entries.map (·.1)) with
  | some error => .error error
  | none => .ok (entries.mergeSort fun a b => keyBefore a.1 b.1)

def sortedIf {α : Type} (sort : Bool) (entries : List (Value × α)) :
    Except JsonError (List (Value × α)) :=
  if sort then sortEntries entries else .ok entries

mutual

-- The JSON form of a value; the first part without one decides the error. Entries are converted
-- only after they have been put in order.
def ofValue (sort : Bool) : Value → Except JsonError Json
  | .null => .ok .null
  | .bool value => .ok (.bool value)
  | .int value => if Number.hasText value then .ok (.int value) else .error .longInteger
  | .float value => .ok (.float value)
  | .text value => .ok (.string value)
  | .list items => (ofItems sort items).map .array
  | .tuple items => (ofItems sort items).map .array
  | .mapping false entries => do
    let converted ← sortedIf sort (ofEntries sort entries)
    return .object (← converted.mapM fun (key, value) => do return (← keyText key, ← value))
  | other => .error (.unsupported other.typeName)

def ofItems (sort : Bool) : List Value → Except JsonError (List Json)
  | [] => .ok []
  | item :: rest => do return (← ofValue sort item) :: (← ofItems sort rest)

def ofEntries (sort : Bool) : List (Value × Value) → List (Value × Except JsonError Json)
  | [] => []
  | (key, value) :: rest => (key, ofValue sort value) :: ofEntries sort rest

end

end Json

end RecordPattern
