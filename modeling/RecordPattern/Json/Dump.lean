import RecordPattern.Json.Encode

namespace RecordPattern.Json

-- Text as far as it was written, and what stopped it, if anything did.
structure Output where
  text : List Char
  error : Option JsonError
  deriving DecidableEq, Repr

namespace Output

def of (text : List Char) : Output :=
  ⟨text, none⟩

-- After an error nothing more is written.
def andThen (first next : Output) : Output :=
  match first.error with
  | none => ⟨first.text ++ next.text, next.error⟩
  | some _ => first

-- Further parts, each after a comma, up to the closing bracket.
def following (last : Char) : List Output → Output
  | [] => of [last]
  | part :: rest => (of [',']).andThen (part.andThen (following last rest))

-- Parts between brackets, separated by commas.
def enclosed (first last : Char) : List Output → Output
  | [] => of [first, last]
  | part :: rest => (of [first]).andThen (part.andThen (following last rest))

end Output

def dumpMember (key : Value) (value : Output) : Output :=
  match keyText key with
  | .ok text => (Output.of (textChars text ++ [':'])).andThen value
  | .error error => ⟨[], some error⟩

-- A value without parts is written at once or not at all.
def dumpScalar (value : Value) : Output :=
  match ofValue false value with
  | .ok json => .of json.compactChars
  | .error error => ⟨[], some error⟩

mutual

-- Writes the JSON form of a value without blanks, one part after the other.
def dump (sort : Bool) : Value → Output
  | .list items => .enclosed '[' ']' (dumpItems sort items)
  | .tuple items => .enclosed '[' ']' (dumpItems sort items)
  | .mapping false entries =>
    match sortedIf sort (dumpEntries sort entries) with
    | .ok entries => .enclosed '\x7b' '\x7d' (entries.map fun (key, value) => dumpMember key value)
    | .error error => ⟨['\x7b'], some error⟩
  | value => dumpScalar value

def dumpItems (sort : Bool) : List Value → List Output
  | [] => []
  | item :: rest => dump sort item :: dumpItems sort rest

def dumpEntries (sort : Bool) : List (Value × Value) → List (Value × Output)
  | [] => []
  | (key, value) :: rest => (key, dump sort value) :: dumpEntries sort rest

end

end RecordPattern.Json
