import RecordPattern.Number.Shortest
import RecordPattern.Text.Hex

namespace RecordPattern

open Number Text

-- A JSON document. Members keep their order.
inductive Json where
  | null
  | bool (value : Bool)
  | int (value : Int)
  | float (value : Binary64)
  | string (value : String)
  | array (items : List Json)
  | object (members : List (String × Json))
  deriving Inhabited

namespace Json

-- The form of a character inside quotes: the quote, the backslash and the controls are escaped.
def escapedChar (c : Char) : List Char :=
  if c = '"' then ['\\', '"']
  else if c = '\\' then ['\\', '\\']
  else if c = '\n' then ['\\', 'n']
  else if c = '\r' then ['\\', 'r']
  else if c = '\t' then ['\\', 't']
  else if c = '\x08' then ['\\', 'b']
  else if c = '\x0c' then ['\\', 'f']
  else if c.toNat < 32 then '\\' :: 'u' :: toHex 4 c.toNat
  else [c]

def textChars (text : String) : List Char :=
  '"' :: (text.toList.flatMap escapedChar ++ ['"'])

def scalarText : Json → String
  | .null => "null"
  | .bool value => if value then "true" else "false"
  | .int value => toString value
  | .float value => value.text "Infinity" "NaN"
  | _ => ""

-- Items between brackets, separated by commas.
def joined (first last : Char) : List (List Char) → List Char
  | [] => [first, last]
  | item :: rest => first :: (item ++ rest.flatMap (',' :: ·) ++ [last])

mutual

-- A document without blanks.
def compactChars : Json → List Char
  | .string value => textChars value
  | .array items => joined '[' ']' (compactItems items)
  | .object members => joined '\x7b' '\x7d' (compactMembers members)
  | scalar => scalar.scalarText.toList

def compactItems : List Json → List (List Char)
  | [] => []
  | item :: rest => compactChars item :: compactItems rest

def compactMembers : List (String × Json) → List (List Char)
  | [] => []
  | (key, value) :: rest =>
    (textChars key ++ ':' :: compactChars value) :: compactMembers rest

end

def compact (json : Json) : String :=
  String.ofList (compactChars json)

def newline (depth : Nat) : List Char :=
  '\n' :: List.replicate (2 * depth) ' '

-- Items on lines of their own, set in by two blanks.
def joinedLines (first last : Char) (depth : Nat) : List (List Char) → List Char
  | [] => [first, last]
  | item :: rest =>
    first :: (newline (depth + 1) ++ item ++ rest.flatMap (fun next => ',' :: newline (depth + 1) ++ next) ++
      newline depth ++ [last])

mutual

-- A document with one item or member on each line.
def indentedChars (depth : Nat) : Json → List Char
  | .string value => textChars value
  | .array items => joinedLines '[' ']' depth (indentedItems depth items)
  | .object members => joinedLines '\x7b' '\x7d' depth (indentedMembers depth members)
  | scalar => scalar.scalarText.toList

def indentedItems (depth : Nat) : List Json → List (List Char)
  | [] => []
  | item :: rest => indentedChars (depth + 1) item :: indentedItems depth rest

def indentedMembers (depth : Nat) : List (String × Json) → List (List Char)
  | [] => []
  | (key, value) :: rest =>
    (textChars key ++ ':' :: ' ' :: indentedChars (depth + 1) value) :: indentedMembers depth rest

end

def indented (json : Json) : String :=
  String.ofList (indentedChars 0 json)

end Json

end RecordPattern
