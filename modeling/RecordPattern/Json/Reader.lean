import RecordPattern.Json.Document

namespace RecordPattern.Json

open Number Text

def isBlank (c : Char) : Bool :=
  c = ' ' || c = '\t' || c = '\n' || c = '\r'

def skipBlanks (text : List Char) : List Char :=
  text.dropWhile isBlank

-- Four hexadecimal digits.
def readUnit? : List Char → Option (Nat × List Char)
  | a :: b :: c :: d :: rest =>
    if [a, b, c, d].all fun digit => (hexValue? digit).isSome then
      some (ofHexDigits [a, b, c, d], rest)
    else none
  | _ => none

-- A character written as one unit of sixteen bits, or as a pair of surrogates.
def readEscapedUnits? (text : List Char) : Option (Char × List Char) := do
  let (high, rest) ← readUnit? text
  if 0xD800 ≤ high && high < 0xDC00 then
    match rest with
    | '\\' :: 'u' :: rest =>
      let (low, rest) ← readUnit? rest
      if 0xDC00 ≤ low && low < 0xE000 then
        some (Char.ofNat (0x10000 + (high - 0xD800) * 0x400 + (low - 0xDC00)), rest)
      else none
    | _ => none
  else if 0xDC00 ≤ high && high < 0xE000 then none
  else some (Char.ofNat high, rest)

def escapeValue? : Char → Option Char
  | '"' => some '"'
  | '\\' => some '\\'
  | '/' => some '/'
  | 'b' => some '\x08'
  | 'f' => some '\x0c'
  | 'n' => some '\n'
  | 'r' => some '\r'
  | 't' => some '\t'
  | _ => none

-- Reads the rest of a text up to its closing quote.
def readText? : Nat → List Char → Option (List Char × List Char)
  | 0, _ => none
  | fuel + 1, text =>
    match text with
    | '"' :: rest => some ([], rest)
    | '\\' :: 'u' :: rest => do
      let (c, rest) ← readEscapedUnits? rest
      let (more, rest) ← readText? fuel rest
      return (c :: more, rest)
    | '\\' :: e :: rest => do
      let c ← escapeValue? e
      let (more, rest) ← readText? fuel rest
      return (c :: more, rest)
    | c :: rest =>
      if c.toNat < 32 then none
      else do
        let (more, rest) ← readText? fuel rest
        return (c :: more, rest)
    | [] => none

-- Reads a number: an integer if it has neither a fraction nor an exponent.
def readNumber? (text : List Char) : Option (Json × List Char) := do
  let negative := text.head? = some '-'
  let unsigned := if negative then text.drop 1 else text
  let whole := unsigned.takeWhile Char.isDigit
  let rest := unsigned.drop whole.length
  if whole.isEmpty || (1 < whole.length && whole.head? = some '0') then none
  else
    let fraction := if rest.head? = some '.' then (rest.drop 1).takeWhile Char.isDigit else []
    let rest := if fraction.isEmpty then rest else rest.drop (fraction.length + 1)
    let hasExponent := rest.head? = some 'e' || rest.head? = some 'E'
    let signed := rest.drop 1
    let down := signed.head? = some '-'
    let digits := (if down || signed.head? = some '+' then signed.drop 1 else signed)
    let exponent := if hasExponent then digits.takeWhile Char.isDigit else []
    let value := ofDigits 10 digitValue? whole
    if fraction.isEmpty && exponent.isEmpty then
      some (.int (if negative then -(value : Int) else value), rest)
    else
      let rest := if exponent.isEmpty then rest else digits.drop exponent.length
      let power : Int := ofDigits 10 digitValue? exponent
      let power := (if down then -power else power) - fraction.length
      let number := Binary64.ofDecimal negative (ofDigits 10 digitValue? (whole ++ fraction)) power
      some (.float number, rest)

mutual

def readValue? : Nat → List Char → Option (Json × List Char)
  | 0, _ => none
  | fuel + 1, text =>
    match skipBlanks text with
    | 'n' :: 'u' :: 'l' :: 'l' :: rest => some (.null, rest)
    | 't' :: 'r' :: 'u' :: 'e' :: rest => some (.bool true, rest)
    | 'f' :: 'a' :: 'l' :: 's' :: 'e' :: rest => some (.bool false, rest)
    | '"' :: rest => do
      let (chars, rest) ← readText? (rest.length + 1) rest
      return (.string (String.ofList chars), rest)
    | '[' :: rest =>
      match skipBlanks rest with
      | ']' :: rest => some (.array [], rest)
      | rest => do
        let (items, rest) ← readItems? fuel rest
        return (.array items, rest)
    | '\x7b' :: rest =>
      match skipBlanks rest with
      | '\x7d' :: rest => some (.object [], rest)
      | rest => do
        let (members, rest) ← readMembers? fuel rest
        return (.object members, rest)
    | text => readNumber? text

-- Reads one or more items up to the closing bracket.
def readItems? : Nat → List Char → Option (List Json × List Char)
  | 0, _ => none
  | fuel + 1, text => do
    let (item, rest) ← readValue? fuel text
    match skipBlanks rest with
    | ',' :: rest =>
      let (more, rest) ← readItems? fuel rest
      return (item :: more, rest)
    | ']' :: rest => return ([item], rest)
    | _ => none

-- Reads one or more members up to the closing brace.
def readMembers? : Nat → List Char → Option (List (String × Json) × List Char)
  | 0, _ => none
  | fuel + 1, text => do
    match skipBlanks text with
    | '"' :: rest =>
      let (key, rest) ← readText? (rest.length + 1) rest
      match skipBlanks rest with
      | ':' :: rest =>
        let (value, rest) ← readValue? fuel rest
        match skipBlanks rest with
        | ',' :: rest =>
          let (more, rest) ← readMembers? fuel rest
          return ((String.ofList key, value) :: more, rest)
        | '\x7d' :: rest => return ([(String.ofList key, value)], rest)
        | _ => none
      | _ => none
    | _ => none

end

-- Reads a text that holds one document.
def read? (text : String) : Option Json := do
  let chars := text.toList
  let (json, rest) ← readValue? (chars.length + 1) chars
  if (skipBlanks rest).isEmpty then return json else none

-- The value of the last member with a key.
def member? (json : Json) (key : String) : Option Json :=
  match json with
  | .object members => members.reverse.lookup key
  | _ => none

end RecordPattern.Json
