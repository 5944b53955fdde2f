import RecordPattern.Text.Utf8
import RecordPattern.Yaml.Cursor
import RecordPattern.Yaml.Token

namespace RecordPattern.Yaml

open Text

def isNameChar (c : Char) : Bool :=
  c.isAlphanum || c = '-' || c = '_'

-- Characters of a tag besides letters and digits; a percent sign escapes a byte.
def isTagChar (c : Char) : Bool :=
  c.isAlphanum || "-;/?:@&=+$,_.!~*'()[]%".toList.contains c

namespace Property

-- The bytes that percent signs escape, each with two hexadecimal digits.
def escapedBytes : List Char → Scan (List UInt8 × List Char)
  | '%' :: high :: low :: rest =>
    match hexValue? high, hexValue? low with
    | some h, some l => do
      let (bytes, rest) ← escapedBytes rest
      return ((h * 16 + l).toUInt8 :: bytes, rest)
    | _, _ => malformed
  | '%' :: _ => malformed
  | rest => .ok ([], rest)

-- Replaces the escapes of a tag. Bytes in a row have to be whole characters.
def unescaped : Nat → List Char → Scan (List Char)
  | 0, _ => malformed
  | _ + 1, [] => .ok []
  | fuel + 1, c :: rest =>
    if c = '%' then do
      let (bytes, rest) ← escapedBytes (c :: rest)
      match Utf8.decode bytes with
      | .ok chars => return chars ++ (← unescaped fuel rest)
      | .error _ => malformed
    else do return c :: (← unescaped fuel rest)

-- The part of a tag after its handle.
def tagPart (cursor : Cursor) : Scan (String × Cursor) := do
  let (run, after) := cursor.takeRun isTagChar
  if run.isEmpty then malformed
  else return (String.ofList (← unescaped (run.length + 1) run), after)

-- A handle is an exclamation mark, or a name between two of them.
def handle (cursor : Cursor) : Scan (String × Cursor) :=
  if cursor.peek ≠ some '!' then malformed
  else if cursor.peekAt 1 = some ' ' then .ok ("!", cursor.next)
  else
    let (name, after) := cursor.next.takeRun isNameChar
    if after.peek = some '!' then .ok (String.ofList ('!' :: (name ++ ['!'])), after.next)
    else malformed

-- The name of an anchor or of a reference to one, after its mark.
def anchorName (cursor : Cursor) : Scan (String × Cursor) :=
  let (name, after) := cursor.takeRun isNameChar
  let ends := endsWord after.peek || after.peek.any ("?:,]\x7d%@\x60".toList.contains ·)
  if name.isEmpty || !ends then malformed else .ok (String.ofList name, after)

-- Whether the word that begins here has a second exclamation mark, which closes a handle.
def hasHandle (cursor : Cursor) : Bool :=
  (cursor.rest.takeWhile fun c => !endsPart (some c)).contains '!'

-- A tag: verbatim between angle brackets, a lone mark, or a suffix after a handle.
def tag (cursor : Cursor) : Scan (Token × Cursor) := do
  let (token, after) ←
    if cursor.peekAt 1 = some '<' then do
      let (suffix, after) ← tagPart (cursor.skip 2)
      if after.peek ≠ some '>' then malformed else pure (Token.tag none suffix, after.next)
    else if endsWord (cursor.peekAt 1) then pure (Token.tag none "!", cursor.next)
    else if hasHandle cursor.next then do
      let (name, after) ← handle cursor
      let (suffix, after) ← tagPart after
      pure (Token.tag (some name) suffix, after)
    else do
      let (suffix, after) ← tagPart cursor.next
      pure (Token.tag (some "!") suffix, after)
  if endsPart after.peek then return (token, after) else malformed

-- A run of digits.
def number (cursor : Cursor) : Scan (Nat × Cursor) :=
  let (digits, after) := cursor.takeRun Char.isDigit
  if digits.isEmpty then malformed
  else if Number.maxDecimalDigits < digits.length then
    .error (.scalar (.tooManyDigits digits.length))
  else .ok (ofDigits 10 digitValue? digits, after)

def version (cursor : Cursor) : Scan (Token × Cursor) := do
  let (major, after) ← number cursor.skipSpaces
  if after.peek ≠ some '.' then malformed
  else
    let (_, after) ← number after.next
    if endsPart after.peek then return (.version major, after) else malformed

def handleDirective (cursor : Cursor) : Scan (Token × Cursor) := do
  let (name, after) ← handle cursor.skipSpaces
  if after.peek ≠ some ' ' then malformed
  else
    let (replacement, after) ← tagPart after.skipSpaces
    if endsPart after.peek then return (.handle name replacement, after) else malformed

-- A line that tells how to read the document after it. Lines with other names are skipped.
def directive (cursor : Cursor) : Scan (Token × Cursor) := do
  let (name, after) := cursor.next.takeRun isNameChar
  if name.isEmpty || !endsPart after.peek then malformed
  else
    let (token, after) ← match String.ofList name with
      | "YAML" => version after
      | "TAG" => handleDirective after
      | _ => pure (.otherDirective, after.skipRun (!isBreak ·))
    return (token, ← after.endLine)

end Property

end RecordPattern.Yaml
