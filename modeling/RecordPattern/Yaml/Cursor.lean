import RecordPattern.Yaml.Error

namespace RecordPattern.Yaml

-- Characters that may stand in a document.
def isPrintable (c : Char) : Bool :=
  let code := c.toNat
  code = 0x9 || code = 0xA || code = 0xD || (0x20 ≤ code && code ≤ 0x7E) || code = 0x85 ||
    (0xA0 ≤ code && code ≤ 0xFFFD) || 0x10000 ≤ code

def byteOrderMark : Char := '\ufeff'

-- Characters that end a line.
def isBreak (c : Char) : Bool :=
  c = '\n' || c = '\r' || c = '\x85' || c = '\u2028' || c = '\u2029'

def isIndent (c : Char) : Bool :=
  c = ' ' || c = '\t'

-- Whether a line ends at a character; a missing character is the end of the text.
def endsLine (next : Option Char) : Bool :=
  next.all isBreak

def endsPart (next : Option Char) : Bool :=
  next.all fun c => c = ' ' || isBreak c

def endsWord (next : Option Char) : Bool :=
  next.all fun c => isIndent c || isBreak c

-- What is left of a text, and how much came before, also counted in lines and in columns of the
-- present line. A byte order mark has no column.
structure Cursor where
  rest : List Char
  index : Nat
  line : Nat
  column : Nat

namespace Cursor

def ofText (text : List Char) : Cursor :=
  ⟨text, 0, 0, 0⟩

def peek (cursor : Cursor) : Option Char :=
  cursor.rest.head?

def peekAt (cursor : Cursor) (distance : Nat) : Option Char :=
  cursor.rest[distance]?

def next (cursor : Cursor) : Cursor :=
  match cursor.rest with
  | [] => cursor
  | c :: rest =>
    if isBreak c && !(c = '\r' && rest.head? = some '\n') then
      ⟨rest, cursor.index + 1, cursor.line + 1, 0⟩
    else if c = byteOrderMark then { cursor with rest, index := cursor.index + 1 }
    else { cursor with rest, index := cursor.index + 1, column := cursor.column + 1 }

def skip (cursor : Cursor) : Nat → Cursor
  | 0 => cursor
  | count + 1 => cursor.next.skip count

-- Takes the longest run of characters of a class.
def takeRun (cursor : Cursor) (accept : Char → Bool) : List Char × Cursor :=
  let run := cursor.rest.takeWhile accept
  (run, cursor.skip run.length)

def skipRun (cursor : Cursor) (accept : Char → Bool) : Cursor :=
  (cursor.takeRun accept).2

def skipSpaces (cursor : Cursor) : Cursor :=
  cursor.skipRun (· = ' ')

-- A comment goes on to the end of the line.
def skipComment (cursor : Cursor) : Cursor :=
  if cursor.peek = some '#' then cursor.skipRun (!isBreak ·) else cursor

-- Takes the end of a line. It counts as a line feed unless it is a separator of its own.
def takeBreak (cursor : Cursor) : Option (Char × Cursor) :=
  match cursor.rest with
  | '\r' :: '\n' :: _ => some ('\n', cursor.skip 2)
  | c :: _ =>
    if !isBreak c then none
    else some (if c = '\u2028' || c = '\u2029' then c else '\n', cursor.next)
  | [] => none

-- Skips blanks up to a column.
def skipIndent (cursor : Cursor) (column : Nat) : Cursor :=
  cursor.skip ((cursor.rest.takeWhile (· = ' ')).take (column - cursor.column)).length

-- The end of a line after which nothing but a comment may stand.
def endLine (cursor : Cursor) : Scan Cursor :=
  let after := cursor.skipSpaces.skipComment
  if endsLine after.peek then
    match after.takeBreak with
    | some (_, next) => .ok next
    | none => .ok after
  else malformed

-- Whether three equal characters stand here as a word.
def atMarker (cursor : Cursor) (c : Char) : Bool :=
  match cursor.rest with
  | c₁ :: c₂ :: c₃ :: rest => c₁ = c && c₂ = c && c₃ = c && endsWord rest.head?
  | _ => false

-- Whether a mark of the start or of the end of a document stands here.
def atSeparator (cursor : Cursor) : Bool :=
  cursor.atMarker '-' || cursor.atMarker '.'

end Cursor

end RecordPattern.Yaml
