import RecordPattern.Text.Hex
import RecordPattern.Yaml.Cursor
import RecordPattern.Yaml.Token

namespace RecordPattern.Yaml.Block

-- What becomes of the line ends after a block: all go, one stays, or all stay.
inductive Tail where
  | strip
  | clip
  | keep
  deriving DecidableEq, Repr

-- The marks after the sign of a block: what becomes of its tail, and its indent.
structure Header where
  tail : Tail
  indent : Option Nat

def tail? : Option Char → Option Tail
  | some '+' => some .keep
  | some '-' => some .strip
  | _ => none

def indent? (next : Option Char) : Option Nat :=
  next.bind Text.digitValue?

-- The two marks may come in either order.
def marks (cursor : Cursor) : Header × Cursor :=
  match tail? cursor.peek, indent? cursor.peek with
  | some tail, _ =>
    match indent? (cursor.peekAt 1) with
    | some indent => (⟨tail, some indent⟩, cursor.skip 2)
    | none => (⟨tail, none⟩, cursor.next)
  | none, some indent =>
    match tail? (cursor.peekAt 1) with
    | some tail => (⟨tail, some indent⟩, cursor.skip 2)
    | none => (⟨.clip, some indent⟩, cursor.next)
  | none, none => (⟨.clip, none⟩, cursor)

def header (cursor : Cursor) : Scan (Header × Cursor) := do
  let (header, after) := marks cursor
  if header.indent = some 0 || !endsPart after.peek then malformed
  else return (header, ← after.endLine)

-- Takes empty lines, whose blanks reach up to a column.
def emptyLines (indent : Nat) : Nat → Cursor → List Char × Cursor
  | 0, cursor => ([], cursor)
  | fuel + 1, cursor =>
    let after := cursor.skipIndent indent
    match after.takeBreak with
    | none => ([], after)
    | some (c, next) =>
      let (rest, last) := emptyLines indent fuel next
      (c :: rest, last)

-- Takes empty lines of any width, and gives the widest column that their blanks or those of the
-- line after them reach.
def leadingLines : Nat → Cursor → List Char × Nat × Cursor
  | 0, cursor => ([], 0, cursor)
  | fuel + 1, cursor =>
    let after := cursor.skipSpaces
    let width := if after.index = cursor.index then 0 else after.column
    match after.takeBreak with
    | none => ([], width, after)
    | some (c, next) =>
      let (rest, widest, last) := leadingLines fuel next
      (c :: rest, max width widest, last)

-- What stands between a line and the one after it. In a folded block a line end between two
-- lines that do not begin with blanks is a blank, or nothing if empty lines follow.
def joint (folded solid : Bool) (lineEnd : List Char) (empty : List Char)
    (next : Option Char) : List Char :=
  if folded && lineEnd = ['\n'] && solid && !next.any isIndent then
    if empty.isEmpty then [' '] else []
  else lineEnd

-- The lines of a block, its last line end, and the empty lines after it.
structure Lines where
  text : List Char
  lineEnd : List Char
  empty : List Char
  after : Cursor

-- Reads the lines that stand at the indent, after some empty lines.
def lines (folded : Bool) (indent : Nat) : Nat → List Char → Cursor → Lines
  | 0, empty, cursor => ⟨[], [], empty, cursor⟩
  | fuel + 1, empty, cursor =>
    if cursor.column ≠ indent || cursor.rest.isEmpty then ⟨[], [], empty, cursor⟩
    else
      let solid := !cursor.peek.any isIndent
      let (line, after) := cursor.takeRun (!isBreak ·)
      let (lineEnd, next) := match after.takeBreak with
        | some (c, next) => ([c], next)
        | none => ([], after)
      let (further, start) := emptyLines indent (next.rest.length + 1) next
      if start.column = indent && !start.rest.isEmpty then
        let rest := lines folded indent fuel further start
        { rest with
          text := empty ++ line ++ joint folded solid lineEnd further start.peek ++ rest.text }
      else ⟨empty ++ line, lineEnd, further, start⟩

-- Reads a block scalar, which is indented at least as far as given.
def scalar (cursor : Cursor) (folded : Bool) (least : Nat) : Scan (Codes × Cursor) := do
  let (header, start) ← header cursor.next
  let fuel := start.rest.length + 1
  let (empty, indent, first) := match header.indent with
    | some indent =>
      let indent := least + indent - 1
      let (empty, first) := emptyLines indent fuel start
      (empty, indent, first)
    | none =>
      let (empty, widest, first) := leadingLines fuel start
      (empty, max least widest, first)
  let block := lines folded indent fuel empty first
  let text := match header.tail with
    | .strip => block.text
    | .clip => block.text ++ block.lineEnd
    | .keep => block.text ++ block.lineEnd ++ block.empty
  return (text.map Char.toNat, block.after)

end RecordPattern.Yaml.Block
