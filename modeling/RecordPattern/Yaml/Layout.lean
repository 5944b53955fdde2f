import RecordPattern.Yaml.Cursor
import RecordPattern.Yaml.Token

namespace RecordPattern.Yaml

-- A place that may turn out to be the key of a mapping, once a colon follows on its line. A
-- required one stands where a block mapping continues.
structure SimpleKey where
  required : Bool
  tokensBefore : Nat
  index : Nat
  line : Nat
  column : Nat

-- How a text is divided so far: the tokens, latest first, with their number; how many brackets
-- are open; the columns of the open block collections, innermost first; and for each depth of
-- brackets the place that may be a key.
structure Layout where
  cursor : Cursor
  tokens : List Token
  count : Nat
  flow : Nat
  blocks : List Nat
  keyAllowed : Bool
  keys : List (Nat × SimpleKey)

namespace Layout

def ofText (text : List Char) : Layout :=
  ⟨.ofText text, [], 0, 0, [], true, []⟩

def inFlow (layout : Layout) : Bool :=
  layout.flow ≠ 0

def emit (layout : Layout) (token : Token) : Layout :=
  { layout with tokens := token :: layout.tokens, count := layout.count + 1 }

-- Emits a token of some characters.
def emitMark (layout : Layout) (token : Token) (length : Nat) : Layout :=
  { layout.emit token with cursor := layout.cursor.skip length }

-- Inserts tokens, given in their order, after a number of others.
def insertAfter (layout : Layout) (before : Nat) (tokens : List Token) : Layout :=
  let later := layout.count - before
  { layout with
    tokens := layout.tokens.take later ++ tokens.reverse ++ layout.tokens.drop later
    count := layout.count + tokens.length }

-- Outside of brackets, block collections end that stand to the right of a column.
def closeBlocks (layout : Layout) (isRight : Nat → Bool) : Layout :=
  if layout.inFlow then layout
  else
    let closed := layout.blocks.takeWhile isRight
    let ended := closed.foldl (fun layout _ => layout.emit .blockEnd) layout
    { ended with blocks := layout.blocks.drop closed.length }

def closeAll (layout : Layout) : Layout :=
  layout.closeBlocks fun _ => true

-- Whether a block collection at a column is inside all open ones.
def opensBlock (layout : Layout) (column : Nat) : Bool :=
  layout.blocks.head?.all (· < column)

def key? (layout : Layout) : Option SimpleKey :=
  layout.keys.lookup layout.flow

def dropKey (layout : Layout) : Layout :=
  { layout with keys := layout.keys.filter (·.1 ≠ layout.flow) }

-- Gives up the possible key at this depth, which must not be a required one.
def removeKey (layout : Layout) : Scan Layout :=
  match layout.key? with
  | some key => if key.required then malformed else .ok layout.dropKey
  | none => .ok layout

-- Notes that a key may begin here.
def saveKey (layout : Layout) : Scan Layout := do
  if layout.keyAllowed then
    let removed ← layout.removeKey
    let column := layout.cursor.column
    let key : SimpleKey := {
      required := !layout.inFlow && layout.blocks.head? = some column
      tokensBefore := layout.count
      index := layout.cursor.index
      line := layout.cursor.line
      column }
    return { removed with keys := (layout.flow, key) :: removed.keys }
  else return layout

-- A key has to be on one line and within 1024 characters.
def isStale (cursor : Cursor) (key : SimpleKey) : Bool :=
  key.line ≠ cursor.line || key.index + 1024 < cursor.index

def dropStaleKeys (layout : Layout) : Scan Layout :=
  let (stale, fresh) := layout.keys.partition fun (_, key) => isStale layout.cursor key
  if stale.any (·.2.required) then malformed else .ok { layout with keys := fresh }

-- Skips blanks, comments and line ends. A key may begin on a new line outside of brackets.
def skipGaps : Nat → Layout → Layout
  | 0, layout => layout
  | fuel + 1, layout =>
    let after := layout.cursor.skipSpaces.skipComment
    match after.takeBreak with
    | none => { layout with cursor := after }
    | some (_, next) =>
      skipGaps fuel { layout with
        cursor := next
        keyAllowed := layout.keyAllowed || !layout.inFlow }

def toNextToken (layout : Layout) : Layout :=
  let cursor := layout.cursor
  let start := if cursor.index = 0 && cursor.peek = some byteOrderMark then cursor.next else cursor
  skipGaps (start.rest.length + 1) { layout with cursor := start }

-- A directive or a mark between documents ends all blocks, and no key can follow it.
def endDocument (layout : Layout) : Scan Layout := do
  return { ← layout.closeAll.removeKey with keyAllowed := false }

def openBracket (layout : Layout) (token : Token) : Scan Layout := do
  let saved ← layout.saveKey
  return { saved.emitMark token 1 with flow := layout.flow + 1, keyAllowed := true }

def closeBracket (layout : Layout) (token : Token) : Scan Layout := do
  let removed ← layout.removeKey
  match layout.flow with
  | 0 => malformed
  | outer + 1 => return { removed.emitMark token 1 with flow := outer, keyAllowed := false }

-- Opens a block collection here, unless one stands at this column.
def openBlock (layout : Layout) (token : Token) : Layout :=
  let column := layout.cursor.column
  if layout.opensBlock column then
    { layout.emit token with blocks := column :: layout.blocks }
  else layout

-- A mark that is followed by an item, a key or a value on the same line. Outside of brackets it
-- may stand only where a key may begin.
def blockMark (layout : Layout) (block mark : Token) (keyAllowed : Bool) : Scan Layout := do
  if !layout.inFlow && !layout.keyAllowed then malformed
  else
    let opened := if layout.inFlow then layout else layout.openBlock block
    let removed ← { opened with keyAllowed }.removeKey
    return removed.emitMark mark 1

-- A colon makes a key of the place that was noted for one, and else follows an explicit key.
def colon (layout : Layout) : Scan Layout :=
  match layout.key? with
  | none => layout.blockMark .mappingStart .value !layout.inFlow
  | some key =>
    let dropped := layout.dropKey
    let opens := !layout.inFlow && layout.opensBlock key.column
    let inserted := dropped.insertAfter key.tokensBefore
      (if opens then [.mappingStart, .key] else [.key])
    let blocks := if opens then key.column :: layout.blocks else layout.blocks
    .ok { inserted.emitMark .value 1 with blocks, keyAllowed := false }

-- A token that may be a key.
def keyToken (layout : Layout) (token : Token) (keyAllowed : Bool) (after : Cursor) :
    Scan Layout := do
  let saved ← layout.saveKey
  return { saved.emit token with keyAllowed, cursor := after }

end Layout

end RecordPattern.Yaml
