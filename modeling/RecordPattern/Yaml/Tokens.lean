import RecordPattern.Yaml.Block
import RecordPattern.Yaml.Layout
import RecordPattern.Yaml.Plain
import RecordPattern.Yaml.Property
import RecordPattern.Yaml.Quoted

namespace RecordPattern.Yaml

namespace Layout

-- Characters that do not begin a plain scalar.
def isIndicator (c : Char) : Bool :=
  "-?:,[]\x7b\x7d#&*!|>'\"%@\x60".toList.contains c

-- A dash begins a plain scalar if no blank follows, and so do a question mark and a colon
-- outside of brackets.
def beginsPlain (layout : Layout) (c : Char) : Bool :=
  !(endsWord (some c) || isIndicator c) ||
    (!endsWord (layout.cursor.peekAt 1) &&
      (c = '-' || (!layout.inFlow && (c = '?' || c = ':'))))

def plain (layout : Layout) : Scan Layout :=
  let indent := match layout.blocks with
    | [] => 0
    | column :: _ => column + 1
  let (codes, crossedLine, after) := Plain.scalar layout.cursor layout.inFlow indent
  layout.keyToken (.scalar codes true) crossedLine after

def block (layout : Layout) (folded : Bool) : Scan Layout := do
  let least := match layout.blocks with
    | [] => 1
    | column :: _ => column + 1
  let removed ← layout.removeKey
  let (codes, after) ← Block.scalar layout.cursor folded least
  return { removed.emit (.scalar codes false) with keyAllowed := true, cursor := after }

def quoted (layout : Layout) (quote : Char) : Scan Layout := do
  let (codes, after) ← Quoted.scalar layout.cursor quote
  layout.keyToken (.scalar codes false) false after

def name (layout : Layout) (token : String → Token) : Scan Layout := do
  let (name, after) ← Property.anchorName layout.cursor.next
  layout.keyToken (token name) false after

def flowEntry (layout : Layout) : Scan Layout := do
  let removed ← layout.removeKey
  return { removed.emitMark .flowEntry 1 with keyAllowed := true }

-- A mark at the start of a line that comes before or after a document.
def documentMark (layout : Layout) (token : Token) : Scan Layout := do
  return (← layout.endDocument).emitMark token 3

def directive (layout : Layout) : Scan Layout := do
  let ended ← layout.endDocument
  let (token, after) ← Property.directive layout.cursor
  return { ended.emit token with cursor := after }

-- Reads the token that begins with a character.
def token (layout : Layout) (c : Char) : Scan Layout := do
  let cursor := layout.cursor
  let atStart := cursor.column = 0
  let separated := endsWord (cursor.peekAt 1)
  if c = '%' && atStart then layout.directive
  else if atStart && cursor.atMarker '-' then layout.documentMark .documentStart
  else if atStart && cursor.atMarker '.' then layout.documentMark .documentEnd
  else if c = '[' then layout.openBracket .flowSequenceStart
  else if c = '\x7b' then layout.openBracket .flowMappingStart
  else if c = ']' then layout.closeBracket .flowSequenceEnd
  else if c = '\x7d' then layout.closeBracket .flowMappingEnd
  else if c = ',' then layout.flowEntry
  else if c = '-' && separated then layout.blockMark .sequenceStart .entry true
  else if c = '?' && (layout.inFlow || separated) then
    layout.blockMark .mappingStart .key !layout.inFlow
  else if c = ':' && (layout.inFlow || separated) then layout.colon
  else if c = '*' then layout.name .reference
  else if c = '&' then layout.name .anchor
  else if c = '!' then
    let (token, after) ← Property.tag cursor
    layout.keyToken token false after
  else if c = '|' && !layout.inFlow then layout.block false
  else if c = '>' && !layout.inFlow then layout.block true
  else if c = '\'' || c = '"' then layout.quoted c
  else if layout.beginsPlain c then layout.plain
  else malformed

-- Before each token, keys and blocks end that the new place leaves behind.
def ready (layout : Layout) : Scan Layout := do
  let fresh ← layout.toNextToken.dropStaleKeys
  return fresh.closeBlocks fun column => fresh.cursor.column < column

-- The tokens before the first place that may still turn out to be a key. No token will be inserted
-- among them.
def settled (layout : Layout) : List Token :=
  let open? := layout.keys.filter fun (_, key) => !isStale layout.cursor key
  let count := open?.foldl (fun count (_, key) => min count key.tokensBefore) layout.count
  layout.tokens.reverse.take count

-- Reads tokens to the end of the text, or to the first broken place. Every token has to take up
-- some of the text. Tokens are asked for one by one, and the one at a place that may still be a
-- key only after those that follow it on its line, so that a broken place hides it as well.
def all (layout : Layout) : Scan (List Token) := do
  let here ← layout.ready
  match here.cursor.peek with
  | none => return (← here.endDocument).tokens.reverse
  | some c =>
    match here.token c with
    | .error .malformed => malformed
    | .error (.scalar error) => return layout.settled ++ [.broken error]
    | .ok next =>
      if _h : next.cursor.rest.length < layout.cursor.rest.length then next.all else malformed
termination_by layout.cursor.rest.length

end Layout

-- The tokens of a text, which may hold printable characters only.
def tokens (text : List Char) : Scan (List Token) :=
  if text.all isPrintable then (Layout.ofText text).all else malformed

end RecordPattern.Yaml
