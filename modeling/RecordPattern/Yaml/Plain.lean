import RecordPattern.Yaml.Cursor
import RecordPattern.Yaml.Token

namespace RecordPattern.Yaml.Plain

def isBracket (c : Char) : Bool :=
  c = ',' || c = '[' || c = ']' || c = '\x7b' || c = '\x7d'

-- Whether a scalar ends before a character. A colon ends it before a blank; brackets count only
-- between brackets.
def stops (inFlow : Bool) (c : Char) (next : Option Char) : Bool :=
  endsWord (some c) || (inFlow && (isBracket c || c = '?')) ||
    (c = ':' && (endsWord next || (inFlow && next.any isBracket)))

def run (inFlow : Bool) : List Char → List Char
  | [] => []
  | c :: rest => if stops inFlow c rest.head? then [] else c :: run inFlow rest

-- Takes blanks and line ends. Nothing is given if a mark between documents begins a line.
def breaks : Nat → Cursor → Option (List Char) × Cursor
  | 0, cursor => (some [], cursor)
  | fuel + 1, cursor =>
    if cursor.atSeparator then (none, cursor)
    else
      let after := cursor.skipSpaces
      match after.takeBreak with
      | none => (some [], after)
      | some (c, next) =>
        let (rest, last) := breaks fuel next
        (rest.map (c :: ·), last)

-- The blanks after a stretch of a scalar.
structure Gap where
  text : List Char
  crossedLine : Bool
  after : Cursor

-- One line end is a blank; of several the first one is dropped. The text is empty if nothing of
-- the scalar can follow.
def gap (cursor : Cursor) : Gap :=
  let (blanks, after) := cursor.takeRun (· = ' ')
  match after.takeBreak with
  | none => ⟨blanks, false, after⟩
  | some (c, next) =>
    match breaks (next.rest.length + 1) next with
    | (none, last) => ⟨[], true, last⟩
    | (some rest, last) =>
      let text := if c ≠ '\n' then c :: rest else if rest.isEmpty then [' '] else rest
      ⟨text, true, last⟩

-- Reads the stretches of a scalar after some blanks. Tells whether the blanks at its end crossed
-- a line.
def stretches (inFlow : Bool) (indent : Nat) : Nat → Gap → List Char × Gap
  | 0, before => ([], before)
  | fuel + 1, before =>
    let cursor := before.after
    let stretch := run inFlow cursor.rest
    if cursor.peek = some '#' || stretch.isEmpty then ([], before)
    else
      let after := gap (cursor.skip stretch.length)
      let text := before.text ++ stretch
      if after.text.isEmpty || after.after.peek = some '#' ||
          (!inFlow && after.after.column < indent) then (text, after)
      else
        let (more, last) := stretches inFlow indent fuel after
        (text ++ more, last)

-- Reads a plain scalar. Outside of brackets its further lines are indented.
def scalar (cursor : Cursor) (inFlow : Bool) (indent : Nat) : Codes × Bool × Cursor :=
  let (text, last) := stretches inFlow indent (cursor.rest.length + 1) ⟨[], false, cursor⟩
  (text.map Char.toNat, last.crossedLine, last.after)

end RecordPattern.Yaml.Plain
