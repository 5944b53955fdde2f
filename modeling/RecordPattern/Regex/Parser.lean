import RecordPattern.Number.IntegerText
import RecordPattern.Regex.CharClass
import RecordPattern.Regex.Choice
import RecordPattern.Regex.FlagGroup
import RecordPattern.Text.Identifier

namespace RecordPattern.Regex

open RecordPattern.Text RecordPattern.Number

-- A part of a sequence. A group that captures nothing and sets no flags is its contents.
inductive Item where
  | node (node : Node)
  | contents (nodes : List Node)

namespace Item

def nodes : Item → List Node
  | .node part => [part]
  | .contents parts => parts

def toNode (item : Item) : Node :=
  Node.ofList item.nodes

end Item

-- What an open group becomes when it is closed.
inductive Opening where
  | whole
  | contents
  | capture (group : Nat)
  | scope
  | atomic
  | ahead (negated : Bool)
  | behind (negated : Bool) (outermost : Bool)
  | conditional (group : Nat)

-- An open group: where it began, the flags inside it, its finished branches and the parts of
-- the branch that is being read, the latest first.
structure Frame where
  opening : Opening
  start : Nat
  flags : Flags
  branches : List (List Node)
  items : List Item

namespace Frame

def opened (opening : Opening) (start : Nat) (flags : Flags) : Frame :=
  ⟨opening, start, flags, [], []⟩

def push (frame : Frame) (item : Item) : Frame :=
  { frame with items := item :: frame.items }

def finishBranch (frame : Frame) : Frame :=
  { frame with branches := frame.items.reverse.flatMap Item.nodes :: frame.branches, items := [] }

-- All branches, in order.
def allBranches (frame : Frame) : List (List Node) :=
  frame.finishBranch.branches.reverse

def nodes (frame : Frame) : List Node :=
  Choice.ofBranches frame.flags frame.allBranches

def body (frame : Frame) : Node :=
  Node.ofList frame.nodes

end Frame

-- The state of reading a pattern. `pending` holds the groups that conditions name by number,
-- with the place of the first such condition.
structure Reading where
  cursor : Cursor
  groups : Groups
  pending : List (Nat × Nat)
  frame : Frame
  outer : List Frame

namespace Reading

def pushItem (reading : Reading) (item : Item) (cursor : Cursor) : Reading :=
  { reading with cursor, frame := reading.frame.push item }

def pushNode (reading : Reading) (node : Node) (cursor : Cursor) : Reading :=
  reading.pushItem (.node node) cursor

def pushChar (reading : Reading) (c : Char) (cursor : Cursor) : Reading :=
  reading.pushNode (.unit (.literal reading.frame.flags.fold false c.toNat)) cursor

def openFrame (reading : Reading) (opening : Opening) (start : Nat) (flags : Flags)
    (cursor : Cursor) : Reading :=
  { reading with
    cursor
    frame := .opened opening start flags
    outer := reading.frame :: reading.outer }

-- The bounds of a repetition written in braces; `none` if the braces are plain text. Gives the
-- digits of both bounds and the number of tokens up to the closing brace.
def braces? (rest : List Token) : Option (List Char × List Char × Nat) :=
  let low := Cursor.plainRun Char.isDigit rest.length rest
  let after := rest.drop low.length
  let (high, last) := if after.head? = some (.plain ',') then
      let high := Cursor.plainRun Char.isDigit after.length (after.drop 1)
      (high, 1 + high.length)
    else (low, 0)
  if rest.head? ≠ some (.plain '}') && (after.drop last).head? = some (.plain '}') then
    some (low, high, low.length + last + 1)
  else none

-- The number of rounds must stay below this bound.
def repeatLimit : Nat := 4294967295

def bound (digits : List Char) : Read (Option Nat) :=
  if digits.isEmpty then .ok none
  else if maxDecimalDigits < digits.length then .error (.refused (.tooManyDigits digits.length))
  else
    let count := ofDigits 10 digitValue? digits
    if repeatLimit ≤ count then .error (.refused .repetitionTooLarge) else .ok (some count)

-- Repeats the latest part; `start` is the place of the quantifier.
def repeatLast (reading : Reading) (start : Nat) (least : Nat) (greatest : Option Nat)
    (cursor : Cursor) : Read Reading := do
  match reading.frame.items with
  | [] => .error (.malformed .nothingToRepeat (some start))
  | .node (.anchor _) :: _ => .error (.malformed .nothingToRepeat (some start))
  | .node (.repetition _ _ _ _) :: _ => .error (.malformed .multipleRepeat (some start))
  | item :: items =>
    let greed := if cursor.nextIs '?' then Greed.lazy
      else if cursor.nextIs '+' then .possessive else .greedy
    let after ← cursor.skip (if greed = .greedy then 0 else 1)
    let node := Node.repetition greed least greatest item.toNode
    return { reading with cursor := after, frame := { reading.frame with items := .node node :: items } }

-- Reads what follows an opening brace, which is plain text unless it gives bounds.
def readBraces (reading : Reading) (cursor : Cursor) : Read Reading := do
  match braces? cursor.rest with
  | none => return reading.pushChar '\x7b' cursor
  | some (low, high, length) =>
    let after ← cursor.skip length
    let least := (← bound low).getD 0
    match ← bound high with
    | none => repeatLast reading (cursor.position - 1) least none after
    | some greatest =>
      if greatest < least then
        .error (.malformed .decreasingRepeat (some cursor.position))
      else repeatLast reading (cursor.position - 1) least (some greatest) after

-- Reads a group name and checks that it is an identifier.
def groupName (cursor : Cursor) (terminator : Char) : Read (String × Cursor) := do
  let (name, after) ← cursor.takeName terminator "group name"
  if isIdentifier name then return (String.ofList name, after)
  else after.failBefore (name.length + 1) (.badGroupName (String.ofList name))

def openCapture (reading : Reading) (start : Nat) (name : Option String) (cursor : Cursor) :
    Read Reading :=
  let group := reading.groups.count + 1
  match name.bind reading.groups.number? with
  | some earlier =>
    let name := name.getD ""
    cursor.failBefore (name.length + 1) (.redefinedGroup name group earlier)
  | none =>
    .ok (openFrame { reading with groups := reading.groups.opened name } (.capture group) start
      reading.frame.flags cursor)

-- Reads a reference to a group by its name.
def readReference (reading : Reading) (cursor : Cursor) : Read Reading := do
  let (name, after) ← groupName cursor ')'
  let distance := name.length + 1
  match reading.groups.number? name with
  | none => after.failBefore distance (.unknownGroupName name)
  | some group =>
    match reading.groups.width? group with
    | none => after.failBefore distance .openReference
    | some width =>
      match reading.groups.lookbehindIssue? group with
      | some issue => after.fail issue
      | none => return reading.pushNode (.reference group reading.frame.flags.fold width) after

-- Groups are numbered below this bound.
def groupLimit : Nat := 1073741823

-- The group that a condition names by number, with a note of the place.
def conditionNumber (reading : Reading) (name : List Char) (after : Cursor) :
    Read (Nat × Reading) :=
  let distance := name.length + 1
  match integerOfText 10 name with
  | .ok (.ofNat 0) => after.failBefore distance .badGroupNumber
  | .ok (.ofNat group) =>
    if groupLimit ≤ group then after.failBefore distance (.invalidReference group)
    else
      let pending := if (reading.pending.lookup group).isSome then reading.pending
        else reading.pending ++ [(group, after.position - distance)]
      .ok (group, { reading with pending })
  | _ => after.failBefore distance (.badGroupName (String.ofList name))

-- Opens a group whose branches depend on whether another group took part.
def openConditional (reading : Reading) (start : Nat) (cursor : Cursor) : Read Reading := do
  let (name, after) ← cursor.takeName ')' "group name"
  let (group, reading) ←
    if isIdentifier name then
      match reading.groups.number? (String.ofList name) with
      | some group => pure (group, reading)
      | none => after.failBefore (name.length + 1) (.unknownGroupName (String.ofList name))
    else conditionNumber reading name after
  match reading.groups.lookbehindIssue? group with
  | some issue => after.fail issue
  | none => return reading.openFrame (.conditional group) start reading.frame.flags after

def openLookbehind (reading : Reading) (start : Nat) (negated : Bool) (cursor : Cursor) :
    Reading :=
  let outermost := reading.groups.lookbehind.isNone
  let groups := if outermost then
      { reading.groups with lookbehind := some reading.groups.count }
    else reading.groups
  openFrame { reading with groups } (.behind negated outermost) start reading.frame.flags cursor

-- Reads what follows `(?P`.
def openNamed (reading : Reading) (start : Nat) (cursor : Cursor) : Read Reading := do
  match cursor.next? with
  | none => cursor.fail .endOfPattern
  | some token =>
    let after ← cursor.skip 1
    if token = .plain '<' then
      let (name, after) ← groupName after '>'
      openCapture reading start (some name) after
    else if token = .plain '=' then readReference reading after
    else
      after.failBefore (token.width + 2) (.unknownExtension (String.ofList ('P' :: token.text)))

-- Reads what follows `(?<`.
def openBehind (reading : Reading) (start : Nat) (cursor : Cursor) : Read Reading := do
  match cursor.next? with
  | none => cursor.fail .endOfPattern
  | some token =>
    let after ← cursor.skip 1
    if token = .plain '=' then return openLookbehind reading start false after
    else if token = .plain '!' then return openLookbehind reading start true after
    else
      after.failBefore (token.width + 2) (.unknownExtension (String.ofList ('<' :: token.text)))

-- Skips a comment, whose text holds no closing parenthesis.
def skipComment (reading : Reading) (start : Nat) (cursor : Cursor) : Read Reading := do
  let length := (cursor.rest.takeWhile (· ≠ .plain ')')).length
  let after ← cursor.skip (length + 1)
  if cursor.rest.length = length then .error (.malformed .unterminatedComment (some start))
  else return { reading with cursor := after }

-- Flags of the whole pattern may only stand at its start.
def openFlags (reading : Reading) (start : Nat) (first : Token) (cursor : Cursor) :
    Read Reading := do
  let (group, after) ← FlagGroup.read cursor first
  match group with
  | .inside on off =>
    return reading.openFrame .scope start (reading.frame.flags.inside on off) after
  | .global flags =>
    if reading.outer.isEmpty && reading.frame.branches.isEmpty && reading.frame.items.isEmpty then
      return { reading with
        cursor := after
        frame := { reading.frame with flags := reading.frame.flags.union flags } }
    else .error (.malformed .misplacedFlags (some start))

-- Reads what follows `(?`.
def openExtension (reading : Reading) (start : Nat) (cursor : Cursor) : Read Reading := do
  match cursor.next? with
  | none => cursor.fail .endOfPattern
  | some token =>
    let after ← cursor.skip 1
    let flags := reading.frame.flags
    match token with
    | .plain 'P' => openNamed reading start after
    | .plain ':' => return reading.openFrame .contents start flags after
    | .plain '#' => skipComment reading start after
    | .plain '=' => return reading.openFrame (.ahead false) start flags after
    | .plain '!' => return reading.openFrame (.ahead true) start flags after
    | .plain '<' => openBehind reading start after
    | .plain '(' => openConditional reading start after
    | .plain '>' => return reading.openFrame .atomic start flags after
    | token =>
      if (FlagGroup.flagOf? token).isSome || token = .plain '-' then
        openFlags reading start token after
      else after.failBefore (token.width + 1) (.unknownExtension (String.ofList token.text))

-- Reads what follows an opening parenthesis.
def openGroup (reading : Reading) (cursor : Cursor) : Read Reading := do
  let start := cursor.position - 1
  if cursor.nextIs '?' then openExtension reading start (← cursor.skip 1)
  else openCapture reading start none cursor

-- A condition has at most two branches.
def nextBranch (reading : Reading) : Read Reading := do
  match reading.frame.opening, reading.frame.branches with
  | .conditional _, _ :: _ => reading.cursor.fail .extraBranch
  | _, _ =>
    return { reading with cursor := ← reading.cursor.skip 1, frame := reading.frame.finishBranch }

-- What a closed group adds to the sequence around it.
def closedItem (frame : Frame) : Item :=
  match frame.opening with
  | .whole | .contents => .contents frame.nodes
  | .capture group => .node (.capture group frame.body)
  | .scope => .node (.scope frame.body)
  | .atomic => .node (.atomic frame.body)
  | .ahead negated => .node (.ahead negated frame.body)
  | .behind negated _ => .node (.behind negated frame.body.width frame.body)
  | .conditional group =>
    match frame.allBranches with
    | present :: absent :: _ => .node (.conditional group (Node.ofList present) (Node.ofList absent))
    | present :: _ => .node (.conditional group (Node.ofList present) .empty)
    | [] => .contents []

def closedGroups (groups : Groups) (frame : Frame) : Groups :=
  match frame.opening with
  | .capture group => groups.closed group frame.body.width
  | .behind _ true => { groups with lookbehind := none }
  | _ => groups

def closeGroup (reading : Reading) : Read Reading := do
  match reading.outer with
  | [] => reading.cursor.fail .unbalancedParenthesis
  | frame :: outer =>
    return { reading with
      cursor := ← reading.cursor.skip 1
      groups := closedGroups reading.groups reading.frame
      frame := frame.push (closedItem reading.frame)
      outer }

def isMark (token : Token) (marks : List Char) : Bool :=
  match token with
  | .plain c => marks.contains c
  | .escaped _ => false

-- Skips the rest of a line in a pattern with comments.
def skipLine (reading : Reading) (cursor : Cursor) : Read Reading := do
  let length := (cursor.rest.takeWhile (· ≠ .plain '\n')).length
  return { reading with cursor := ← cursor.skip (length + 1) }

-- Reads a part of a sequence, which begins with the given token.
def readItem (reading : Reading) (token : Token) : Read Reading := do
  let flags := reading.frame.flags
  let cursor ← reading.cursor.skip 1
  if flags.verbose && isMark token [' ', '\t', '\n', '\r', '\x0b', '\x0c'] then
    return { reading with cursor }
  else if flags.verbose && token = .plain '#' then skipLine reading cursor
  else match token with
    | .escaped c =>
      let (node, after) ← Escape.inPattern cursor reading.groups flags c
      return reading.pushNode node after
    | .plain '[' =>
      let (test, after) ← CharClass.read cursor flags
      return reading.pushNode (.unit test) after
    | .plain '.' => return reading.pushNode (.unit (.any flags.dotAll)) cursor
    | .plain '^' => return reading.pushNode (.anchor (.start flags.multiline)) cursor
    | .plain '$' => return reading.pushNode (.anchor (.stop flags.multiline)) cursor
    | .plain '(' => openGroup reading cursor
    | .plain '*' => repeatLast reading (cursor.position - 1) 0 none cursor
    | .plain '+' => repeatLast reading (cursor.position - 1) 1 none cursor
    | .plain '?' => repeatLast reading (cursor.position - 1) 0 (some 1) cursor
    | .plain '\x7b' => readBraces reading cursor
    | .plain c => return reading.pushChar c cursor

def step (reading : Reading) (token : Token) : Read Reading :=
  match token with
  | .plain '|' => nextBranch reading
  | .plain ')' => closeGroup reading
  | token => readItem reading token

-- Reads up to the end of the pattern or to a parenthesis that closes no group.
def run : Nat → Reading → Read Reading
  | 0, reading => .ok reading
  | fuel + 1, reading =>
    match reading.cursor.next? with
    | none => .ok reading
    | some token =>
      if token = .plain ')' && reading.outer.isEmpty then .ok reading
      else (step reading token).bind (run fuel)

end Reading

-- A pattern that has been read. `names` lists the named groups in order.
structure Parsed where
  body : Node
  flags : Flags
  names : List (String × Nat)
  groupCount : Nat

-- What is left to check when reading has ended.
def Reading.finish (reading : Reading) : Read Parsed :=
  let flags := reading.frame.flags
  if !reading.outer.isEmpty then .error (.malformed .unterminatedGroup (some reading.frame.start))
  else if flags.locale then .error (.refused .localeFlag)
  else if flags.ascii && flags.unicode then .error (.refused .asciiAndUnicode)
  else if reading.cursor.next?.isSome then reading.cursor.fail .unbalancedParenthesis
  else match reading.pending.find? fun (group, _) => reading.groups.count < group with
    | some (group, place) => .error (.malformed (.invalidReference group) (some place))
    | none => .ok ⟨reading.frame.body, flags, reading.groups.names, reading.groups.count⟩

def parse (pattern : List Char) (flags : Flags) : Read Parsed := do
  let cursor ← Cursor.ofPattern pattern
  let reading : Reading := ⟨cursor, .none, [], .opened .whole 0 flags, []⟩
  (← reading.run (cursor.rest.length + 1)).finish

end RecordPattern.Regex
