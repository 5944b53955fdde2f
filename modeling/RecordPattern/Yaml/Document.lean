import RecordPattern.Yaml.Graph
import RecordPattern.Yaml.Tokens

namespace RecordPattern.Yaml

-- How far a document is read: the tokens left, what the handles of tags stand for, the anchored
-- nodes, and the nodes so far.
structure Progress where
  tokens : List Token
  handles : List (String × String)
  anchors : List (String × Nat)
  graph : Graph

abbrev Build := StateT Progress Scan

namespace Build

def fail {α : Type} : Build α :=
  StateT.lift malformed

-- The next token. A broken place cannot even be looked at.
def peek : Build (Option Token) := do
  match (← get).tokens.head? with
  | some (.broken error) => StateT.lift (.error (.scalar error))
  | token => return token

def skip : Build Unit :=
  modify fun progress => { progress with tokens := progress.tokens.drop 1 }

-- Skips a token if it comes next.
def accept (token : Token) : Build Bool := do
  if (← peek) = some token then
    skip
    return true
  else return false

def expect (token : Token) : Build Unit := do
  if !(← accept token) then fail

def nextIsOneOf (tokens : List Token) : Build Bool := do
  return (← peek).any (tokens.contains ·)

def add (node : Node) : Build Nat := do
  let progress ← get
  let (id, graph) := progress.graph.add node
  set { progress with graph }
  return id

def setContent (id : Nat) (content : Content) : Build Unit :=
  modify fun progress => { progress with graph := progress.graph.setContent id content }

-- A name may be given to one node only.
def nameNode (anchor : Option String) (id : Nat) : Build Unit := do
  match anchor with
  | none => return
  | some name => modify fun progress => { progress with anchors := (name, id) :: progress.anchors }

-- Where nothing is written stands an empty plain scalar.
def addEmpty : Build Nat :=
  add ⟨.ofPlain [], .scalar []⟩

-- The name of a tag in full.
def tagName (handle : Option String) (suffix : String) : Build String := do
  match handle with
  | none => return suffix
  | some handle =>
    match (← get).handles.lookup handle with
    | some replacement => return replacement ++ suffix
    | none => fail

def takeAnchor : Build (Option String) := do
  match ← peek with
  | some (.anchor name) =>
    skip
    return some name
  | _ => return none

def takeTag : Build (Option (Option String × String)) := do
  match ← peek with
  | some (.tag handle suffix) =>
    skip
    return some (handle, suffix)
  | _ => return none

-- What is written before a node: an anchor and a tag, in either order.
structure Properties where
  anchor : Option String
  tag : Option String

def takeProperties : Build Properties := do
  let first ← takeAnchor
  let tag ← takeTag
  let second ← if first.isNone && tag.isSome then takeAnchor else pure none
  let name ← match tag with
    | some (handle, suffix) => some <$> tagName handle suffix
    | none => pure none
  let anchor := first.orElse fun _ => second
  -- What follows is looked at before the names are compared.
  let _ ← peek
  let anchors := (← get).anchors
  if anchor.any fun name => (anchors.lookup name).isSome then fail
  else return ⟨anchor, name⟩

-- A tag that leaves the kind of a node open.
def isOpenTag (tag : Option String) : Bool :=
  tag = none || tag = some "!"

-- The kind of a scalar. A lone mark as a tag makes a scalar count as plain.
def scalarTag (tag : Option String) (codes : Codes) (plain : Bool) : Tag :=
  match tag with
  | none => if plain then .ofPlain (codes.map Char.ofNat) else .text
  | some "!" => .ofPlain (codes.map Char.ofNat)
  | some name => .ofName name

def collectionTag (tag : Option String) (usual : Tag) : Tag :=
  if isOpenTag tag then usual else .ofName (tag.getD "")

-- How a collection is written: with marks at the starts of lines, with such marks but without
-- an indent of their own, or between brackets.
inductive Style where
  | block
  | indentless
  | flow
  deriving DecidableEq, Repr

-- Adds a named collection, which is filled afterwards.
def addCollection (properties : Properties) (usual : Tag) (content : Content) : Build Nat := do
  let id ← add ⟨collectionTag properties.tag usual, content⟩
  nameNode properties.anchor id
  return id

def addScalar (properties : Properties) (codes : Codes) (plain : Bool) : Build Nat := do
  let id ← add ⟨scalarTag properties.tag codes plain, .scalar codes⟩
  nameNode properties.anchor id
  return id

-- The tokens before which an entry of a block sequence is empty.
def afterEntry (style : Style) : List Token :=
  if style = .indentless then [.entry, .key, .value, .blockEnd] else [.entry, .blockEnd]

-- The tokens before which a key or a value of a block mapping is empty.
def afterBlockMark : List Token := [.key, .value, .blockEnd]

-- Properties alone make an empty scalar.
def bare (properties : Properties) : Build Nat :=
  if properties.anchor.isNone && properties.tag.isNone then fail
  else addScalar properties [] true

-- Reads a node after a mark, or nothing if a given token follows.
def readUnless (ends : List Token) (read : Build Nat) : Build Nat := do
  if ← nextIsOneOf ends then addEmpty else read

-- Reads what follows a key mark: a key, and a value after its own mark.
def readPair (afterKey afterValue : List Token) (read : Build Nat) : Build (Nat × Nat) := do
  let key ← readUnless afterKey read
  let value ← if ← accept .value then readUnless afterValue read else addEmpty
  return (key, value)

-- A key with its value in a sequence makes a mapping of its own.
def singlePair (read : Build Nat) : Build Nat := do
  let id ← addCollection ⟨none, none⟩ .mapping (.mapping [])
  let pair ← readPair [.value, .flowEntry, .flowSequenceEnd] [.flowEntry, .flowSequenceEnd] read
  setContent id (.mapping [pair])
  return id

mutual

-- Reads a node. An entry mark begins a sequence without an indent where one may stand.
def node : Nat → Bool → Bool → Build Nat
  | 0, _, _ => fail
  | fuel + 1, block, indentless => do
    match ← peek with
    | some (.reference name) =>
      skip
      match (← get).anchors.lookup name with
      | some id => return id
      | none => fail
    | _ =>
      let properties ← takeProperties
      match ← peek with
      | some .entry =>
        if indentless then sequence fuel properties .indentless
        else bare properties
      | some (.scalar codes plain) =>
        skip
        addScalar properties codes plain
      | some .flowSequenceStart =>
        skip
        sequence fuel properties .flow
      | some .flowMappingStart =>
        skip
        mapping fuel properties .flow
      | some .sequenceStart =>
        if block then
          skip
          sequence fuel properties .block
        else bare properties
      | some .mappingStart =>
        if block then
          skip
          mapping fuel properties .block
        else bare properties
      | _ => bare properties

def sequence : Nat → Properties → Style → Build Nat
  | 0, _, _ => fail
  | fuel + 1, properties, style => do
    let id ← addCollection properties .sequence (.sequence [])
    let items ← match style with
      | .flow => flowItems fuel true
      | style => blockItems fuel style
    setContent id (.sequence items)
    return id

def mapping : Nat → Properties → Style → Build Nat
  | 0, _, _ => fail
  | fuel + 1, properties, style => do
    let id ← addCollection properties .mapping (.mapping [])
    let pairs ← match style with
      | .flow => flowPairs fuel true
      | _ => blockPairs fuel
    setContent id (.mapping pairs)
    return id

def blockItems : Nat → Style → Build (List Nat)
  | 0, _ => fail
  | fuel + 1, style => do
    if ← accept .entry then
      let item ← readUnless (afterEntry style) (node fuel true false)
      return item :: (← blockItems fuel style)
    else
      if style = .block then expect .blockEnd
      return []

def blockPairs : Nat → Build (List (Nat × Nat))
  | 0 => fail
  | fuel + 1 => do
    if ← accept .key then
      let pair ← readPair afterBlockMark afterBlockMark (node fuel true true)
      return pair :: (← blockPairs fuel)
    else
      expect .blockEnd
      return []

-- Items are separated by commas; one may follow the last item.
def flowItems : Nat → Bool → Build (List Nat)
  | 0, _ => fail
  | fuel + 1, first => do
    if ← accept .flowSequenceEnd then return []
    else
      if !first then expect .flowEntry
      if ← accept .key then
        let item ← singlePair (node fuel false false)
        return item :: (← flowItems fuel false)
      else if ← accept .flowSequenceEnd then return []
      else
        let item ← node fuel false false
        return item :: (← flowItems fuel false)

-- A key may stand without a colon.
def flowPairs : Nat → Bool → Build (List (Nat × Nat))
  | 0, _ => fail
  | fuel + 1, first => do
    if ← accept .flowMappingEnd then return []
    else
      if !first then expect .flowEntry
      if ← accept .key then
        let pair ← readPair [.value, .flowEntry, .flowMappingEnd] [.flowEntry, .flowMappingEnd]
          (node fuel false false)
        return pair :: (← flowPairs fuel false)
      else if ← accept .flowMappingEnd then return []
      else
        let key ← node fuel false false
        let value ← addEmpty
        return (key, value) :: (← flowPairs fuel false)

end

def usualHandles : List (String × String) := [("!", "!"), ("!!", Tag.family)]

-- Reads the directives of a document. The version may be given once, and each handle once; a
-- handle that is given takes the place of the usual one.
def directives : Nat → Bool → List (String × String) → Build (List (String × String))
  | 0, _, _ => fail
  | fuel + 1, versionGiven, handles => do
    match ← peek with
    | some (.version major) =>
      if versionGiven || major ≠ 1 then fail
      else
        skip
        directives fuel true handles
    | some (.handle name replacement) =>
      if (handles.lookup name).isSome then fail
      else
        skip
        directives fuel versionGiven ((name, replacement) :: handles)
    | some .otherDirective =>
      skip
      directives fuel versionGiven handles
    | _ => return handles ++ usualHandles

def skipEnds : Nat → Build Unit
  | 0 => return
  | fuel + 1 => do if ← accept .documentEnd then skipEnds fuel

-- The start of a document with a mark of its own, after directives.
def startDocument (fuel : Nat) : Build Unit := do
  let handles ← directives fuel false []
  expect .documentStart
  modify fun progress => { progress with handles }

def isAtEnd : Build Bool := do
  return (← peek).isNone

-- Reads the only document of a text, if there is one. Another document is read up to its start.
def document (fuel : Nat) : Build (Option Nat) := do
  if ← isAtEnd then return none
  else
    let marked ← nextIsMark
    if marked then startDocument fuel
    let empty := marked && (← endsAtOnce)
    let root ← if empty then addEmpty else node fuel true false
    skipEnds fuel
    if ← isAtEnd then return some root
    else
      startDocument fuel
      fail
where
  nextIsMark : Build Bool := do
    match ← peek with
    | some (.version _) | some (.handle _ _) | some .otherDirective | some .documentStart =>
      return true
    | _ => return false
  endsAtOnce : Build Bool := do
    return (← isAtEnd) || (← nextIsMark) || (← peek) = some .documentEnd

end Build

-- The nodes of the only document of a text, and the root among them.
def document (text : List Char) : Scan (Option Nat × Graph) := do
  let tokens ← tokens text
  let start : Progress := ⟨tokens, Build.usualHandles, [], .empty⟩
  let (root, progress) ← (Build.document (3 * tokens.length + 3)).run start
  return (root, progress.graph)

end RecordPattern.Yaml
