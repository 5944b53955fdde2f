import RecordPattern.Pattern.Compile

namespace RecordPattern

-- Why matches could not be written.
inductive FindError where
  | mismatch (error : Mismatch)
  | bytesText
  | notText (typeName : String)
  | access (error : AccessError)
  deriving DecidableEq, Repr

def FindError.message : FindError → String
  | .mismatch error => error.message
  | .bytesText => "cannot use a string pattern on a bytes-like object"
  | .notText typeName => "expected string or bytes-like object, got '" ++ typeName ++ "'"
  | .access error => error.message

namespace Pattern

def textOf (store : Store) (text : Value) : Except FindError String :=
  match text with
  | .text text => .ok text
  | .bytes _ => .error .bytesText
  | other => .error (.notText (store.typeName other))

-- The fields that a match gives a text.
def resolved (pattern : Pattern) (text : Array Char) (found : Regex.Match) :
    List (String × String) :=
  Capture.resolve (found.submatches text) pattern.composite.index pattern.fieldNames

-- Writes one match into the record that a value stands for.
def assign (pattern : Pattern) (text : Array Char) (store : Store) (found : Regex.Match)
    (target : Value) : Store × Option AccessError :=
  pattern.shape.writeTo store target (pattern.resolved text found)

def outcome {α : Type} (result : α) : Store × Option AccessError → Store × Except FindError α
  | (store, none) => (store, .ok result)
  | (store, some error) => (store, .error (.access error))

-- Fills a record from the first match in a text. Without a match nothing changes.
def find (pattern : Pattern) (store : Store) (text target : Value) :
    Store × Except FindError Bool :=
  let ready := do
    (pattern.shape.check store target).mapError FindError.mismatch
    textOf store text
  match ready with
  | .error error => (store, .error error)
  | .ok text =>
    let chars := text.toList.toArray
    match pattern.composite.regex.search? chars with
    | none => (store, .ok false)
    | some found => outcome true (pattern.assign chars store found target)

-- The slots of a sequence of records.
def slotsOf (store : Store) (values : Value) : Except FindError (List Value) :=
  match values with
  | .list slots | .tuple slots => .ok slots
  | other => .error (.mismatch (.notASequence (store.typeName other)))

def checkSlot (pattern : Pattern) (store : Store) (slot : Value) : Except FindError Unit :=
  match slot with
  | .null => .ok ()
  | slot => (pattern.shape.check store slot).mapError .mismatch

-- Writes a match into a slot; an empty slot skips it.
def assignSlot (pattern : Pattern) (text : Array Char) (store : Store) (found : Regex.Match)
    (slot : Value) : Store × Option AccessError :=
  match slot with
  | .null => (store, none)
  | slot => pattern.assign text store found slot

-- Writes successive matches into successive slots.
def assignAll (pattern : Pattern) (text : Array Char) :
    Store → List (Regex.Match × Value) → Store × Option AccessError
  | store, [] => (store, none)
  | store, (found, slot) :: rest =>
    match pattern.assignSlot text store found slot with
    | (next, none) => assignAll pattern text next rest
    | (next, some error) => (next, some error)

-- Fills the slots of a sequence from successive matches and counts the matches found, at most
-- one for each slot. All slots are checked before anything is written.
def findAll (pattern : Pattern) (store : Store) (text values : Value) :
    Store × Except FindError Nat :=
  let ready := do
    let slots ← slotsOf store values
    slots.forM (pattern.checkSlot store)
    return (slots, ← textOf store text)
  match ready with
  | .error error => (store, .error error)
  | .ok (slots, text) =>
    let chars := text.toList.toArray
    let found := pattern.composite.regex.firstMatches chars slots.length
    outcome found.length (pattern.assignAll chars store (found.zip slots))

end Pattern

end RecordPattern
