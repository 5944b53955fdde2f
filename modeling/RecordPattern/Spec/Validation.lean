import RecordPattern.Spec.PatternSpec
import RecordPattern.Text.Utf8

namespace RecordPattern

open Text

-- The outcome of a check that can find several things wrong.
abbrev Checked := Except (List SpecError)

namespace Checked

def fail {α : Type} (path : List String) (issue : SpecIssue) : Checked α :=
  .error [⟨path, issue⟩]

def errors {α : Type} : Checked α → List SpecError
  | .ok _ => []
  | .error errors => errors

-- Both results, or the errors of both.
def both {α β : Type} (first : Checked α) (second : Checked β) : Checked (α × β) :=
  match first, second with
  | .ok a, .ok b => .ok (a, b)
  | first, second => .error (first.errors ++ second.errors)

-- All results, or all errors in the order of the list.
def all {α : Type} : List (Checked α) → Checked (List α)
  | [] => .ok []
  | first :: rest => (both first (all rest)).map fun (a, more) => a :: more

end Checked

-- What counts as a text, as a list and as a mapping where a spec asks for one.
structure Lax where
  text : Value → Except SpecIssue String
  items? : Value → Option (List Value)
  entries? : Value → Option (List (Value × Value))

namespace Lax

-- Bytes count as text if they are UTF-8, and sequences of any kind as lists.
def standard : Lax where
  text value :=
    match value with
    | .text text => .ok text
    | .bytes bytes =>
      match Utf8.decode bytes with
      | .ok text => .ok (String.ofList text)
      | .error _ => .error .brokenText
    | _ => .error .notText
  items? contents :=
    match contents with
    | .list items | .tuple items | .set items => some items
    | _ => none
  entries? contents :=
    match contents with
    | .mapping _ entries => some entries
    | _ => none

end Lax

namespace PatternSpec

-- A key as part of a path.
def pathItem (key : Value) : String :=
  match key with
  | .bool value => if value then "1" else "0"
  | key => key.plainText

def checkText (lax : Lax) (path : List String) (value : Value) : Checked String :=
  (lax.text value).mapError fun issue => [⟨path, issue⟩]

def checkTemplate (lax : Lax) (entries : List (Value × Value)) : Checked String :=
  match Value.lookup? entries "template" with
  | none => Checked.fail ["template"] .missing
  | some value => checkText lax ["template"] value

-- An entry is checked at its key and then at its value.
def checkField (lax : Lax) (entry : Value × Value) : Checked (String × String) :=
  let place := pathItem entry.1
  Checked.both (checkText lax ["fields", place, "[key]"] entry.1)
    (checkText lax ["fields", place] entry.2)

def mergeFields (fields : List (String × String)) : List (String × String) :=
  fields.foldl (fun merged (name, pattern) =>
    if merged.any (·.1 = name) then
      merged.map fun (other, old) => (other, if other = name then pattern else old)
    else merged ++ [(name, pattern)]) []

-- There has to be a field. Of entries whose keys are the same text, the last one counts.
def checkFields (lax : Lax) (store : Store) (entries : List (Value × Value)) :
    Checked (List (String × String)) :=
  match Value.lookup? entries "fields" with
  | none => Checked.fail ["fields"] .missing
  | some value =>
    match lax.entries? (store.contents value) with
    | none => Checked.fail ["fields"] .notAMapping
    | some fields => do
      let fields ← Checked.all (fields.map (checkField lax))
      if fields.isEmpty then Checked.fail ["fields"] .noFields else return mergeFields fields

-- The names are looked up only when all items are texts; all unknown ones are reported at once.
def checkNames (names : List String) : Checked (List FlagName) :=
  let unknown := (names.map FlagName.normalize).filter fun name =>
    (FlagName.ofNormalized? name).isNone
  if unknown.isEmpty then .ok (names.filterMap FlagName.ofText?)
  else Checked.fail ["flags"] (.unknownFlags unknown)

def checkFlags (lax : Lax) (store : Store) (entries : List (Value × Value)) :
    Checked (List FlagName) :=
  match Value.lookup? entries "flags" with
  | none => .ok []
  | some value =>
    match lax.items? (store.contents value) with
    | none => Checked.fail ["flags"] .notAList
    | some items => do
      let names ← Checked.all (items.zipIdx.map fun (item, index) =>
        checkText lax ["flags", toString index] item)
      checkNames names

def parts : List String := ["template", "fields", "flags"]

-- A key must be one of the parts of a spec. Bytes do not count as text here.
def checkKey (key : Value) : Checked Unit :=
  match key with
  | .text name => if parts.contains name then .ok () else Checked.fail [name] .unknownKey
  | key => Checked.fail [pathItem key] .keyNotText

-- Reads a raw spec. Errors are listed part by part, and then those of other keys.
def validate (lax : Lax) (store : Store) (raw : Value) : Checked PatternSpec :=
  match store.contents raw with
  | .mapping _ entries => do
    let checkedParts := Checked.both (checkTemplate lax entries)
      (Checked.both (checkFields lax store entries) (checkFlags lax store entries))
    let checkedKeys := Checked.all (entries.map fun (key, _) => checkKey key)
    let ((template, fields, flags), _) ← Checked.both checkedParts checkedKeys
    return ⟨template, fields, flags⟩
  | _ => Checked.fail [] .notASpec

end PatternSpec

end RecordPattern
