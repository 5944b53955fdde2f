import RecordPattern.Files.Error
import RecordPattern.Files.Path

namespace RecordPattern.Files

-- What stands at a place.
inductive Entry where
  | directory
  | file (bytes : List UInt8)
  deriving DecidableEq, Repr

-- The names of the directories that lead from the root to an entry, and its own.
abbrev Place := List String

def Place.text (place : Place) : String :=
  "/" ++ "/".intercalate place

-- The entries below the root, and the current directory. A place is listed once, and so are the
-- directories that lead to it.
structure Tree where
  entries : List (Place × Entry)
  current : Place
  deriving DecidableEq, Repr

namespace Tree

-- The entry at a place. The root is the empty place.
def entry? (tree : Tree) (place : Place) : Option Entry :=
  if place = [] then some .directory else tree.entries.lookup place

def fileAt? (tree : Tree) (place : Place) : Option (List UInt8) :=
  match tree.entry? place with
  | some (.file bytes) => some bytes
  | _ => none

def erase (tree : Tree) (place : Place) : Tree :=
  { tree with entries := tree.entries.filter (·.1 ≠ place) }

-- Puts an entry at a place, in the stead of one that is there.
def put (tree : Tree) (place : Place) (entry : Entry) : Tree :=
  { tree with entries := (tree.erase place).entries ++ [(place, entry)] }

-- The longest name that a directory can hold, in bytes.
def maxNameBytes : Nat := 255

-- Follows the parts of a path from a place. The last part need not be there, and above the root
-- is the root.
def follow (tree : Tree) : Place → List String → Except Fault Place
  | place, [] => .ok place
  | place, part :: rest =>
    match tree.entry? place with
    | none => .error .missing
    | some (.file _) => .error .notDirectory
    | some .directory =>
      if part = ".." then follow tree place.dropLast rest
      else if maxNameBytes < part.utf8ByteSize then .error .nameTooLong
      else follow tree (place ++ [part]) rest

-- The place that a path leads to.
def placeOf (tree : Tree) (path : Path) : Except Fault Place :=
  tree.follow (if path.root.isEmpty then tree.current else []) path.parts

-- The entry that a path leads to.
def find (tree : Tree) (path : Path) : Except Fault Entry := do
  match tree.entry? (← tree.placeOf path) with
  | some entry => return entry
  | none => .error .missing

def read (tree : Tree) (path : Path) : Except Fault (List UInt8) := do
  match ← tree.find path with
  | .file bytes => return bytes
  | .directory => .error .isDirectory

def isDirectory (tree : Tree) (path : Path) : Bool :=
  match tree.find path with
  | .ok .directory => true
  | _ => false

-- Makes a directory in one that is there.
def makeDirectory (tree : Tree) (path : Path) : Except Fault Tree := do
  let place ← tree.placeOf path
  match tree.entry? place with
  | some _ => .error .exists
  | none => return tree.put place .directory

-- Makes a directory unless it is there; `missing` says what to do if there is no directory to
-- make it in.
def ensureDirectoryOr (tree : Tree) (path : Path)
    (missing : Unit → Tree × Option Error) : Tree × Option Error :=
  match tree.makeDirectory path with
  | .ok made => (made, none)
  | .error .missing => missing ()
  | .error fault => (tree, if tree.isDirectory path then none else some ⟨fault, path.text, none⟩)

-- Makes a directory and those that lead to it, unless they are there. The parts are given in
-- reverse. Directories that were made stay if a later one cannot be made.
def ensureDirectories (tree : Tree) (root : String) : List String → Tree × Option Error
  | [] => tree.ensureDirectoryOr ⟨root, []⟩ fun _ => (tree, none)
  | part :: above =>
    let path : Path := ⟨root, (part :: above).reverse⟩
    tree.ensureDirectoryOr path fun _ =>
      match tree.ensureDirectories root above with
      | (made, some error) => (made, some error)
      | (made, none) => made.ensureDirectoryOr path fun _ =>
        (made, some ⟨.missing, path.text, none⟩)

-- Adds an entry and the directories that lead to it.
def addAt (tree : Tree) : Place → List String → Entry → Tree
  | _, [], _ => tree
  | above, [name], entry => tree.put (above ++ [name]) entry
  | above, name :: rest, entry =>
    let place := above ++ [name]
    addAt (if (tree.entry? place).isSome then tree else tree.put place .directory) place rest entry

def add (tree : Tree) (path : String) (entry : Entry) : Tree :=
  tree.addAt tree.current (Path.ofText path).parts entry

-- The tree of a current directory with nothing in it.
def holding (current : Place) : Tree :=
  (⟨[], current⟩ : Tree).addAt [] current .directory

-- The files of a tree that another one lacks or that hold other bytes there.
def changedFrom (tree before : Tree) : List (Place × List UInt8) :=
  tree.entries.filterMap fun (place, entry) =>
    match entry with
    | .directory => none
    | .file bytes => if before.fileAt? place = some bytes then none else some (place, bytes)

-- The path to a place below the current directory.
def pathTo? (tree : Tree) (place : Place) : Option String :=
  if tree.current.isPrefixOf place then
    some ("/".intercalate (place.drop tree.current.length))
  else none

end Tree

end RecordPattern.Files
