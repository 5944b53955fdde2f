import RecordPattern.Files.Tree

namespace RecordPattern.Files

-- Why a file was not written. `other` is what kept its content from being made.
inductive WriteError (ε : Type) where
  | nullInPath (function : String)
  | system (error : Error)
  | noFreeName
  | other (error : ε)
  deriving DecidableEq, Repr

namespace WriteError

-- The text of an error, given the text of what else can go wrong.
def message {ε : Type} (text : ε → String) : WriteError ε → String
  | .nullInPath function => function ++ ": embedded null character in path"
  | .system error => error.message
  | .noFreeName => "[Errno 17] No usable temporary file name found"
  | .other error => text error

-- Whether the system refused to write, rather than the content being at fault.
def isSystem {ε : Type} : WriteError ε → Bool
  | .system _ | .noFreeName => true
  | .nullInPath _ | .other _ => false

-- The name of an error's kind in messages, given that of what else can go wrong.
def kind {ε : Type} (name : ε → String) : WriteError ε → String
  | .nullInPath _ => "ValueError"
  | .system error => error.fault.kind
  | .noFreeName => Fault.exists.kind
  | .other error => name error

end WriteError

-- Content on its way to a file: the bytes that are written, and what keeps the rest from being
-- made, if anything does.
structure Content (ε : Type) where
  written : List UInt8
  failure : Option ε
  deriving DecidableEq, Repr

namespace Tree

def temporaryName (name tag : String) : String :=
  name ++ "." ++ tag ++ ".tmp"

-- The first temporary name of a list of tags that is not in use.
def freeName? (tree : Tree) (place : Place) (name : String) (tags : List String) :
    Option String :=
  (tags.map (temporaryName name)).find? fun candidate =>
    (tree.entry? (place ++ [candidate])).isNone

-- Moves a file to where a path leads, over a file that is there.
def move (tree : Tree) (source : Place) (bytes : List UInt8) (path : Path) :
    Except Fault Tree := do
  let target ← tree.placeOf path
  if !path.isNamed then .error .busy
  else
    match tree.entry? target with
    | some .directory => .error .isDirectory
    | _ => return (tree.erase source).put target (.file bytes)

-- Writes a file to a temporary one in the same directory, which then takes its place. If not all
-- of its content can be made or it cannot be moved, the temporary file is removed.
def replaceIn {ε : Type} (tree : Tree) (directory : Place) (path : Path) (content : Content ε)
    (tags : List String) : Tree × Except (WriteError ε) Unit :=
  match tree.freeName? directory path.name tags with
  | none => (tree, .error .noFreeName)
  | some name =>
    let place := directory ++ [name]
    if maxNameBytes < name.utf8ByteSize then
      (tree, .error (.system ⟨.nameTooLong, place.text, none⟩))
    else
      let written := tree.put place (.file content.written)
      match content.failure with
      | some error => (written.erase place, .error (.other error))
      | none =>
        match written.move place content.written path with
        | .error fault => (written.erase place, .error (.system ⟨fault, place.text, some path.text⟩))
        | .ok moved => (moved, .ok ())

-- Writes a file in one step and makes the directories that lead to it. Either all of the content
-- is there in the end, or no file has changed.
def replace {ε : Type} (tree : Tree) (path : Path) (content : Content ε)
    (tags : List String) : Tree × Except (WriteError ε) Unit :=
  let parent := path.parent
  if parent.hasNull then (tree, .error (.nullInPath "mkdir"))
  else
    match tree.ensureDirectories parent.root parent.parts.reverse with
    | (made, some error) => (made, .error (.system error))
    | (made, none) =>
      if path.hasNull then (made, .error (.nullInPath "open"))
      else
        match made.placeOf parent with
        | .error fault => (made, .error (.system ⟨fault, parent.text, none⟩))
        | .ok directory => made.replaceIn directory path content tags

end Tree

end RecordPattern.Files
