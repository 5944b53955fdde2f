import RecordPattern.Command.Run
import RecordPattern.Toolkit.Standard

open RecordPattern

namespace RecordPattern.Main

-- The system's number for a directory that is read as a file.
def isDirectoryCode : UInt32 := 21

-- What stands at a path, if it can be read.
def entryAt? (path : String) : IO (Option Files.Entry) := do
  match ← (IO.FS.readBinFile path).toBaseIO with
  | .ok bytes => return some (.file bytes.toList)
  | .error (.inappropriateType _ code _) =>
    return if code = isDirectoryCode then some .directory else none
  | .error _ => return none

-- Adds what stands at a path and on the way to it.
def survey (tree : Files.Tree) (path : Files.Path) : IO Files.Tree :=
  (List.range (path.parts.length + 1)).foldlM (fun tree count => do
    let above : Files.Path := { path with parts := path.parts.take count }
    match tree.placeOf above, ← entryAt? above.text with
    | .ok (name :: rest), some entry => return tree.put (name :: rest) entry
    | _, _ => return tree) tree

partial def readAll (stream : IO.FS.Stream) (before : ByteArray) : IO ByteArray := do
  let chunk ← stream.read 65536
  if chunk.isEmpty then return before else readAll stream (before ++ chunk)

def letters : List Char := "abcdefghijklmnopqrstuvwxyz0123456789_".toList

def randomTag : IO String := do
  let tag ← (List.range 8).mapM fun _ => do
    return letters.getD (← IO.rand 0 (letters.length - 1)) '_'
  return String.ofList tag

-- Makes the directories and writes the files that one tree has over another one. A file takes its
-- place in one step.
def save (before after : Files.Tree) (tag : String) : IO Unit := do
  for (place, entry) in after.entries do
    if entry = .directory && before.entry? place = none then IO.FS.createDirAll place.text
  for (place, bytes) in after.changedFrom before do
    let temporary := Files.Tree.temporaryName place.text tag
    IO.FS.writeBinFile temporary ⟨bytes.toArray⟩
    IO.FS.rename temporary place.text

def standardInput (tree : Files.Tree) (arguments : List String) : IO (List UInt8) := do
  match Command.readArguments tree arguments with
  | .ok request =>
    if request.readsStandardInput then return (← readAll (← IO.getStdin) .empty).toList
    else return []
  | .error _ => return []

def usage : String :=
  "Usage: find --spec FILE [--input FILE | --text TEXT] [--all] [--limit N] [--out FILE]\n" ++
  "       explain --spec FILE"

end RecordPattern.Main

-- Matches a text against the pattern of a spec and prints the records, or explains the pattern.
def main (arguments : List String) : IO UInt32 := do
  let current := (Files.Path.ofText (← IO.currentDir).toString).parts
  let tree ← (Command.namedPaths arguments).foldlM Main.survey (Files.Tree.holding current)
  let stdin ← Main.standardInput tree arguments
  let tag ← Main.randomTag
  let outcome := Command.run .standard Command.readArguments tree stdin arguments [tag]
  IO.print outcome.output
  match ← (Main.save tree outcome.tree tag).toBaseIO with
  | .error error =>
    IO.println ("ERROR: write output failed: " ++ toString error)
    return 1
  | .ok () =>
    if let some escape := outcome.escape then
      IO.eprintln (escape.kind ++ ": " ++ escape.message)
    if outcome.output.isEmpty && outcome.exit = 2 then IO.eprintln Main.usage
    return outcome.exit.toUInt32
