import RecordPattern.Files.Tree
import RecordPattern.Text.Utf8

namespace RecordPattern.Files

-- Why a file gives no text.
inductive ReadError where
  | nullInPath
  | system (error : Error)
  | undecodable (error : Text.Utf8Error)
  deriving DecidableEq, Repr

namespace ReadError

def message : ReadError → String
  | .nullInPath => "embedded null byte"
  | .system error => error.message
  | .undecodable error => error.message

-- The name of an error's kind in messages.
def kind : ReadError → String
  | .nullInPath => "ValueError"
  | .system error => error.fault.kind
  | .undecodable _ => "UnicodeDecodeError"

end ReadError

def textOf (bytes : List UInt8) : Except ReadError String :=
  (Text.textOfBytes bytes).mapError .undecodable

-- The text of a file, with line feeds for line ends.
def Tree.readText (tree : Tree) (path : Path) : Except ReadError String := do
  if path.hasNull then .error .nullInPath
  else
    let bytes ← (tree.read path).mapError fun fault => .system ⟨fault, path.text, none⟩
    textOf bytes

end RecordPattern.Files
