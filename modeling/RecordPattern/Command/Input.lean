import RecordPattern.Files.Text

namespace RecordPattern.Command

-- Why there is no text to search.
inductive InputError where
  | textAndFile
  | unreadable (error : Files.ReadError)
  deriving DecidableEq, Repr

namespace InputError

def message : InputError → String
  | .textAndFile => "--text and --input cannot be used together"
  | .unreadable error => error.message

-- The name of an error's kind in messages.
def kind : InputError → String
  | .textAndFile => "ValueError"
  | .unreadable error => error.kind

end InputError

-- The text to search: the one that is given, that of a file, or that of the standard input.
def readInput (tree : Files.Tree) (stdin : List UInt8) (input : Option Files.Path)
    (text : Option String) : Except InputError String :=
  match text, input with
  | some _, some _ => .error .textAndFile
  | some text, none => .ok text
  | none, some path => (tree.readText path).mapError .unreadable
  | none, none => (Files.textOf stdin).mapError .unreadable

end RecordPattern.Command
