import RecordPattern.Files.Text
import RecordPattern.Toolkit

namespace RecordPattern

-- Why a file gives no spec. The first four say which file it is.
inductive SpecLoadError where
  | notFound (path : String)
  | notYaml (path : String)
  | notAMapping (path : String)
  | invalid (path : String) (errors : List SpecError)
  | unreadable (error : Files.ReadError)
  | foreign (error : ForeignError)
  deriving DecidableEq, Repr

namespace SpecLoadError

def message : SpecLoadError → String
  | .notFound path => "Pattern spec file not found: " ++ path
  | .notYaml path => "Invalid YAML in pattern spec file: " ++ path
  | .notAMapping path => "Pattern spec file must contain a mapping: " ++ path
  | .invalid path _ => "Invalid pattern spec: " ++ path
  | .unreadable error => error.message
  | .foreign error => error.message

-- The name of an error's kind in messages.
def kind : SpecLoadError → String
  | .notFound _ | .notYaml _ | .notAMapping _ | .invalid _ _ => "ValueError"
  | .unreadable error => error.kind
  | .foreign error => error.kind

end SpecLoadError

namespace PatternSpec

def readFile (tree : Files.Tree) (path : Files.Path) : Except SpecLoadError String :=
  (tree.readText path).mapError fun error =>
    match error with
    | .system ⟨.missing, _, _⟩ => .notFound path.text
    | error => .unreadable error

def parse (tools : Toolkit) (path : Files.Path) (text : String) :
    Except SpecLoadError (Value × Store) :=
  (tools.document text).mapError fun failure =>
    match failure with
    | .malformed => .notYaml path.text
    | .other error => .foreign error

def check (tools : Toolkit) (path : Files.Path) (store : Store) (raw : Value) :
    Except SpecLoadError PatternSpec :=
  (tools.spec store raw).mapError fun failure =>
    match failure with
    | .invalid errors => .invalid path.text errors
    | .other error => .foreign error

def isMapping : Value → Bool
  | .mapping false _ => true
  | _ => false

-- Loads a spec from a file.
def load (tools : Toolkit) (tree : Files.Tree) (path : Files.Path) :
    Except SpecLoadError PatternSpec := do
  let (raw, store) ← parse tools path (← readFile tree path)
  if isMapping (store.contents raw) then check tools path store raw
  else .error (.notAMapping path.text)

end PatternSpec

end RecordPattern
