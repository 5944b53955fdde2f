import RecordPattern.Command.Arguments
import RecordPattern.Command.Collect
import RecordPattern.Command.Input
import RecordPattern.Command.Report
import RecordPattern.Pattern.Summary
import RecordPattern.Spec.Load

namespace RecordPattern.Command

-- An error that is not reported but ends the program.
structure Escape where
  kind : String
  message : String
  deriving DecidableEq, Repr

-- What a run leaves behind: its exit code, its output, and the files.
structure Outcome where
  exit : Nat
  output : String
  tree : Files.Tree
  escape : Option Escape

-- The outcome of a run that has printed something before.
def Outcome.after (printed : String) (outcome : Outcome) : Outcome :=
  { outcome with output := printed ++ outcome.output }

-- Why there is nothing to search, or nothing to search with.
inductive RunError where
  | load (error : SpecLoadError)
  | pattern (error : PatternError)
  | input (error : InputError)
  deriving DecidableEq, Repr

def familyOfRead : Files.ReadError → Family
  | .system _ => .system
  | .nullInPath | .undecodable _ => .value

namespace RunError

def family : RunError → Family
  | .load (.unreadable error) | .input (.unreadable error) => familyOfRead error
  | .load (.foreign error) => error.family
  | .load _ | .input .textAndFile => .value
  | .pattern (.refused .repetitionTooLarge) | .pattern (.refused .codeTooLarge) => .other
  | .pattern (.refused _) => .value
  | .pattern error => if error.isTyped then .typed else .other

def kind : RunError → String
  | .load error => error.kind
  | .pattern error => error.kind
  | .input error => error.kind

def message : RunError → String
  | .load error => error.message
  | .pattern error => error.message
  | .input error => error.message

-- Reports an error on a line, or lets it escape if its family is not among the given ones.
def outcome (error : RunError) (tools : Toolkit) (reported : List Family) (tree : Files.Tree) :
    Outcome :=
  if reported.contains error.family then
    ⟨1, tools.echo ("ERROR: " ++ error.kind ++ ": " ++ error.message), tree, none⟩
  else ⟨1, "", tree, some ⟨error.kind, error.message⟩⟩

end RunError

def compileSpec (tools : Toolkit) (tree : Files.Tree) (path : Files.Path) :
    Except RunError Pattern := do
  let spec ← (PatternSpec.load tools tree path).mapError .load
  spec.compile.mapError .pattern

-- What the engine prints while the patterns of a spec are compiled, if there is a spec.
def noise (tools : Toolkit) (tree : Files.Tree) (path : Files.Path) : String :=
  match PatternSpec.load tools tree path with
  | .ok spec => tools.trace spec
  | .error _ => ""

-- The records as lines. Records of matches hold texts only, and so have a line each.
def recordLines (tools : Toolkit) (records : List Value) : String :=
  String.join (records.map fun record =>
    match recordLine record with
    | .ok line => tools.echo line
    | .error _ => "")

-- The end of a search after which nothing is written or all is written.
def finish (tools : Toolkit) (lines : String) (found : Bool) (tree : Files.Tree) : Outcome :=
  if found then ⟨0, lines, tree, none⟩ else ⟨2, lines ++ tools.echo "INFO: no match", tree, none⟩

-- Writes the records to a file besides.
def finishWriting (tools : Toolkit) (lines : String) (records : List Value) (limit : Nat)
    (tree : Files.Tree) (path : Files.Path) (tags : List String) : Outcome :=
  match writeMatches tree path (payload (.int limit) records) tags with
  | (written, .ok ()) => finish tools lines (!records.isEmpty) written
  | (written, .error error) =>
    let message := error.message JsonError.message
    if error.isSystem then
      ⟨1, lines ++ tools.echo ("ERROR: write output failed: " ++ message), written, none⟩
    else ⟨1, lines, written, some ⟨error.kind JsonError.kind, message⟩⟩

-- The limit counts only if all matches are asked for.
def FindOptions.effectiveLimit (options : FindOptions) : Nat :=
  if options.all then options.limit else 1

def prepare (tools : Toolkit) (tree : Files.Tree) (stdin : List UInt8) (options : FindOptions) :
    Except RunError (Pattern × String) := do
  let pattern ← compileSpec tools tree options.spec
  let text ← (readInput tree stdin options.input options.text).mapError .input
  return (pattern, text)

-- Searches a text and prints a record for each match.
def search (tools : Toolkit) (tree : Files.Tree) (options : FindOptions) (pattern : Pattern)
    (text : String) (tags : List String) : Outcome :=
  let records := collect pattern text options.effectiveLimit
  let lines := recordLines tools records
  match options.out with
  | none => finish tools lines (!records.isEmpty) tree
  | some path => finishWriting tools lines records options.effectiveLimit tree path tags

def find (tools : Toolkit) (tree : Files.Tree) (stdin : List UInt8) (options : FindOptions)
    (tags : List String) : Outcome :=
  let outcome := match prepare tools tree stdin options with
    | .error error => error.outcome tools [.typed, .value, .system] tree
    | .ok (pattern, text) => search tools tree options pattern text tags
  outcome.after (noise tools tree options.spec)

-- Prints a summary of the pattern of a spec.
def explain (tools : Toolkit) (tree : Files.Tree) (spec : Files.Path) : Outcome :=
  let outcome := match compileSpec tools tree spec with
    | .error error => error.outcome tools [.typed, .value] tree
    | .ok pattern => ⟨0, tools.echo pattern.summary.indented, tree, none⟩
  outcome.after (noise tools tree spec)

def Request.run (request : Request) (tools : Toolkit) (tree : Files.Tree) (stdin : List UInt8)
    (tags : List String) : Outcome :=
  match request with
  | .find options => Command.find tools tree stdin options tags
  | .explain spec => Command.explain tools tree spec

def ArgumentError.outcome (error : ArgumentError) (tree : Files.Tree) : Outcome :=
  match error with
  | .usage => ⟨2, "", tree, none⟩
  | .nullInPath => ⟨1, "", tree, some ⟨"ValueError", "stat: embedded null character in path"⟩⟩

-- Runs the program with a reader of its arguments. Tags make the names of temporary files.
def run (tools : Toolkit) (reader : ArgumentReader) (tree : Files.Tree) (stdin : List UInt8)
    (arguments tags : List String) : Outcome :=
  match reader tree arguments with
  | .ok request => request.run tools tree stdin tags
  | .error error => error.outcome tree

end RecordPattern.Command
