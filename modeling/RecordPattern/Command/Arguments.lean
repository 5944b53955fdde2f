import RecordPattern.Files.Tree
import RecordPattern.Number.IntegerText

namespace RecordPattern.Command

-- The options of the commands. All of them take a value but `all`.
inductive OptionName where
  | spec
  | input
  | text
  | all
  | limit
  | out
  deriving DecidableEq, Repr

def OptionName.flag : OptionName → String
  | .spec => "--spec"
  | .input => "--input"
  | .text => "--text"
  | .all => "--all"
  | .limit => "--limit"
  | .out => "--out"

def allOptions : List OptionName := [.spec, .input, .text, .all, .limit, .out]

-- What is asked for: to search a text, or to explain a pattern.
structure FindOptions where
  spec : Files.Path
  input : Option Files.Path
  text : Option String
  all : Bool
  limit : Nat
  out : Option Files.Path
  deriving DecidableEq, Repr

inductive Request where
  | find (options : FindOptions)
  | explain (spec : Files.Path)
  deriving DecidableEq, Repr

-- Why arguments ask for nothing: they are not understood, or a path cannot be looked up.
inductive ArgumentError where
  | usage
  | nullInPath
  deriving DecidableEq, Repr

-- What the arguments of a run ask for, given the files that there are.
abbrev ArgumentReader := Files.Tree → List String → Except ArgumentError Request

abbrev Given := List (OptionName × String)

-- An option with its value after an equals sign, if it has one there.
def splitOption (argument : List Char) : String × Option String :=
  let name := argument.takeWhile (· ≠ '=')
  let value := argument.drop name.length
  (String.ofList name, if value.isEmpty then none else some (String.ofList (value.drop 1)))

-- Reads the arguments after a command. Anything but options is refused; a value may look like an
-- option.
def readOptions (known : List OptionName) : List String → Except ArgumentError Given
  | [] => .ok []
  | [argument] =>
    if argument = "--" then .ok []
    else
      match known.find? (·.flag = (splitOption argument.toList).1), splitOption argument.toList with
      | some .all, (_, none) => .ok [(.all, "")]
      | some .all, (_, some _) | none, _ | some _, (_, none) => .error .usage
      | some option, (_, some value) => .ok [(option, value)]
  | argument :: next :: rest =>
    match known.find? (·.flag = (splitOption argument.toList).1), splitOption argument.toList with
    | some .all, (_, none) => do return (.all, "") :: (← readOptions known (next :: rest))
    | some .all, (_, some _) | none, _ => .error .usage
    | some option, (_, some value) => do
      return (option, value) :: (← readOptions known (next :: rest))
    | some option, (_, none) => do return (option, next) :: (← readOptions known rest)

-- Of an option that is given several times the last value counts.
def Given.value? (given : Given) (option : OptionName) : Option String :=
  (given.reverse.find? (·.1 = option)).map (·.2)

-- A path that leads to a file. A slash or a dot at its end asks for a directory.
def filePath (tree : Files.Tree) (text : String) : Except ArgumentError Files.Path :=
  let path := Files.Path.ofText text
  if path.hasNull then .error .nullInPath
  else if text.isEmpty || text.endsWith "/" || text.endsWith "/." then .error .usage
  else
    match tree.find path with
    | .ok (.file _) => .ok path
    | _ => .error .usage

def outPath (text : String) : Except ArgumentError Files.Path :=
  let path := Files.Path.ofText text
  if path.hasNull then .error .nullInPath else .ok path

def defaultLimit : Nat := 20

def readLimit (text : String) : Except ArgumentError Nat :=
  match Number.integerOfText 10 text.toList with
  | .ok limit => if 1 ≤ limit then .ok limit.toNat else .error .usage
  | .error _ => .error .usage

def readSpec (tree : Files.Tree) (given : Given) : Except ArgumentError Files.Path :=
  match given.value? .spec with
  | some text => filePath tree text
  | none => .error .usage

-- Checks the value of an option by itself.
def checkOption (tree : Files.Tree) (given : Given) (option : OptionName) :
    Except ArgumentError Unit := do
  match option, given.value? option with
  | .spec, some text | .input, some text => discard (filePath tree text)
  | .out, some text => discard (outPath text)
  | .limit, some text => discard (readLimit text)
  | _, _ => return

-- Of several wrong values the one counts whose option is given first.
def readFind (tree : Files.Tree) (arguments : List String) : Except ArgumentError Request := do
  let given ← readOptions allOptions arguments
  given.forM fun (option, _) => checkOption tree given option
  let limit ← ((given.value? .limit).map readLimit).getD (.ok defaultLimit)
  return .find {
    spec := ← readSpec tree given
    input := ← (given.value? .input).mapM (filePath tree)
    text := given.value? .text
    all := (given.value? .all).isSome
    limit
    out := ← (given.value? .out).mapM outPath }

def readExplain (tree : Files.Tree) (arguments : List String) : Except ArgumentError Request := do
  let given ← readOptions [.spec] arguments
  return .explain (← readSpec tree given)

def readCommand (tree : Files.Tree) : List String → Except ArgumentError Request
  | "find" :: arguments => readFind tree arguments
  | "explain" :: arguments => readExplain tree arguments
  | _ => .error .usage

-- Reads a command and its options. Two dashes may stand before the command.
def readArguments (tree : Files.Tree) : List String → Except ArgumentError Request
  | "--" :: arguments => readCommand tree arguments
  | arguments => readCommand tree arguments

-- The paths that arguments name, whatever else they ask for.
def namedPaths (arguments : List String) : List Files.Path :=
  let options := (arguments.dropWhile (· = "--")).drop 1
  match readOptions allOptions options with
  | .ok given => ([.spec, .input, .out].filterMap given.value?).map Files.Path.ofText
  | .error _ => []

-- Whether the text to search comes from the standard input.
def Request.readsStandardInput : Request → Bool
  | .find options => options.input.isNone && options.text.isNone
  | .explain _ => false

end RecordPattern.Command
