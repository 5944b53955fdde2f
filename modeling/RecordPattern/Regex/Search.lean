import RecordPattern.Regex.Check
import RecordPattern.Regex.Matching
import RecordPattern.Regex.Parser

namespace RecordPattern

-- A compiled pattern. `names` lists its named groups with their numbers.
structure Regex where
  body : Regex.Node
  names : List (String × Nat)
  groupCount : Nat
  deriving DecidableEq, Repr

namespace Regex

-- The stretch of a match, and those of its groups; a group that took no part has none.
structure Match where
  start : Nat
  stop : Nat
  groups : List (Option (Nat × Nat))
  deriving DecidableEq, Repr

def compileChars (pattern : List Char) (flags : Nat) : Read Regex := do
  let parsed ← parse pattern (Flags.ofBits flags)
  parsed.body.check parsed.flags.template
  return ⟨parsed.body, parsed.names, parsed.groupCount⟩

def compile (pattern : String) (flags : Nat) : Except CompileError Regex :=
  (compileChars pattern.toList flags).mapError (Failure.toError pattern)

-- The match that begins at a position; one that has to advance is not empty.
def matchAt? (regex : Regex) (text : Array Char) (advance : Bool) (start : Nat) : Option Match :=
  let goal (progress : Progress) : Option Progress :=
    if advance && progress.position = start then none else some progress
  (regex.body.run text goal (.begin start regex.groupCount)).map fun progress =>
    ⟨start, progress.position, progress.marks.map Mark.span?⟩

-- The match that begins first among a number of positions in a row; only a match at the first
-- of them has to advance.
def searchFrom? (regex : Regex) (text : Array Char) : Nat → Bool → Nat → Option Match
  | 0, _, _ => none
  | positions + 1, advance, start =>
    match regex.matchAt? text advance start with
    | some found => some found
    | none => searchFrom? regex text positions false (start + 1)

-- The first match at or after a position.
def next? (regex : Regex) (text : Array Char) (advance : Bool) (start : Nat) : Option Match :=
  regex.searchFrom? text (text.size + 1 - start) advance start

def search? (regex : Regex) (text : Array Char) : Option Match :=
  regex.next? text false 0

-- Successive matches, at most a given number. A match begins where the one before ended or
-- later, and two empty matches do not begin at one place.
def matchesFrom (regex : Regex) (text : Array Char) : Nat → Bool → Nat → List Match
  | 0, _, _ => []
  | limit + 1, advance, start =>
    match regex.next? text advance start with
    | some found => found :: matchesFrom regex text limit (found.start = found.stop) found.stop
    | none => []

def firstMatches (regex : Regex) (text : Array Char) (limit : Nat) : List Match :=
  regex.matchesFrom text limit false 0

-- The text of a stretch.
def slice (text : Array Char) (start stop : Nat) : String :=
  String.ofList (text.extract start stop).toList

-- The whole match and then each group.
def Match.submatches (found : Match) (text : Array Char) : List (Option String) :=
  some (slice text found.start found.stop) ::
    found.groups.map (Option.map fun (start, stop) => slice text start stop)

end Regex

end RecordPattern
