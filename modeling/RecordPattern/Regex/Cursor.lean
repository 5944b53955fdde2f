import RecordPattern.Regex.Error
import RecordPattern.Regex.Token

namespace RecordPattern.Regex

-- The part of a pattern that is still to be read. A backslash that ends the pattern is an error
-- as soon as it comes next.
structure Cursor where
  rest : List Token
  position : Nat
  dangling : Option Nat

abbrev Read := Except Failure

namespace Cursor

def next? (cursor : Cursor) : Option Token :=
  cursor.rest.head?

def nextIs (cursor : Cursor) (c : Char) : Bool :=
  cursor.next? = some (.plain c)

-- Fails at the place of the next token.
def fail {α : Type} (cursor : Cursor) (issue : Issue) : Read α :=
  .error (.malformed issue (some cursor.position))

-- Fails some characters before the next token.
def failBefore {α : Type} (cursor : Cursor) (distance : Nat) (issue : Issue) : Read α :=
  .error (.malformed issue (some (cursor.position - distance)))

def ofPattern (pattern : List Char) : Read Cursor :=
  let (tokens, ends) := Token.ofChars pattern
  let dangling := if ends then some (pattern.length - 1) else none
  if tokens.isEmpty && ends then .error (.malformed .danglingEscape dangling)
  else .ok ⟨tokens, 0, dangling⟩

def skip (cursor : Cursor) (count : Nat) : Read Cursor :=
  let after := cursor.rest.drop count
  if 0 < count && after.isEmpty && cursor.dangling.isSome then
    .error (.malformed .danglingEscape cursor.dangling)
  else
    .ok { cursor with
      rest := after
      position := cursor.position + Token.widthOf (cursor.rest.take count) }

-- The characters of a class that come next, at most a given number of them.
def plainRun (accept : Char → Bool) : Nat → List Token → List Char
  | limit + 1, .plain c :: rest => if accept c then c :: plainRun accept limit rest else []
  | _, _ => []

def takeRun (cursor : Cursor) (limit : Nat) (accept : Char → Bool) :
    Read (List Char × Cursor) := do
  let run := plainRun accept limit cursor.rest
  return (run, ← cursor.skip run.length)

-- Reads a name up to its terminator.
def takeName (cursor : Cursor) (terminator : Char) (what : String) :
    Read (List Char × Cursor) := do
  let taken := cursor.rest.takeWhile (· ≠ .plain terminator)
  let name := Token.textOf taken
  if taken.length < cursor.rest.length then
    let after ← cursor.skip (taken.length + 1)
    if name.isEmpty then after.failBefore 1 (.missingName what) else return (name, after)
  else
    let after ← cursor.skip taken.length
    if name.isEmpty then after.fail (.missingName what)
    else after.failBefore name.length (.unterminatedName terminator)

end Cursor

end RecordPattern.Regex
