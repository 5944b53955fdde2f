import RecordPattern.Yaml.Cursor
import RecordPattern.Yaml.Token

namespace RecordPattern.Yaml.Quoted

open Text

-- The code of an escape of one character in double quotes.
def escapeCode? : Char → Option Nat
  | '0' => some 0
  | 'a' => some 7
  | 'b' => some 8
  | 't' | '\t' => some 9
  | 'n' => some 10
  | 'v' => some 11
  | 'f' => some 12
  | 'r' => some 13
  | 'e' => some 27
  | ' ' => some 32
  | '"' => some 34
  | '\\' => some 92
  | '/' => some 47
  | 'N' => some 0x85
  | '_' => some 0xA0
  | 'L' => some 0x2028
  | 'P' => some 0x2029
  | _ => none

-- How many hexadecimal digits follow the letter of an escape.
def hexLength? : Char → Option Nat
  | 'x' => some 2
  | 'u' => some 4
  | 'U' => some 8
  | _ => none

def hexCode (cursor : Cursor) (length : Nat) : Scan (Nat × Cursor) :=
  let digits := (cursor.rest.take length).takeWhile fun c => (hexValue? c).isSome
  let code := ofHexDigits digits
  if digits.length < length then malformed
  else if 0x7FFFFFFF < code then .error (.scalar .codeTooLarge)
  else if 0x10FFFF < code then .error (.scalar .codeOutOfRange)
  else .ok (code, cursor.skip length)

-- Takes the line ends in a row and the blanks around them. A mark between documents must not
-- stand at the start of a line.
def breaks : Nat → Cursor → Scan (Codes × Cursor)
  | 0, _ => malformed
  | fuel + 1, cursor =>
    if cursor.atSeparator then malformed
    else
      let after := cursor.skipRun isIndent
      match after.takeBreak with
      | none => .ok ([], after)
      | some (c, next) => do
        let (codes, last) ← breaks fuel next
        return (c.toNat :: codes, last)

-- The blanks inside a scalar. One line end is a blank; of several the first one is dropped.
def gap (fuel : Nat) (cursor : Cursor) : Scan (Codes × Cursor) := do
  let (blanks, after) := cursor.takeRun isIndent
  if after.rest.isEmpty then malformed
  else
    match after.takeBreak with
    | none => return (blanks.map Char.toNat, after)
    | some (c, next) =>
      let (codes, last) ← breaks fuel next
      if c ≠ '\n' then return (c.toNat :: codes, last)
      else return (if codes.isEmpty then [32] else codes, last)

-- Reads an escape in double quotes, after its backslash. An escaped line end adds nothing.
def escape (fuel : Nat) (cursor : Cursor) : Scan (Codes × Cursor) :=
  match cursor.peek with
  | none => malformed
  | some c =>
    match escapeCode? c, hexLength? c, cursor.takeBreak with
    | some code, _, _ => .ok ([code], cursor.next)
    | none, some length, _ => do
      let (code, after) ← hexCode cursor.next length
      return ([code], after)
    | none, none, some (_, after) => breaks fuel after
    | none, none, none => malformed

-- Reads up to a blank, a line end or the closing quote. A single quote is written twice between
-- single quotes.
def solid (quote : Char) : Nat → Cursor → Scan (Codes × Cursor)
  | 0, _ => malformed
  | fuel + 1, cursor =>
    match cursor.peek with
    | none => .ok ([], cursor)
    | some c =>
      if quote = '\'' && c = '\'' && cursor.peekAt 1 = some '\'' then do
        let (codes, last) ← solid quote fuel (cursor.skip 2)
        return (c.toNat :: codes, last)
      else if c = quote || isIndent c || isBreak c then .ok ([], cursor)
      else if quote = '"' && c = '\\' then do
        let (escaped, after) ← escape fuel cursor.next
        let (codes, last) ← solid quote fuel after
        return (escaped ++ codes, last)
      else do
        let (codes, last) ← solid quote fuel cursor.next
        return (c.toNat :: codes, last)

-- Reads the rest of a scalar and its closing quote.
def body (quote : Char) : Nat → Cursor → Scan (Codes × Cursor)
  | 0, _ => malformed
  | fuel + 1, cursor => do
    let (codes, after) ← solid quote (cursor.rest.length + 1) cursor
    if after.peek = some quote then return (codes, after.next)
    else
      let (blanks, next) ← gap (after.rest.length + 1) after
      let (more, last) ← body quote fuel next
      return (codes ++ blanks ++ more, last)

-- Reads a quoted scalar.
def scalar (cursor : Cursor) (quote : Char) : Scan (Codes × Cursor) :=
  body quote (cursor.rest.length + 1) cursor.next

end RecordPattern.Yaml.Quoted
