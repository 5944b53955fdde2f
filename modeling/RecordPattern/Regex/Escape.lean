import RecordPattern.Regex.Cursor
import RecordPattern.Regex.Flags
import RecordPattern.Regex.Groups
import RecordPattern.Text.CharName

namespace RecordPattern.Regex

open RecordPattern.Text

def Flags.alphabet (flags : Flags) : Alphabet :=
  if flags.ascii then .ascii else .unicode

def Flags.fold (flags : Flags) : Fold :=
  if !flags.ignoreCase then .exact else if flags.ascii then .ascii else .unicode

namespace Escape

-- Escapes of control characters and of the backslash.
def control? : Char → Option Nat
  | 'a' => some 7
  | 'b' => some 8
  | 'f' => some 12
  | 'n' => some 10
  | 'r' => some 13
  | 't' => some 9
  | 'v' => some 11
  | '\\' => some 92
  | _ => none

def category? : Char → Option ClassItem
  | 'd' => some (.category .digit false)
  | 'D' => some (.category .digit true)
  | 's' => some (.category .space false)
  | 'S' => some (.category .space true)
  | 'w' => some (.category .word false)
  | 'W' => some (.category .word true)
  | _ => none

def anchor? (flags : Flags) : Char → Option Anchor
  | 'A' => some .textStart
  | 'Z' => some .textEnd
  | 'b' => some (.boundary flags.alphabet false)
  | 'B' => some (.boundary flags.alphabet true)
  | _ => none

-- How many hexadecimal digits an escape takes.
def hexLength? : Char → Option Nat
  | 'x' => some 2
  | 'u' => some 4
  | 'U' => some 8
  | _ => none

def text (c : Char) (digits : List Char) : String :=
  String.ofList ('\\' :: c :: digits)

def fail {α : Type} (cursor : Cursor) (c : Char) (digits : List Char) : Read α :=
  cursor.failBefore (digits.length + 2) (.badEscape (text c digits))

-- The code point written with hexadecimal digits. A number that is no 32-bit integer is not
-- looked up among the code points.
def hexCode (cursor : Cursor) (c : Char) (length : Nat) : Read (Nat × Cursor) := do
  let (digits, after) ← cursor.takeRun length fun d => (hexValue? d).isSome
  if digits.length < length then
    after.failBefore (digits.length + 2) (.incompleteEscape (text c digits))
  else if 0x7FFFFFFF < ofHexDigits digits then .error (.refused .codeTooLarge)
  else if 0x10FFFF < ofHexDigits digits then fail after c digits
  else return (ofHexDigits digits, after)

-- The code point written with the name of its character.
def namedCode (cursor : Cursor) : Read (Nat × Cursor) := do
  if !cursor.nextIs '{' then cursor.fail .missingBrace
  else
    let inside ← cursor.skip 1
    let (name, after) ← inside.takeName '}' "character name"
    match codeOfName? (String.ofList name) with
    | some code => return (code, after)
    | none => after.failBefore (name.length + 4) (.unknownCharName (String.ofList name))

-- The code point written with up to three octal digits.
def octalCode (cursor : Cursor) (c : Char) (digits : List Char) : Read (Nat × Cursor) :=
  let code := ofDigits 8 octalValue? (c :: digits)
  if 0o377 < code then
    cursor.failBefore (digits.length + 2) (.octalTooLarge (text c digits))
  else .ok (code, cursor)

-- Escapes that read the same inside and outside a class; the cursor stands after the letter.
def sharedCode? (cursor : Cursor) (c : Char) : Option (Read (Nat × Cursor)) :=
  match hexLength? c with
  | some length => some (hexCode cursor c length)
  | none => if c = 'N' then some (namedCode cursor) else none

-- A character stands for itself after a backslash, unless it is an ASCII letter.
def itself (cursor : Cursor) (c : Char) : Read (Nat × Cursor) :=
  if c.isAlpha then fail cursor c [] else .ok (c.toNat, cursor)

-- Reads an escape inside a class.
def inClass (cursor : Cursor) (c : Char) : Read (ClassItem × Cursor) := do
  match control? c, category? c with
  | some code, _ => return (.code code, cursor)
  | none, some item => return (item, cursor)
  | none, none =>
    let (code, after) ← match sharedCode? cursor c with
      | some read => read
      | none =>
        if (octalValue? c).isSome then do
          let (digits, after) ← cursor.takeRun 2 fun d => (octalValue? d).isSome
          octalCode after c digits
        else if c.isDigit then fail cursor c []
        else itself cursor c
    return (.code code, after)

-- A reference to a group by its number, which has been read as digits.
def reference (cursor : Cursor) (groups : Groups) (flags : Flags) (digits : List Char) :
    Read (Node × Cursor) :=
  let group := ofDigits 10 digitValue? digits
  if group ≤ groups.count then
    match groups.width? group with
    | none => cursor.failBefore (digits.length + 1) .openReference
    | some width =>
      match groups.lookbehindIssue? group with
      | some issue => cursor.fail issue
      | none => .ok (.reference group flags.fold width, cursor)
  else cursor.failBefore digits.length (.invalidReference group)

-- Digits after a backslash are a character if they are octal and three in number or begin with
-- zero, and else a reference to a group, of two digits if possible.
def numeric (cursor : Cursor) (groups : Groups) (flags : Flags) (c : Char) :
    Read (Node × Cursor) := do
  let literal (code : Nat) : Node := .unit (.literal flags.fold false code)
  if c = '0' then
    let (digits, after) ← cursor.takeRun 2 fun d => (octalValue? d).isSome
    return (literal (ofDigits 8 octalValue? digits), after)
  else
    let (second, after) ← cursor.takeRun 1 Char.isDigit
    let octal := !second.isEmpty && (c :: second).all fun d => (octalValue? d).isSome
    let (third, last) ← after.takeRun (if octal then 1 else 0) fun d => (octalValue? d).isSome
    if third.isEmpty then reference last groups flags (c :: second)
    else
      let (code, last) ← octalCode last c (second ++ third)
      return (literal code, last)

-- Reads an escape outside of classes.
def inPattern (cursor : Cursor) (groups : Groups) (flags : Flags) (c : Char) :
    Read (Node × Cursor) := do
  let literal (code : Nat) : Node := .unit (.literal flags.fold false code)
  match anchor? flags c, category? c, control? c with
  | some anchor, _, _ => return (.anchor anchor, cursor)
  | none, some item, _ => return (.unit (.oneOf flags.alphabet flags.fold false [item]), cursor)
  | none, none, some code => return (literal code, cursor)
  | none, none, none =>
    match sharedCode? cursor c with
    | some read =>
      let (code, after) ← read
      return (literal code, after)
    | none =>
      if c.isDigit then numeric cursor groups flags c
      else
        let (code, after) ← itself cursor c
        return (literal code, after)

end Escape

end RecordPattern.Regex
