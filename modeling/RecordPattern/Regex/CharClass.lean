import RecordPattern.Regex.Escape

namespace RecordPattern.Regex

namespace CharClass

-- One end of a range, or a part of its own.
def readEnd (cursor : Cursor) : Token → Read (ClassItem × Cursor)
  | .plain c => .ok (.code c.toNat, cursor)
  | .escaped c => Escape.inClass cursor c

def rangeOf (cursor : Cursor) (first last : Token) (low high : ClassItem) : Read ClassItem :=
  let issue := Issue.badRange (String.ofList first.text) (String.ofList last.text)
  let distance := first.width + 1 + last.width
  match low, high with
  | .code low, .code high =>
    if high < low then cursor.failBefore distance issue else .ok (.range low high)
  | _, _ => cursor.failBefore distance issue

-- Reads the parts of a class up to its closing bracket; the first part may be a bracket itself.
def readItems (start : Nat) : Nat → Cursor → List ClassItem → Read (List ClassItem × Cursor)
  | 0, _, _ => .error (.malformed .unterminatedClass (some start))
  | fuel + 1, cursor, found =>
    match cursor.next? with
    | none => .error (.malformed .unterminatedClass (some start))
    | some first => do
      let after ← cursor.skip 1
      if first = .plain ']' && !found.isEmpty then return (found.reverse, after)
      else
        let (low, after) ← readEnd after first
        if !after.nextIs '-' then readItems start fuel after (low :: found)
        else
          let dash ← after.skip 1
          match dash.next? with
          | none => .error (.malformed .unterminatedClass (some start))
          | some last =>
            let after ← dash.skip 1
            if last = .plain ']' then return ((.code '-'.toNat :: low :: found).reverse, after)
            else
              let (high, after) ← readEnd after last
              readItems start fuel after ((← rangeOf after first last low high) :: found)

-- A class of one character is that character.
def testOf (flags : Flags) (negated : Bool) (items : List ClassItem) : CharTest :=
  match items.eraseDups with
  | [.code code] => .literal flags.fold negated code
  | items => .oneOf flags.alphabet flags.fold negated items

-- Reads a class; the cursor stands after the opening bracket.
def read (cursor : Cursor) (flags : Flags) : Read (CharTest × Cursor) := do
  let negated := cursor.nextIs '^'
  let inside ← cursor.skip negated.toNat
  let (items, after) ← readItems (cursor.position - 1) inside.rest.length inside []
  return (testOf flags negated items, after)

end CharClass

end RecordPattern.Regex
