import RecordPattern.Text.Hex

namespace RecordPattern.Text

-- What is wrong with bytes that are no UTF-8.
inductive Utf8Issue where
  | invalidStart
  | invalidContinuation
  | unexpectedEnd
  deriving DecidableEq, Repr

def Utf8Issue.reason : Utf8Issue → String
  | .invalidStart => "invalid start byte"
  | .invalidContinuation => "invalid continuation byte"
  | .unexpectedEnd => "unexpected end of data"

-- The bytes at fault: where they begin, the first one, and how many there are.
structure Utf8Error where
  issue : Utf8Issue
  position : Nat
  first : UInt8
  count : Nat
  deriving DecidableEq, Repr

def Utf8Error.message (error : Utf8Error) : String :=
  let place :=
    if error.count = 1 then
      "byte 0x" ++ String.ofList (toHex 2 error.first.toNat) ++ " in position " ++
        toString error.position
    else
      "bytes in position " ++ toString error.position ++ "-" ++
        toString (error.position + error.count - 1)
  "'utf-8' codec can't decode " ++ place ++ ": " ++ error.issue.reason

namespace Utf8

-- The range of a byte that continues a character.
def tail : Nat × Nat := (0x80, 0xBF)

-- What a first byte says: its share of the character, and the range of each byte that has to
-- follow. The ranges leave out longer forms of short characters, surrogates and codes that are
-- too large.
def lead? (byte : UInt8) : Option (Nat × List (Nat × Nat)) :=
  let first := byte.toNat
  if first < 0x80 then some (first, [])
  else if first < 0xC2 then none
  else if first < 0xE0 then some (first - 0xC0, [tail])
  else if first = 0xE0 then some (0, [(0xA0, 0xBF), tail])
  else if first = 0xED then some (0xD, [(0x80, 0x9F), tail])
  else if first < 0xF0 then some (first - 0xE0, [tail, tail])
  else if first = 0xF0 then some (0, [(0x90, 0xBF), tail, tail])
  else if first < 0xF4 then some (first - 0xF0, [tail, tail, tail])
  else if first = 0xF4 then some (4, [(0x80, 0x8F), tail, tail])
  else none

-- Reads the bytes that continue a character, of which some have been read already.
def continued (code seen : Nat) :
    List (Nat × Nat) → List UInt8 → Except (Utf8Issue × Nat) (Nat × List UInt8)
  | [], bytes => .ok (code, bytes)
  | _ :: _, [] => .error (.unexpectedEnd, seen)
  | (low, high) :: ranges, byte :: bytes =>
    if low ≤ byte.toNat && byte.toNat ≤ high then
      continued (code * 64 + byte.toNat % 64) (seen + 1) ranges bytes
    else .error (.invalidContinuation, seen)

theorem length_le_of_continued {code seen : Nat} {ranges : List (Nat × Nat)}
    {bytes rest : List UInt8} {result : Nat}
    (h : continued code seen ranges bytes = .ok (result, rest)) : rest.length ≤ bytes.length := by
  fun_induction continued code seen ranges bytes with
  | case1 => cases h; exact Nat.le_refl _
  | case2 => cases h
  | case3 _ _ _ _ _ _ _ _ ih => exact Nat.le_trans (ih h) (Nat.le_succ _)
  | case4 => cases h

-- Decodes bytes that begin at a position of a larger text.
def decodeFrom (position : Nat) (bytes : List UInt8) : Except Utf8Error (List Char) :=
  match bytes with
  | [] => .ok []
  | byte :: rest =>
    match lead? byte with
    | none => .error ⟨.invalidStart, position, byte, 1⟩
    | some (share, ranges) =>
      match h : continued share 1 ranges rest with
      | .error (issue, count) => .error ⟨issue, position, byte, count⟩
      | .ok (code, after) => do
        return Char.ofNat code :: (← decodeFrom (position + 1 + ranges.length) after)
termination_by bytes.length
decreasing_by exact Nat.lt_succ_of_le (length_le_of_continued h)

def decode (bytes : List UInt8) : Except Utf8Error (List Char) :=
  decodeFrom 0 bytes

def encode (text : List Char) : List UInt8 :=
  text.flatMap String.utf8EncodeChar

end Utf8

-- Every line end becomes a line feed: a carriage return with a line feed after it, and one alone.
def lineFeeds : List Char → List Char
  | '\r' :: '\n' :: rest => '\n' :: lineFeeds rest
  | '\r' :: rest => '\n' :: lineFeeds rest
  | c :: rest => c :: lineFeeds rest
  | [] => []

-- The text that bytes hold, with line feeds for line ends.
def textOfBytes (bytes : List UInt8) : Except Utf8Error String :=
  (Utf8.decode bytes).map fun text => String.ofList (lineFeeds text)

end RecordPattern.Text
