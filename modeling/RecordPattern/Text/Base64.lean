namespace RecordPattern.Text.Base64

-- The value of a digit to the base 64.
def digit? (c : Char) : Option Nat :=
  if 'A' ≤ c && c ≤ 'Z' then some (c.toNat - 65)
  else if 'a' ≤ c && c ≤ 'z' then some (c.toNat - 71)
  else if '0' ≤ c && c ≤ '9' then some (c.toNat + 4)
  else if c = '+' then some 62
  else if c = '/' then some 63
  else none

-- The byte that a digit completes, if any, given the place of the digit in its group of four and
-- the value of the digit before it.
def byte? (place before digit : Nat) : Option UInt8 :=
  match place with
  | 1 => some (before * 4 + digit / 16).toUInt8
  | 2 => some (before % 16 * 16 + digit / 4).toUInt8
  | 3 => some (before % 4 * 64 + digit).toUInt8
  | _ => none

-- Reads on at a place in a group of four digits, after a digit and some signs of padding. Signs
-- that complete a group end the bytes; other characters are skipped.
def decodeFrom (place before padding : Nat) : List Char → Option (List UInt8)
  | [] => if place = 0 then some [] else none
  | c :: rest =>
    if c = '=' then
      if 2 ≤ place then
        if 4 ≤ place + padding + 1 then some [] else decodeFrom place before (padding + 1) rest
      else decodeFrom place before padding rest
    else
      match digit? c with
      | none => decodeFrom place before padding rest
      | some digit => do
        let bytes ← decodeFrom ((place + 1) % 4) digit 0 rest
        return (byte? place before digit).toList ++ bytes

-- The bytes of a text, unless its last group is incomplete.
def decode (text : List Char) : Option (List UInt8) :=
  decodeFrom 0 0 0 text

end RecordPattern.Text.Base64
