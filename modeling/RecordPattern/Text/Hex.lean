namespace RecordPattern.Text

-- The value of a hexadecimal digit of either case.
def hexValue? (c : Char) : Option Nat :=
  if '0' ≤ c && c ≤ '9' then some (c.toNat - 48)
  else if 'a' ≤ c && c ≤ 'f' then some (c.toNat - 87)
  else if 'A' ≤ c && c ≤ 'F' then some (c.toNat - 55)
  else none

def octalValue? (c : Char) : Option Nat :=
  if '0' ≤ c && c ≤ '7' then some (c.toNat - 48) else none

-- The value of an ASCII decimal digit.
def digitValue? (c : Char) : Option Nat :=
  if '0' ≤ c && c ≤ '9' then some (c.toNat - 48) else none

-- The number that a run of digits denotes; a character that is no digit counts as zero.
def ofDigits (base : Nat) (value? : Char → Option Nat) (digits : List Char) : Nat :=
  digits.foldl (fun total c => total * base + (value? c).getD 0) 0

def ofHexDigits (digits : List Char) : Nat :=
  ofDigits 16 hexValue? digits

-- The lowercase hexadecimal digit of a value below sixteen.
def hexDigit (value : Nat) : Char :=
  if value < 10 then Char.ofNat (48 + value) else Char.ofNat (87 + value)

-- The last `width` lowercase hexadecimal digits of a value.
def toHex : Nat → Nat → List Char
  | 0, _ => []
  | width + 1, value => toHex width (value / 16) ++ [hexDigit (value % 16)]

end RecordPattern.Text
