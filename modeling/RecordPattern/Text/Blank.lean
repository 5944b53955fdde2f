namespace RecordPattern.Text

-- White space of any script, with the separator controls of ASCII.
def isBlank (c : Char) : Bool :=
  let code := c.toNat
  if code < 128 then (9 ≤ code && code ≤ 13) || (28 ≤ code && code ≤ 32)
  else code = 0x85 || code = 0xA0 || code = 0x1680 || (0x2000 ≤ code && code ≤ 0x200A) ||
    code = 0x2028 || code = 0x2029 || code = 0x202F || code = 0x205F || code = 0x3000

-- The six white space characters of ASCII.
def isAsciiBlank (c : Char) : Bool :=
  c = ' ' || (9 ≤ c.toNat && c.toNat ≤ 13)

def trimStart (text : List Char) : List Char :=
  text.dropWhile isBlank

-- Drops the blanks at the end, keeping everything up to the last other character.
def trimEnd (text : List Char) : List Char :=
  text.foldr (fun c rest => if rest.isEmpty && isBlank c then [] else c :: rest) []

def trim (text : List Char) : List Char :=
  trimEnd (trimStart text)

end RecordPattern.Text
