import RecordPattern.Text.Hex

namespace RecordPattern.Text.CharName

-- What is left of a text after a given start.
def dropStart? (start : String) (text : List Char) : Option (List Char) :=
  let chars := start.toList
  if chars.isPrefixOf text then some (text.drop chars.length) else none

def isUpperHex (c : Char) : Bool :=
  c.isDigit || ('A' ≤ c && c ≤ 'F')

def upperHex? (digits : List Char) : Option Nat :=
  if !digits.isEmpty && digits.all isUpperHex then some (ofHexDigits digits) else none

def within (ranges : List (Nat × Nat)) (code : Nat) : Bool :=
  ranges.any fun (low, high) => low ≤ code && code ≤ high

def ideographs : List (Nat × Nat) := [(0x3400, 0x4DBF), (0x4E00, 0x9FFF), (0x20000, 0x2A6DF),
  (0x2A700, 0x2B738), (0x2B740, 0x2B81D), (0x2B820, 0x2CEA1), (0x2CEB0, 0x2EBE0),
  (0x30000, 0x3134A)]

-- The name of an ideograph ends in its code, with four or five digits.
def ideograph? (name : List Char) : Option Nat := do
  let digits ← dropStart? "CJK UNIFIED IDEOGRAPH-" name
  let code ← upperHex? digits
  if (digits.length = 4 || digits.length = 5) && within ideographs code then some code else none

-- The sounds that a syllable is made of: its start, its vowel and its end.
def starts : List String := ["G", "GG", "N", "D", "DD", "R", "M", "B", "BB", "S", "SS", "", "J",
  "JJ", "C", "K", "T", "P", "H"]

def vowels : List String := ["A", "AE", "YA", "YAE", "EO", "E", "YEO", "YE", "O", "WA", "WAE", "OE",
  "YO", "U", "WEO", "WE", "WI", "YU", "EU", "YI", "I"]

def finals : List String := ["", "G", "GG", "GS", "N", "NJ", "NH", "D", "L", "LG", "LM", "LB", "LS",
  "LT", "LP", "LH", "M", "B", "BS", "S", "SS", "NG", "J", "C", "K", "T", "P", "H"]

-- Takes the longest sound at the start of a text, and gives its number.
def takeSound (sounds : List String) (text : List Char) : Option (Nat × List Char) :=
  sounds.zipIdx.foldl (fun best (sound, index) =>
    match dropStart? sound text, best with
    | some rest, some (_, shortest) =>
      if rest.length < shortest.length then some (index, rest) else best
    | some rest, none => some (index, rest)
    | none, best => best) none

def syllable? (name : List Char) : Option Nat := do
  let sounds ← dropStart? "HANGUL SYLLABLE " name
  let (start, rest) ← takeSound starts sounds
  let (vowel, rest) ← takeSound vowels rest
  let (final, rest) ← takeSound finals rest
  if rest.isEmpty then some (0xAC00 + (start * vowels.length + vowel) * finals.length + final)
  else none

-- Families of names that end in the code of the character.
def codeFamilies : List (String × List (Nat × Nat)) := [
  ("CJK COMPATIBILITY IDEOGRAPH-", [(0xF900, 0xFA6D), (0xFA70, 0xFAD9), (0x2F800, 0x2FA1D)]),
  ("KHITAN SMALL SCRIPT CHARACTER-", [(0x18B00, 0x18CD5)]),
  ("NUSHU CHARACTER-", [(0x1B170, 0x1B2FB)])]

def ofCodeFamily? (name : List Char) : Option Nat :=
  codeFamilies.findSome? fun (start, ranges) => do
    let digits ← dropStart? start name
    let code ← upperHex? digits
    if digits.head? ≠ some '0' && within ranges code then some code else none

-- A number without leading zeros.
def number? (digits : List Char) : Option Nat :=
  if !digits.isEmpty && digits.all Char.isDigit && digits.head? ≠ some '0' then
    some (ofDigits 10 digitValue? digits)
  else none

-- The first sixteen selectors stand apart from the other ones.
def selectorCode? (number : Nat) : Option Nat :=
  if 1 ≤ number && number ≤ 16 then some (0xFE00 + number - 1)
  else if 17 ≤ number && number ≤ 256 then some (0xE0100 + number - 17)
  else none

def selector? (name : List Char) : Option Nat := do
  let digits ← (dropStart? "VARIATION SELECTOR-" name).or (dropStart? "VS" name)
  selectorCode? (← number? digits)

-- The name of a component ends in its number, with three digits.
def component? (name : List Char) : Option Nat := do
  let digits ← dropStart? "TANGUT COMPONENT-" name
  let number := ofDigits 10 digitValue? digits
  if digits.length = 3 && digits.all Char.isDigit && 1 ≤ number && number ≤ 768 then
    some (0x18800 + number - 1)
  else none

-- The dots of a pattern, each of which sets a bit; they are named in ascending order.
def dots? : Nat → List Char → Option Nat
  | _, [] => some 0
  | least, c :: rest => do
    let dot ← digitValue? c
    if least < dot && dot ≤ 8 then return Nat.pow 2 (dot - 1) + (← dots? dot rest) else none

def pattern? (name : List Char) : Option Nat := do
  let dots ← dropStart? "BRAILLE PATTERN DOTS-" name
  if dots.isEmpty then none else return 0x2800 + (← dots? 0 dots)

end RecordPattern.Text.CharName
