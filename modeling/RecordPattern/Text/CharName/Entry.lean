import RecordPattern.Text.Hex
import RecordPattern.Text.Split

namespace RecordPattern.Text.CharName

abbrev Words := List (List Char)

-- An entry of a table of names. It has its own code or the one after that of the entry before.
-- Some of its words are the first ones of the name before, and some are the last ones.
structure Entry where
  code : Option Nat
  first : Nat
  last : Nat
  middle : Words

-- The number that a lowercase letter stands for, beginning with none.
def countOf (letter : Option Char) : Nat :=
  match letter with
  | some c => c.toNat - 'a'.toNat
  | none => 0

-- Takes the entry at the start of a table: a code after a plus sign, one or two lowercase letters
-- for the numbers of common words, and the words in between, up to a line end. Where there are no
-- words in between, a code or a line end comes next.
def takeEntry (table : List Char) : Entry × List Char :=
  let marked := table.head? = some '+'
  let digits := if marked then (table.drop 1).takeWhile (!Char.isLower ·) else []
  let rest := table.drop (if marked then digits.length + 1 else 0)
  let counts := rest.takeWhile Char.isLower
  let isText (c : Char) : Bool := !c.isLower && c ≠ '+' && c ≠ '\n'
  let text := (rest.drop counts.length).takeWhile isText
  let after := rest.drop (counts.length + text.length)
  let next := if after.head? = some '\n' then after.dropWhile fun c => c = '\n' || c = ' ' else after
  (⟨if marked then some (ofHexDigits digits) else none, countOf counts.head?,
    countOf counts[1]?, if text.isEmpty then [] else splitOn ' ' text⟩, next)

-- The words of an entry, given those of the one before.
def Entry.words (entry : Entry) (before : Words) : Words :=
  before.take entry.first ++ entry.middle ++ before.drop (before.length - entry.last)

-- Looks a name up in a table, after an entry with a given code and name.
def findFrom (name : Words) : Nat → Nat → Words → List Char → Option Nat
  | 0, _, _, _ => none
  | _ + 1, _, _, [] => none
  | fuel + 1, code, before, table =>
    let (entry, rest) := takeEntry table
    let code := entry.code.getD (code + 1)
    let words := entry.words before
    if words = name then some code else findFrom name fuel code words rest

def find? (table : String) (name : Words) : Option Nat :=
  let chars := table.toList
  findFrom name chars.length 0 [] chars

end RecordPattern.Text.CharName
