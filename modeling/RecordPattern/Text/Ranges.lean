import RecordPattern.Text.Hex

namespace RecordPattern.Text

-- Inclusive ranges of code points, in ascending order.
structure Ranges where
  bounds : List (Nat × Nat)

-- The words of a table, which stand between spaces or line ends.
def tableWords (table : List Char) : List (List Char) :=
  let (word, words) := table.foldr
    (fun c (word, words) =>
      if c = ' ' || c = '\n' then ([], if word.isEmpty then words else word :: words)
      else (c :: word, words))
    (([], []) : List Char × List (List Char))
  if word.isEmpty then words else word :: words

namespace Ranges

def contains (ranges : Ranges) (code : Nat) : Bool :=
  ranges.bounds.any fun (low, high) => low ≤ code && code ≤ high

def ofWord (word : List Char) : Nat × Nat :=
  let low := word.takeWhile (· ≠ '-')
  let high := (word.dropWhile (· ≠ '-')).drop 1
  (ofHexDigits low, if high.isEmpty then ofHexDigits low else ofHexDigits high)

-- Reads a table of hexadecimal words: `41` is one code point and `41-5A` is a range.
def ofTable (table : String) : Ranges :=
  ⟨(tableWords table.toList).map ofWord⟩

end Ranges

end RecordPattern.Text
