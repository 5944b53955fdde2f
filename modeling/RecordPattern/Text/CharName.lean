import RecordPattern.Text.CharName.Alias
import RecordPattern.Text.CharName.Ancient
import RecordPattern.Text.CharName.EastAsia
import RecordPattern.Text.CharName.Entry
import RecordPattern.Text.CharName.Notations
import RecordPattern.Text.CharName.Rule
import RecordPattern.Text.CharName.Scripts
import RecordPattern.Text.CharName.Symbols

namespace RecordPattern.Text

namespace CharName

-- Names that follow a rule, in uppercase.
def ofRule? (name : List Char) : Option Nat :=
  (ofCodeFamily? name).or ((selector? name).or ((component? name).or (pattern? name)))

def tables : List String := [scripts, symbols, eastAsia, ancient, notations, aliases]

def ofTable? (name : List Char) : Option Nat :=
  tables.findSome? (find? · (splitOn ' ' name))

end CharName

-- The code point that a character name denotes. The case of letters does not matter but in the
-- names of ideographs and syllables.
def codeOfName? (name : String) : Option Nat :=
  let chars := name.toList
  let upper := chars.map Char.toUpper
  (CharName.ideograph? chars).or ((CharName.syllable? chars).or
    ((CharName.ofRule? upper).or (CharName.ofTable? upper)))

end RecordPattern.Text
