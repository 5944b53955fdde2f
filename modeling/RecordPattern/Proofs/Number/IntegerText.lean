import Mathlib.Data.Nat.Digits.Defs
import RecordPattern.Number.IntegerText

namespace RecordPattern.Number

variable {base : Nat} {text : List Char} {digits : List Nat} {value : Int}

end RecordPattern.Number
