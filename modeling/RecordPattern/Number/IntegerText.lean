import RecordPattern.Text.Blank
import RecordPattern.Text.Digit

namespace RecordPattern.Number

open RecordPattern.Text

-- Why a text denotes no integer.
inductive IntegerIssue where
  | notAnInteger
  | tooManyDigits (count : Nat)
  deriving DecidableEq, Repr

-- The longest run of decimal digits that is read or written.
def maxDecimalDigits : Nat := 4300

-- Whether an integer has no more digits than are written.
@[irreducible]
def hasText (value : Int) : Bool :=
  value.natAbs < Nat.pow 10 maxDecimalDigits

def tooManyDigitsMessage (count : Nat) : String :=
  "Exceeds the limit (" ++ toString maxDecimalDigits ++
    " digits) for integer string conversion: value has " ++ toString count ++
    " digits; use sys.set_int_max_str_digits() to increase the limit"

-- The value of a digit of any script, or of an ASCII letter from ten on.
def digitIn? (base : Nat) (c : Char) : Option Nat :=
  let value := match decimalValue? c with
    | some value => some value
    | none =>
      if 'a' ≤ c && c ≤ 'z' then some (c.toNat - 87)
      else if 'A' ≤ c && c ≤ 'Z' then some (c.toNat - 55)
      else none
  value.filter (· < base)

-- The values of digits that single underscores may separate.
def digitsIn? (base : Nat) : List Char → Option (List Nat)
  | [] => none
  | [c] => (digitIn? base c).map ([·])
  | c :: '_' :: rest => do return (← digitIn? base c) :: (← digitsIn? base rest)
  | c :: rest => do return (← digitIn? base c) :: (← digitsIn? base rest)

-- Drops the mark of the base, and one underscore after it.
def dropBaseMark (base : Nat) (text : List Char) : List Char :=
  let isMark (c : Char) : Bool :=
    (base = 2 && (c = 'b' || c = 'B')) || (base = 8 && (c = 'o' || c = 'O')) ||
      (base = 16 && (c = 'x' || c = 'X'))
  match text with
  | '0' :: c :: '_' :: rest => if isMark c then rest else text
  | '0' :: c :: rest => if isMark c then rest else text
  | _ => text

-- Reads an integer between blanks: a sign, a mark of the base and digits. Too long a run of digits
-- is noted before what follows it.
def integerOfText (base : Nat) (text : List Char) : Except IntegerIssue Int :=
  let body := trim text
  let negative := body.head? = some '-'
  let unsigned := if negative || body.head? = some '+' then body.drop 1 else body
  let marked := dropBaseMark base unsigned
  let run := marked.takeWhile fun c => c = '_' || (digitIn? base c).isSome
  match digitsIn? base run with
  | none => .error .notAnInteger
  | some digits =>
    if base = 10 && maxDecimalDigits < digits.length then .error (.tooManyDigits digits.length)
    else if run.length < marked.length then .error .notAnInteger
    else
      let value := digits.foldl (fun total digit => total * base + digit) 0
      .ok (if negative then -value else value)

end RecordPattern.Number
