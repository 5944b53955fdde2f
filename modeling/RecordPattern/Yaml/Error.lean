import RecordPattern.Number.IntegerText
import RecordPattern.Text.Quoted

namespace RecordPattern.Yaml

-- Why a date or a time does not exist. An offset is given as its days and the seconds beyond.
inductive MomentIssue where
  | year
  | month
  | day
  | hour
  | minute
  | second
  | offset (days : Int) (seconds : Nat)
  deriving DecidableEq, Repr

def MomentIssue.message : MomentIssue → String
  | .year => "year 0 is out of range"
  | .month => "month must be in 1..12"
  | .day => "day is out of range for month"
  | .hour => "hour must be in 0..23"
  | .minute => "minute must be in 0..59"
  | .second => "second must be in 0..59"
  | .offset days seconds =>
    let rest := if seconds = 0 then "" else ", seconds=" ++ toString seconds
    "offset must be a timedelta strictly between -timedelta(hours=24) and timedelta(hours=24), " ++
      "not datetime.timedelta(days=" ++ toString days ++ rest ++ ")."

-- Why a scalar of a well-formed document has no value. Texts are given as messages show them.
inductive ScalarError where
  | codeOutOfRange
  | codeTooLarge
  | loneSurrogate
  | notAnInteger (base : Nat) (shown : String)
  | tooManyDigits (count : Nat)
  | notANumber (shown : String)
  | emptyNumber
  | notABool (shown : String)
  | notAMoment
  | momentOfMapping
  | moment (issue : MomentIssue)
  | sumTooLarge
  | endless
  deriving DecidableEq, Repr

namespace ScalarError

def message : ScalarError → String
  | .codeOutOfRange => "chr() arg not in range(0x110000)"
  | .codeTooLarge => "Python int too large to convert to C int"
  | .loneSurrogate => "surrogates not allowed"
  | .notAnInteger base shown =>
    "invalid literal for int() with base " ++ toString base ++ ": " ++
      String.ofList (shown.toList.take 200)
  | .tooManyDigits count => Number.tooManyDigitsMessage count
  | .notANumber shown => "could not convert string to float: " ++ shown
  | .emptyNumber => "string index out of range"
  | .notABool shown => shown
  | .notAMoment => "'NoneType' object has no attribute 'groupdict'"
  | .momentOfMapping => "expected string or bytes-like object, got 'list'"
  | .moment issue => issue.message
  | .sumTooLarge => "int too large to convert to float"
  | .endless => "maximum recursion depth exceeded"

-- The name of an error's kind in messages.
def kind : ScalarError → String
  | .codeTooLarge | .sumTooLarge => "OverflowError"
  | .loneSurrogate => "UnicodeEncodeError"
  | .emptyNumber => "IndexError"
  | .notABool _ => "KeyError"
  | .notAMoment => "AttributeError"
  | .momentOfMapping => "TypeError"
  | .endless => "RecursionError"
  | .codeOutOfRange | .notAnInteger _ _ | .tooManyDigits _ | .notANumber _ | .moment _ =>
    "ValueError"

end ScalarError

-- Why a text has no value: it is not one well-formed document of known tags, or one of its
-- scalars has no value.
inductive Failure where
  | malformed
  | scalar (error : ScalarError)
  deriving DecidableEq, Repr

abbrev Scan := Except Failure

def malformed {α : Type} : Scan α :=
  .error .malformed

end RecordPattern.Yaml
