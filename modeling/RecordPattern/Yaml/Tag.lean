import RecordPattern.Text.Split
import RecordPattern.Yaml.Moment
import RecordPattern.Yaml.Token

namespace RecordPattern.Yaml

-- What a node is. Nodes of other kinds have no value.
inductive Tag where
  | null
  | bool
  | int
  | float
  | binary
  | moment
  | text
  | sequence
  | mapping
  | set
  | pairs
  | merge
  | default
  | other
  deriving DecidableEq, Repr

namespace Tag

def family : String := "tag:yaml.org,2002:"

-- The kind that the name of a tag stands for.
def ofName (name : String) : Tag :=
  if name = family ++ "null" then .null
  else if name = family ++ "bool" then .bool
  else if name = family ++ "int" then .int
  else if name = family ++ "float" then .float
  else if name = family ++ "binary" then .binary
  else if name = family ++ "timestamp" then .moment
  else if name = family ++ "str" then .text
  else if name = family ++ "seq" then .sequence
  else if name = family ++ "map" then .mapping
  else if name = family ++ "set" then .set
  else if name = family ++ "omap" || name = family ++ "pairs" then .pairs
  else if name = family ++ "merge" then .merge
  else if name = family ++ "value" then .default
  else .other

def boolWords : List String := ["yes", "Yes", "YES", "no", "No", "NO", "true", "True", "TRUE",
  "false", "False", "FALSE", "on", "On", "ON", "off", "Off", "OFF"]

def dropSign (text : List Char) : List Char :=
  match text with
  | '-' :: rest | '+' :: rest => rest
  | text => text

def isDigitOr (c : Char) (d : Char) : Bool :=
  d.isDigit || d = c

-- Numbers to the base sixty after a colon each.
def isSixties (parts : List (List Char)) : Bool :=
  !parts.isEmpty && parts.all fun part =>
    match part with
    | [unit] => unit.isDigit
    | [ten, unit] => '0' ≤ ten && ten ≤ '5' && unit.isDigit
    | _ => false

def isPositive (text : List Char) : Bool :=
  match text with
  | first :: rest => first.isDigit && first ≠ '0' && rest.all (isDigitOr '_')
  | [] => false

-- Integers to the bases 2, 8, 10, 16 and 60.
def isInteger (text : List Char) : Bool :=
  match dropSign text with
  | '0' :: 'b' :: digits =>
    !digits.isEmpty && digits.all fun c => c = '0' || c = '1' || c = '_'
  | '0' :: 'x' :: digits =>
    !digits.isEmpty && digits.all fun c => (Text.hexValue? c).isSome || c = '_'
  | '0' :: digits => digits.all fun c => (Text.octalValue? c).isSome || c = '_'
  | unsigned =>
    match Text.splitOn ':' unsigned with
    | [digits] => isPositive digits
    | first :: parts => isPositive first && isSixties parts
    | [] => false

-- An exponent has a sign.
def isExponent (text : List Char) : Bool :=
  match text with
  | [] => true
  | e :: sign :: digits =>
    (e = 'e' || e = 'E') && (sign = '+' || sign = '-') && !digits.isEmpty && digits.all Char.isDigit
  | _ => false

-- Digits and underscores up to an exponent.
def isFraction (text : List Char) : Bool :=
  isExponent (text.dropWhile (isDigitOr '_'))

-- The part before the point is a run of digits, or one with numbers to the base sixty after it.
def isPointed (whole fraction : List Char) : Bool :=
  match Text.splitOn ':' whole with
  | [first :: digits] => first.isDigit && digits.all (isDigitOr '_') && isFraction fraction
  | (first :: digits) :: parts =>
    first.isDigit && digits.all (isDigitOr '_') && isSixties parts &&
      fraction.all (isDigitOr '_')
  | _ => false

def infinityWords : List String := [".inf", ".Inf", ".INF"]

def undefinedWords : List String := [".nan", ".NaN", ".NAN"]

-- Numbers with a point. Before a leading point no sign may stand, except for infinity.
def isFloat (text : List Char) : Bool :=
  let unsigned := dropSign text
  let whole := unsigned.takeWhile (· ≠ '.')
  match text, unsigned.drop whole.length with
  | '.' :: first :: _, '.' :: fraction =>
    (first.isDigit && isFraction fraction) ||
      (infinityWords ++ undefinedWords).contains (String.ofList text)
  | _, '.' :: fraction =>
    isPointed whole fraction || infinityWords.contains (String.ofList unsigned)
  | _, _ => false

def nullWords : List String := ["~", "null", "Null", "NULL", ""]

-- The kind of a word.
def ofWord (text : List Char) : Tag :=
  let word := String.ofList text
  if boolWords.contains word then .bool
  else if isFloat text then .float
  else if isInteger text then .int
  else if word = "<<" then .merge
  else if nullWords.contains word then .null
  else if Moment.isPlain text then .moment
  else if word = "=" then .default
  else if word = "!" || word = "&" || word = "*" then .other
  else .text

-- The kind of a plain scalar. A line feed at its end does not count, unless it stands alone.
def ofPlain (text : List Char) : Tag :=
  if text = ['\n'] then .text else ofWord (dropLineFeed text)

end Tag

end RecordPattern.Yaml
