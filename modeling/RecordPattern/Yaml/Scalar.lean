import RecordPattern.Number.DecimalText
import RecordPattern.Record.Value
import RecordPattern.Text.Base64
import RecordPattern.Text.Split
import RecordPattern.Yaml.Tag

namespace RecordPattern.Yaml.Scalar

open Number Text

def isCharCode (code : Nat) : Bool :=
  code < 0xD800 || (0xDFFF < code && code ≤ 0x10FFFF)

def chars (codes : Codes) : List Char :=
  codes.map Char.ofNat

def quotedCode (quote : Char) (code : Nat) : List Char :=
  if isCharCode code then quotedChar quote (Char.ofNat code) else '\\' :: 'u' :: toHex 4 code

-- A scalar in quotes, as messages show it.
def shown (codes : Codes) : String :=
  let quote := quoteFor (chars codes)
  String.ofList (quote :: (codes.flatMap (quotedCode quote) ++ [quote]))

def lowerCodes (codes : Codes) : Codes :=
  codes.flatMap fun code => if code = 0x130 then [0x69, 0x307] else [lowerCode code]

def dropUnderscores (codes : Codes) : Codes :=
  codes.filter (· ≠ '_'.toNat)

def isCode (c : Char) (code : Nat) : Bool :=
  code = c.toNat

def fail {α : Type} (error : ScalarError) : Scan α :=
  .error (.scalar error)

def bool (codes : Codes) : Scan Bool :=
  let word := lowerCodes codes
  let name := String.ofList (chars word)
  if ["yes", "true", "on"].contains name then .ok true
  else if ["no", "false", "off"].contains name then .ok false
  else fail (.notABool (shown word))

-- The sign of a number and the rest of it; there has to be something.
def sign (codes : Codes) : Scan (Bool × Codes) :=
  match codes with
  | [] => fail .emptyNumber
  | first :: rest =>
    .ok (isCode '-' first, if isCode '-' first || isCode '+' first then rest else codes)

def integerIn (base : Nat) (codes : Codes) : Scan Int :=
  match integerOfText base (chars codes) with
  | .ok value => .ok value
  | .error .notAnInteger => fail (.notAnInteger base (shown codes))
  | .error (.tooManyDigits count) => fail (.tooManyDigits count)

def pieces (codes : Codes) : List Codes :=
  (splitOn ':' (chars codes)).map fun piece => piece.map Char.toNat

-- The base of an integer shows in how it begins; a leading zero alone makes it octal.
def unsigned (codes : Codes) : Scan Int :=
  match chars codes with
  | [] => fail .emptyNumber
  | ['0'] => .ok 0
  | '0' :: 'b' :: _ => integerIn 2 (codes.drop 2)
  | '0' :: 'x' :: _ => integerIn 16 (codes.drop 2)
  | '0' :: _ => integerIn 8 codes
  | text =>
    if text.contains ':' then do
      let parts ← (pieces codes).mapM (integerIn 10)
      return parts.foldl (fun total part => total * 60 + part) 0
    else integerIn 10 codes

def integer (codes : Codes) : Scan Int := do
  let (negative, rest) ← sign (dropUnderscores codes)
  let value ← unsigned rest
  return if negative then -value else value

def decimal (codes : Codes) : Scan Binary64 :=
  match decimalOfText (chars codes) with
  | some value => .ok value
  | none => fail (.notANumber (shown codes))

-- The largest number of parts to the base sixty of which the first still has a finite weight.
def maxParts : Nat := 174

-- The sum of numbers to the base sixty, worked out from the last one on.
def sixties (parts : List Binary64) : Binary64 :=
  let step (total : Binary64 × Nat) (part : Binary64) : Binary64 × Nat :=
    (total.1.add (part.timesInteger total.2), total.2 * 60)
  (parts.reverse.foldl step (.zero false, 1)).1

def number (codes : Codes) : Scan Binary64 := do
  let (negative, rest) ← sign (lowerCodes (dropUnderscores codes))
  let signed (value : Binary64) : Binary64 :=
    ⟨value.negative != negative, value.magnitude⟩
  let word := String.ofList (chars rest)
  if word = ".inf" then return ⟨negative, .infinite⟩
  else if word = ".nan" then return ⟨false, .undefined⟩
  else if (chars rest).contains ':' then
    let parts ← (pieces rest).mapM decimal
    if maxParts < parts.length then fail .sumTooLarge else return signed (sixties parts)
  else return signed (← decimal rest)

def binary (codes : Codes) : Scan (List UInt8) :=
  if codes.any (127 < ·) then malformed
  else
    match Base64.decode (chars codes) with
    | some bytes => .ok bytes
    | none => malformed

def moment (codes : Codes) : Scan Value :=
  match Moment.read? (dropLineFeed (chars codes)) with
  | none => fail .notAMoment
  | some (moment, _) =>
    match moment.check with
    | .ok () => .ok (.moment (String.ofList (chars codes)))
    | .error issue => fail (.moment issue)

-- Texts are made of characters. Half of a surrogate pair is none.
def text (codes : Codes) : Scan String :=
  if codes.all isCharCode then .ok (String.ofList (chars codes)) else fail .loneSurrogate

-- The kinds of scalars.
def isScalar : Tag → Bool
  | .null | .bool | .int | .float | .binary | .moment | .text => true
  | _ => false

-- The value of a scalar of a kind.
def value (tag : Tag) (codes : Codes) : Scan Value :=
  match tag with
  | .null => .ok .null
  | .bool => (bool codes).map .bool
  | .int => (integer codes).map .int
  | .float => (number codes).map .float
  | .binary => (binary codes).map .bytes
  | .moment => moment codes
  | .text => (text codes).map .text
  | _ => malformed

end RecordPattern.Yaml.Scalar
