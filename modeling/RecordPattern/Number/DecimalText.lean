import RecordPattern.Number.Binary64
import RecordPattern.Text.Blank
import RecordPattern.Text.Casing
import RecordPattern.Text.Digit

namespace RecordPattern.Number

open RecordPattern.Text

-- The digits of any script in ASCII.
def asciiDigits (text : List Char) : List Char :=
  text.map fun c =>
    match decimalValue? c with
    | some value => hexDigit value
    | none => c

-- An exponent with or without a sign, or nothing.
def exponentOfText (text : List Char) : Option Int :=
  match text with
  | [] => some 0
  | e :: rest =>
    let unsigned := match rest with
      | '-' :: digits | '+' :: digits => digits
      | digits => digits
    if e ≠ 'e' || unsigned.isEmpty || !unsigned.all Char.isDigit then none
    else
      let size : Int := ofDigits 10 digitValue? unsigned
      some (if rest.head? = some '-' then -size else size)

-- A number in lowercase without a sign: digits with or without a point, and an exponent.
def unsignedOfText (negative : Bool) (text : List Char) : Option Binary64 :=
  if text = "inf".toList || text = "infinity".toList then some ⟨negative, .infinite⟩
  else if text = "nan".toList then some ⟨negative, .undefined⟩
  else
    let whole := text.takeWhile Char.isDigit
    let afterWhole := text.drop whole.length
    let fraction := match afterWhole with
      | '.' :: rest => rest.takeWhile Char.isDigit
      | _ => []
    let afterFraction := match afterWhole with
      | '.' :: rest => rest.drop fraction.length
      | rest => rest
    if whole.isEmpty && fraction.isEmpty then none
    else do
      let exponent ← exponentOfText afterFraction
      return .ofDecimal negative (ofDigits 10 digitValue? (whole ++ fraction))
        (exponent - fraction.length)

-- Reads a number between blanks.
def decimalOfText (text : List Char) : Option Binary64 :=
  let body := asciiDigits (trim text)
  let lower := body.map fun c => Char.ofNat (lowerCode c.toNat)
  match lower with
  | '-' :: unsigned => unsignedOfText true unsigned
  | '+' :: unsigned => unsignedOfText false unsigned
  | unsigned => unsignedOfText false unsigned

end RecordPattern.Number
