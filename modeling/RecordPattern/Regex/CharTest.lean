import RecordPattern.Text.Blank
import RecordPattern.Text.Casing
import RecordPattern.Text.Digit
import RecordPattern.Text.Letter

namespace RecordPattern.Regex

open RecordPattern.Text

-- Whose letters, digits and blanks a pattern speaks of.
inductive Alphabet where
  | ascii
  | unicode
  deriving DecidableEq, Repr

-- Which characters count as the same one.
inductive Fold where
  | exact
  | ascii
  | unicode
  deriving DecidableEq, Repr

-- Lowercase letters with one common uppercase form, beyond the pairs that lowercasing joins.
def kindredLetters : List (List Nat) := [
  [0x69, 0x131], [0x73, 0x17F], [0xB5, 0x3BC], [0x345, 0x3B9, 0x1FBE], [0x390, 0x1FD3],
  [0x3B0, 0x1FE3], [0x3B2, 0x3D0], [0x3B5, 0x3F5], [0x3B8, 0x3D1], [0x3BA, 0x3F0],
  [0x3C0, 0x3D6], [0x3C1, 0x3F1], [0x3C2, 0x3C3], [0x3C6, 0x3D5], [0x432, 0x1C80],
  [0x434, 0x1C81], [0x43E, 0x1C82], [0x441, 0x1C83], [0x442, 0x1C84, 0x1C85], [0x44A, 0x1C86],
  [0x463, 0x1C87], [0x1C88, 0xA64B], [0x1E61, 0x1E9B], [0xFB05, 0xFB06]]

namespace Fold

-- The representative of a code point.
def apply (fold : Fold) (code : Nat) : Nat :=
  match fold with
  | .exact => code
  | .ascii => if code < 128 then lowerCode code else code
  | .unicode => lowerCode code

-- The representatives that count as the same as a given one.
def kindred (fold : Fold) (code : Nat) : List Nat :=
  match fold with
  | .unicode => (kindredLetters.find? (·.contains code)).getD [code]
  | _ => [code]

-- The code points that have a given representative.
def sources (fold : Fold) (code : Nat) : List Nat :=
  match fold with
  | .exact => [code]
  | .ascii =>
    if 65 ≤ code && code ≤ 90 then []
    else if 97 ≤ code && code ≤ 122 then [code, code - 32] else [code]
  | .unicode => (if lowerCode code = code then [code] else []) ++ lowerSources code

end Fold

inductive Category where
  | digit
  | space
  | word
  deriving DecidableEq, Repr

def Category.holds (alphabet : Alphabet) (c : Char) : Category → Bool
  | .digit => match alphabet with
    | .ascii => '0' ≤ c && c ≤ '9'
    | .unicode => isDecimalDigit c
  | .space => match alphabet with
    | .ascii => isAsciiBlank c
    | .unicode => isBlank c
  | .word => match alphabet with
    | .ascii => c.toNat < 128 && (c.isAlphanum || c = '_')
    | .unicode => isWordChar c

-- One part of a character class.
inductive ClassItem where
  | code (value : Nat)
  | range (low high : Nat)
  | category (which : Category) (negated : Bool)
  deriving DecidableEq, Repr

-- Whether a folded code point is in a part of a class. Cases are told apart above U+FFFF, save
-- that a range also takes a character whose uppercase form it holds.
def ClassItem.holds (alphabet : Alphabet) (fold : Fold) (folded : Nat) : ClassItem → Bool
  | .code value =>
    if fold = .exact then folded == value
    else
      let image := fold.apply value
      if image ≤ 0xFFFF then (fold.kindred image).contains folded else folded == value
  | .range low high =>
    let within (code : Nat) : Bool := low ≤ code && code ≤ high
    if fold = .exact then within folded
    else
      (fold.kindred folded).any (fun image =>
        (fold.sources image).any fun source => source ≤ 0xFFFF && within source) ||
      (high > 0xFFFF && (within folded || within (upperCode folded)))
  | .category which negated => which.holds alphabet (Char.ofNat folded) != negated

-- A condition on one character.
inductive CharTest where
  | any (newlines : Bool)
  | literal (fold : Fold) (negated : Bool) (code : Nat)
  | oneOf (alphabet : Alphabet) (fold : Fold) (negated : Bool) (items : List ClassItem)
  deriving DecidableEq, Repr

namespace CharTest

def accepts (c : Char) : CharTest → Bool
  | .any newlines => newlines || c ≠ '\n'
  | .literal fold negated code =>
    (fold.kindred (fold.apply code)).contains (fold.apply c.toNat) != negated
  | .oneOf alphabet fold negated items =>
    let folded := fold.apply c.toNat
    items.any (·.holds alphabet fold folded) != negated

end CharTest

end RecordPattern.Regex
