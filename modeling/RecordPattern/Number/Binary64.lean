namespace RecordPattern.Number

-- A binary floating point number of 64 bits. A finite one is its mantissa, below 2^53, times a
-- power of two; the mantissa is at least 2^52 unless the exponent is the least one.
inductive Magnitude where
  | finite (mantissa : Nat) (exponent : Int)
  | infinite
  | undefined
  deriving DecidableEq, Repr

structure Binary64 where
  negative : Bool
  magnitude : Magnitude
  deriving DecidableEq, Repr

namespace Binary64

def leastExponent : Int := -1074

def greatestExponent : Int := 971

-- The nearest integer to a quotient; a half goes to the even neighbour.
def roundQuotient (numerator denominator : Nat) : Nat :=
  let quotient := numerator / denominator
  let twice := 2 * (numerator % denominator)
  if twice < denominator then quotient
  else if denominator < twice then quotient + 1
  else quotient + quotient % 2

-- A quotient, divided by a power of two, rounded.
def scaledQuotient (numerator denominator : Nat) (exponent : Int) : Nat :=
  match exponent with
  | .ofNat e => roundQuotient numerator (denominator * Nat.pow 2 e)
  | .negSucc e => roundQuotient (numerator * Nat.pow 2 (e + 1)) denominator

-- The exponent that leaves 53 binary digits before the point, or the least exponent.
def exponentFor (numerator denominator : Nat) : Int :=
  let guess : Int := (Nat.log2 numerator : Int) - Nat.log2 denominator - 53
  let fits (e : Int) : Bool :=
    match e with
    | .ofNat e => numerator < denominator * Nat.pow 2 (e + 53)
    | .negSucc e => numerator * Nat.pow 2 (e + 1) < denominator * Nat.pow 2 53
  let exponent := if fits guess then guess else if fits (guess + 1) then guess + 1 else guess + 2
  max exponent leastExponent

-- The number nearest to a positive quotient.
def nearest (numerator denominator : Nat) : Magnitude :=
  let exponent := exponentFor numerator denominator
  let mantissa := scaledQuotient numerator denominator exponent
  let (mantissa, exponent) :=
    if mantissa = Nat.pow 2 53 then (Nat.pow 2 52, exponent + 1) else (mantissa, exponent)
  if greatestExponent < exponent then .infinite else .finite mantissa exponent

def zero (negative : Bool) : Binary64 :=
  ⟨negative, .finite 0 leastExponent⟩

-- The number nearest to a decimal. Powers of ten far outside the range are not worked out.
def ofDecimal (negative : Bool) (digits : Nat) (exponent : Int) : Binary64 :=
  let size : Int := exponent + (toString digits).length
  if digits = 0 || size < -400 then zero negative
  else if 400 < size then ⟨negative, .infinite⟩
  else
    match exponent with
    | .ofNat e => ⟨negative, nearest (digits * Nat.pow 10 e) 1⟩
    | .negSucc e => ⟨negative, nearest digits (Nat.pow 10 (e + 1))⟩

-- The size of a finite number in units of the least one.
def units (mantissa : Nat) (exponent : Int) : Nat :=
  mantissa * Nat.pow 2 (exponent - leastExponent).toNat

def ofUnits (negative : Bool) (units : Nat) : Binary64 :=
  if units = 0 then zero negative
  else ⟨negative, nearest units (Nat.pow 2 (-leastExponent).toNat)⟩

def add (first second : Binary64) : Binary64 :=
  match first.magnitude, second.magnitude with
  | .finite mantissa exponent, .finite mantissa' exponent' =>
    let signed (negative : Bool) (size : Nat) : Int := if negative then -size else size
    let total := signed first.negative (units mantissa exponent) +
      signed second.negative (units mantissa' exponent')
    if total = 0 then zero (first.negative && second.negative)
    else ofUnits (total < 0) total.natAbs
  | .infinite, .finite _ _ => first
  | .finite _ _, .infinite => second
  | .infinite, .infinite =>
    if first.negative = second.negative then first else ⟨false, .undefined⟩
  | _, _ => ⟨false, .undefined⟩

-- The product with a positive integer, which is rounded first.
def timesInteger (number : Binary64) (factor : Nat) : Binary64 :=
  match number.magnitude, nearest factor 1 with
  | .finite mantissa exponent, .finite mantissa' exponent' =>
    let size := units mantissa exponent * mantissa'
    ofUnits number.negative (match exponent' with
      | .ofNat e => size * Nat.pow 2 e
      | .negSucc e => size / Nat.pow 2 (e + 1))
  | .undefined, _ => number
  | _, _ => ⟨number.negative, .infinite⟩

-- The integer that a number is, if it is one.
def toInt? (number : Binary64) : Option Int :=
  match number.magnitude with
  | .finite mantissa exponent =>
    let value? : Option Nat := match exponent with
      | .ofNat e => some (mantissa * Nat.pow 2 e)
      | .negSucc e =>
        let unit := Nat.pow 2 (e + 1)
        if mantissa % unit = 0 then some (mantissa / unit) else none
    value?.map fun value => if number.negative then -value else value
  | _ => none

end Binary64

end RecordPattern.Number
