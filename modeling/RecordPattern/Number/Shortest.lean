import RecordPattern.Number.Binary64

namespace RecordPattern.Number

-- The ends of the interval of reals that round to a number, and the number in its middle, all
-- counted in quarters of the number's unit. Below a power of two the spacing halves.
structure Interval where
  low : Nat
  center : Nat
  high : Nat
  closed : Bool
  exponent : Int

namespace Interval

def around (mantissa : Nat) (exponent : Int) : Interval :=
  let even := mantissa % 2 = 0
  if mantissa = Nat.pow 2 52 && Binary64.leastExponent < exponent then
    ⟨4 * mantissa - 1, 4 * mantissa, 4 * mantissa + 2, even, exponent - 2⟩
  else ⟨4 * mantissa - 2, 4 * mantissa, 4 * mantissa + 2, even, exponent - 2⟩

-- Both sides of a comparison with `digits` times a power of ten, freed of denominators.
def scaled (value : Nat) (exponent : Int) (digits : Nat) (power : Int) : Nat × Nat :=
  (value * Nat.pow 2 exponent.toNat * Nat.pow 10 (-power).toNat,
    digits * Nat.pow 10 power.toNat * Nat.pow 2 (-exponent).toNat)

def contains (interval : Interval) (digits : Nat) (power : Int) : Bool :=
  let (low, digitsLow) := scaled interval.low interval.exponent digits power
  let (high, digitsHigh) := scaled interval.high interval.exponent digits power
  if interval.closed then low ≤ digitsLow && digitsHigh ≤ high
  else low < digitsLow && digitsHigh < high

-- The greatest multiple of a power of ten that is not above the center.
def floorAt (interval : Interval) (power : Int) : Nat :=
  let (center, unit) := scaled interval.center interval.exponent 1 power
  center / unit

-- Whether the lower of two neighbouring multiples is nearer to the center, or as near and even.
def prefersLower (interval : Interval) (lower : Nat) (power : Int) : Bool :=
  let (center, unit) := scaled interval.center interval.exponent 1 power
  let twice := 2 * (center - lower * unit)
  twice < unit || (twice = unit && lower % 2 = 0)

-- The multiple of a power of ten in the interval that is nearest to the center.
def gridPoint? (interval : Interval) (power : Int) : Option Nat :=
  let lower := interval.floorAt power
  let lowerFits := 0 < lower && interval.contains lower power
  let upperFits := interval.contains (lower + 1) power
  if lowerFits && (!upperFits || interval.prefersLower lower power) then some lower
  else if upperFits then some (lower + 1)
  else none

-- The first hit on ever finer decimal grids.
def firstPoint (interval : Interval) : Nat → Int → Nat × Int
  | 0, power => (interval.floorAt power, power)
  | fuel + 1, power =>
    match interval.gridPoint? power with
    | some digits => (digits, power)
    | none => firstPoint interval fuel (power - 1)

end Interval

-- Drops the zeros at the end of a digit run, each of which raises the power by one.
def dropZeros : Nat → Nat → Int → Nat × Int
  | 0, digits, power => (digits, power)
  | fuel + 1, digits, power =>
    if digits % 10 = 0 then dropZeros fuel (digits / 10) (power + 1) else (digits, power)

-- The fewest decimal digits that round to a positive number, with their power of ten.
def shortestDecimal (mantissa : Nat) (exponent : Int) : Nat × Int :=
  let interval := Interval.around mantissa exponent
  let (size, unit) := Interval.scaled interval.center interval.exponent 1 0
  let top : Int := if unit ≤ size then (toString (size / unit)).length
    else 1 - (toString (unit / size)).length
  let (digits, power) := interval.firstPoint 20 top
  dropZeros 20 digits power

-- Powers of ten from here on, and below the other bound, are written with an exponent.
def positionalLimit : Int := 16
def positionalLeast : Int := -4

def exponentText (exponent : Int) : String :=
  let size := toString exponent.natAbs
  (if exponent < 0 then "-" else "+") ++ (if size.length < 2 then "0" ++ size else size)

-- Writes digits times a power of ten.
def decimalText (digits : Nat) (power : Int) : String :=
  let figures := (toString digits).toList
  let point : Int := power + figures.length
  if positionalLeast < point && point ≤ positionalLimit then
    let zeros (count : Int) : List Char := List.replicate count.toNat '0'
    if point ≤ 0 then String.ofList ("0.".toList ++ zeros (-point) ++ figures)
    else if figures.length ≤ point then String.ofList (figures ++ zeros power ++ ".0".toList)
    else String.ofList (figures.take point.toNat ++ '.' :: figures.drop point.toNat)
  else
    let tail := if figures.length = 1 then [] else '.' :: figures.drop 1
    String.ofList (figures.take 1 ++ tail) ++ "e" ++ exponentText (point - 1)

-- The shortest text that reads back as the number. Texts of values that are not finite vary.
def Binary64.text (infinite undefined : String) (number : Binary64) : String :=
  let sign := if number.negative then "-" else ""
  match number.magnitude with
  | .undefined => undefined
  | .infinite => sign ++ infinite
  | .finite 0 _ => sign ++ "0.0"
  | .finite mantissa exponent =>
    let (digits, power) := shortestDecimal mantissa exponent
    sign ++ decimalText digits power

end RecordPattern.Number
