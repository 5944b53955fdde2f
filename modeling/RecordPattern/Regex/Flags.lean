namespace RecordPattern.Regex

-- The bits of a flag number.
def templateBit : Nat := 1
def ignoreCaseBit : Nat := 2
def localeBit : Nat := 4
def multilineBit : Nat := 8
def dotAllBit : Nat := 16
def unicodeBit : Nat := 32
def verboseBit : Nat := 64
def debugBit : Nat := 128
def asciiBit : Nat := 256

-- The flags of a pattern or of one of its groups.
structure Flags where
  ignoreCase : Bool
  multiline : Bool
  dotAll : Bool
  verbose : Bool
  ascii : Bool
  unicode : Bool
  locale : Bool
  template : Bool
  deriving DecidableEq, Repr

namespace Flags

def none : Flags := ⟨false, false, false, false, false, false, false, false⟩

def ofBits (bits : Nat) : Flags where
  ignoreCase := bits &&& ignoreCaseBit != 0
  multiline := bits &&& multilineBit != 0
  dotAll := bits &&& dotAllBit != 0
  verbose := bits &&& verboseBit != 0
  ascii := bits &&& asciiBit != 0
  unicode := bits &&& unicodeBit != 0
  locale := bits &&& localeBit != 0
  template := bits &&& templateBit != 0

-- The flag that a letter of an inline flag group stands for.
def ofLetter? : Char → Option Flags
  | 'i' => some { none with ignoreCase := true }
  | 'L' => some { none with locale := true }
  | 'm' => some { none with multiline := true }
  | 's' => some { none with dotAll := true }
  | 'x' => some { none with verbose := true }
  | 'a' => some { none with ascii := true }
  | 't' => some { none with template := true }
  | 'u' => some { none with unicode := true }
  | _ => Option.none

def union (a b : Flags) : Flags where
  ignoreCase := a.ignoreCase || b.ignoreCase
  multiline := a.multiline || b.multiline
  dotAll := a.dotAll || b.dotAll
  verbose := a.verbose || b.verbose
  ascii := a.ascii || b.ascii
  unicode := a.unicode || b.unicode
  locale := a.locale || b.locale
  template := a.template || b.template

def diff (a b : Flags) : Flags where
  ignoreCase := a.ignoreCase && !b.ignoreCase
  multiline := a.multiline && !b.multiline
  dotAll := a.dotAll && !b.dotAll
  verbose := a.verbose && !b.verbose
  ascii := a.ascii && !b.ascii
  unicode := a.unicode && !b.unicode
  locale := a.locale && !b.locale
  template := a.template && !b.template

def inter (a b : Flags) : Flags where
  ignoreCase := a.ignoreCase && b.ignoreCase
  multiline := a.multiline && b.multiline
  dotAll := a.dotAll && b.dotAll
  verbose := a.verbose && b.verbose
  ascii := a.ascii && b.ascii
  unicode := a.unicode && b.unicode
  locale := a.locale && b.locale
  template := a.template && b.template

-- How many of the three alphabets (ASCII, locale, Unicode) are asked for.
def alphabets (flags : Flags) : Nat :=
  flags.ascii.toNat + flags.locale.toNat + flags.unicode.toNat

-- The flags inside a group that turns `on` and `off` some of them: a group that names an
-- alphabet replaces the alphabet around it.
def inside (flags on off : Flags) : Flags :=
  let base := if on.alphabets = 0 then flags
    else { flags with ascii := false, locale := false, unicode := false }
  (base.union on).diff off

end Flags

end RecordPattern.Regex
