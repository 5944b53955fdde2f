import RecordPattern.Regex.Flags
import RecordPattern.Text.Blank
import RecordPattern.Text.Casing

namespace RecordPattern

-- The names that a spec may give to flags. Most flags have a long and a short name.
inductive FlagName where
  | noFlag
  | ascii
  | a
  | ignoreCase
  | i
  | locale
  | l
  | unicode
  | u
  | multiline
  | m
  | dotAll
  | s
  | verbose
  | x
  | template
  | t
  | debug
  deriving DecidableEq, Repr

namespace FlagName

def all : List FlagName := [.noFlag, .ascii, .a, .ignoreCase, .i, .locale, .l, .unicode, .u,
  .multiline, .m, .dotAll, .s, .verbose, .x, .template, .t, .debug]

def text : FlagName → String
  | .noFlag => "NOFLAG"
  | .ascii => "ASCII"
  | .a => "A"
  | .ignoreCase => "IGNORECASE"
  | .i => "I"
  | .locale => "LOCALE"
  | .l => "L"
  | .unicode => "UNICODE"
  | .u => "U"
  | .multiline => "MULTILINE"
  | .m => "M"
  | .dotAll => "DOTALL"
  | .s => "S"
  | .verbose => "VERBOSE"
  | .x => "X"
  | .template => "TEMPLATE"
  | .t => "T"
  | .debug => "DEBUG"

-- The bits that a name sets in a flag number.
def bits : FlagName → Nat
  | .noFlag => 0
  | .ascii | .a => Regex.asciiBit
  | .ignoreCase | .i => Regex.ignoreCaseBit
  | .locale | .l => Regex.localeBit
  | .unicode | .u => Regex.unicodeBit
  | .multiline | .m => Regex.multilineBit
  | .dotAll | .s => Regex.dotAllBit
  | .verbose | .x => Regex.verboseBit
  | .template | .t => Regex.templateBit
  | .debug => Regex.debugBit

-- Names are compared in uppercase and without the blanks around them.
def normalize (text : String) : String :=
  String.ofList (Text.trim (Text.upper text.toList))

def ofNormalized? (text : String) : Option FlagName :=
  all.find? (·.text = text)

def ofText? (text : String) : Option FlagName :=
  ofNormalized? (normalize text)

-- The flag number that a list of names stands for.
def allBits (names : List FlagName) : Nat :=
  names.foldl (fun bits name => bits ||| name.bits) 0

end FlagName

end RecordPattern
