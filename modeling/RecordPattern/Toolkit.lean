import RecordPattern.Record.Store
import RecordPattern.Spec.PatternSpec

namespace RecordPattern

-- The families of errors, by which a command decides what it reports.
inductive Family where
  | typed
  | value
  | system
  | other
  deriving DecidableEq, Repr

-- An error of code that is no part of the library.
structure ForeignError where
  kind : String
  message : String
  family : Family
  deriving DecidableEq, Repr

-- Why a reader of documents gives no value: the text is not well-formed, or something else has
-- stopped the reader.
inductive ReaderFailure where
  | malformed
  | other (error : ForeignError)
  deriving DecidableEq, Repr

-- Why a raw value gives no spec: something is wrong with it, or something else has stopped the check.
inductive CheckFailure where
  | invalid (errors : List SpecError)
  | other (error : ForeignError)
  deriving DecidableEq, Repr

-- The code around the library that specs are loaded and messages are printed with: the reader of
-- documents, the check of raw specs, what is printed of a message, and what the engine prints by
-- itself while it compiles the patterns of a spec.
structure Toolkit where
  document : String → Except ReaderFailure (Value × Store)
  spec : Store → Value → Except CheckFailure PatternSpec
  echo : String → String
  trace : PatternSpec → String

end RecordPattern
