import RecordPattern.Pattern.Compile
import RecordPattern.Spec.FlagName

namespace RecordPattern

-- A template with the sub-patterns of its fields and the flags to compile them with.
structure PatternSpec where
  template : String
  fields : List (String × String)
  flags : List FlagName
  deriving DecidableEq, Repr

-- What can be wrong at one place of a raw spec.
inductive SpecIssue where
  | notASpec
  | missing
  | notText
  | brokenText
  | notAMapping
  | notAList
  | noFields
  | unknownFlags (names : List String)
  | unknownKey
  | keyNotText
  deriving DecidableEq, Repr

namespace SpecIssue

-- The name of an issue's kind in reports.
def kind : SpecIssue → String
  | .notASpec => "model_type"
  | .missing => "missing"
  | .notText => "string_type"
  | .brokenText => "string_unicode"
  | .notAMapping => "dict_type"
  | .notAList => "list_type"
  | .noFields => "too_short"
  | .unknownFlags _ => "value_error"
  | .unknownKey => "extra_forbidden"
  | .keyNotText => "invalid_key"

-- The text that goes with an issue, if it has one of its own.
def message? : SpecIssue → Option String
  | .unknownFlags names =>
    some ("Value error, unknown regex flags: " ++ Value.commaSeparated names)
  | _ => none

end SpecIssue

-- An issue and the place where it arises.
structure SpecError where
  path : List String
  issue : SpecIssue
  deriving DecidableEq, Repr

namespace PatternSpec

def regexFlags (spec : PatternSpec) : Nat :=
  FlagName.allBits spec.flags

-- The schema of a spec: a mapping from its fields to their sub-patterns.
def schema (spec : PatternSpec) : Value :=
  .mapping false (spec.fields.map fun (name, pattern) => (.text name, .text pattern))

-- Compiles a spec into a pattern that fills mappings.
def compile (spec : PatternSpec) : Except PatternError Pattern :=
  Pattern.compile .empty spec.template spec.schema spec.regexFlags

end PatternSpec

end RecordPattern
