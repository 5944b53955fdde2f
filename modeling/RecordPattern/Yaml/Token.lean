import RecordPattern.Yaml.Error

namespace RecordPattern.Yaml

-- The characters of a scalar by their codes. An escape may stand for half of a surrogate pair,
-- which is no character.
abbrev Codes := List Nat

-- The parts of a document. A scalar is plain if it stands without quotes on lines of other parts.
-- At a broken place reading ends with an error, and nothing is known of what follows.
inductive Token where
  | version (major : Nat)
  | handle (name replacement : String)
  | otherDirective
  | documentStart
  | documentEnd
  | sequenceStart
  | mappingStart
  | blockEnd
  | flowSequenceStart
  | flowSequenceEnd
  | flowMappingStart
  | flowMappingEnd
  | entry
  | flowEntry
  | key
  | value
  | reference (name : String)
  | anchor (name : String)
  | tag (handle : Option String) (suffix : String)
  | scalar (codes : Codes) (plain : Bool)
  | broken (error : ScalarError)
  deriving DecidableEq, Repr

end RecordPattern.Yaml
