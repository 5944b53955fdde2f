import RecordPattern.Command.Collect
import RecordPattern.Proofs.Pattern.Find
import RecordPattern.Proofs.Pattern.FindAll
import RecordPattern.Proofs.Spec.Fields

namespace RecordPattern

open Outcome Regex Command

namespace Pattern

variable {pattern : Pattern} {template : Template} {text : Array Char} {found : Match}

-- What a match makes of an empty record.
def record (pattern : Pattern) (text : Array Char) (found : Match) : Value :=
  .mapping false (pattern.fieldNames.map fun name =>
    (.text name, .text (((pattern.resolved text found).lookup name).getD "")))

end Pattern

namespace PatternSpec

variable {lax : Lax} {origin : Store} {raw : Value} {spec : PatternSpec} {pattern : Pattern}

end PatternSpec

namespace Store

end Store

namespace Command

open PatternSpec

variable {lax : Lax} {origin : Store} {raw : Value} {spec : PatternSpec} {pattern : Pattern} {text : String}
  {all : List Match}

end Command

end RecordPattern
