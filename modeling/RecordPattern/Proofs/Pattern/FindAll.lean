import RecordPattern.Proofs.Pattern.Slots
import RecordPattern.Proofs.Regex.Succession

namespace RecordPattern.Pattern

open Outcome Regex

variable {pattern : Pattern} {store : Store} {values : Value}

end RecordPattern.Pattern
