import RecordPattern.Proofs.Capture.Gift
import RecordPattern.Proofs.Record.Writing

namespace RecordPattern.Pattern

variable {pattern : Pattern} {template : Template} {store : Store} {target : Value}

end RecordPattern.Pattern
