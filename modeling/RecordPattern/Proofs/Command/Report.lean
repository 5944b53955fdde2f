import RecordPattern.Command.Report
import RecordPattern.Proofs.Files.Replace
import RecordPattern.Proofs.Json.Dump

namespace RecordPattern.Command

open Outcome Files

variable {payload : Value}

end RecordPattern.Command
