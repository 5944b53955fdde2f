import RecordPattern.Command.Echo
import RecordPattern.Spec.Validation
import RecordPattern.Toolkit
import RecordPattern.Yaml.Load

namespace RecordPattern

namespace Yaml

def ScalarError.family (error : ScalarError) : Family :=
  if ["ValueError", "UnicodeEncodeError"].contains error.kind then .value else .other

def Failure.toReader : Failure → ReaderFailure
  | .malformed => .malformed
  | .scalar error => .other ⟨error.kind, error.message, error.family⟩

end Yaml

-- The tools of the program. The engine's report of what it compiles, which a spec can ask for, is
-- left out.
def Toolkit.standard : Toolkit where
  document text := (Yaml.load text).mapError Yaml.Failure.toReader
  spec store raw := (PatternSpec.validate .standard store raw).mapError .invalid
  echo := Command.echo
  trace _ := ""

end RecordPattern
