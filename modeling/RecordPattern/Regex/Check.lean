import RecordPattern.Regex.Error
import RecordPattern.Regex.Node

namespace RecordPattern.Regex

def Greed.label : Greed → String
  | .greedy => "MAX_REPEAT"
  | .lazy => "MIN_REPEAT"
  | .possessive => "POSSESSIVE_REPEAT"

namespace Node

-- The farthest that a lookbehind may look.
def behindLimit : Nat := 4294967295

-- Checks what needs the whole pattern: a lookbehind has one width, and template patterns do not
-- repeat. The first fault in reading order is reported.
def check (template : Bool) : Node → Except Failure Unit
  | .repetition greed _ _ body =>
    if template then .error (.malformed (.templateRepeat greed.label) none) else body.check template
  | .behind _ width body =>
    if behindLimit < width.least then .error (.malformed .lookbehindTooLong none)
    else if width.least ≠ width.greatest then .error (.malformed .lookbehindWidth none)
    else body.check template
  | .capture _ body => body.check template
  | .scope body => body.check template
  | .atomic body => body.check template
  | .ahead _ body => body.check template
  | .conditional _ present absent => (present.check template).bind fun _ => absent.check template
  | .seq first rest => (first.check template).bind fun _ => rest.check template
  | .choice first rest => (first.check template).bind fun _ => rest.check template
  | .empty | .unit _ | .anchor _ | .reference _ _ _ => .ok ()

end Node

end RecordPattern.Regex
