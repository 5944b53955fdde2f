import RecordPattern.Schema.Wrapped

namespace RecordPattern

open Text

namespace PatternError

def message : PatternError → String
  | .schema error => error.message
  | .emptyPattern field => "field " ++ field ++ " is empty"
  | .invalidPattern field _ cause =>
    "error parsing regex in field " ++ field ++ ": " ++ cause.message
  | .template error => error.message
  | .composite pattern cause => "error parsing \x60" ++ pattern ++ "\x60: " ++ cause.message
  | .refused refusal => refusal.message
  | .unlistedField field => quoted field
  | .unreadable error => error.message

-- The name of an error's kind, as logs and the command line show it.
def kind : PatternError → String
  | .schema _ => "SchemaTypeError"
  | .emptyPattern _ => "EmptyPatternError"
  | .invalidPattern _ _ _ => "InvalidPatternError"
  | .template (.unknownField _ _) => "UnknownFieldReferenceError"
  | .template _ => "TemplateSyntaxError"
  | .composite _ _ => "PatternCompileError"
  | .refused .repetitionTooLarge | .refused .codeTooLarge => "OverflowError"
  | .refused _ => "ValueError"
  | .unlistedField _ => "KeyError"
  | .unreadable _ => "AttributeError"

-- Whether an error is one of the library's own, rather than a refusal by the pattern engine.
def isTyped : PatternError → Bool
  | .schema _ | .emptyPattern _ | .invalidPattern _ _ _ | .template _ | .composite _ _ => true
  | .refused _ | .unlistedField _ | .unreadable _ => false

end PatternError

end RecordPattern
