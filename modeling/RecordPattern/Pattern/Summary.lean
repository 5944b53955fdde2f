import RecordPattern.Json.Document
import RecordPattern.Pattern.Compile

namespace RecordPattern

-- The log line of an event: its members in alphabetic order.
def Event.json : Event → Json
  | .compiled pattern groupCount fieldCount => .object [
      ("event", .string "compiled"), ("field_count", .int fieldCount),
      ("group_count", .int groupCount), ("pattern", .string pattern)]
  | .compileFailed stage kind => .object [
      ("error_type", .string kind), ("event", .string "compile_failed"),
      ("stage", .string stage.name)]

def Event.line (event : Event) : String :=
  event.json.compact

namespace Pattern

def captureGroups (pattern : Pattern) : List (String × String) :=
  pattern.wrapped.map fun field => (field.name, field.group)

-- A summary of a pattern: its source, its fields with their groups, and where these stand.
def summary (pattern : Pattern) : Json := .object [
  ("pattern", .string pattern.composite.pattern),
  ("fields", .array (pattern.fieldNames.map .string)),
  ("capture_groups", .object (pattern.captureGroups.map fun (name, group) => (name, .string group))),
  ("group_index", .object (pattern.composite.index.map fun (name, positions) =>
    (name, .array (positions.map fun position : Nat => .int position))))]

end Pattern

end RecordPattern
