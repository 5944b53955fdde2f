import RecordPattern.Composite.GroupIndex
import RecordPattern.Schema.Wrapped

namespace RecordPattern

-- A template whose placeholders have become capture groups, compiled.
structure Composite where
  pattern : String
  regex : Regex
  index : GroupIndex

-- The references rendered so far, the latest first, and the names that stand for fields.
structure References where
  seen : List String
  aliases : List (String × String)

namespace Composite

def findField? (wrapped : List WrappedField) (name : String) : Option WrappedField :=
  wrapped.find? (·.name = name)

-- The first reference to a field becomes its group; each further one gets a group of its own.
def renderReference (wrapped : List WrappedField) (references : References)
    (placeholder : Placeholder) : List Char × References :=
  match findField? wrapped placeholder.field with
  | none => ([], references)
  | some field =>
    let occurrence := references.seen.count field.name + 1
    let seen := field.name :: references.seen
    if occurrence = 1 then (field.group.toList, { references with seen })
    else
      let name := aliasName field.name occurrence
      ((wrapGroup name field.pattern).toList,
        ⟨seen, references.aliases ++ [(name, field.name)]⟩)

-- Fills a template with the groups of its fields and compiles the result.
def assemble (template : String) (wrapped : List WrappedField) (flags : Nat) :
    Except PatternError Composite := do
  let names := wrapped.map WrappedField.name
  let (pattern, references) ←
    (Template.fillText template names (renderReference wrapped) ⟨[], []⟩).mapError .template
  match Regex.compile pattern flags with
  | .error (.malformed cause) => .error (.composite pattern cause)
  | .error (.refused refusal) => .error (.refused refusal)
  | .ok regex =>
    let index ← (GroupIndex.build regex names references.aliases).mapError .unlistedField
    return ⟨pattern, regex, index⟩

end Composite

end RecordPattern
