import RecordPattern.Proofs.Outcome
import RecordPattern.Proofs.Record.Filling

namespace RecordPattern

open Outcome Value

namespace Shape

-- Contents that can receive the fields of a match: a mapping that can be changed, with fields
-- for keys and with text or nothing in them, or a record of just the right class.
def Accepts (shape : Shape) (contents : Value) : Prop :=
  match shape.recordType with
  | none =>
    (∃ entries, contents = .mapping false entries) ∧
      (∀ key ∈ contents.keys, ∃ field ∈ shape.fields, key = .text field) ∧
      ∀ field ∈ shape.fields, ∀ value, contents.field? field = some value →
        value = .null ∨ ∃ text, value = .text text
  | some type => ∃ held others, contents = .record type held others

variable {shape : Shape} {contents after : Value} {given : String → Option String}

end Shape

end RecordPattern
