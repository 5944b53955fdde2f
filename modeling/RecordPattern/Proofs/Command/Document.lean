import RecordPattern.Proofs.Command.Collect
import RecordPattern.Proofs.Command.Report
import RecordPattern.Proofs.Json.RoundTrip
import RecordPattern.Proofs.Number.IntegerText
import RecordPattern.Proofs.Text.Utf8

namespace RecordPattern.Command

open Outcome

variable {fields : List (String × String)} {record : Value} {records : List Value} {form : Json}
  {spec : PatternSpec} {pattern : Pattern} {text : String} {limit : Nat}

-- A record whose fields hold texts.
def textRecord (fields : List (String × String)) : Value :=
  .mapping false (fields.map fun field => (.text field.1, .text field.2))

def textMembers (fields : List (String × String)) : List (String × Json) :=
  fields.map fun field => (field.1, .string field.2)

-- A record of texts with the names of its fields all different.
def IsTextRecord (record : Value) : Prop :=
  ∃ fields, record = textRecord fields ∧ (fields.map Prod.fst).Nodup

-- A JSON object that has the fields of a record as its members, in whatever order.
def SameFields (record : Value) (form : Json) : Prop :=
  ∃ fields members, record = textRecord fields ∧ (fields.map Prod.fst).Nodup ∧
    form = .object members ∧ members.Perm (textMembers fields)

theorem mapM_ofMember_text (sort : Bool) (fields : List (String × String)) :
    (fields.map fun field => (Value.text field.1, Value.text field.2)).mapM (Json.ofMember sort) =
      .ok (textMembers fields) := by
  rw [mapM_eq_ok, textMembers, List.forall₂_map_left_iff, List.forall₂_map_right_iff,
    List.forall₂_same]
  exact fun _ _ => rfl

-- A record is printed with its fields in their order.
theorem ofValue_textRecord (fields : List (String × String)) :
    Json.ofValue false (textRecord fields) = .ok (.object (textMembers fields)) := by
  rw [textRecord, Json.ofValue_mapping]
  simp only [Json.sortedIf, bind, Except.bind, Bool.false_eq_true, if_false, mapM_ofMember_text]
  rfl

theorem floatFree_textMembers (fields : List (String × String)) :
    (Json.object (textMembers fields)).FloatFree := by
  refine .object fun member hm => ?_
  obtain ⟨field, _, rfl⟩ := List.mem_map.mp hm
  exact .string field.2

-- How a record is printed: on one line, from which its fields can be read.
structure PrintedAs (record : Value) (line : String) : Prop where
  dumped : recordLine record = .ok line
  visible : ∀ c ∈ line.toList, 32 ≤ c.toNat
  decoded : ∃ form, Json.read? line = some form ∧ SameFields record form

theorem IsTextRecord.exists_printedAs (h : IsTextRecord record) : ∃ line, PrintedAs record line := by
  obtain ⟨fields, rfl, hnodup⟩ := h
  have hfree := floatFree_textMembers fields
  refine ⟨(Json.object (textMembers fields)).compact, ?_, ?_, ?_⟩
  · rw [recordLine, ofValue_textRecord]
    rfl
  · rw [Json.compact, String.toList_ofList]
    exact hfree.visible
  · exact ⟨_, Json.read?_compact hfree, fields, _, rfl, hnodup, rfl, .refl _⟩

variable {tree after : Files.Tree} {path : Files.Path} {tags : List String}

end RecordPattern.Command
