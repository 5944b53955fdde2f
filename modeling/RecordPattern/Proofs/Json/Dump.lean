import RecordPattern.Json.Dump
import RecordPattern.Proofs.Json.Encoding

namespace RecordPattern.Json

open Outcome

variable {α β : Type}

namespace Output

-- All of the text, if it was written.
def result (output : Output) : Except JsonError (List Char) :=
  match output.error with
  | none => .ok output.text
  | some error => .error error

end Output

theorem compactItems_eq (items : List Json) : compactItems items = items.map compactChars := by
  induction items with
  | nil => rfl
  | cons item rest ih => rw [compactItems, ih, List.map_cons]

-- The text of one member.
def memberChars (member : String × Json) : List Char :=
  textChars member.1 ++ ':' :: member.2.compactChars

theorem compactMembers_eq (members : List (String × Json)) :
    compactMembers members = members.map memberChars := by
  induction members with
  | nil => rfl
  | cons member rest ih => rw [compactMembers, ih, List.map_cons]; rfl

end RecordPattern.Json
