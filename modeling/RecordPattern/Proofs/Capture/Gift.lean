import RecordPattern.Pattern.Find
import RecordPattern.Proofs.Pattern.Compiled

namespace RecordPattern

open Capture

namespace Template

variable {template : Template} {regex : Regex} {submatches : Submatches} {field : String}

-- A group of a field captured a text that is not empty.
def CapturesAt (template : Template) (regex : Regex) (submatches : Submatches) (field : String)
    (position : Nat) (text : String) : Prop :=
  regex.IsGroupOf template field position ∧ submatches[position]? = some (some text) ∧ text ≠ ""

-- The text that a match gives a field: what the lowest-numbered of its groups captured, among
-- those that captured a text that is not empty.
def Gives (template : Template) (regex : Regex) (submatches : Submatches) (field text : String) :
    Prop :=
  ∃ position, template.CapturesAt regex submatches field position text ∧
    ∀ earlier < position, ∀ other, ¬template.CapturesAt regex submatches field earlier other

end Template

namespace Pattern

variable {pattern : Pattern} {template : Template}

end Pattern

end RecordPattern
