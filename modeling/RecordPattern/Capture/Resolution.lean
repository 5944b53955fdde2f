namespace RecordPattern

-- The texts of a match: the whole match and then each group, with nothing for a group that took
-- no part.
abbrev Submatches := List (Option String)

-- The groups of each field, in the order of the pattern.
abbrev GroupIndex := List (String × List Nat)

namespace Capture

def nonEmptyAt? (submatches : Submatches) (position : Nat) : Option String :=
  match submatches[position]? with
  | some (some text) => if text.isEmpty then none else some text
  | _ => none

-- The first text that is not empty. Positions past the end count as groups that took no part.
def firstNonEmpty (submatches : Submatches) (positions : List Nat) : Option String :=
  positions.findSome? (nonEmptyAt? submatches)

def positionsOf (index : GroupIndex) (field : String) : List Nat :=
  (index.lookup field).getD []

-- The text of each field that has one.
def resolve (submatches : Submatches) (index : GroupIndex) (fields : List String) :
    List (String × String) :=
  fields.eraseDups.filterMap fun field =>
    (firstNonEmpty submatches (positionsOf index field)).map (field, ·)

end Capture

end RecordPattern
