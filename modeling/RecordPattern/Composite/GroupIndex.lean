import RecordPattern.Capture.Resolution
import RecordPattern.Regex.Search

namespace RecordPattern.GroupIndex

-- The name of the group at a position.
def nameAt? (regex : Regex) (position : Nat) : Option String :=
  (regex.names.find? fun (_, group) => group = position).map (·.1)

-- The field that a group belongs to: the one of its name, or the one that its name stands for.
def ownerOf? (fields : List String) (aliases : List (String × String)) (name : String) :
    Option String :=
  if fields.contains name then some name else aliases.lookup name

def ownerAt? (regex : Regex) (fields : List String) (aliases : List (String × String))
    (position : Nat) : Option String :=
  (nameAt? regex position).bind (ownerOf? fields aliases)

def positions (regex : Regex) : List Nat :=
  (List.range regex.groupCount).map (· + 1)

-- Lists the groups of each field in ascending order. Fails at the first group whose name stands
-- for something that is no field.
def build (regex : Regex) (fields : List String) (aliases : List (String × String)) :
    Except String GroupIndex :=
  let owner := ownerAt? regex fields aliases
  match (positions regex).findSome? fun position => (owner position).filter (!fields.contains ·) with
  | some stranger => .error stranger
  | none =>
    .ok (fields.eraseDups.map fun field =>
      (field, (positions regex).filter fun position => owner position = some field))

end RecordPattern.GroupIndex
