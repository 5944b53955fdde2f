import RecordPattern.Regex.Error
import RecordPattern.Regex.Node

namespace RecordPattern.Regex

-- The groups opened so far: their names, and their widths once they are closed. Inside a
-- lookbehind only groups that were opened before it may be referred to.
structure Groups where
  names : List (String × Nat)
  widths : List (Option Width)
  lookbehind : Option Nat

namespace Groups

def none : Groups := ⟨[], [], .none⟩

def count (groups : Groups) : Nat :=
  groups.widths.length

-- The width of a group that is closed.
def width? (groups : Groups) (group : Nat) : Option Width :=
  if group = 0 then .none else (groups.widths[group - 1]?).join

def number? (groups : Groups) (name : String) : Option Nat :=
  groups.names.lookup name

-- Opens the next group.
def opened (groups : Groups) (name : Option String) : Groups :=
  let group := groups.count + 1
  { groups with
    names := match name with
      | some name => groups.names ++ [(name, group)]
      | .none => groups.names
    widths := groups.widths ++ [.none] }

def closed (groups : Groups) (group : Nat) (width : Width) : Groups :=
  { groups with widths := groups.widths.set (group - 1) (some width) }

-- Why a group may not be referred to from here, if a lookbehind forbids it.
def lookbehindIssue? (groups : Groups) (group : Nat) : Option Issue :=
  match groups.lookbehind with
  | .none => .none
  | some bound =>
    if (groups.width? group).isNone then some .openReference
    else if bound < group then some .lookbehindReference
    else .none

end Groups

end RecordPattern.Regex
