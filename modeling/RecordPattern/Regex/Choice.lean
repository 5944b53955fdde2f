import RecordPattern.Regex.Flags
import RecordPattern.Regex.Escape

namespace RecordPattern.Regex

namespace Choice

-- Splits off the plain parts with which every branch begins.
def splitCommon : List Node → List (List Node) → List Node × List (List Node)
  | [], others => ([], [] :: others)
  | node :: first, others =>
    if node.isPlain && others.all fun branch => branch.head? = some node then
      let (common, branches) := splitCommon first (others.map (·.drop 1))
      (node :: common, branches)
    else ([], (node :: first) :: others)

-- The parts of a class that accepts what a test accepts.
def classItems? : List Node → Option (List ClassItem)
  | [.unit (.literal _ false code)] => some [.code code]
  | [.unit (.oneOf _ _ false items)] => some items
  | _ => none

-- The parts of the choice between branches. What they share comes first; branches of one
-- character each make a class.
def ofBranches (flags : Flags) : List (List Node) → List Node
  | [] => []
  | [branch] => branch
  | first :: others =>
    let (common, branches) := splitCommon first others
    match branches.mapM classItems? with
    | some items =>
      common ++ [.unit (.oneOf flags.alphabet flags.fold false items.flatten.eraseDups)]
    | none => common ++ [Node.choiceOf (branches.map Node.ofList)]

end Choice

end RecordPattern.Regex
