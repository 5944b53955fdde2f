import RecordPattern.Pattern.Find

namespace RecordPattern.Command

def emptyRecord : Value := .mapping false []

-- The record of the first match, if there is one.
def collectFirst (pattern : Pattern) (text : String) : List Value :=
  let (record, store) := Store.empty.add emptyRecord
  match pattern.find store (.text text) record with
  | (filled, .ok true) => [filled.contents record]
  | _ => []

-- The records of the first matches.
def collectUpTo (pattern : Pattern) (text : String) (limit : Nat) : List Value :=
  let (records, store) := Store.replicate limit emptyRecord
  match pattern.findAll store (.text text) (.list records) with
  | (filled, .ok count) => (records.take count).map filled.contents
  | (_, .error _) => []

-- The records of the matches in a text, at most a given number.
def collect (pattern : Pattern) (text : String) (limit : Nat) : List Value :=
  if limit = 1 then collectFirst pattern text else collectUpTo pattern text limit

end RecordPattern.Command
