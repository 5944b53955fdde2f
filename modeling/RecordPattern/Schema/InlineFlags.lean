namespace RecordPattern.InlineFlags

def isFlagLetter (c : Char) : Bool :=
  ['a', 'i', 'L', 'm', 's', 'u', 'x'].contains c

-- Splits off a flag group such as `(?im)` from the start of a pattern.
def splitGroup? : List Char → Option (List Char × List Char)
  | '(' :: '?' :: rest =>
    let letters := rest.takeWhile isFlagLetter
    match letters, rest.drop letters.length with
    | _ :: _, ')' :: after => some (letters, after)
    | _, _ => none
  | _ => none

-- The letters of all flag groups at the start of a pattern, and the pattern after them.
def splitGroups : Nat → List Char → List Char × List Char
  | 0, pattern => ([], pattern)
  | fuel + 1, pattern =>
    match splitGroup? pattern with
    | some (letters, rest) =>
      let (more, last) := splitGroups fuel rest
      (letters ++ more, last)
    | none => ([], pattern)

def split (pattern : List Char) : List Char × List Char :=
  splitGroups pattern.length pattern

-- Makes the flag groups at the start of a pattern one group around the rest of it.
def scopeChars (pattern : List Char) : List Char :=
  match split pattern with
  | ([], _) => pattern
  | (letters, rest) => '(' :: '?' :: (letters ++ ':' :: (rest ++ [')']))

def scope (pattern : String) : String :=
  String.ofList (scopeChars pattern.toList)

end RecordPattern.InlineFlags
