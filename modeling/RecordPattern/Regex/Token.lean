namespace RecordPattern.Regex

-- A character of a pattern, or a backslash with the character after it.
inductive Token where
  | plain (c : Char)
  | escaped (c : Char)
  deriving DecidableEq, Repr

namespace Token

def text : Token → List Char
  | .plain c => [c]
  | .escaped c => ['\\', c]

def width (token : Token) : Nat :=
  token.text.length

-- The tokens of a pattern, and whether a lone backslash ends it.
def ofChars : List Char → List Token × Bool
  | [] => ([], false)
  | ['\\'] => ([], true)
  | '\\' :: c :: rest => let (tokens, dangling) := ofChars rest; (.escaped c :: tokens, dangling)
  | c :: rest => let (tokens, dangling) := ofChars rest; (.plain c :: tokens, dangling)

def widthOf (tokens : List Token) : Nat :=
  tokens.foldl (fun total token => total + token.width) 0

def textOf (tokens : List Token) : List Char :=
  tokens.flatMap text

end Token

end RecordPattern.Regex
