namespace RecordPattern.Command

-- Whether a character goes on with a control sequence of the terminal: an escape, a bracket, and
-- then any number of parameters. What has been seen of it is given in reverse.
def goesOn (seen : List Char) (c : Char) : Bool :=
  match seen with
  | [] => c = '\x1b'
  | [_] => c = '['
  | _ => c.isDigit || c = ';' || c = '?'

-- A letter ends a sequence.
def endsSequence (seen : List Char) (c : Char) : Bool :=
  2 ≤ seen.length && c.isAlpha

-- Text without control sequences; the beginning of one may have been seen.
def plainChars (seen : List Char) : List Char → List Char
  | [] => seen.reverse
  | c :: rest =>
    if endsSequence seen c then plainChars [] rest
    else if goesOn seen c then plainChars (c :: seen) rest
    else if goesOn [] c then seen.reverse ++ plainChars [c] rest
    else seen.reverse ++ c :: plainChars [] rest

-- A message as it is printed where there is no terminal: on a line of its own, and without control
-- sequences.
def echo (message : String) : String :=
  String.ofList (plainChars [] (message ++ "\n").toList)

end RecordPattern.Command
