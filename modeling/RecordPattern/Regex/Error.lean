import RecordPattern.Number.IntegerText
import RecordPattern.Text.Quoted

namespace RecordPattern.Regex

open RecordPattern.Text

-- What can be wrong with the text of a pattern.
inductive Issue where
  | danglingEscape
  | incompleteEscape (escape : String)
  | badEscape (escape : String)
  | octalTooLarge (escape : String)
  | missingBrace
  | unknownCharName (name : String)
  | missingName (what : String)
  | unterminatedName (terminator : Char)
  | badGroupName (name : String)
  | unknownGroupName (name : String)
  | redefinedGroup (name : String) (group earlier : Nat)
  | badGroupNumber
  | invalidReference (group : Nat)
  | openReference
  | lookbehindReference
  | unterminatedClass
  | badRange (first last : String)
  | decreasingRepeat
  | nothingToRepeat
  | multipleRepeat
  | endOfPattern
  | unknownExtension (extension : String)
  | unterminatedComment
  | unterminatedGroup
  | extraBranch
  | misplacedFlags
  | localeFlag
  | mixedAlphabets
  | unknownFlag
  | missingFlagEnd
  | missingFlag
  | missingColon
  | alphabetTurnedOff
  | globalFlagOn
  | globalFlagOff
  | contradictoryFlags
  | unbalancedParenthesis
  | lookbehindTooLong
  | lookbehindWidth
  | templateRepeat (greed : String)
  deriving DecidableEq, Repr

def Issue.message : Issue → String
  | .danglingEscape => "bad escape (end of pattern)"
  | .incompleteEscape escape => "incomplete escape " ++ escape
  | .badEscape escape => "bad escape " ++ escape
  | .octalTooLarge escape => "octal escape value " ++ escape ++ " outside of range 0-0o377"
  | .missingBrace => "missing \x7b"
  | .unknownCharName name => "undefined character name " ++ quoted name
  | .missingName what => "missing " ++ what
  | .unterminatedName terminator => "missing " ++ terminator.toString ++ ", unterminated name"
  | .badGroupName name => "bad character in group name " ++ quoted name
  | .unknownGroupName name => "unknown group name " ++ quoted name
  | .redefinedGroup name group earlier =>
    "redefinition of group name " ++ quoted name ++ " as group " ++ toString group ++
      "; was group " ++ toString earlier
  | .badGroupNumber => "bad group number"
  | .invalidReference group => "invalid group reference " ++ toString group
  | .openReference => "cannot refer to an open group"
  | .lookbehindReference => "cannot refer to group defined in the same lookbehind subpattern"
  | .unterminatedClass => "unterminated character set"
  | .badRange first last => "bad character range " ++ first ++ "-" ++ last
  | .decreasingRepeat => "min repeat greater than max repeat"
  | .nothingToRepeat => "nothing to repeat"
  | .multipleRepeat => "multiple repeat"
  | .endOfPattern => "unexpected end of pattern"
  | .unknownExtension extension => "unknown extension ?" ++ extension
  | .unterminatedComment => "missing ), unterminated comment"
  | .unterminatedGroup => "missing ), unterminated subpattern"
  | .extraBranch => "conditional backref with more than two branches"
  | .misplacedFlags => "global flags not at the start of the expression"
  | .localeFlag => "bad inline flags: cannot use 'L' flag with a str pattern"
  | .mixedAlphabets => "bad inline flags: flags 'a', 'u' and 'L' are incompatible"
  | .unknownFlag => "unknown flag"
  | .missingFlagEnd => "missing -, : or )"
  | .missingFlag => "missing flag"
  | .missingColon => "missing :"
  | .alphabetTurnedOff => "bad inline flags: cannot turn off flags 'a', 'u' and 'L'"
  | .globalFlagOn => "bad inline flags: cannot turn on global flag"
  | .globalFlagOff => "bad inline flags: cannot turn off global flag"
  | .contradictoryFlags => "bad inline flags: flag turned on and off"
  | .unbalancedParenthesis => "unbalanced parenthesis"
  | .lookbehindTooLong => "looks too much behind"
  | .lookbehindWidth => "look-behind requires fixed-width pattern"
  | .templateRepeat greed => "internal: unsupported template operator " ++ greed

-- An issue, and the offset in the pattern where it was found, if there is one.
structure Malformed where
  issue : Issue
  offset : Option Nat
  pattern : String
  deriving DecidableEq, Repr

-- The line of an offset and its column, both counted from one.
def lineAndColumn (pattern : List Char) (offset : Nat) : Nat × Nat :=
  let before := pattern.take offset
  (before.count '\n' + 1, (before.reverse.takeWhile (· ≠ '\n')).length + 1)

-- The place is given by line and column too when the pattern has several lines.
def Malformed.message (malformed : Malformed) : String :=
  match malformed.offset with
  | none => malformed.issue.message
  | some offset =>
    let base := malformed.issue.message ++ " at position " ++ toString offset
    if malformed.pattern.toList.contains '\n' then
      let (line, column) := lineAndColumn malformed.pattern.toList offset
      base ++ " (line " ++ toString line ++ ", column " ++ toString column ++ ")"
    else base

-- Why a pattern is refused that is not at fault as a text: one of its numbers is too large, or
-- its flags do not go together.
inductive Refusal where
  | repetitionTooLarge
  | tooManyDigits (count : Nat)
  | codeTooLarge
  | localeFlag
  | asciiAndUnicode
  deriving DecidableEq, Repr

def Refusal.message : Refusal → String
  | .repetitionTooLarge => "the repetition number is too large"
  | .tooManyDigits count => Number.tooManyDigitsMessage count
  | .codeTooLarge => "Python int too large to convert to C int"
  | .localeFlag => "cannot use LOCALE flag with a str pattern"
  | .asciiAndUnicode => "ASCII and UNICODE flags are incompatible"

-- Why reading a pattern stopped.
inductive Failure where
  | malformed (issue : Issue) (offset : Option Nat)
  | refused (refusal : Refusal)
  deriving DecidableEq, Repr

-- Why a pattern has no compiled form.
inductive CompileError where
  | malformed (error : Malformed)
  | refused (refusal : Refusal)
  deriving DecidableEq, Repr

def Failure.toError (pattern : String) : Failure → CompileError
  | .malformed issue offset => .malformed ⟨issue, offset, pattern⟩
  | .refused refusal => .refused refusal

def CompileError.message : CompileError → String
  | .malformed error => error.message
  | .refused refusal => refusal.message

end RecordPattern.Regex
