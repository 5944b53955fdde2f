import RecordPattern.Regex.Cursor
import RecordPattern.Regex.Flags
import RecordPattern.Text.Letter

namespace RecordPattern.Regex

open RecordPattern.Text

-- What an inline flag group asks for: flags of the whole pattern, or flags turned on and off
-- for the group itself.
inductive FlagGroup where
  | global (flags : Flags)
  | inside (on off : Flags)

namespace FlagGroup

def flagOf? : Token → Option Flags
  | .plain c => Flags.ofLetter? c
  | .escaped _ => none

-- A letter that is no flag is told apart from other characters.
def issueOf (token : Token) (missing : Issue) : Issue :=
  match token with
  | .plain c => if isLetter c then .unknownFlag else missing
  | .escaped _ => missing

-- Reads flags to be turned on, beginning with one that has been read already; gives the token
-- that ends them.
def readOn : Nat → Cursor → Flags → Flags → Read (Flags × Token × Cursor)
  | 0, cursor, _, _ => cursor.fail .missingFlagEnd
  | fuel + 1, cursor, flag, found => do
    if flag.locale then cursor.fail .localeFlag
    else
      let on := found.union flag
      if 0 < flag.alphabets && 1 < on.alphabets then cursor.fail .mixedAlphabets
      else match cursor.next? with
        | none => cursor.fail .missingFlagEnd
        | some token =>
          let after ← cursor.skip 1
          if token = .plain ')' || token = .plain '-' || token = .plain ':' then
            return (on, token, after)
          else match flagOf? token with
            | some next => readOn fuel after next on
            | none => after.failBefore token.width (issueOf token .missingFlagEnd)

-- Reads flags to be turned off, up to the colon.
def readOff : Nat → Cursor → Flags → Flags → Read (Flags × Cursor)
  | 0, cursor, _, _ => cursor.fail .missingColon
  | fuel + 1, cursor, flag, found => do
    if 0 < flag.alphabets then cursor.fail .alphabetTurnedOff
    else
      let off := found.union flag
      match cursor.next? with
      | none => cursor.fail .missingColon
      | some token =>
        let after ← cursor.skip 1
        if token = .plain ':' then return (off, after)
        else match flagOf? token with
          | some next => readOff fuel after next off
          | none => after.failBefore token.width (issueOf token .missingColon)

def readInside (cursor : Cursor) (on : Flags) (ending : Token) : Read (Flags × Cursor) := do
  if on.template then cursor.failBefore 1 .globalFlagOn
  else if ending = .plain ':' then return (.none, cursor)
  else match cursor.next? with
    | none => cursor.fail .missingFlag
    | some token =>
      let after ← cursor.skip 1
      match flagOf? token with
      | none => after.failBefore token.width (issueOf token .missingFlag)
      | some flag =>
        let (off, after) ← readOff (after.rest.length + 1) after flag .none
        if off.template then after.failBefore 1 .globalFlagOff
        else if on.inter off = .none then return (off, after)
        else after.failBefore 1 .contradictoryFlags

-- Reads an inline flag group whose first token, a flag or a minus sign, has been read.
def read (cursor : Cursor) (first : Token) : Read (FlagGroup × Cursor) := do
  let (on, ending, after) ← match flagOf? first with
    | some flag => readOn (cursor.rest.length + 1) cursor flag .none
    | none => pure (Flags.none, first, cursor)
  if ending = .plain ')' then return (.global on, after)
  else
    let (off, after) ← readInside after on ending
    return (.inside on off, after)

end FlagGroup

end RecordPattern.Regex
