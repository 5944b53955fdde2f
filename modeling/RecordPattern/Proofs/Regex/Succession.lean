import RecordPattern.Proofs.Regex.Advance
import RecordPattern.Regex.Search

namespace RecordPattern.Regex

-- A match that begins at or after a position and ends inside the text, with one entry for each
-- group of the pattern.
structure Match.Within (found : Match) (regex : Regex) (text : Array Char) (start : Nat) :
    Prop where
  after : start ≤ found.start
  ordered : found.start ≤ found.stop
  inside : found.stop ≤ text.size
  groups : found.groups.length = regex.groupCount

-- The matches found one after another from a position on, until a search finds none.
inductive Yields (regex : Regex) (text : Array Char) : Bool → Nat → List Match → Prop
  | done {advance : Bool} {start : Nat} (hnone : regex.next? text advance start = none) :
      Yields regex text advance start []
  | more {advance : Bool} {start : Nat} {found : Match} {rest : List Match}
      (hfound : regex.next? text advance start = some found)
      (hrest : Yields regex text (found.start = found.stop) found.stop rest) :
      Yields regex text advance start (found :: rest)

variable {regex : Regex} {text : Array Char} {advance : Bool} {start : Nat} {found : Match}

theorem Yields.unique {first second : List Match} (hfirst : Yields regex text advance start first)
    (hsecond : Yields regex text advance start second) : first = second := by
  induction hfirst generalizing second with
  | done hnone =>
      cases hsecond with
      | done => rfl
      | more hfound => cases hnone.symm.trans hfound
  | more hfound _ ih =>
      cases hsecond with
      | done hnone => cases hfound.symm.trans hnone
      | more hother hrest =>
          cases hfound.symm.trans hother
          rw [ih hrest]

end RecordPattern.Regex
