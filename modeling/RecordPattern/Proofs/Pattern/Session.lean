import RecordPattern.Proofs.Pattern.FindAll

namespace RecordPattern

open Outcome Pattern

-- A pattern in use, with the objects that it may write into.
structure Session where
  pattern : Pattern
  store : Store

inductive Call where
  | find (text target : Value)
  | findAll (text values : Value)

inductive Answer where
  | found (some : Bool)
  | counted (count : Nat)

namespace Call

def text : Call → Value
  | .find text _ | .findAll text _ => text

end Call

namespace Session

def step (session : Session) : Call → Session × Except FindError Answer
  | .find text target =>
    let (store, answer) := session.pattern.find session.store text target
    ({ session with store }, answer.map .found)
  | .findAll text values =>
    let (store, answer) := session.pattern.findAll session.store text values
    ({ session with store }, answer.map .counted)

-- A session after some calls, whether they succeed or not.
def run (session : Session) (calls : List Call) : Session :=
  calls.foldl (fun session call => (session.step call).1) session

end Session

namespace Pattern

variable {pattern : Pattern} {template : Template} {store last : Store} {text : Array Char}
  {pairs : List (Regex.Match × Value)} {target values : Value}

end Pattern

namespace Session

variable {session : Session} {template : Template}

end Session

end RecordPattern
