import RecordPattern.Regex.CharTest

namespace RecordPattern.Regex

-- A condition on a place in the text.
inductive Anchor where
  | start (lines : Bool)
  | stop (lines : Bool)
  | textStart
  | textEnd
  | boundary (alphabet : Alphabet) (negated : Bool)
  deriving DecidableEq, Repr

-- How a repetition chooses its number of rounds.
inductive Greed where
  | greedy
  | lazy
  | possessive
  deriving DecidableEq, Repr

-- The least and the greatest number of characters that a part of a pattern can match.
structure Width where
  least : Nat
  greatest : Nat
  deriving DecidableEq, Repr

namespace Width

-- Widths are counted up to this bound.
def limit : Nat := Nat.pow 2 64

def cap (width : Width) : Width :=
  ⟨min width.least limit, min width.greatest limit⟩

def zero : Width := ⟨0, 0⟩

def one : Width := ⟨1, 1⟩

def add (a b : Width) : Width :=
  cap ⟨a.least + b.least, a.greatest + b.greatest⟩

def either (a b : Width) : Width :=
  ⟨min a.least b.least, max a.greatest b.greatest⟩

def times (width : Width) (least : Nat) (greatest : Option Nat) : Width :=
  cap ⟨width.least * least, match greatest with
    | some count => width.greatest * count
    | none => if width.greatest = 0 then 0 else limit⟩

end Width

-- A pattern as a tree. Sequences and choices are nested to the right.
inductive Node where
  | empty
  | unit (test : CharTest)
  | anchor (anchor : Anchor)
  | reference (group : Nat) (fold : Fold) (width : Width)
  | capture (group : Nat) (body : Node)
  | scope (body : Node)
  | atomic (body : Node)
  | ahead (negated : Bool) (body : Node)
  | behind (negated : Bool) (width : Width) (body : Node)
  | conditional (group : Nat) (present absent : Node)
  | repetition (greed : Greed) (least : Nat) (greatest : Option Nat) (body : Node)
  | seq (first rest : Node)
  | choice (first rest : Node)
  deriving DecidableEq, Repr

namespace Node

def ofList : List Node → Node
  | [] => .empty
  | [node] => node
  | node :: rest => .seq node (ofList rest)

def choiceOf : List Node → Node
  | [] => .empty
  | [node] => node
  | node :: rest => .choice node (choiceOf rest)

def width : Node → Width
  | .empty => .zero
  | .unit _ => .one
  | .anchor _ => .zero
  | .reference _ _ width => width
  | .capture _ body => body.width
  | .scope body => body.width
  | .atomic body => body.width
  | .ahead _ _ => .zero
  | .behind _ _ _ => .zero
  | .conditional _ present absent => present.width.either absent.width
  | .repetition _ least greatest body => body.width.times least greatest
  | .seq first rest => first.width.add rest.width
  | .choice first rest => first.width.either rest.width

-- Parts without parts of their own, which can be compared at sight.
def isPlain : Node → Bool
  | .unit _ | .anchor _ | .reference _ _ _ => true
  | _ => false

end Node

end RecordPattern.Regex
