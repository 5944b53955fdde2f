import RecordPattern.Regex.Node

namespace RecordPattern.Regex

-- Where a group was entered and left last.
structure Mark where
  start : Option Nat
  stop : Option Nat
  deriving DecidableEq, Repr

-- The stretch of a group that took part.
def Mark.span? (mark : Mark) : Option (Nat × Nat) :=
  match mark.start, mark.stop with
  | some start, some stop => if start ≤ stop then some (start, stop) else none
  | _, _ => none

-- How far a match has come, with one mark for each group.
structure Progress where
  position : Nat
  marks : List Mark
  deriving DecidableEq, Repr

namespace Progress

def begin (position groupCount : Nat) : Progress :=
  ⟨position, List.replicate groupCount ⟨none, none⟩⟩

def span? (progress : Progress) (group : Nat) : Option (Nat × Nat) :=
  (progress.marks[group - 1]?).bind Mark.span?

def enter (progress : Progress) (group : Nat) : Progress :=
  { progress with
    marks := progress.marks.modify (group - 1) fun mark =>
      { mark with start := some progress.position } }

def leave (progress : Progress) (group : Nat) : Progress :=
  { progress with
    marks := progress.marks.modify (group - 1) fun mark =>
      { mark with stop := some progress.position } }

def moved (progress : Progress) (position : Nat) : Progress :=
  { progress with position }

end Progress

namespace Anchor

def isWordAt (text : Array Char) (alphabet : Alphabet) (position : Nat) : Bool :=
  match text[position]? with
  | some c => Category.word.holds alphabet c
  | none => false

def holds (text : Array Char) (position : Nat) : Anchor → Bool
  | .start lines => position = 0 || (lines && text[position - 1]? = some '\n')
  | .stop lines =>
    position = text.size ||
      (text[position]? = some '\n' && (lines || position + 1 = text.size))
  | .textStart => position = 0
  | .textEnd => position = text.size
  | .boundary alphabet negated =>
    let before := 0 < position && isWordAt text alphabet (position - 1)
    0 < text.size && (before != isWordAt text alphabet position) != negated

end Anchor

-- What is still to be matched after a part of the pattern.
abbrev Goal := Progress → Option Progress

-- Matches a part before a goal; of several ways the first that reaches the goal counts.
abbrev Matcher := Goal → Goal

namespace Matcher

-- Exactly `rounds` rounds.
def exactly (round : Matcher) (goal : Goal) : Nat → Goal
  | 0, progress => goal progress
  | rounds + 1, progress => round (exactly round goal rounds) progress

def noMore (room : Option Nat) (last : Option Nat) (progress : Progress) : Bool :=
  room = some 0 || last = some progress.position

-- As many rounds as possible. No round follows one that did not move.
def greedily (round : Matcher) (goal : Goal) : Nat → Option Nat → Option Nat → Goal
  | 0, _, _, progress => goal progress
  | fuel + 1, room, last, progress =>
    if noMore room last progress then goal progress
    else
      match round (greedily round goal fuel (room.map (· - 1)) (some progress.position)) progress with
      | some result => some result
      | none => goal progress

-- As few rounds as possible.
def lazily (round : Matcher) (goal : Goal) : Nat → Option Nat → Option Nat → Goal
  | 0, _, _, progress => goal progress
  | fuel + 1, room, last, progress =>
    match goal progress with
    | some result => some result
    | none =>
      if noMore room last progress then none
      else round (lazily round goal fuel (room.map (· - 1)) (some progress.position)) progress

-- As many rounds as possible, none of which is taken back.
def possessively (round : Matcher) : Nat → Option Nat → Option Nat → Progress → Progress
  | 0, _, _, progress => progress
  | fuel + 1, room, last, progress =>
    if noMore room last progress then progress
    else
      match round some progress with
      | some next =>
        possessively round fuel (room.map (· - 1)) (some progress.position) next
      | none => progress

-- Every round but the last moves, so this many rounds suffice.
def enough (text : Array Char) (progress : Progress) : Nat :=
  text.size - progress.position + 2

def repeated (round : Matcher) (text : Array Char) (greed : Greed) (least : Nat)
    (greatest : Option Nat) (goal : Goal) : Goal :=
  let room := greatest.map (· - least)
  match greed with
  | .greedy => exactly round
      (fun progress => greedily round goal (enough text progress) room none progress) least
  | .lazy => exactly round
      (fun progress => lazily round goal (enough text progress) room none progress) least
  | .possessive => fun progress =>
      match exactly (fun goal progress => (round some progress).bind goal) some least progress with
      | some next => goal (possessively round (enough text next) room none next)
      | none => none

end Matcher

-- Whether the text at a position repeats an earlier stretch of it.
def repeatsAt (text : Array Char) (fold : Fold) (start length position : Nat) : Bool :=
  (List.range length).all fun offset =>
    match text[start + offset]?, text[position + offset]? with
    | some c, some d => fold.apply c.toNat = fold.apply d.toNat
    | _, _ => false

namespace Node

-- Matches a pattern by backtracking, with the leftmost choices tried first.
def run (text : Array Char) : Node → Matcher
  | .empty, goal, progress => goal progress
  | .unit test, goal, progress =>
    match text[progress.position]? with
    | some c => if test.accepts c then goal (progress.moved (progress.position + 1)) else none
    | none => none
  | .anchor place, goal, progress =>
    if place.holds text progress.position then goal progress else none
  | .reference group fold _, goal, progress =>
    match progress.span? group with
    | some (start, stop) =>
      if repeatsAt text fold start (stop - start) progress.position then
        goal (progress.moved (progress.position + (stop - start)))
      else none
    | none => none
  | .capture group body, goal, progress =>
    body.run text (fun inside => goal (inside.leave group)) (progress.enter group)
  | .scope body, goal, progress => body.run text goal progress
  | .atomic body, goal, progress =>
    match body.run text some progress with
    | some inside => goal inside
    | none => none
  | .ahead negated body, goal, progress =>
    match body.run text some progress with
    | some inside => if negated then none else goal (inside.moved progress.position)
    | none => if negated then goal progress else none
  | .behind negated width body, goal, progress =>
    if progress.position < width.least then (if negated then goal progress else none)
    else
      match body.run text some (progress.moved (progress.position - width.least)) with
      | some inside => if negated then none else goal (inside.moved progress.position)
      | none => if negated then goal progress else none
  | .conditional group present absent, goal, progress =>
    if (progress.span? group).isSome then present.run text goal progress
    else absent.run text goal progress
  | .repetition greed least greatest body, goal, progress =>
    Matcher.repeated (body.run text) text greed least greatest goal progress
  | .seq first rest, goal, progress => first.run text (rest.run text goal) progress
  | .choice first rest, goal, progress =>
    match first.run text goal progress with
    | some result => some result
    | none => rest.run text goal progress

end Node

end RecordPattern.Regex
