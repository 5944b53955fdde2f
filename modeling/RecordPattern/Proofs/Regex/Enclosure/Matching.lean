import RecordPattern.Proofs.Regex.Enclosure.Raise
import RecordPattern.Regex.Matching

namespace RecordPattern.Regex

-- A stage of a match inside one more group, which comes first and has a mark of its own.
def Progress.inside (mark : Mark) (progress : Progress) : Progress :=
  { progress with marks := mark :: progress.marks }

namespace Progress

variable {mark : Mark} {progress : Progress} {group : Nat}

@[simp] theorem inside_position : (progress.inside mark).position = progress.position := rfl

@[simp] theorem inside_moved (position : Nat) :
    (progress.inside mark).moved position = (progress.moved position).inside mark := rfl

theorem span?_inside (h : 1 ≤ group) : (progress.inside mark).span? (group + 1) = progress.span? group := by
  obtain ⟨group, rfl⟩ := Nat.exists_eq_add_of_le' h
  rfl

theorem enter_inside (h : 1 ≤ group) :
    (progress.inside mark).enter (group + 1) = (progress.enter group).inside mark := by
  obtain ⟨group, rfl⟩ := Nat.exists_eq_add_of_le' h
  rfl

theorem leave_inside (h : 1 ≤ group) :
    (progress.inside mark).leave (group + 1) = (progress.leave group).inside mark := by
  obtain ⟨group, rfl⟩ := Nat.exists_eq_add_of_le' h
  rfl

end Progress

-- A goal inside one more group reaches the image of what the goal outside of it reaches.
def Goal.Carries (mark : Mark) (image : Progress → Progress) (goal inside : Goal) : Prop :=
  ∀ progress, inside (progress.inside mark) = (goal progress).map image

-- A matcher inside one more group does as it does outside, whatever the goal.
def Matcher.Carries (mark : Mark) (matcher inside : Matcher) : Prop :=
  ∀ image goal enclosed, Goal.Carries mark image goal enclosed →
    Goal.Carries mark image (matcher goal) (inside enclosed)

namespace Matcher

variable {mark : Mark} {round inside : Matcher} {image : Progress → Progress} {goal enclosed : Goal}

theorem some_carries : Goal.Carries mark (Progress.inside mark) some some := fun _ => rfl

theorem exactly_carries (hround : Carries mark round inside) (rounds : Nat) :
    Carries mark (fun goal => exactly round goal rounds) (fun goal => exactly inside goal rounds) := by
  intro image goal enclosed hgoal
  induction rounds with
  | zero => exact hgoal
  | succ rounds ih => exact hround _ _ _ ih

theorem greedily_carries (hround : Carries mark round inside)
    (hgoal : Goal.Carries mark image goal enclosed) (fuel : Nat) (room last : Option Nat) :
    Goal.Carries mark image (greedily round goal fuel room last)
      (greedily inside enclosed fuel room last) := by
  induction fuel generalizing room last with
  | zero => exact hgoal
  | succ fuel ih =>
      intro progress
      have hmore : noMore room last (progress.inside mark) = noMore room last progress := rfl
      have hnext := hround _ _ _ (ih (room.map (· - 1)) (some progress.position)) progress
      simp only [greedily, hmore, Progress.inside_position, hnext]
      split
      · exact hgoal progress
      · cases round (greedily round goal fuel (room.map (· - 1)) (some progress.position)) progress with
        | none => exact hgoal progress
        | some result => rfl

theorem lazily_carries (hround : Carries mark round inside)
    (hgoal : Goal.Carries mark image goal enclosed) (fuel : Nat) (room last : Option Nat) :
    Goal.Carries mark image (lazily round goal fuel room last)
      (lazily inside enclosed fuel room last) := by
  induction fuel generalizing room last with
  | zero => exact hgoal
  | succ fuel ih =>
      intro progress
      have hmore : noMore room last (progress.inside mark) = noMore room last progress := rfl
      have hnext := hround _ _ _ (ih (room.map (· - 1)) (some progress.position)) progress
      simp only [lazily, hgoal progress, hmore, Progress.inside_position, hnext]
      cases goal progress with
      | none =>
          simp only [Option.map_none]
          split <;> rfl
      | some result => rfl

theorem possessively_inside (hround : Carries mark round inside) (fuel : Nat)
    (room last : Option Nat) (progress : Progress) :
    possessively inside fuel room last (progress.inside mark) =
      (possessively round fuel room last progress).inside mark := by
  induction fuel generalizing room last progress with
  | zero => rfl
  | succ fuel ih =>
      have hmore : noMore room last (progress.inside mark) = noMore room last progress := rfl
      have hnext := hround _ _ _ some_carries progress
      simp only [possessively, hmore, hnext]
      split
      · rfl
      · cases round some progress with
        | none => rfl
        | some next => exact ih _ _ next

theorem repeated_carries (hround : Carries mark round inside) (text : Array Char) (greed : Greed)
    (least : Nat) (greatest : Option Nat) :
    Carries mark (repeated round text greed least greatest)
      (repeated inside text greed least greatest) := by
  intro image goal enclosed hgoal
  have henough : ∀ progress : Progress, enough text (progress.inside mark) = enough text progress :=
    fun _ => rfl
  cases greed with
  | greedy =>
      exact exactly_carries hround least _ _ _ fun progress =>
        greedily_carries hround hgoal (enough text progress) _ none progress
  | lazy =>
      exact exactly_carries hround least _ _ _ fun progress =>
        lazily_carries hround hgoal (enough text progress) _ none progress
  | possessive =>
      -- each of the first rounds is final, inside as well as outside
      have hfinal : Carries mark (fun goal progress => (round some progress).bind goal)
          (fun goal progress => (inside some progress).bind goal) := by
        intro image goal enclosed hgoal progress
        have hnext := hround _ _ _ some_carries progress
        simp only [hnext]
        cases round some progress with
        | none => rfl
        | some next => exact hgoal next
      intro progress
      have hfirst := exactly_carries hfinal least _ _ _ some_carries progress
      simp only [repeated, hfirst]
      cases exactly (fun goal progress => (round some progress).bind goal) some least progress with
      | none => rfl
      | some next =>
          simp only [Option.map_some, henough, possessively_inside hround]
          exact hgoal _

end Matcher

namespace Node

open Matcher

variable {mark : Mark}

theorem capture_carries {text : Array Char} {body : Node} {group : Nat} (hgroup : 1 ≤ group)
    (hbody : Carries mark (body.run text) (body.raise.run text)) :
    Carries mark ((capture group body).run text) ((capture group body).raise.run text) := by
  intro image goal enclosed hgoal progress
  have hinside : Goal.Carries mark image (fun inside => goal (inside.leave group))
      (fun inside => enclosed (inside.leave (group + 1))) := by
    intro inside
    simp only [Progress.leave_inside hgroup]
    exact hgoal _
  simp only [raise, run, Progress.enter_inside hgroup]
  exact hbody _ _ _ hinside _

-- A pattern whose groups are numbered one higher matches inside one more group as the pattern
-- itself does outside.
theorem run_carries (text : Array Char) (node : Node) (hpositive : node.Positive) :
    Carries mark (node.run text) (node.raise.run text) := by
  induction node with
  | empty => exact fun _ _ _ hgoal => hgoal
  | unit test =>
      intro image goal enclosed hgoal progress
      simp only [raise, run, Progress.inside_position]
      cases text[progress.position]? with
      | none => rfl
      | some c =>
          simp only [Progress.inside_moved]
          split
          · exact hgoal _
          · rfl
  | anchor place =>
      intro image goal enclosed hgoal progress
      simp only [raise, run, Progress.inside_position]
      by_cases hplace : place.holds text progress.position = true
      · simpa only [hplace, if_true] using hgoal progress
      · simp only [hplace, if_false, Option.map_none, Bool.false_eq_true]
  | reference group fold width =>
      intro image goal enclosed hgoal progress
      simp only [raise, run, Progress.inside_position, Progress.span?_inside hpositive]
      cases progress.span? group with
      | none => rfl
      | some span =>
          simp only [Progress.inside_moved]
          by_cases hrepeats :
            repeatsAt text fold span.1 (span.2 - span.1) progress.position = true
          · simpa only [hrepeats, if_true] using hgoal _
          · simp only [hrepeats, if_false, Option.map_none, Bool.false_eq_true]
  | capture group body ih => exact capture_carries hpositive.1 (ih hpositive.2)
  | scope body ih => exact ih hpositive
  | atomic body ih =>
      intro image goal enclosed hgoal progress
      simp only [raise, run, ih hpositive _ _ _ some_carries progress]
      cases body.run text some progress with
      | none => rfl
      | some inside => exact hgoal inside
  | ahead negated body ih =>
      intro image goal enclosed hgoal progress
      simp only [raise, run, ih hpositive _ _ _ some_carries progress]
      cases body.run text some progress with
      | none =>
          simp only [Option.map_none]
          split
          · exact hgoal _
          · rfl
      | some inside =>
          simp only [Option.map_some]
          split
          · rfl
          · exact hgoal (inside.moved progress.position)
  | behind negated width body ih =>
      intro image goal enclosed hgoal progress
      simp only [raise, run, Progress.inside_position, Progress.inside_moved,
        ih hpositive _ _ _ some_carries _]
      split
      · split
        · exact hgoal _
        · rfl
      · cases body.run text some (progress.moved (progress.position - width.least)) with
        | none =>
            simp only [Option.map_none]
            split
            · exact hgoal _
            · rfl
        | some inside =>
            simp only [Option.map_some]
            split
            · rfl
            · exact hgoal (inside.moved progress.position)
  | conditional group present absent ihp iha =>
      intro image goal enclosed hgoal progress
      simp only [raise, run, Progress.span?_inside hpositive.1]
      split
      · exact ihp hpositive.2.1 _ _ _ hgoal progress
      · exact iha hpositive.2.2 _ _ _ hgoal progress
  | repetition greed least greatest body ih =>
      exact repeated_carries (ih hpositive) text greed least greatest
  | seq first rest ihf ihr =>
      exact fun image goal enclosed hgoal =>
        ihf hpositive.1 _ _ _ (ihr hpositive.2 _ _ _ hgoal)
  | choice first rest ihf ihr =>
      intro image goal enclosed hgoal progress
      simp only [raise, run, ihf hpositive.1 _ _ _ hgoal progress]
      cases first.run text goal progress with
      | none => exact ihr hpositive.2 _ _ _ hgoal progress
      | some result => rfl

end Node

end RecordPattern.Regex
