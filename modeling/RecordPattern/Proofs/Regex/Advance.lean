import RecordPattern.Regex.Matching

namespace RecordPattern.Regex

-- A later stage of one match. It is no further back, it stays inside the text, and it has marks
-- for the same groups.
structure Progress.Advances (text : Array Char) (before after : Progress) : Prop where
  position : before.position ≤ after.position
  inside : before.position ≤ text.size → after.position ≤ text.size
  marks : after.marks.length = before.marks.length

namespace Progress.Advances

variable {text : Array Char} {first second third : Progress}

theorem refl (text : Array Char) (progress : Progress) : progress.Advances text progress :=
  ⟨Nat.le_refl _, id, rfl⟩

theorem trans (hf : first.Advances text second) (hs : second.Advances text third) :
    first.Advances text third where
  position := Nat.le_trans hf.position hs.position
  inside := fun h => hs.inside (hf.inside h)
  marks := hs.marks.trans hf.marks

-- A test away from the current place keeps its marks, while the match goes on from here.
theorem moved_back (h : first.Advances text second) {position : Nat} (progress : Progress)
    (hfirst : first = progress.moved position) :
    progress.Advances text (second.moved progress.position) where
  position := Nat.le_refl _
  inside := id
  marks := by
    have hm := h.marks
    subst hfirst
    exact hm

end Progress.Advances

theorem Progress.advances_moved (text : Array Char) (progress : Progress) (position : Nat)
    (hpos : progress.position ≤ position)
    (hinside : progress.position ≤ text.size → position ≤ text.size) :
    progress.Advances text (progress.moved position) :=
  ⟨hpos, hinside, rfl⟩

theorem Progress.advances_enter (text : Array Char) (progress : Progress) (group : Nat) :
    progress.Advances text (progress.enter group) :=
  ⟨Nat.le_refl _, id, List.length_modify _ _ _⟩

theorem Progress.advances_leave (text : Array Char) (progress : Progress) (group : Nat) :
    progress.Advances text (progress.leave group) :=
  ⟨Nat.le_refl _, id, List.length_modify _ _ _⟩

-- A matcher reaches its goal only from a later stage of the match.
def Matcher.Forward (text : Array Char) (matcher : Matcher) : Prop :=
  ∀ goal progress result, matcher goal progress = some result →
    ∃ next, progress.Advances text next ∧ goal next = some result

namespace Matcher

variable {text : Array Char} {round : Matcher}

theorem exactly_forward (hround : round.Forward text) (rounds : Nat) :
    Forward text (fun goal => exactly round goal rounds) := by
  intro goal progress result h
  induction rounds generalizing progress with
  | zero => exact ⟨progress, .refl text progress, h⟩
  | succ rounds ih =>
      obtain ⟨next, hn, hg⟩ := hround _ _ _ h
      obtain ⟨last, hl, hg⟩ := ih next hg
      exact ⟨last, hn.trans hl, hg⟩

theorem greedily_forward (hround : round.Forward text) (fuel : Nat) (room last : Option Nat) :
    Forward text (fun goal => greedily round goal fuel room last) := by
  intro goal progress result h
  induction fuel generalizing progress room last with
  | zero => exact ⟨progress, .refl text progress, h⟩
  | succ fuel ih =>
      simp only [greedily] at h
      split at h
      · exact ⟨progress, .refl text progress, h⟩
      · split at h
        next reached hr =>
          cases h
          obtain ⟨next, hn, hg⟩ := hround _ _ _ hr
          obtain ⟨last, hl, hg⟩ := ih _ _ next hg
          exact ⟨last, hn.trans hl, hg⟩
        next => exact ⟨progress, .refl text progress, h⟩

theorem lazily_forward (hround : round.Forward text) (fuel : Nat) (room last : Option Nat) :
    Forward text (fun goal => lazily round goal fuel room last) := by
  intro goal progress result h
  induction fuel generalizing progress room last with
  | zero => exact ⟨progress, .refl text progress, h⟩
  | succ fuel ih =>
      simp only [lazily] at h
      split at h
      next reached hr =>
        cases h
        exact ⟨progress, .refl text progress, hr⟩
      next =>
        split at h
        · cases h
        · obtain ⟨next, hn, hg⟩ := hround _ _ _ h
          obtain ⟨last, hl, hg⟩ := ih _ _ next hg
          exact ⟨last, hn.trans hl, hg⟩

-- A round by itself, without a goal after it, ends at a later stage.
theorem Forward.of_some (hround : round.Forward text) {progress next : Progress}
    (h : round some progress = some next) : progress.Advances text next := by
  obtain ⟨last, hl, hs⟩ := hround _ _ _ h
  cases hs
  exact hl

theorem possessively_advances (hround : round.Forward text) (fuel : Nat)
    (room last : Option Nat) (progress : Progress) :
    progress.Advances text (possessively round fuel room last progress) := by
  induction fuel generalizing room last progress with
  | zero => exact .refl text progress
  | succ fuel ih =>
      simp only [possessively]
      split
      · exact .refl text progress
      · split
        next next hn => exact (hround.of_some hn).trans (ih _ _ next)
        next => exact .refl text progress

theorem repeated_forward (hround : round.Forward text) (greed : Greed) (least : Nat)
    (greatest : Option Nat) : Forward text (repeated round text greed least greatest) := by
  intro goal progress result h
  cases greed with
  | greedy =>
      obtain ⟨next, hn, hg⟩ := exactly_forward hround least _ _ _ h
      obtain ⟨last, hl, hg⟩ := greedily_forward hround _ _ _ _ _ _ hg
      exact ⟨last, hn.trans hl, hg⟩
  | lazy =>
      obtain ⟨next, hn, hg⟩ := exactly_forward hround least _ _ _ h
      obtain ⟨last, hl, hg⟩ := lazily_forward hround _ _ _ _ _ _ hg
      exact ⟨last, hn.trans hl, hg⟩
  | possessive =>
      -- every one of the first rounds is final, which makes it a matcher of its own
      have hfinal : Forward text (fun goal progress => (round some progress).bind goal) := by
        intro goal progress result h
        obtain ⟨next, hn, hg⟩ := Option.bind_eq_some_iff.mp h
        exact ⟨next, hround.of_some hn, hg⟩
      simp only [repeated] at h
      split at h
      next next hn =>
        have hfirst := (exactly_forward hfinal least).of_some hn
        exact ⟨_, hfirst.trans (possessively_advances hround _ _ _ next), h⟩
      next => cases h

end Matcher

-- A stretch that repeats an earlier one lies inside the text.
theorem repeatsAt_inside (text : Array Char) (fold : Fold) (start length position : Nat)
    (h : repeatsAt text fold start length position = true) (hinside : position ≤ text.size) :
    position + length ≤ text.size := by
  cases length with
  | zero => exact hinside
  | succ length =>
      have hlast := List.all_eq_true.mp h length (List.mem_range.mpr (Nat.lt_succ_self length))
      rcases Nat.lt_or_ge (position + length) text.size with hlt | hout
      · exact hlt
      · rw [Array.getElem?_eq_none hout] at hlast
        cases hs : text[start + length]? <;> simp [hs] at hlast

-- The marks of a reference's group may be anywhere; only where the match goes on matters.
theorem Node.reference_forward (text : Array Char) (group : Nat) (fold : Fold) (width : Width) :
    Matcher.Forward text ((Node.reference group fold width).run text) := by
  intro goal progress result h
  simp only [Node.run] at h
  split at h
  next start stop hspan =>
    split at h
    next hrep =>
      refine ⟨_, Progress.advances_moved text progress _ (Nat.le_add_right _ _) ?_, h⟩
      exact repeatsAt_inside text fold start (stop - start) progress.position hrep
    next => cases h
  next => cases h

-- Whatever a pattern matches, the match goes on from a later stage.
theorem Node.run_forward (text : Array Char) (node : Node) :
    Matcher.Forward text (node.run text) := by
  induction node with
  | empty => exact fun goal progress result h => ⟨progress, .refl text progress, h⟩
  | unit test =>
      intro goal progress result h
      simp only [Node.run] at h
      split at h
      next c hc =>
        split at h
        next =>
          have hlt := (Array.getElem?_eq_some_iff.mp hc).1
          exact ⟨_, Progress.advances_moved text progress _ (Nat.le_succ _) (fun _ => hlt), h⟩
        next => cases h
      next => cases h
  | anchor place =>
      intro goal progress result h
      simp only [Node.run] at h
      split at h
      · exact ⟨progress, .refl text progress, h⟩
      · cases h
  | reference group fold width => exact Node.reference_forward text group fold width
  | capture group body ih =>
      intro goal progress result h
      obtain ⟨inside, hi, hg⟩ := ih _ _ _ h
      exact ⟨inside.leave group, (Progress.advances_enter text progress group).trans
        (hi.trans (Progress.advances_leave text inside group)), hg⟩
  | scope body ih => exact fun goal progress result h => ih goal progress result h
  | atomic body ih =>
      intro goal progress result h
      simp only [Node.run] at h
      split at h
      next inside hi => exact ⟨inside, Matcher.Forward.of_some ih hi, h⟩
      next => cases h
  | ahead negated body ih =>
      intro goal progress result h
      simp only [Node.run] at h
      split at h
      next inside hi =>
        split at h
        · cases h
        · exact ⟨_, (Matcher.Forward.of_some ih hi).moved_back progress rfl, h⟩
      next =>
        split at h
        · exact ⟨progress, .refl text progress, h⟩
        · cases h
  | behind negated width body ih =>
      intro goal progress result h
      simp only [Node.run] at h
      split at h
      · split at h
        · exact ⟨progress, .refl text progress, h⟩
        · cases h
      · split at h
        next inside hi =>
          split at h
          · cases h
          · exact ⟨_, (Matcher.Forward.of_some ih hi).moved_back progress rfl, h⟩
        next =>
          split at h
          · exact ⟨progress, .refl text progress, h⟩
          · cases h
  | conditional group present absent ihp iha =>
      intro goal progress result h
      simp only [Node.run] at h
      split at h
      · exact ihp goal progress result h
      · exact iha goal progress result h
  | repetition greed least greatest body ih =>
      exact fun goal progress result h =>
        Matcher.repeated_forward ih greed least greatest goal progress result h
  | seq first rest ihf ihr =>
      intro goal progress result h
      obtain ⟨middle, hm, hg⟩ := ihf _ _ _ h
      obtain ⟨last, hl, hg⟩ := ihr _ _ _ hg
      exact ⟨last, hm.trans hl, hg⟩
  | choice first rest ihf ihr =>
      intro goal progress result h
      simp only [Node.run] at h
      split at h
      next reached hr =>
        cases h
        exact ihf goal progress result hr
      next => exact ihr goal progress result h

end RecordPattern.Regex
