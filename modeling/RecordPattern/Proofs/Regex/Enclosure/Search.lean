import RecordPattern.Proofs.Regex.Advance
import RecordPattern.Proofs.Regex.Enclosure.Matching
import RecordPattern.Regex.Search

namespace RecordPattern.Regex

-- A match with one more group around it, which captured the whole.
def Match.enclosed (found : Match) : Match :=
  { found with groups := some (found.start, found.stop) :: found.groups }

-- A pattern is another one inside one more group, which bears a name and comes first.
structure Encloses (name : String) (enclosed bare : Regex) : Prop where
  body : ∃ inner, enclosed.body = .capture 1 inner ∧
    ∀ text, inner.run text = bare.body.raise.run text
  positive : bare.body.Positive
  names : enclosed.names = (name, 1) :: bare.names.map fun entry => (entry.1, entry.2 + 1)
  groupCount : enclosed.groupCount = bare.groupCount + 1

namespace Encloses

variable {name : String} {enclosed bare : Regex}

theorem matchAt?_eq (h : Encloses name enclosed bare) (text : Array Char) (advance : Bool) (start : Nat) :
    enclosed.matchAt? text advance start = (bare.matchAt? text advance start).map Match.enclosed := by
  obtain ⟨inner, hbody, hrun⟩ := h.body
  let mark : Mark := ⟨some start, none⟩
  let goal (progress : Progress) : Option Progress :=
    if advance && progress.position = start then none else some progress
  have hgoal : Goal.Carries mark (fun progress => (progress.inside mark).leave 1) goal
      (fun inside => goal (inside.leave 1)) := by
    intro progress
    simp only [goal]
    change (if advance && progress.position = start then none else _) = _
    split <;> rfl
  have hcarries := Node.run_carries text bare.body h.positive _ _ _ hgoal
    (.begin start bare.groupCount)
  have hbegin : (Progress.begin start (bare.groupCount + 1)).enter 1 =
      (Progress.begin start bare.groupCount).inside mark := rfl
  simp only [matchAt?, hbody, h.groupCount, Node.run, hbegin, hrun]
  rw [hcarries, Option.map_map, Option.map_map]
  refine Option.map_congr fun progress hprogress => ?_
  obtain ⟨last, hlast, hsome⟩ := Node.run_forward text bare.body _ _ _ hprogress
  have hle : start ≤ progress.position := by
    simp only [goal] at hsome
    split at hsome
    · cases hsome
    · cases hsome
      exact hlast.position
  simp [Progress.inside, Progress.leave, Match.enclosed, Mark.span?, mark, hle]

-- Searching finds the same stretch of a text with the group around the pattern and without it, and
-- the group captures that stretch.
theorem search?_eq (h : Encloses name enclosed bare) (text : Array Char) :
    enclosed.search? text = (bare.search? text).map Match.enclosed := by
  have hsearch : ∀ positions advance start, enclosed.searchFrom? text positions advance start =
      (bare.searchFrom? text positions advance start).map Match.enclosed := by
    intro positions
    induction positions with
    | zero => exact fun _ _ => rfl
    | succ positions ih =>
        intro advance start
        simp only [searchFrom?, h.matchAt?_eq]
        cases bare.matchAt? text advance start with
        | none => exact ih false (start + 1)
        | some found => rfl
  exact hsearch _ _ _

end Encloses

end RecordPattern.Regex
