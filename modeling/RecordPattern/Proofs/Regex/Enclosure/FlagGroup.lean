import RecordPattern.Proofs.Regex.Enclosure.Cursor
import RecordPattern.Regex.FlagGroup

namespace RecordPattern.Regex.FlagGroup

open Outcome Cursor

variable {closing : Closing} {inner outer : Cursor}

-- Flags are read alike as long as there are letters, however many tokens follow.
theorem readOn_agree (fuel fuel' : Nat) (h : Within closing inner outer) (flag found : Flags) :
    Relates (fun result other => result.1 = other.1 ∧ result.2.1 = other.2.1 ∧
      Within closing result.2.2 other.2.2)
      (readOn fuel inner flag found) (readOn fuel' outer flag found) := by
  induction fuel generalizing fuel' inner outer flag found with
  | zero => exact .errorLeft _
  | succ fuel ih =>
      cases fuel' with
      | zero => exact .errorRight _
      | succ fuel' =>
          simp only [readOn]
          refine .ite (fun _ => .errorLeft _) fun _ => .ite (fun _ => .errorLeft _) fun _ => ?_
          cases hnext : inner.next? with
          | none => exact .errorLeft _
          | some token =>
              simp only [h.next?_eq hnext]
              refine .bind _ (h.skipNext hnext) fun after further hafter => ?_
              refine .ite (fun _ => .ok ⟨rfl, rfl, hafter⟩) fun _ => ?_
              cases flagOf? token with
              | none => exact .errorLeft _
              | some next => exact ih fuel' hafter _ _

theorem readOff_agree (fuel fuel' : Nat) (h : Within closing inner outer) (flag found : Flags) :
    Agree closing (readOff fuel inner flag found) (readOff fuel' outer flag found) := by
  induction fuel generalizing fuel' inner outer flag found with
  | zero => exact .errorLeft _
  | succ fuel ih =>
      cases fuel' with
      | zero => exact .errorRight _
      | succ fuel' =>
          simp only [readOff]
          refine .ite (fun _ => .errorLeft _) fun _ => ?_
          cases hnext : inner.next? with
          | none => exact .errorLeft _
          | some token =>
              simp only [h.next?_eq hnext]
              refine .bind _ (h.skipNext hnext) fun after further hafter => ?_
              refine .ite (fun _ => .ok ⟨rfl, hafter⟩) fun _ => ?_
              cases flagOf? token with
              | none => exact .errorLeft _
              | some next => exact ih fuel' hafter _ _

theorem readInside_agree (h : Within closing inner outer) (on : Flags) (ending : Token) :
    Agree closing (readInside inner on ending) (readInside outer on ending) := by
  unfold readInside
  refine .ite (fun _ => .errorLeft _) fun _ => .ite (fun _ => .ok ⟨rfl, h⟩) fun _ => ?_
  cases hnext : inner.next? with
  | none => exact .errorLeft _
  | some token =>
      simp only [h.next?_eq hnext]
      refine .bind _ (h.skipNext hnext) fun after further hafter => ?_
      cases flagOf? token with
      | none => exact .errorLeft _
      | some flag =>
          refine .bind _ (readOff_agree _ _ hafter flag .none) ?_
          rintro ⟨off, last⟩ ⟨_, last'⟩ ⟨rfl, hlast⟩
          refine .ite (fun _ => .errorLeft _) fun _ => ?_
          exact .ite (fun _ => .ok ⟨rfl, hlast⟩) fun _ => .errorLeft _

theorem read_agree (h : Within closing inner outer) (first : Token) :
    Agree closing (read inner first) (read outer first) := by
  have hend : ∀ (on : Flags) (ending : Token) (after further : Cursor),
      Within closing after further →
      Agree closing
        (if ending = .plain ')' then pure (FlagGroup.global on, after) else
          readInside after on ending >>= fun result => pure (.inside on result.1, result.2))
        (if ending = .plain ')' then pure (FlagGroup.global on, further) else
          readInside further on ending >>= fun result => pure (.inside on result.1, result.2)) := by
    intro on ending after further hafter
    refine .ite (fun _ => .ok ⟨rfl, hafter⟩) fun _ => ?_
    refine .bind _ (readInside_agree hafter on ending) ?_
    rintro ⟨off, last⟩ ⟨_, last'⟩ ⟨rfl, hlast⟩
    exact .ok ⟨rfl, hlast⟩
  unfold read
  cases flagOf? first with
  | none => exact hend .none first inner outer h
  | some flag =>
      refine .bind _ (readOn_agree _ _ h flag .none) ?_
      rintro ⟨on, ending, after⟩ ⟨_, _, further⟩ ⟨rfl, rfl, hafter⟩
      exact hend on ending after further hafter

end RecordPattern.Regex.FlagGroup
