import Mathlib.Data.List.TakeWhile

namespace RecordPattern.Text

variable {α : Type} {p : α → Bool} {run other rest more : List α} {last next : α}

-- A run of items that meet a test goes up to the first that does not.
theorem takeWhile_until (hrun : ∀ item ∈ run, p item = true) (hlast : p last = false)
    (rest : List α) : (run ++ last :: rest).takeWhile p = run := by
  rw [List.takeWhile_append_of_pos hrun, List.takeWhile_cons_of_neg (by simp [hlast]),
    List.append_nil]

-- So where it ends is determined by the whole.
theorem run_unique (hrun : ∀ item ∈ run, p item = true) (hlast : p last = false)
    (hother : ∀ item ∈ other, p item = true) (hnext : p next = false)
    (h : run ++ last :: rest = other ++ next :: more) :
    run = other ∧ last = next ∧ rest = more := by
  have htaken := congrArg (List.takeWhile p) h
  rw [takeWhile_until hrun hlast, takeWhile_until hother hnext] at htaken
  subst htaken
  have hafter := List.append_cancel_left h
  exact ⟨rfl, List.cons.inj hafter⟩

end RecordPattern.Text
