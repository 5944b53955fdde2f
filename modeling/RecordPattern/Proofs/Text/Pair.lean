import Mathlib.Data.List.Infix

namespace RecordPattern.Text

variable {c : Char} {text : List Char}

-- A text before the first pair of a character: it holds no pair, and none begins at its end.
def BeforePair (c : Char) (text : List Char) : Prop :=
  ¬[c, c] <:+: text ++ [c]

theorem pair_infix_cons {first : Char} :
    [c, c] <:+: first :: text ↔ (first = c ∧ text.head? = some c) ∨ [c, c] <:+: text := by
  rw [List.infix_cons_iff]
  refine or_congr_left ?_
  cases text with
  | nil => simp
  | cons second rest => simp [eq_comm]

theorem pair_infix_concat :
    [c, c] <:+: text ++ [c] ↔ [c, c] <:+: text ∨ text.getLast? = some c := by
  induction text with
  | nil => simp [pair_infix_cons]
  | cons first rest ih =>
      rw [List.cons_append, pair_infix_cons, ih, pair_infix_cons]
      cases rest with
      | nil => simp
      | cons second rest => simp [or_assoc]

theorem beforePair_iff : BeforePair c text ↔ ¬[c, c] <:+: text ∧ text.getLast? ≠ some c := by
  rw [BeforePair, pair_infix_concat, not_or]

theorem beforePair_nil : BeforePair c [] := by
  simp [beforePair_iff]

theorem beforePair_cons {first : Char} :
    BeforePair c (first :: text) ↔
      ¬(first = c ∧ (text ++ [c]).head? = some c) ∧ BeforePair c text := by
  rw [BeforePair, List.cons_append, pair_infix_cons, not_or, BeforePair]

-- A text holds no pair, or it has a first one.
theorem exists_first_pair (c : Char) (text : List Char) :
    ¬[c, c] <:+: text ∨ ∃ before after, text = before ++ c :: c :: after ∧ BeforePair c before := by
  induction text with
  | nil => simp
  | cons first rest ih =>
      by_cases hpair : first = c ∧ rest.head? = some c
      · obtain ⟨rfl, hsecond⟩ := hpair
        obtain ⟨after, rfl⟩ := List.head?_eq_some_iff.mp hsecond
        exact Or.inr ⟨[], after, rfl, beforePair_nil⟩
      · rcases ih with hnone | ⟨before, after, rfl, hbefore⟩
        · left
          rw [pair_infix_cons]
          exact fun h => h.elim hpair hnone
        · right
          refine ⟨first :: before, after, rfl, beforePair_cons.mpr ⟨?_, hbefore⟩⟩
          cases before <;> simpa using hpair

-- What stands before the first pair, and what follows it, is determined by the text.
theorem first_pair_unique {before after other rest : List Char} (hb : BeforePair c before)
    (ho : BeforePair c other) (h : before ++ c :: c :: after = other ++ c :: c :: rest) :
    before = other ∧ after = rest := by
  induction before generalizing other with
  | nil =>
      cases other with
      | nil =>
          cases h
          exact ⟨rfl, rfl⟩
      | cons first other =>
          obtain ⟨rfl, h⟩ := List.cons.inj h
          refine absurd ⟨rfl, ?_⟩ (beforePair_cons.mp ho).1
          cases other <;> cases h <;> rfl
  | cons first before ih =>
      cases other with
      | nil =>
          obtain ⟨rfl, h⟩ := List.cons.inj h
          refine absurd ⟨rfl, ?_⟩ (beforePair_cons.mp hb).1
          cases before <;> cases h <;> rfl
      | cons second other =>
          obtain ⟨rfl, htail⟩ := List.cons.inj h
          obtain ⟨rfl, hrest⟩ := ih (beforePair_cons.mp hb).2 (beforePair_cons.mp ho).2 htail
          exact ⟨rfl, hrest⟩

end RecordPattern.Text
