import Mathlib.Data.List.Basic
import RecordPattern.Capture.Resolution

namespace RecordPattern.Capture

-- A list of keys with what each of them has, looked up at a key.
theorem lookup_filterMap {α β : Type} [BEq α] [LawfulBEq α] [DecidableEq α] (value : α → Option β)
    (keys : List α) (key : α) :
    (keys.filterMap fun key => (value key).map (key, ·)).lookup key =
      if key ∈ keys then value key else none := by
  induction keys with
  | nil => rfl
  | cons first rest ih =>
      by_cases hkey : key = first
      · subst hkey
        cases hv : value key with
        | none => simp [hv, ih]
        | some given => simp [hv]
      · cases hv : value first with
        | none => simp [hv, ih, hkey]
        | some given => simp [hv, ih, hkey, List.lookup_cons, beq_false_of_ne hkey]

theorem lookup_resolve (submatches : Submatches) (index : GroupIndex) (fields : List String)
    (field : String) :
    (resolve submatches index fields).lookup field =
      if field ∈ fields then firstNonEmpty submatches (positionsOf index field) else none := by
  unfold resolve
  rw [lookup_filterMap]
  simp only [List.mem_eraseDups]

theorem nonEmptyAt?_eq_some_iff {submatches : Submatches} {position : Nat} {text : String} :
    nonEmptyAt? submatches position = some text ↔
      submatches[position]? = some (some text) ∧ text ≠ "" := by
  unfold nonEmptyAt?
  split
  next other hother =>
    split
    next hempty =>
      rw [String.isEmpty_iff] at hempty
      simp only [hother, reduceCtorEq, Option.some.injEq, false_iff, not_and, not_not]
      rintro rfl
      exact hempty
    next hempty =>
      rw [Bool.not_eq_true, ← Bool.not_eq_true, String.isEmpty_iff] at hempty
      simp only [hother, Option.some.injEq]
      exact ⟨fun h => ⟨h, h ▸ hempty⟩, fun h => h.1⟩
  next hnone =>
    simp only [reduceCtorEq, false_iff, not_and]
    intro hs
    exact absurd hs (hnone text)

end RecordPattern.Capture
