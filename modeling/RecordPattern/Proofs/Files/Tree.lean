import Mathlib.Data.List.Basic
import RecordPattern.Files.Tree
import RecordPattern.Proofs.Outcome

namespace RecordPattern.Files.Tree

open Outcome

variable {tree before after : Tree} {place other : Place} {entry : Entry}

theorem fileAt?_congr (h : after.entry? place = before.entry? place) :
    after.fileAt? place = before.fileAt? place := by
  rw [fileAt?, fileAt?, h]

-- A path leads to the same place as long as all directories are still there.
theorem follow_mono (h : ∀ place, before.entry? place = some .directory →
    after.entry? place = some .directory) {start target : Place} {parts : List String}
    (hfollow : before.follow start parts = .ok target) : after.follow start parts = .ok target := by
  induction parts generalizing start with
  | nil => exact hfollow
  | cons part rest ih =>
      unfold follow at hfollow ⊢
      split at hfollow
      · cases hfollow
      · cases hfollow
      next hdirectory =>
        rw [h start hdirectory]
        simp only
        split at hfollow
        next hup =>
          rw [if_pos hup]
          exact ih hfollow
        next hup =>
          rw [if_neg hup]
          split at hfollow
          · cases hfollow
          next hshort =>
            rw [if_neg hshort]
            exact ih hfollow

theorem placeOf_mono (h : ∀ place, before.entry? place = some .directory →
    after.entry? place = some .directory) (hcurrent : after.current = before.current) {path : Path}
    {target : Place} (hplace : before.placeOf path = .ok target) :
    after.placeOf path = .ok target := by
  unfold placeOf at hplace ⊢
  rw [hcurrent]
  exact follow_mono h hplace

theorem follow_fault {parts : List String} {fault : Fault} (h : before.follow place parts = .error fault) :
    fault ∈ [.missing, .notDirectory, .nameTooLong] := by
  induction parts generalizing place with
  | nil => cases h
  | cons part rest ih =>
      unfold follow at h
      split at h
      · cases h
        decide
      · cases h
        decide
      · split_ifs at h
        · exact ih h
        · cases h
          decide
        · exact ih h

-- Reading a file fails on the way to it, or because a directory stands there.
theorem read_fault {path : Path} {fault : Fault} (h : before.read path = .error fault) :
    fault ∈ [.missing, .notDirectory, .nameTooLong, .isDirectory] := by
  rcases bind_eq_error.mp h with hfind | ⟨held, _, hread⟩
  · rcases bind_eq_error.mp hfind with hplace | ⟨target, _, hentry⟩
    · have hway := follow_fault hplace
      simp only [List.mem_cons] at hway ⊢
      tauto
    · split at hentry
      · cases hentry
      · cases hentry
        decide
  · cases held with
    | file bytes => cases hread
    | directory =>
        cases hread
        decide

-- A place that a path or the beginning of one leads to.
def OnWay (tree : Tree) (path : Path) (place : Place) : Prop :=
  ∃ count, tree.placeOf { path with parts := path.parts.take count } = .ok place

-- At a place stands what stood there, or a directory on the way of a path if nothing did.
def Keeps (before after : Tree) (path : Path) (place : Place) : Prop :=
  after.entry? place = before.entry? place ∨
    (before.entry? place = none ∧ after.entry? place = some .directory ∧ after.OnWay path place)

theorem Keeps.fileAt? {path : Path} (h : Keeps before after path place) :
    after.fileAt? place = before.fileAt? place := by
  rcases h with hsame | ⟨hnone, hdirectory, _⟩
  · exact fileAt?_congr hsame
  · simp [Tree.fileAt?, hnone, hdirectory]

theorem Keeps.directory {path : Path} (h : Keeps before after path place)
    (hdirectory : before.entry? place = some .directory) :
    after.entry? place = some .directory := by
  rcases h with hsame | ⟨_, hnew, _⟩
  · rw [hsame, hdirectory]
  · exact hnew

end RecordPattern.Files.Tree
