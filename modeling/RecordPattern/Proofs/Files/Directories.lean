import RecordPattern.Proofs.Files.Tree

namespace RecordPattern.Files.Tree

open Outcome

variable {before middle after tree made : Tree} {path : Path} {place : Place}

-- A tree to which nothing has happened but that directories on the way of a path were made.
structure Grown (before after : Tree) (path : Path) : Prop where
  current : after.current = before.current
  keeps : ∀ place, before.Keeps after path place

theorem OnWay.mono (h : before.OnWay path place) (hcurrent : after.current = before.current)
    (hkept : ∀ place, before.entry? place = some .directory →
      after.entry? place = some .directory) : after.OnWay path place := by
  obtain ⟨count, hplace⟩ := h
  exact ⟨count, placeOf_mono hkept hcurrent hplace⟩

namespace Grown

theorem refl (tree : Tree) (path : Path) : tree.Grown tree path :=
  ⟨rfl, fun _ => Or.inl rfl⟩

theorem directory (h : before.Grown after path) :
    ∀ place, before.entry? place = some .directory → after.entry? place = some .directory :=
  fun place => (h.keeps place).directory

theorem trans (hf : before.Grown middle path) (hs : middle.Grown after path) :
    before.Grown after path where
  current := hs.current.trans hf.current
  keeps := by
    intro place
    rcases hs.keeps place with hsame | ⟨hnone, hnew, hway⟩
    · rcases hf.keeps place with hfirst | ⟨hnone, hnew, hway⟩
      · exact Or.inl (hsame.trans hfirst)
      · exact Or.inr ⟨hnone, hsame.trans hnew, hway.mono hs.current hs.directory⟩
    · rcases hf.keeps place with hfirst | ⟨_, hdirectory, _⟩
      · exact Or.inr ⟨hfirst ▸ hnone, hnew, hway⟩
      · cases hnone.symm.trans hdirectory

end Grown

end RecordPattern.Files.Tree
