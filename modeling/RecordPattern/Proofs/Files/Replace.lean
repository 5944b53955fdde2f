import RecordPattern.Files.Replace
import RecordPattern.Proofs.Files.Directories
import RecordPattern.Proofs.Files.Path

namespace RecordPattern.Files.Tree

open Outcome

variable {ε : Type} {before middle after tree : Tree} {path : Path} {place : Place}
  {bytes : List UInt8}

-- Two trees in which the same stands at each place.
structure Alike (before after : Tree) : Prop where
  current : after.current = before.current
  entries : ∀ place, after.entry? place = before.entry? place

-- A file was put where a path leads. It replaced a file or nothing, and at no other place anything
-- has changed.
structure Stored (before after : Tree) (path : Path) (bytes : List UInt8) (target : Place) :
    Prop where
  current : after.current = before.current
  leads : after.placeOf path = .ok target
  file : after.entry? target = some (.file bytes)
  replaced : before.entry? target ≠ some .directory
  others : ∀ place, place ≠ target → after.entry? place = before.entry? place

theorem Stored.read_eq {target : Place} (h : before.Stored after path bytes target) :
    after.read path = .ok bytes := by
  unfold Tree.read find
  simp only [h.leads, h.file, bind, Except.bind, pure, Except.pure]

-- Directories are never replaced.
theorem Stored.directory {target : Place} (h : before.Stored after path bytes target) :
    ∀ place, before.entry? place = some .directory → after.entry? place = some .directory := by
  intro place hdirectory
  have hne : place ≠ target := by
    rintro rfl
    exact h.replaced hdirectory
  rw [h.others place hne, hdirectory]

variable {content : Content ε} {tags : List String}

end RecordPattern.Files.Tree
