import Mathlib.Algebra.Order.Field.Rat
import Mathlib.Data.List.Forall2
import RecordPattern.Json.Encode
import RecordPattern.Proofs.Outcome

namespace RecordPattern

open Outcome

namespace Value

-- The values that a value is made of, in so far as they have a JSON form of their own.
def parts : Value → List Value
  | .list items | .tuple items => items
  | .mapping _ entries => entries.map Prod.snd
  | _ => []

end Value

namespace Json

theorem sortedIf_map {α β : Type} (sort : Bool) (f : α → β) (entries : List (Value × α)) :
    sortedIf sort (entries.map fun entry => (entry.1, f entry.2)) =
      (sortedIf sort entries).map (List.map fun entry => (entry.1, f entry.2)) := by
  unfold sortedIf sortEntries
  have hkeys : (entries.map fun entry => (entry.1, f entry.2)).map (·.1) = entries.map (·.1) := by
    simp [Function.comp_def]
  rw [hkeys]
  split
  · split
    · rfl
    · have hsort := List.map_mergeSort (f := fun entry : Value × α => (entry.1, f entry.2))
        (r := fun a b => keyBefore a.1 b.1) (s := fun a b => keyBefore a.1 b.1) (l := entries)
        fun _ _ _ _ => rfl
      rw [← hsort]
      rfl
  · rfl

theorem ofEntries_eq (sort : Bool) (entries : List (Value × Value)) :
    ofEntries sort entries = entries.map fun entry => (entry.1, ofValue sort entry.2) := by
  induction entries with
  | nil => rfl
  | cons entry rest ih => rw [ofEntries, ih, List.map_cons]

-- The form of one member of a mapping.
def ofMember (sort : Bool) (entry : Value × Value) : Except JsonError (String × Json) := do
  return (← keyText entry.1, ← ofValue sort entry.2)

theorem ofValue_mapping (sort : Bool) (entries : List (Value × Value)) :
    ofValue sort (.mapping false entries) = do
      let arranged ← sortedIf sort entries
      return .object (← arranged.mapM (ofMember sort)) := by
  rw [ofValue, ofEntries_eq, sortedIf_map]
  cases sortedIf sort entries with
  | error error => rfl
  | ok arranged =>
      simp only [Except.map, bind, Except.bind]
      rw [List.mapM_map]
      rfl

end Json

end RecordPattern
