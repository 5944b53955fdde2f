import RecordPattern.Proofs.Record.Acceptance

namespace RecordPattern

open Outcome Value

namespace Store

variable {store : Store} {id other : Nat} {contents : Value}

-- The store after a value has new contents; only objects can have them.
def updated (store : Store) (target contents : Value) : Store :=
  match target with
  | .object id => store.set id contents
  | _ => store

theorem contents_set_self (h : id < store.objects.size) :
    (store.set id contents).contents (.object id) = contents := by
  simp [Store.contents, set, h]

theorem contents_set_other (h : other ≠ id) :
    (store.set id contents).contents (.object other) = store.contents (.object other) := by
  simp [Store.contents, set, Ne.symm h]

theorem contents_updated_other {target : Value} (h : target ≠ .object other) :
    (store.updated target contents).contents (.object other) = store.contents (.object other) := by
  unfold updated
  split
  next id => exact contents_set_other (by rintro rfl; exact h rfl)
  next => rfl

-- A value that is seen through an update holds what it held before or what was put there.
theorem contents_updated (store : Store) (target value contents : Value) :
    (store.updated target contents).contents value = store.contents value ∨
      (store.updated target contents).contents value = contents := by
  cases value with
  | object other =>
      by_cases hsame : target = .object other
      · subst hsame
        rcases Nat.lt_or_ge other store.objects.size with hlt | hge
        · exact Or.inr (contents_set_self hlt)
        · left
          simp [updated, set, Store.contents, hge]
      · exact Or.inl (contents_updated_other hsame)
  | _ => exact Or.inl rfl

end Store

namespace Shape

variable {kind : ShapeKind} {names : List String} {contents : Value}
  {resolved : List (String × String)}

variable {shape : Shape} {store : Store} {target : Value}

end Shape

end RecordPattern
