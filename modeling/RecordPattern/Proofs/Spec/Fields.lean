import RecordPattern.Proofs.Pattern.Compiled
import RecordPattern.Spec.Validation

namespace RecordPattern

open Outcome

theorem Checked.both_eq_ok_iff {α β : Type} {first : Checked α} {second : Checked β} {a : α} {b : β} :
    Checked.both first second = .ok (a, b) ↔ first = .ok a ∧ second = .ok b := by
  cases first <;> cases second <;> simp [Checked.both]

namespace PatternSpec

variable {lax : Lax} {store : Store} {raw : Value} {spec : PatternSpec}

-- A further field replaces the pattern of one with its name, or comes last.
theorem names_merge_step (merged : List (String × String)) (field : String × String)
    (h : (merged.map Prod.fst).Nodup) :
    ((if merged.any (·.1 = field.1) then
      merged.map fun (other, old) => (other, if other = field.1 then field.2 else old)
    else merged ++ [field]).map Prod.fst).Nodup := by
  split
  · have hnames : (merged.map fun (other, old) =>
        (other, if other = field.1 then field.2 else old)).map Prod.fst = merged.map Prod.fst := by
      simp [Function.comp_def]
    rw [hnames]
    exact h
  next habsent =>
    simp only [List.any_eq_true, decide_eq_true_eq, not_exists, not_and] at habsent
    rw [List.map_append, List.map_singleton, List.nodup_append]
    refine ⟨h, List.nodup_singleton _, fun name hn other ho => ?_⟩
    obtain ⟨earlier, he, rfl⟩ := List.mem_map.mp hn
    obtain rfl := List.mem_singleton.mp ho
    exact habsent earlier he

-- Merged fields have different names.
theorem mergeFields_nodup (fields : List (String × String)) :
    ((mergeFields fields).map Prod.fst).Nodup := by
  unfold mergeFields
  suffices h : ∀ merged : List (String × String), (merged.map Prod.fst).Nodup →
      ((fields.foldl _ merged).map Prod.fst).Nodup from h [] List.nodup_nil
  intro merged h
  induction fields generalizing merged with
  | nil => exact h
  | cons field rest ih => exact ih _ (names_merge_step merged field h)

theorem checkFields_nodup {entries : List (Value × Value)} {fields : List (String × String)}
    (h : checkFields lax store entries = .ok fields) : (fields.map Prod.fst).Nodup := by
  unfold checkFields at h
  split at h
  · cases h
  · split at h
    · cases h
    · obtain ⟨checked, _, h⟩ := bind_eq_ok.mp h
      split at h
      · cases h
      · cases h
        exact mergeFields_nodup checked

-- The fields of a spec that was read have different names.
theorem validate_nodup (h : validate lax store raw = .ok spec) :
    (spec.fields.map Prod.fst).Nodup := by
  unfold validate at h
  split at h
  · obtain ⟨⟨⟨template, fields, flags⟩, _⟩, hboth, h⟩ := bind_eq_ok.mp h
    obtain ⟨hparts, _⟩ := Checked.both_eq_ok_iff.mp hboth
    obtain ⟨hfields, _⟩ := Checked.both_eq_ok_iff.mp (Checked.both_eq_ok_iff.mp hparts).2
    cases h
    exact checkFields_nodup hfields
  · cases h

end PatternSpec

end RecordPattern
