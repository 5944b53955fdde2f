import RecordPattern.Composite.Assembly
import RecordPattern.Proofs.Record.Fields
import RecordPattern.Proofs.Schema.GroupName

namespace RecordPattern

open Outcome

-- The field that an entry of a schema becomes.
def WrappedField.of (name pattern : String) : WrappedField :=
  ⟨name, InlineFlags.scope pattern, wrapGroup name (InlineFlags.scope pattern)⟩

variable {flags : Nat} {schema : List (Value × Value)} {wrapped : List WrappedField}
  {field : WrappedField} {name pattern : String}

theorem checkPattern_eq_ok {candidate : String}
    (h : checkPattern name pattern candidate flags = .ok ()) :
    ∃ regex, Regex.compile candidate flags = .ok regex := by
  unfold checkPattern at h
  split at h
  next regex hregex => exact ⟨regex, hregex⟩
  · cases h
  · cases h

-- An entry is accepted only if its sub-pattern compiles, by itself and wrapped.
theorem wrapField_text_eq_ok (h : wrapField flags (.text name, .text pattern) = .ok field) :
    field = .of name pattern ∧
      (∃ bare, Regex.compile pattern flags = .ok bare) ∧
      ∃ enclosed, Regex.compile (wrapGroup name (InlineFlags.scope pattern)) flags = .ok enclosed := by
  obtain ⟨given, hname, h⟩ := bind_eq_ok.mp h
  obtain ⟨hkey, _⟩ := fieldName_eq_ok (mapError_eq_ok.mp hname)
  cases hkey
  simp only at h
  split at h
  · cases h
  · obtain ⟨_, hbare, h⟩ := bind_eq_ok.mp h
    obtain ⟨_, henclosed, h⟩ := bind_eq_ok.mp h
    cases h
    exact ⟨rfl, checkPattern_eq_ok hbare, checkPattern_eq_ok henclosed⟩

-- Looking a field up after wrapping is looking its sub-pattern up before.
theorem findField?_of_lookup? (h : synthesize flags schema = .ok wrapped)
    (hlookup : Value.lookup? schema name = some (.text pattern)) :
    Composite.findField? wrapped name = some (.of name pattern) := by
  induction mapM_eq_ok.mp h with
  | nil => cases hlookup
  | @cons entry field rest fields hfirst hrest ih =>
      have hkey := (wrapField_eq_ok hfirst).name
      obtain ⟨key, value⟩ := entry
      cases hkey
      by_cases hname : field.name = name
      · subst hname
        rw [Value.lookup?_cons, if_pos (Value.isText_iff.mpr rfl)] at hlookup
        cases hlookup
        obtain ⟨hfield, _⟩ := wrapField_text_eq_ok hfirst
        rw [Composite.findField?, List.find?_cons_of_pos (by simp), hfield]
        rfl
      · rw [Value.lookup?_cons, if_neg (fun ht => hname (Value.text.inj (Value.isText_iff.mp ht)))]
          at hlookup
        rw [Composite.findField?, List.find?_cons_of_neg (by simpa using hname)]
        exact ih (mapM_eq_ok.mpr hrest) hlookup

theorem Composite.known_of_lookup? (h : synthesize flags schema = .ok wrapped)
    (hlookup : Value.lookup? schema name = some (.text pattern)) :
    name ∈ wrapped.map WrappedField.name := by
  have hfind := findField?_of_lookup? h hlookup
  exact List.mem_map.mpr ⟨_, List.mem_of_find?_eq_some hfind, rfl⟩

end RecordPattern
