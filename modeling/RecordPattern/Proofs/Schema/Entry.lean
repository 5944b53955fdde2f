import RecordPattern.Pattern.Error
import RecordPattern.Proofs.Schema.Failure

namespace RecordPattern

open Outcome Text

-- A name that a field can have.
structure ProperName (name : String) : Prop where
  identifier : isIdentifier name.toList = true
  unreserved : isReserved name.toList = false

-- What is wrong with a key that is no proper name.
inductive NameFault : Value → SchemaError → Prop
  | notText {key : Value} (hkey : ∀ name, key = .text name → name = "") :
      NameFault key (.nameNotText key.display)
  | notIdentifier {name : String} (hfilled : name ≠ "") (hname : isIdentifier name.toList = false) :
      NameFault (.text name) (.nameNotIdentifier name)
  | reserved {name : String} (hname : isIdentifier name.toList = true)
      (hreserved : isReserved name.toList = true) : NameFault (.text name) (.nameReserved name)

-- An entry of a schema that becomes a field: the engine takes its sub-pattern, by itself and in
-- its group.
structure Accepted (flags : Nat) (name pattern : String) : Prop where
  proper : ProperName name
  filled : pattern ≠ ""
  bare : ∃ regex, Regex.compile pattern flags = .ok regex
  enclosed : ∃ regex, Regex.compile (wrapGroup name (InlineFlags.scope pattern)) flags = .ok regex

-- What is wrong with an entry of a schema. Its name is judged first, then the type of its value,
-- then whether there is a sub-pattern, then what the engine makes of it.
inductive EntryFault (flags : Nat) : Value × Value → PatternError → Prop
  | name {key value : Value} {fault : SchemaError} (hname : NameFault key fault) :
      EntryFault flags (key, value) (.schema fault)
  | notText {name : String} {value : Value} (hname : ProperName name)
      (hvalue : ∀ pattern, value ≠ .text pattern) :
      EntryFault flags (.text name, value) (.schema (.fieldNotText name value.typeName))
  | empty {name : String} (hname : ProperName name) :
      EntryFault flags (.text name, .text "") (.emptyPattern name)
  | malformed {name pattern : String} {cause : Regex.Malformed} (hname : ProperName name)
      (hpattern : pattern ≠ "") (hfails : WrappedField.Fails flags name pattern (.malformed cause)) :
      EntryFault flags (.text name, .text pattern) (.invalidPattern name pattern cause)

variable {flags : Nat} {schema : List (Value × Value)} {wrapped : List WrappedField}
  {key : Value} {name : String} {entry : Value × Value} {field : WrappedField}
  {error : PatternError}

theorem ne_empty_of_isIdentifier (h : isIdentifier name.toList = true) : name ≠ "" := by
  rintro rfl
  cases h

theorem fieldName_eq_ok_iff : fieldName key = .ok name ↔ key = .text name ∧ ProperName name := by
  constructor
  · intro h
    obtain ⟨hkey, hidentifier, hunreserved⟩ := fieldName_eq_ok h
    exact ⟨hkey, hidentifier, hunreserved⟩
  · rintro ⟨rfl, hproper⟩
    simp [fieldName, ne_empty_of_isIdentifier hproper.identifier, hproper.identifier,
      hproper.unreserved]

theorem fieldName_eq_error_iff {fault : SchemaError} :
    fieldName key = .error fault ↔ NameFault key fault := by
  constructor
  · intro h
    unfold fieldName at h
    split at h
    next name =>
      by_cases hempty : name = ""
      · subst hempty
        cases h
        exact .notText fun name hname => (Value.text.inj hname).symm
      · rw [if_neg (by simpa using hempty)] at h
        cases hidentifier : isIdentifier name.toList with
        | false =>
            rw [hidentifier] at h
            cases h
            exact .notIdentifier hempty hidentifier
        | true =>
            cases hreserved : isReserved name.toList with
            | false =>
                rw [hidentifier, hreserved] at h
                cases h
            | true =>
                rw [hidentifier, hreserved] at h
                cases h
                exact .reserved hidentifier hreserved
    next hkey =>
      cases h
      exact .notText fun name hname => absurd hname (hkey name)
  · intro h
    cases h with
    | notText hkey =>
        unfold fieldName
        split
        next name =>
          rw [hkey name rfl]
          rfl
        next => rfl
    | notIdentifier hfilled hname => simp [fieldName, hfilled, hname]
    | reserved hname hreserved =>
        simp [fieldName, ne_empty_of_isIdentifier hname, hname, hreserved]

theorem wrapField_eq_ok_iff : wrapField flags entry = .ok field ↔
    ∃ name pattern, entry = (.text name, .text pattern) ∧ Accepted flags name pattern ∧
      field = .of name pattern := by
  constructor
  · intro h
    obtain ⟨key, value⟩ := entry
    obtain ⟨name, hname, hvalue⟩ := bind_eq_ok.mp h
    obtain ⟨hkey, hproper⟩ := fieldName_eq_ok_iff.mp (mapError_eq_ok.mp hname)
    simp only at hkey
    subst hkey
    cases value with
    | text pattern =>
        obtain ⟨hfield, hbare, henclosed⟩ := wrapField_text_eq_ok h
        refine ⟨name, pattern, rfl, ⟨hproper, ?_, hbare, henclosed⟩, hfield⟩
        rintro rfl
        cases hvalue
    | _ => cases hvalue
  · rintro ⟨name, pattern, rfl, haccepted, rfl⟩
    refine bind_eq_ok.mpr ⟨name, mapError_eq_ok.mpr (fieldName_eq_ok_iff.mpr ⟨rfl, haccepted.proper⟩), ?_⟩
    simp only [String.isEmpty_iff, haccepted.filled, if_false]
    refine bind_eq_ok.mpr ⟨(), checkPattern_of_ok haccepted.bare, ?_⟩
    exact bind_eq_ok.mpr ⟨(), checkPattern_of_ok haccepted.enclosed, rfl⟩

-- A schema is accepted when all its entries are, and each becomes a field.
theorem synthesize_eq_ok_iff : synthesize flags schema = .ok wrapped ↔
    ∃ fields : List (String × String),
      schema = (fields.map fun field => (.text field.1, .text field.2)) ∧
      (∀ field ∈ fields, Accepted flags field.1 field.2) ∧
      wrapped = fields.map fun field => .of field.1 field.2 := by
  constructor
  · intro h
    induction mapM_eq_ok.mp h with
    | nil => exact ⟨[], rfl, by simp, rfl⟩
    | cons hfirst hrest ih =>
        obtain ⟨name, pattern, rfl, haccepted, rfl⟩ := wrapField_eq_ok_iff.mp hfirst
        obtain ⟨fields, rfl, hall, rfl⟩ := ih (mapM_eq_ok.mpr hrest)
        exact ⟨(name, pattern) :: fields, rfl, List.forall_mem_cons.mpr ⟨haccepted, hall⟩, rfl⟩
  · rintro ⟨fields, rfl, hall, rfl⟩
    refine mapM_eq_ok.mpr ?_
    rw [List.forall₂_map_left_iff, List.forall₂_map_right_iff, List.forall₂_same]
    intro field hfield
    exact wrapField_eq_ok_iff.mpr ⟨field.1, field.2, rfl, hall field hfield, rfl⟩

-- An entry fails with an error of the library's own as it is judged.
theorem wrapField_eq_error_iff (htyped : error.isTyped = true) :
    wrapField flags entry = .error error ↔ EntryFault flags entry error := by
  constructor
  · intro h
    obtain ⟨key, value⟩ := entry
    rcases bind_eq_error.mp h with hname | ⟨name, hname, hvalue⟩
    · obtain ⟨fault, hfault, rfl⟩ := mapError_eq_error.mp hname
      exact .name (fieldName_eq_error_iff.mp hfault)
    · have hname := mapError_eq_ok.mp hname
      obtain ⟨hkey, hproper⟩ := fieldName_eq_ok_iff.mp hname
      simp only at hkey
      subst hkey
      cases value with
      | text pattern =>
          by_cases hpattern : pattern = ""
          · subst hpattern
            cases hvalue
            exact .empty hproper
          · obtain ⟨cause, hfails, rfl⟩ := fails_of_wrapField hname hpattern h
            cases cause with
            | malformed cause => exact .malformed hproper hpattern hfails
            | refused refusal => cases htyped
      | _ =>
          cases hvalue
          exact .notText hproper (by simp)
  · intro h
    cases h with
    | name hname =>
        exact bind_eq_error.mpr (Or.inl
          (mapError_eq_error.mpr ⟨_, fieldName_eq_error_iff.mpr hname, rfl⟩))
    | @notText name value hname hvalue =>
        refine bind_eq_error.mpr
          (Or.inr ⟨_, mapError_eq_ok.mpr (fieldName_eq_ok_iff.mpr ⟨rfl, hname⟩), ?_⟩)
        cases value with
        | text pattern => exact absurd rfl (hvalue pattern)
        | _ => rfl
    | empty hname =>
        exact bind_eq_error.mpr
          (Or.inr ⟨_, mapError_eq_ok.mpr (fieldName_eq_ok_iff.mpr ⟨rfl, hname⟩), rfl⟩)
    | malformed hname hpattern hfails =>
        exact wrapField_of_fails (fieldName_eq_ok_iff.mpr ⟨rfl, hname⟩) hpattern hfails

-- A schema fails as the first of its entries does that is not accepted.
theorem synthesize_eq_error_iff (htyped : error.isTyped = true) :
    synthesize flags schema = .error error ↔
      ∃ (before : List (String × String)) (entry : Value × Value) (after : List (Value × Value)),
        schema = (before.map fun field => (.text field.1, .text field.2)) ++ entry :: after ∧
        (∀ field ∈ before, Accepted flags field.1 field.2) ∧ EntryFault flags entry error := by
  constructor
  · intro h
    obtain ⟨earlier, entry, after, wrapped, rfl, hearlier, hentry⟩ := mapM_eq_error.mp h
    obtain ⟨before, rfl, haccepted, _⟩ := synthesize_eq_ok_iff.mp hearlier
    exact ⟨before, entry, after, rfl, haccepted, (wrapField_eq_error_iff htyped).mp hentry⟩
  · rintro ⟨before, entry, after, rfl, haccepted, hfault⟩
    have hbefore := synthesize_eq_ok_iff.mpr ⟨before, rfl, haccepted, rfl⟩
    exact mapM_eq_error.mpr
      ⟨_, entry, after, _, rfl, hbefore, (wrapField_eq_error_iff htyped).mpr hfault⟩

end RecordPattern
