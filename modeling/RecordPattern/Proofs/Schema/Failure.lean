import RecordPattern.Proofs.Schema.Wrapped

namespace RecordPattern

open Outcome

-- How a failure of the engine on one of the two forms of a field is reported. Fault with the
-- pattern becomes an error that names the field; a refusal is passed on as it is.
def WrappedField.failure (name pattern : String) : Regex.CompileError → PatternError
  | .malformed cause => .invalidPattern name pattern cause
  | .refused refusal => .refused refusal

-- The engine fails on the sub-pattern of a field, or on its wrapped form once the sub-pattern by
-- itself has compiled.
inductive WrappedField.Fails (flags : Nat) (name pattern : String) (cause : Regex.CompileError) : Prop
  | bare (hbare : Regex.compile pattern flags = .error cause)
  | enclosed (hbare : ∃ regex, Regex.compile pattern flags = .ok regex)
      (henclosed : Regex.compile (wrapGroup name (InlineFlags.scope pattern)) flags = .error cause)

variable {flags : Nat} {name pattern : String} {error : PatternError} {cause : Regex.CompileError}

theorem checkPattern_of_ok {candidate : String}
    (h : ∃ regex, Regex.compile candidate flags = .ok regex) :
    checkPattern name pattern candidate flags = .ok () := by
  obtain ⟨regex, hregex⟩ := h
  unfold checkPattern
  rw [hregex]

theorem checkPattern_eq_error {candidate : String} :
    checkPattern name pattern candidate flags = .error error ↔
      ∃ cause, Regex.compile candidate flags = .error cause ∧
        WrappedField.failure name pattern cause = error := by
  unfold checkPattern
  cases Regex.compile candidate flags with
  | ok regex => simp
  | error cause => cases cause <;> simp [WrappedField.failure]

-- A field with a proper name and some sub-pattern fails as the engine does on it.
theorem wrapField_of_fails (hname : fieldName (.text name) = .ok name) (hpattern : pattern ≠ "")
    (h : WrappedField.Fails flags name pattern cause) :
    wrapField flags (.text name, .text pattern) = .error (WrappedField.failure name pattern cause) := by
  refine bind_eq_error.mpr (Or.inr ⟨name, mapError_eq_ok.mpr hname, ?_⟩)
  have hfilled : pattern.isEmpty = false := by
    rw [← Bool.not_eq_true, String.isEmpty_iff]
    exact hpattern
  simp only [hfilled]
  cases h with
  | bare hbare =>
      exact bind_eq_error.mpr (Or.inl (checkPattern_eq_error.mpr ⟨cause, hbare, rfl⟩))
  | enclosed hbare henclosed =>
      exact bind_eq_error.mpr (Or.inr ⟨(), checkPattern_of_ok hbare,
        bind_eq_error.mpr (Or.inl (checkPattern_eq_error.mpr ⟨cause, henclosed, rfl⟩))⟩)

-- It fails in no other way.
theorem fails_of_wrapField (hname : fieldName (.text name) = .ok name) (hpattern : pattern ≠ "")
    (h : wrapField flags (.text name, .text pattern) = .error error) :
    ∃ cause, WrappedField.Fails flags name pattern cause ∧
      error = WrappedField.failure name pattern cause := by
  have hfilled : pattern.isEmpty = false := by
    rw [← Bool.not_eq_true, String.isEmpty_iff]
    exact hpattern
  simp only [wrapField, hname, hfilled, Except.mapError, bind, Except.bind, Bool.false_eq_true,
    if_false] at h
  rcases bind_eq_error.mp h with h | ⟨_, hbare, h⟩
  · obtain ⟨cause, hbare, rfl⟩ := checkPattern_eq_error.mp h
    exact ⟨cause, .bare hbare, rfl⟩
  · rcases bind_eq_error.mp h with h | ⟨_, _, h⟩
    · obtain ⟨cause, henclosed, rfl⟩ := checkPattern_eq_error.mp h
      exact ⟨cause, .enclosed (checkPattern_eq_ok hbare) henclosed, rfl⟩
    · cases h

end RecordPattern
