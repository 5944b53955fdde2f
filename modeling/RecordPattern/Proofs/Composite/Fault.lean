import RecordPattern.Pattern.Error
import RecordPattern.Proofs.Composite.Assembly
import RecordPattern.Proofs.Template.Parsing

namespace RecordPattern

open Outcome

namespace Template

variable {σ : Type} {source : String} {template : Template} {known : List String}
  {fault : TemplateError}

-- A reference that is not known comes after some that are.
structure FirstUnknown (template : Template) (known : List String) (placeholder : Placeholder) :
    Prop where
  unknown : placeholder.field ∉ known
  first : ∃ before after, template.placeholders = before ++ placeholder :: after ∧
    ∀ earlier ∈ before, earlier.field ∈ known

theorem find?_eq_some_iff_firstUnknown {placeholder : Placeholder} :
    template.placeholders.find? (!known.contains ·.field) = some placeholder ↔
      template.FirstUnknown known placeholder := by
  rw [List.find?_eq_some_iff_append]
  constructor
  · rintro ⟨hunknown, before, after, hsplit, hbefore⟩
    refine ⟨by simpa using hunknown, before, after, hsplit, ?_⟩
    intro earlier hearlier
    simpa using hbefore earlier hearlier
  · rintro ⟨hunknown, before, after, hsplit, hbefore⟩
    refine ⟨by simpa using hunknown, before, after, hsplit, ?_⟩
    intro earlier hearlier
    simpa using hbefore earlier hearlier

theorem checkFields_eq_error_iff : template.checkFields known = .error fault ↔
    ∃ placeholder, template.FirstUnknown known placeholder ∧
      fault = .unknownField placeholder.start placeholder.field := by
  unfold checkFields
  cases hnext : template.placeholders.find? (!known.contains ·.field) with
  | none =>
      have hnot : ∀ placeholder, ¬template.FirstUnknown known placeholder := by
        intro placeholder hfirst
        cases hnext.symm.trans (find?_eq_some_iff_firstUnknown.mpr hfirst)
      simp [hnot]
  | some placeholder =>
      constructor
      · intro h
        exact ⟨placeholder, find?_eq_some_iff_firstUnknown.mp hnext, (Except.error.inj h).symm⟩
      · rintro ⟨other, hother, rfl⟩
        cases hnext.symm.trans (find?_eq_some_iff_firstUnknown.mpr hother)
        rfl

-- A malformed action anywhere comes before a reference that is not known.
theorem fillText_eq_error_iff {render : σ → Placeholder → List Char × σ} {state : σ} :
    fillText source known render state = .error fault ↔
      parse source = .error fault ∨
        ∃ template, parse source = .ok template ∧ template.checkFields known = .error fault := by
  unfold fillText
  rw [bind_eq_error]
  refine or_congr_right (exists_congr fun template => and_congr_right fun _ => ?_)
  rw [bind_eq_error]
  constructor
  · rintro (hfault | ⟨_, _, hnever⟩)
    · exact hfault
    · cases hnever
  · exact Or.inl

end Template

-- What is wrong with a template for some fields. A malformed action is reported first, wherever it
-- stands, then the first reference that is not known, then what the engine finds in the composite.
inductive TemplateFault (source : String) (flags : Nat) (wrapped : List WrappedField) :
    PatternError → Prop
  | malformed {stuck : Template.Stuck} {fault : TemplateError}
      (hsource : stuck.chars = source.toList) (hreports : stuck.Reports fault) :
      TemplateFault source flags wrapped (.template fault)
  | unknown {derivation : Template.Derivation} {placeholder : Placeholder}
      (hsource : derivation.chars = source.toList)
      (hfirst : derivation.template.FirstUnknown (wrapped.map WrappedField.name) placeholder) :
      TemplateFault source flags wrapped
        (.template (.unknownField placeholder.start placeholder.field))
  | composite {derivation : Template.Derivation} {cause : Regex.Malformed}
      (hsource : derivation.chars = source.toList)
      (hknown : ∀ placeholder ∈ derivation.template.placeholders,
        placeholder.field ∈ wrapped.map WrappedField.name)
      (hregex : Regex.compile (derivation.template.filled wrapped) flags = .error (.malformed cause)) :
      TemplateFault source flags wrapped (.composite (derivation.template.filled wrapped) cause)

namespace Composite

open Template

variable {source : String} {flags : Nat} {wrapped : List WrappedField} {error : PatternError}

theorem assemble_of_fillText {fault : TemplateError}
    (h : fillText source (wrapped.map WrappedField.name) (renderReference wrapped) ⟨[], []⟩ =
      .error fault) :
    assemble source wrapped flags = .error (.template fault) :=
  bind_eq_error.mpr (Or.inl (mapError_eq_error.mpr ⟨fault, h, rfl⟩))

theorem assemble_eq_error_iff (hregular : WrappedField.Regular wrapped)
    (htyped : error.isTyped = true) :
    assemble source wrapped flags = .error error ↔ TemplateFault source flags wrapped error := by
  constructor
  · intro h
    cases hparse : parse source with
    | error fault =>
        cases h.symm.trans (assemble_of_fillText (fillText_eq_error_iff.mpr (Or.inl hparse)))
        obtain ⟨stuck, hsource, hreports⟩ := parse_eq_error_iff.mp hparse
        exact .malformed hsource hreports
    | ok template =>
        obtain ⟨derivation, hsource, rfl⟩ := parse_eq_ok_iff.mp hparse
        cases hcheck : derivation.template.checkFields (wrapped.map WrappedField.name) with
        | error fault =>
            cases h.symm.trans (assemble_of_fillText
              (fillText_eq_error_iff.mpr (Or.inr ⟨_, hparse, hcheck⟩)))
            obtain ⟨placeholder, hfirst, rfl⟩ := checkFields_eq_error_iff.mp hcheck
            exact .unknown hsource hfirst
        | ok _ =>
            have hknown := checkFields_eq_ok hcheck
            cases hregex : Regex.compile (derivation.template.filled wrapped) flags with
            | ok regex =>
                obtain ⟨index, _, hassemble, _⟩ := assemble_of_compiles hregular hparse hknown hregex
                cases h.symm.trans hassemble
            | error cause =>
                cases h.symm.trans (assemble_of_error hregular hparse hknown hregex)
                cases cause with
                | malformed cause => exact .composite hsource hknown hregex
                | refused refusal => cases htyped
  · intro h
    cases h with
    | malformed hsource hreports =>
        exact assemble_of_fillText (fillText_eq_error_iff.mpr
          (Or.inl (parse_eq_error_iff.mpr ⟨_, hsource, hreports⟩)))
    | unknown hsource hfirst =>
        exact assemble_of_fillText (fillText_eq_error_iff.mpr
          (Or.inr ⟨_, parse_eq_ok_iff.mpr ⟨_, hsource, rfl⟩,
            checkFields_eq_error_iff.mpr ⟨_, hfirst, rfl⟩⟩))
    | composite hsource hknown hregex =>
        exact assemble_of_error hregular (parse_eq_ok_iff.mpr ⟨_, hsource, rfl⟩) hknown hregex

theorem assemble_eq_ok_iff {text : String} {regex : Regex} (hregular : WrappedField.Regular wrapped) :
    (∃ index, assemble source wrapped flags = .ok ⟨text, regex, index⟩) ↔
      ∃ derivation : Derivation, derivation.chars = source.toList ∧
        (∀ placeholder ∈ derivation.template.placeholders,
          placeholder.field ∈ wrapped.map WrappedField.name) ∧
        text = derivation.template.filled wrapped ∧ Regex.compile text flags = .ok regex := by
  constructor
  · rintro ⟨index, h⟩
    obtain ⟨_, hfill, _⟩ := bind_eq_ok.mp h
    obtain ⟨template, hparse, hknown, _⟩ := fillText_eq_ok (mapError_eq_ok.mp hfill)
    obtain ⟨derivation, hsource, rfl⟩ := parse_eq_ok_iff.mp hparse
    cases hregex : Regex.compile (derivation.template.filled wrapped) flags with
    | error cause => cases h.symm.trans (assemble_of_error hregular hparse hknown hregex)
    | ok other =>
        obtain ⟨_, _, hassemble, _⟩ := assemble_of_compiles hregular hparse hknown hregex
        cases h.symm.trans hassemble
        exact ⟨derivation, hsource, hknown, rfl, hregex⟩
  · rintro ⟨derivation, hsource, hknown, rfl, hregex⟩
    have hparse := parse_eq_ok_iff.mpr ⟨derivation, hsource, rfl⟩
    obtain ⟨index, _, hassemble, _⟩ := assemble_of_compiles hregular hparse hknown hregex
    exact ⟨index, hassemble⟩

end Composite

end RecordPattern
