import RecordPattern.Composite.Assembly
import RecordPattern.Proofs.Schema.GroupName

namespace RecordPattern

open Outcome

namespace Template

-- How often a template refers to a field.
def referenceCount (template : Template) (field : String) : Nat :=
  (template.placeholders.map Placeholder.field).count field

-- The group names that stand for a field: its own name, and one for each further reference.
def StandsFor (template : Template) (name field : String) : Prop :=
  name = field ∨ ∃ occurrence, 2 ≤ occurrence ∧ occurrence ≤ template.referenceCount field ∧
    name = aliasName field occurrence

-- The renderer's state passes through the placeholders in order.
theorem fillPieces_state {σ : Type} (render : σ → Placeholder → List Char × σ)
    (pieces : List (List Char × Placeholder)) (state : σ) :
    (fillPieces render pieces state).2 =
      (pieces.map (·.2)).foldl (fun state placeholder => (render state placeholder).2) state := by
  induction pieces generalizing state with
  | nil => rfl
  | cons piece rest ih => exact ih (render state piece.2).2

theorem checkFields_eq_ok {template : Template} {known : List String}
    (h : template.checkFields known = .ok ()) :
    ∀ placeholder ∈ template.placeholders, placeholder.field ∈ known := by
  unfold checkFields at h
  split at h
  · cases h
  next hnone =>
    intro placeholder hp
    simpa using List.find?_eq_none.mp hnone placeholder hp

theorem fillText_eq_ok {σ : Type} {text filled : String} {known : List String}
    {render : σ → Placeholder → List Char × σ} {state last : σ}
    (h : fillText text known render state = .ok (filled, last)) :
    ∃ template, parse text = .ok template ∧
      (∀ placeholder ∈ template.placeholders, placeholder.field ∈ known) ∧
      (String.ofList (template.fill render state).1, (template.fill render state).2) =
        (filled, last) := by
  obtain ⟨template, hparse, h⟩ := bind_eq_ok.mp h
  obtain ⟨_, hknown, h⟩ := bind_eq_ok.mp h
  cases h
  exact ⟨template, hparse, checkFields_eq_ok hknown, rfl⟩

end Template

-- The references to fields rendered so far are counted, and the further ones have their names.
structure References.Tallied (references : References) (fields : List String) : Prop where
  seen : references.seen = fields.reverse
  aliases : ∀ name field, (name, field) ∈ references.aliases ↔
    ∃ occurrence, 2 ≤ occurrence ∧ occurrence ≤ fields.count field ∧
      name = aliasName field occurrence

namespace References.Tallied

variable {references : References} {fields : List String}

theorem start : Tallied ⟨[], []⟩ [] :=
  ⟨rfl, by simp⟩

-- A name leads to one field only, so looking it up finds all there is.
theorem lookup_eq_some_iff (h : references.Tallied fields) (name field : String) :
    references.aliases.lookup name = some field ↔
      ∃ occurrence, 2 ≤ occurrence ∧ occurrence ≤ fields.count field ∧
        name = aliasName field occurrence := by
  rw [← h.aliases]
  constructor
  · intro hl
    obtain ⟨before, after, hsplit, _⟩ := List.lookup_eq_some_iff.mp hl
    simp [hsplit]
  · intro hm
    cases hl : references.aliases.lookup name with
    | none =>
        have hne := List.lookup_eq_none_iff.mp hl _ hm
        simp at hne
    | some other =>
        obtain ⟨before, after, hsplit, _⟩ := List.lookup_eq_some_iff.mp hl
        obtain ⟨n, _, _, hn⟩ := (h.aliases name field).mp hm
        obtain ⟨m, _, _, hm⟩ := (h.aliases name other).mp (by simp [hsplit])
        rw [(aliasName_injective (hn.symm.trans hm)).1]

theorem count_concat (fields : List String) (field other : String) :
    (fields ++ [field]).count other = fields.count other + if other = field then 1 else 0 := by
  by_cases ho : other = field
  · subst ho
    simp [List.count_append]
  · simp [List.count_append, ho, Ne.symm ho]

-- The first reference to a field has no name of its own: only counts from two on matter.
theorem first {field : String} (h : references.Tallied fields) (hfirst : fields.count field = 0) :
    Tallied ⟨field :: references.seen, references.aliases⟩ (fields ++ [field]) := by
  refine ⟨by simp [h.seen], fun name other => ?_⟩
  have hsame : ∀ occurrence, 2 ≤ occurrence →
      (occurrence ≤ (fields ++ [field]).count other ↔ occurrence ≤ fields.count other) := by
    intro occurrence htwo
    rw [count_concat]
    split
    next ho =>
      subst ho
      omega
    next => rw [Nat.add_zero]
  rw [h.aliases]
  constructor
  · rintro ⟨occurrence, htwo, hle, hn⟩
    exact ⟨occurrence, htwo, (hsame occurrence htwo).mpr hle, hn⟩
  · rintro ⟨occurrence, htwo, hle, hn⟩
    exact ⟨occurrence, htwo, (hsame occurrence htwo).mp hle, hn⟩

-- A further reference gets the name of its count.
theorem further {field : String} (h : references.Tallied fields)
    (hfurther : fields.count field ≠ 0) :
    Tallied ⟨field :: references.seen,
      references.aliases ++ [(aliasName field (fields.count field + 1), field)]⟩
      (fields ++ [field]) := by
  refine ⟨by simp [h.seen], fun name other => ?_⟩
  rw [List.mem_append, h.aliases, List.mem_singleton, Prod.mk.injEq, count_concat]
  by_cases ho : other = field
  · subst ho
    rw [if_pos rfl]
    constructor
    · rintro (⟨occurrence, htwo, hle, hn⟩ | ⟨hn, _⟩)
      · exact ⟨occurrence, htwo, by omega, hn⟩
      · exact ⟨_, by omega, Nat.le_refl _, hn⟩
    · rintro ⟨occurrence, htwo, hle, hn⟩
      by_cases hlast : occurrence = fields.count other + 1
      · exact Or.inr ⟨hlast ▸ hn, rfl⟩
      · exact Or.inl ⟨occurrence, htwo, by omega, hn⟩
  · simp [ho]

end References.Tallied

namespace Composite

theorem findField?_eq_some {wrapped : List WrappedField} {name : String}
    (h : name ∈ wrapped.map WrappedField.name) :
    ∃ field, findField? wrapped name = some field ∧ field ∈ wrapped ∧ field.name = name := by
  obtain ⟨given, hg, rfl⟩ := List.mem_map.mp h
  cases hf : findField? wrapped given.name with
  | none =>
      have hne := List.find?_eq_none.mp hf given hg
      simp at hne
  | some field =>
      exact ⟨field, rfl, List.mem_of_find?_eq_some hf,
        by simpa using List.find?_some hf⟩

-- Rendering a reference counts it, and names it if it is not the first to its field.
theorem renderReference_tallied {wrapped : List WrappedField} {references : References}
    {fields : List String} {placeholder : Placeholder} (h : references.Tallied fields)
    (hknown : placeholder.field ∈ wrapped.map WrappedField.name) :
    (renderReference wrapped references placeholder).2.Tallied (fields ++ [placeholder.field]) := by
  obtain ⟨field, hfind, _, hname⟩ := findField?_eq_some hknown
  have hcount : references.seen.count field.name = fields.count field.name := by
    rw [h.seen, List.count_reverse]
  unfold renderReference
  rw [← hname] at hfind ⊢
  simp only [hfind, hcount]
  split
  next hfirst => exact h.first (by omega)
  next hfurther => exact h.further (by omega)

-- After a whole template, each further reference has its name.
theorem foldl_renderReference_tallied {wrapped : List WrappedField} (placeholders : List Placeholder)
    (hknown : ∀ placeholder ∈ placeholders, placeholder.field ∈ wrapped.map WrappedField.name)
    {references : References} {fields : List String} (h : references.Tallied fields) :
    (placeholders.foldl (fun references placeholder =>
      (renderReference wrapped references placeholder).2) references).Tallied
        (fields ++ placeholders.map Placeholder.field) := by
  induction placeholders generalizing references fields with
  | nil => simpa using h
  | cons placeholder rest ih =>
      have hstep := renderReference_tallied h (hknown placeholder (by simp))
      have hrest := ih (fun other ho => hknown other (List.mem_cons_of_mem _ ho)) hstep
      simpa [List.append_assoc] using hrest

theorem fill_tallied {wrapped : List WrappedField} (template : Template)
    (hknown : ∀ placeholder ∈ template.placeholders,
      placeholder.field ∈ wrapped.map WrappedField.name) :
    (template.fill (renderReference wrapped) ⟨[], []⟩).2.Tallied
      (template.placeholders.map Placeholder.field) := by
  have hstate : (template.fill (renderReference wrapped) ⟨[], []⟩).2 =
      template.placeholders.foldl (fun references placeholder =>
        (renderReference wrapped references placeholder).2) ⟨[], []⟩ :=
    Template.fillPieces_state (renderReference wrapped) template.pieces ⟨[], []⟩
  rw [hstate]
  simpa using foldl_renderReference_tallied template.placeholders hknown References.Tallied.start

end Composite

end RecordPattern
