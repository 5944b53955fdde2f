import Mathlib.Data.List.Nodup
import RecordPattern.Proofs.Composite.References
import RecordPattern.Proofs.Schema.Wrapped
import RecordPattern.Proofs.Text.Identifier

namespace RecordPattern

open Outcome Text

-- A capture group in the place of a reference: the literal text before it, the field referred
-- to, the name of the group and what it encloses.
structure Insertion where
  literal : List Char
  field : String
  name : String
  pattern : String
  deriving DecidableEq, Repr

def Insertion.text (insertion : Insertion) : List Char :=
  insertion.literal ++ (wrapGroup insertion.name insertion.pattern).toList

-- The name of the group for a reference that comes after a number of others to its field.
def groupName (field : String) (earlier : Nat) : String :=
  if earlier = 0 then field else aliasName field (earlier + 1)

-- The names of the groups for a number of references to a field.
def groupNames (field : String) (count : Nat) : List String :=
  (List.range count).map (groupName field)

theorem groupName_injective {field other : String} {earlier before : Nat}
    (hfield : isReserved field.toList = false) (hother : isReserved other.toList = false)
    (h : groupName field earlier = groupName other before) : field = other ∧ earlier = before := by
  unfold groupName at h
  split at h
  next hzero =>
    split at h
    next hnone => exact ⟨h, hzero.trans hnone.symm⟩
    next =>
      rw [h, isReserved_aliasName] at hfield
      cases hfield
  next =>
    split at h
    next =>
      rw [← h, isReserved_aliasName] at hother
      cases hother
    next =>
      obtain ⟨hsame, hcount⟩ := aliasName_injective h
      exact ⟨hsame, Nat.succ.inj hcount⟩

theorem isIdentifierPart_of_isDigit {c : Char} (h : c.isDigit = true) : isIdentifierPart c = true := by
  have hrange : c ≤ '9' := by
    simp only [Char.isDigit, Bool.and_eq_true, decide_eq_true_eq] at h
    exact h.2
  have hascii : c.toNat < 128 := Nat.lt_of_le_of_lt (UInt32.le_iff_toNat_le.mp hrange) (by decide)
  simp [isIdentifierPart, hascii, Char.isAlphanum, h]

theorem isIdentifier_append {name suffix : List Char} (h : isIdentifier name = true)
    (hs : ∀ c ∈ suffix, isIdentifierPart c = true) : isIdentifier (name ++ suffix) = true := by
  cases name with
  | nil => cases h
  | cons first rest =>
      simp only [isIdentifier, Bool.and_eq_true, List.all_eq_true] at h
      simp only [List.cons_append, isIdentifier, Bool.and_eq_true, List.all_eq_true, List.mem_append]
      exact ⟨h.1, fun c hc => hc.elim (h.2 c) (hs c)⟩

theorem isIdentifier_groupName {field : String} (h : isIdentifier field.toList = true)
    (earlier : Nat) : isIdentifier (groupName field earlier).toList = true := by
  unfold groupName
  split
  · exact h
  · rw [toList_aliasName]
    refine isIdentifier_append h (List.forall_mem_cons.mpr ⟨by decide, ?_⟩)
    refine List.forall_mem_cons.mpr ⟨by decide, fun c hc => ?_⟩
    exact isIdentifierPart_of_isDigit (Nat.isDigit_of_mem_toDigits (by decide) (by decide) hc)

theorem mem_groupNames_iff {field name : String} {count : Nat} :
    name ∈ groupNames field count ↔ ∃ earlier < count, name = groupName field earlier := by
  simp [groupNames, eq_comm]

theorem groupNames_nodup {field : String} (h : isReserved field.toList = false) (count : Nat) :
    (groupNames field count).Nodup :=
  List.Nodup.map (fun _ _ hname => (groupName_injective h h hname).2) List.nodup_range

namespace Template

variable {wrapped : List WrappedField} {earlier : List String}
  {pieces : List (List Char × Placeholder)} {template : Template}

-- The sub-pattern of a field.
def patternOf (wrapped : List WrappedField) (field : String) : String :=
  ((Composite.findField? wrapped field).map WrappedField.pattern).getD ""

-- The groups for the references of a template, after some references before it.
def insertionsAfter (wrapped : List WrappedField) :
    List String → List (List Char × Placeholder) → List Insertion
  | _, [] => []
  | earlier, (literal, placeholder) :: rest =>
    let field := placeholder.field
    ⟨literal, field, groupName field (earlier.count field), patternOf wrapped field⟩ ::
      insertionsAfter wrapped (field :: earlier) rest

def insertions (template : Template) (wrapped : List WrappedField) : List Insertion :=
  insertionsAfter wrapped [] template.pieces

-- The text of a template with groups in the place of its references.
def filled (template : Template) (wrapped : List WrappedField) : String :=
  String.ofList ((template.insertions wrapped).flatMap Insertion.text ++ template.tail)

theorem exists_groupName_of_mem {insertion : Insertion}
    (h : insertion ∈ insertionsAfter wrapped earlier pieces) :
    insertion.field ∈ pieces.map (·.2.field) ∧
      ∃ before, earlier.count insertion.field ≤ before ∧
        insertion.name = groupName insertion.field before := by
  induction pieces generalizing earlier with
  | nil => cases h
  | cons piece rest ih =>
      rcases List.mem_cons.mp h with rfl | h
      · exact ⟨by simp, _, Nat.le_refl _, rfl⟩
      · obtain ⟨hfield, before, hle, hname⟩ := ih h
        exact ⟨List.mem_cons_of_mem _ hfield, before, Nat.le_trans List.count_le_count_cons hle, hname⟩

-- The names of all groups are told apart: each is made from its field and from how many
-- references to the field come before, and both can be read off it.
theorem insertionsAfter_names_nodup
    (hreserved : ∀ piece ∈ pieces, isReserved piece.2.field.toList = false) :
    ((insertionsAfter wrapped earlier pieces).map Insertion.name).Nodup := by
  induction pieces generalizing earlier with
  | nil => exact List.nodup_nil
  | cons piece rest ih =>
      obtain ⟨hfirst, hrest⟩ := List.forall_mem_cons.mp hreserved
      refine List.nodup_cons.mpr ⟨fun hmem => ?_, ih hrest⟩
      obtain ⟨other, ho, hname⟩ := List.mem_map.mp hmem
      obtain ⟨hfield, before, hle, hother⟩ := exists_groupName_of_mem ho
      obtain ⟨piece', hpiece', hsame⟩ := List.mem_map.mp hfield
      have hunreserved : isReserved other.field.toList = false := hsame ▸ hrest piece' hpiece'
      obtain ⟨heq, hcount⟩ := groupName_injective hunreserved hfirst (hother.symm.trans hname)
      rw [heq, List.count_cons_self] at hle
      omega

-- The groups of one field have its names, in order.
theorem insertionsAfter_names_of_field (field : String) :
    ((insertionsAfter wrapped earlier pieces).filter (·.field = field)).map Insertion.name =
      (List.range' (earlier.count field) ((pieces.map (·.2.field)).count field)).map
        (groupName field) := by
  induction pieces generalizing earlier with
  | nil => rfl
  | cons piece rest ih =>
      obtain ⟨literal, placeholder⟩ := piece
      have hrest := @ih (placeholder.field :: earlier)
      by_cases hfield : placeholder.field = field
      · subst hfield
        rw [List.count_cons_self] at hrest
        simp only [insertionsAfter, List.filter_cons, decide_true, if_true, List.map_cons, hrest,
          List.count_cons_self, List.range'_succ]
      · rw [List.count_cons_of_ne hfield] at hrest
        simp only [insertionsAfter, List.filter_cons, hfield, decide_false, Bool.false_eq_true,
          if_false, hrest, List.map_cons, List.count_cons_of_ne (hfield ·)]

theorem insertions_names_of_field (template : Template) (wrapped : List WrappedField)
    (field : String) :
    ((template.insertions wrapped).filter (·.field = field)).map Insertion.name =
      groupNames field (template.referenceCount field) := by
  have h := @insertionsAfter_names_of_field wrapped [] template.pieces field
  rw [List.count_nil, ← List.range_eq_range'] at h
  simpa [insertions, groupNames, referenceCount, placeholders, Function.comp_def] using h

end Template

namespace Composite

variable {wrapped : List WrappedField} {references : References} {placeholder : Placeholder}

-- Rendering a reference writes a group with the name for it around the field's sub-pattern.
theorem renderReference_fst (hgroup : ∀ field ∈ wrapped, field.group = wrapGroup field.name field.pattern)
    (hknown : placeholder.field ∈ wrapped.map WrappedField.name) :
    (renderReference wrapped references placeholder).1 =
      (wrapGroup (groupName placeholder.field (references.seen.count placeholder.field))
        (Template.patternOf wrapped placeholder.field)).toList := by
  obtain ⟨field, hfind, hmem, hname⟩ := findField?_eq_some hknown
  unfold renderReference Template.patternOf groupName
  rw [← hname] at hfind ⊢
  simp only [hfind, Option.map_some, Option.getD_some]
  by_cases hfirst : references.seen.count field.name = 0
  · simp [hfirst, hgroup field hmem]
  · simp [hfirst]

theorem renderReference_seen (hknown : placeholder.field ∈ wrapped.map WrappedField.name) :
    (renderReference wrapped references placeholder).2.seen = placeholder.field :: references.seen := by
  obtain ⟨field, hfind, _, hname⟩ := findField?_eq_some hknown
  unfold renderReference
  rw [← hname] at hfind ⊢
  simp only [hfind]
  split <;> rfl

theorem fillPieces_fst {pieces : List (List Char × Placeholder)}
    (hgroup : ∀ field ∈ wrapped, field.group = wrapGroup field.name field.pattern)
    (hknown : ∀ piece ∈ pieces, piece.2.field ∈ wrapped.map WrappedField.name) :
    (Template.fillPieces (renderReference wrapped) pieces references).1 =
      (Template.insertionsAfter wrapped references.seen pieces).flatMap Insertion.text := by
  induction pieces generalizing references with
  | nil => rfl
  | cons piece rest ih =>
      obtain ⟨hfirst, hrest⟩ := List.forall_mem_cons.mp hknown
      simp only [Template.fillPieces, Template.insertionsAfter, List.flatMap_cons, Insertion.text,
        renderReference_fst hgroup hfirst, ih hrest, renderReference_seen hfirst]

-- The text of the composite is the template with a group in the place of each reference.
theorem fill_fst {template : Template}
    (hgroup : ∀ field ∈ wrapped, field.group = wrapGroup field.name field.pattern)
    (hknown : ∀ placeholder ∈ template.placeholders,
      placeholder.field ∈ wrapped.map WrappedField.name) :
    String.ofList (template.fill (renderReference wrapped) ⟨[], []⟩).1 = template.filled wrapped := by
  have hpieces : ∀ piece ∈ template.pieces, piece.2.field ∈ wrapped.map WrappedField.name :=
    fun piece hp => hknown piece.2 (List.mem_map_of_mem hp)
  have hfill := @fillPieces_fst wrapped ⟨[], []⟩ template.pieces hgroup hpieces
  simp only [Template.fill, hfill, Template.filled, Template.insertions]

end Composite

end RecordPattern
