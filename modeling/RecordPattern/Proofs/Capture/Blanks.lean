import RecordPattern.Proofs.Capture.Resolution
import RecordPattern.Proofs.Template.Parsing

namespace RecordPattern.Capture

-- A group that took no part, or that captured the empty text.
def IsBlank (capture : Option String) : Prop :=
  capture = none ∨ capture = some ""

-- A position at which there is no text to be had: it is past the end, or the group there is blank.
def BlankAt (submatches : Submatches) (position : Nat) : Prop :=
  submatches.length ≤ position ∨ ∃ capture, submatches[position]? = some capture ∧ IsBlank capture

-- The text at the first of some positions, taken as they come, that is not a blank one.
def FirstText (submatches : Submatches) (positions : List Nat) (text : String) : Prop :=
  ∃ before position after, positions = before ++ position :: after ∧
    submatches[position]? = some (some text) ∧ text ≠ "" ∧ ∀ earlier ∈ before, BlankAt submatches earlier

-- Captures that differ at most in how they are blank.
def SameCapture (capture other : Option String) : Prop :=
  capture = other ∨ IsBlank capture ∧ IsBlank other

variable {submatches other : Submatches} {position : Nat} {text : String}

theorem nonEmptyAt?_eq_none_iff : nonEmptyAt? submatches position = none ↔ BlankAt submatches position := by
  rw [Option.eq_none_iff_forall_ne_some]
  simp only [ne_eq, nonEmptyAt?_eq_some_iff]
  constructor
  · intro h
    by_cases hpast : submatches.length ≤ position
    · exact Or.inl hpast
    · have hinside : position < submatches.length := by omega
      refine Or.inr ⟨submatches[position], List.getElem?_eq_getElem hinside, ?_⟩
      cases hcapture : submatches[position] with
      | none => exact Or.inl rfl
      | some captured =>
          have hempty := h captured
          rw [List.getElem?_eq_getElem hinside, hcapture] at hempty
          simpa [IsBlank] using hempty
  · rintro (hpast | ⟨capture, hcapture, rfl | rfl⟩) captured ⟨hcaptured, hne⟩
    · rw [List.getElem?_eq_none hpast] at hcaptured
      cases hcaptured
    · cases hcapture.symm.trans hcaptured
    · cases hcapture.symm.trans hcaptured
      exact hne rfl

theorem firstNonEmpty_eq_some_iff_firstText {positions : List Nat} :
    firstNonEmpty submatches positions = some text ↔ FirstText submatches positions text := by
  unfold firstNonEmpty FirstText
  rw [List.findSome?_eq_some_iff]
  simp only [nonEmptyAt?_eq_some_iff, nonEmptyAt?_eq_none_iff, and_assoc]

-- An entry at which there is no text may stand anywhere or be left out.
theorem firstNonEmpty_insert (before after : List Nat) (h : BlankAt submatches position) :
    firstNonEmpty submatches (before ++ position :: after) =
      firstNonEmpty submatches (before ++ after) := by
  have hnone := nonEmptyAt?_eq_none_iff.mpr h
  simp [firstNonEmpty, List.findSome?_append, hnone]

-- Captures that differ only in how they are blank give the same texts.
theorem nonEmptyAt?_congr (h : List.Forall₂ SameCapture submatches other) (position : Nat) :
    nonEmptyAt? submatches position = nonEmptyAt? other position := by
  have hlength := h.length_eq
  by_cases hpast : submatches.length ≤ position
  · have hblank : BlankAt other position := Or.inl (by omega)
    rw [nonEmptyAt?_eq_none_iff.mpr (Or.inl hpast), nonEmptyAt?_eq_none_iff.mpr hblank]
  · have hinside : position < submatches.length := by omega
    have hsame : SameCapture submatches[position] other[position] := h.get hinside (by omega)
    rcases hsame with hequal | ⟨hblank, hother⟩
    · unfold nonEmptyAt?
      rw [List.getElem?_eq_getElem hinside, List.getElem?_eq_getElem (by omega), hequal]
    · rw [nonEmptyAt?_eq_none_iff.mpr (Or.inr ⟨_, List.getElem?_eq_getElem hinside, hblank⟩),
        nonEmptyAt?_eq_none_iff.mpr (Or.inr ⟨_, List.getElem?_eq_getElem (by omega), hother⟩)]

-- Blank groups at the end count as if they were not there.
theorem nonEmptyAt?_append {tail : Submatches} (h : ∀ capture ∈ tail, IsBlank capture) (position : Nat) :
    nonEmptyAt? (submatches ++ tail) position = nonEmptyAt? submatches position := by
  by_cases hinside : position < submatches.length
  · unfold nonEmptyAt?
    rw [List.getElem?_append_left hinside]
  · have hpast : BlankAt submatches position := Or.inl (by omega)
    rw [nonEmptyAt?_eq_none_iff.mpr hpast, nonEmptyAt?_eq_none_iff]
    by_cases hend : (submatches ++ tail).length ≤ position
    · exact Or.inl hend
    · have hlast : position < (submatches ++ tail).length := by omega
      have hcapture := List.getElem?_eq_getElem hlast
      rw [List.getElem?_append_right (by omega)] at hcapture
      refine Or.inr ⟨_, List.getElem?_eq_getElem hlast, h _ ?_⟩
      exact List.mem_of_getElem? hcapture

-- What is resolved depends on the submatches only by the texts that are not empty.
theorem resolve_congr (h : ∀ position, nonEmptyAt? submatches position = nonEmptyAt? other position)
    (index : GroupIndex) (fields : List String) :
    resolve submatches index fields = resolve other index fields := by
  unfold resolve firstNonEmpty
  rw [show nonEmptyAt? submatches = nonEmptyAt? other from funext h]

theorem resolve_insert (front back : GroupIndex) (field : String) (before after : List Nat)
    (h : BlankAt submatches position) (fields : List String) :
    resolve submatches (front ++ (field, before ++ position :: after) :: back) fields =
      resolve submatches (front ++ (field, before ++ after) :: back) fields := by
  unfold resolve positionsOf
  congr 1
  funext name
  rw [List.lookup_append, List.lookup_append, List.lookup_cons, List.lookup_cons]
  cases front.lookup name with
  | some positions => rfl
  | none =>
      by_cases hname : name = field
      · simp [hname, firstNonEmpty_insert before after h]
      · simp [beq_false_of_ne hname]

theorem mem_resolve_iff {index : GroupIndex} {fields : List String} {field : String} :
    (field, text) ∈ resolve submatches index fields ↔
      field ∈ fields ∧ FirstText submatches (positionsOf index field) text := by
  unfold resolve
  simp only [List.mem_filterMap, List.mem_eraseDups, Option.map_eq_some_iff, Prod.mk.injEq,
    ← firstNonEmpty_eq_some_iff_firstText]
  constructor
  · rintro ⟨_, hfield, _, htext, rfl, rfl⟩
    exact ⟨hfield, htext⟩
  · rintro ⟨hfield, htext⟩
    exact ⟨field, hfield, text, htext, rfl, rfl⟩

-- The resolved fields come in the order in which they are first asked for.
theorem resolve_pairwise (submatches : Submatches) (index : GroupIndex) (fields : List String) :
    (resolve submatches index fields).Pairwise fun first second =>
      fields.idxOf first.1 < fields.idxOf second.1 := by
  refine (Template.firstSeen_eraseDups fields).ordered.filterMap _ ?_
  intro first second hlt entry hentry later hlater
  obtain ⟨_, _, rfl⟩ := Option.map_eq_some_iff.mp hentry
  obtain ⟨_, _, rfl⟩ := Option.map_eq_some_iff.mp hlater
  exact hlt

-- A field is resolved to the first of its captures that is not blank, and fields without one are
-- left out. How a capture is blank, blank ones at the end, and positions without a text do not
-- matter.
theorem resolve_exact (submatches : Submatches) (index : GroupIndex) (fields : List String) :
    (∀ field text, (field, text) ∈ resolve submatches index fields ↔
      field ∈ fields ∧ FirstText submatches (positionsOf index field) text) ∧
    (resolve submatches index fields).Pairwise (fun first second =>
      fields.idxOf first.1 < fields.idxOf second.1) ∧
    (∀ other, List.Forall₂ SameCapture submatches other →
      resolve other index fields = resolve submatches index fields) ∧
    (∀ tail, (∀ capture ∈ tail, IsBlank capture) →
      resolve (submatches ++ tail) index fields = resolve submatches index fields) ∧
    (∀ front field before position after back, index = front ++ (field, before ++ after) :: back →
      BlankAt submatches position →
        resolve submatches (front ++ (field, before ++ position :: after) :: back) fields =
          resolve submatches index fields) ∧
    ∀ field, (field, "") ∉ resolve submatches index fields := by
  refine ⟨fun field text => mem_resolve_iff, resolve_pairwise submatches index fields, ?_, ?_, ?_, ?_⟩
  · intro other hsame
    exact (resolve_congr (nonEmptyAt?_congr hsame) index fields).symm
  · intro tail htail
    exact resolve_congr (nonEmptyAt?_append htail) index fields
  · rintro front field before position after back rfl hblank
    exact resolve_insert front back field before after hblank fields
  · intro field hmem
    obtain ⟨_, _, _, _, _, _, hne, _⟩ := mem_resolve_iff.mp hmem
    exact hne rfl

-- Two fields, of which one is asked for twice, with a blank capture and a position past the end.
theorem resolve_exact_blank :
    ("Age", "33") ∈ resolve ["x", none, some "", "Bob", "33"] [("Name", [9, 1, 3]), ("Age", [2, 4])]
      ["Age", "Name", "Age"] ∧
    resolve ["x", some "", none, "Bob", "33", none] [("Name", [9, 1, 3]), ("Age", [2, 4])]
      ["Age", "Name", "Age"] = [("Age", "33"), ("Name", "Bob")] ∧
    resolve ["x", none, some "", "Bob", "33"] [("Name", [9, 1, 7, 3]), ("Age", [2, 4])]
      ["Age", "Name", "Age"] = [("Age", "33"), ("Name", "Bob")] := by
  have hexact := resolve_exact ["x", none, some "", "Bob", "33"] [("Name", [9, 1, 3]), ("Age", [2, 4])]
    ["Age", "Name", "Age"]
  have hplain : resolve ["x", none, some "", "Bob", "33"] [("Name", [9, 1, 3]), ("Age", [2, 4])]
      ["Age", "Name", "Age"] = [("Age", "33"), ("Name", "Bob")] := by decide
  refine ⟨(hexact.1 "Age" "33").mpr ⟨by decide, [2], 4, [], rfl, rfl, by decide, ?_⟩, ?_, ?_⟩
  · intro earlier he
    obtain rfl := List.mem_singleton.mp he
    exact Or.inr ⟨some "", rfl, Or.inr rfl⟩
  · have hsame : List.Forall₂ SameCapture ["x", none, some "", "Bob", "33"]
        ["x", some "", none, "Bob", "33"] :=
      .cons (Or.inl rfl) (.cons (Or.inr ⟨Or.inl rfl, Or.inr rfl⟩)
        (.cons (Or.inr ⟨Or.inr rfl, Or.inl rfl⟩) (.cons (Or.inl rfl) (.cons (Or.inl rfl) .nil))))
    have hswapped := (resolve_exact ["x", some "", none, "Bob", "33"]
      [("Name", [9, 1, 3]), ("Age", [2, 4])] ["Age", "Name", "Age"]).2.2.2.1 [none] (by simp [IsBlank])
    exact hswapped.trans ((hexact.2.2.1 _ hsame).trans hplain)
  · have hpast : BlankAt ["x", none, some "", "Bob", "33"] 7 := Or.inl (by decide)
    exact (hexact.2.2.2.2.1 [] "Name" [9, 1] 7 [3] [("Age", [2, 4])] rfl hpast).trans hplain

end RecordPattern.Capture
