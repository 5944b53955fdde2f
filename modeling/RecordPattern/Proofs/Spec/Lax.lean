import RecordPattern.Proofs.Outcome
import RecordPattern.Proofs.Text.Utf8
import RecordPattern.Spec.Validation

namespace RecordPattern

open Outcome Text

namespace Value

-- A value counts as a text if it is one, or if it is the bytes of one.
inductive ReadsAs : Value → String → Prop
  | text (text : String) : ReadsAs (.text text) text
  | bytes (text : List Char) : ReadsAs (.bytes (Utf8.encode text)) (String.ofList text)

-- What is wrong with a value that does not count as a text.
inductive Unreadable : Value → SpecIssue → Prop
  | bytes {bytes : List UInt8} (hbytes : ∀ text, bytes ≠ Utf8.encode text) :
      Unreadable (.bytes bytes) .brokenText
  | other {value : Value} (htext : ∀ text, value ≠ .text text)
      (hbytes : ∀ bytes, value ≠ .bytes bytes) : Unreadable value .notText

-- A sequence of any kind counts as a list.
inductive Lists : Value → List Value → Prop
  | list (items : List Value) : Lists (.list items) items
  | tuple (items : List Value) : Lists (.tuple items) items
  | set (items : List Value) : Lists (.set items) items

theorem readsAs_or_unreadable (value : Value) :
    (∃ text, value.ReadsAs text) ∨ ∃ issue, value.Unreadable issue := by
  cases value with
  | text text => exact Or.inl ⟨text, .text text⟩
  | bytes bytes =>
      by_cases htext : ∃ text, bytes = Utf8.encode text
      · obtain ⟨text, rfl⟩ := htext
        exact Or.inl ⟨_, .bytes text⟩
      · exact Or.inr ⟨_, .bytes (not_exists.mp htext)⟩
  | _ => exact Or.inr ⟨_, .other nofun nofun⟩

end Value

namespace Lax

-- What is known of the rules for raw values.
structure Documented (lax : Lax) : Prop where
  text : ∀ {value : Value} {text : String}, value.ReadsAs text → lax.text value = .ok text
  unreadable : ∀ {value : Value} {issue : SpecIssue},
    value.Unreadable issue → lax.text value = .error issue
  items : ∀ {contents : Value} {items : List Value},
    contents.Lists items → lax.items? contents = some items
  noItems : ∀ {contents : Value},
    (∀ items, ¬contents.Lists items) → lax.items? contents = none
  entries : ∀ (readOnly : Bool) (entries : List (Value × Value)),
    lax.entries? (.mapping readOnly entries) = some entries
  noEntries : ∀ {contents : Value},
    (∀ readOnly entries, contents ≠ .mapping readOnly entries) → lax.entries? contents = none

namespace Documented

variable {lax : Lax} {value contents : Value} {text : String} {issue : SpecIssue}

theorem text_eq_ok_iff (h : lax.Documented) : lax.text value = .ok text ↔ value.ReadsAs text := by
  constructor
  · intro htext
    rcases value.readsAs_or_unreadable with ⟨other, hother⟩ | ⟨issue, hissue⟩
    · cases htext.symm.trans (h.text hother)
      exact hother
    · cases htext.symm.trans (h.unreadable hissue)
  · exact h.text

theorem text_eq_error_iff (h : lax.Documented) :
    lax.text value = .error issue ↔ value.Unreadable issue := by
  constructor
  · intro herror
    rcases value.readsAs_or_unreadable with ⟨text, htext⟩ | ⟨other, hother⟩
    · cases herror.symm.trans (h.text htext)
    · cases herror.symm.trans (h.unreadable hother)
      exact hother
  · exact h.unreadable

theorem items?_eq_some_iff (h : lax.Documented) {items : List Value} :
    lax.items? contents = some items ↔ contents.Lists items := by
  constructor
  · intro hitems
    by_cases hlists : ∃ others, contents.Lists others
    · obtain ⟨others, hothers⟩ := hlists
      cases hitems.symm.trans (h.items hothers)
      exact hothers
    · cases hitems.symm.trans (h.noItems (not_exists.mp hlists))
  · exact h.items

theorem items?_eq_none_iff (h : lax.Documented) :
    lax.items? contents = none ↔ ∀ items, ¬contents.Lists items := by
  constructor
  · intro hnone items hitems
    cases hnone.symm.trans (h.items hitems)
  · exact h.noItems

end Documented

theorem standard_documented : standard.Documented where
  text h := by
    cases h with
    | text => rfl
    | bytes chars => simp [standard, Utf8.decode_encode]
  unreadable {value _} h := by
    cases h with
    | @bytes bytes hbytes =>
        cases hdecode : Utf8.decode bytes with
        | ok chars => exact absurd (Utf8.decode_eq_ok_iff.mp hdecode) (hbytes chars)
        | error error => simp [standard, hdecode]
    | other htext hbytes =>
        cases value with
        | text text => exact absurd rfl (htext text)
        | bytes bytes => exact absurd rfl (hbytes bytes)
        | _ => rfl
  items h := by cases h <;> rfl
  noItems {contents} h := by
    cases contents with
    | list items => exact absurd (.list items) (h items)
    | tuple items => exact absurd (.tuple items) (h items)
    | set items => exact absurd (.set items) (h items)
    | _ => rfl
  entries _ _ := rfl
  noEntries {contents} h := by
    cases contents with
    | mapping readOnly entries => exact absurd rfl (h readOnly entries)
    | _ => rfl

end Lax

namespace Value

-- There are rules that go by these judgments, so each of them leaves no choice.
theorem ReadsAs.unique {value : Value} {text other : String} (h : value.ReadsAs text)
    (hother : value.ReadsAs other) : text = other :=
  Except.ok.inj ((Lax.standard_documented.text h).symm.trans (Lax.standard_documented.text hother))

theorem ReadsAs.not_unreadable {value : Value} {text : String} {issue : SpecIssue}
    (h : value.ReadsAs text) : ¬value.Unreadable issue := by
  intro hissue
  cases (Lax.standard_documented.text h).symm.trans (Lax.standard_documented.unreadable hissue)

theorem Lists.unique {contents : Value} {items others : List Value} (h : contents.Lists items)
    (hother : contents.Lists others) : items = others :=
  Option.some.inj ((Lax.standard_documented.items h).symm.trans (Lax.standard_documented.items hother))

end Value

end RecordPattern
