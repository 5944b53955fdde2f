import RecordPattern.Proofs.Outcome
import RecordPattern.Proofs.Text.Run
import RecordPattern.Schema.Wrapped

namespace RecordPattern

open Outcome Text

theorem isDecimalDigit_of_isDigit {c : Char} (h : c.isDigit = true) : isDecimalDigit c = true := by
  have hrange : '0' ≤ c ∧ c ≤ '9' := by
    simp only [Char.isDigit, Bool.and_eq_true, decide_eq_true_eq] at h
    exact h
  have hascii : c.toNat < 128 := Nat.lt_of_le_of_lt (UInt32.le_iff_toNat_le.mp hrange.2) (by decide)
  simp [isDecimalDigit, decimalValue?, hascii, digitValue?, hrange]

theorem toList_aliasName (field : String) (occurrence : Nat) :
    (aliasName field occurrence).toList =
      field.toList ++ '_' :: '_' :: Nat.toDigits 10 occurrence := by
  simp [aliasName, Nat.toString_eq_repr, Nat.toList_repr]

theorem isDecimalDigit_of_mem_toDigits {occurrence : Nat} :
    ∀ c ∈ Nat.toDigits 10 occurrence, isDecimalDigit c = true :=
  fun _ hc => isDecimalDigit_of_isDigit (Nat.isDigit_of_mem_toDigits (by decide) (by decide) hc)

-- The digits at the end of a name stop at an underscore before them, which is none.
theorem takeWhile_reverse_numbered {stem digits : List Char}
    (hdigits : ∀ c ∈ digits, isDecimalDigit c = true) :
    (stem ++ '_' :: '_' :: digits).reverse.takeWhile isDecimalDigit = digits.reverse := by
  have hreverse : (stem ++ '_' :: '_' :: digits).reverse =
      digits.reverse ++ '_' :: '_' :: stem.reverse := by simp
  rw [hreverse]
  exact takeWhile_until (by simpa using hdigits) (by decide) _

theorem takeWhile_reverse_aliasName (field : String) (occurrence : Nat) :
    (aliasName field occurrence).toList.reverse.takeWhile isDecimalDigit =
      (Nat.toDigits 10 occurrence).reverse := by
  rw [toList_aliasName]
  exact takeWhile_reverse_numbered isDecimalDigit_of_mem_toDigits

-- The name of a further reference tells which field it refers to and how many came before.
theorem aliasName_injective {field other : String} {occurrence count : Nat}
    (h : aliasName field occurrence = aliasName other count) :
    field = other ∧ occurrence = count := by
  have hdigits : Nat.toDigits 10 occurrence = Nat.toDigits 10 count := by
    rw [← List.reverse_inj, ← takeWhile_reverse_aliasName field, ← takeWhile_reverse_aliasName other, h]
  have hcount : occurrence = count := by
    simpa using congrArg (fun digits => Nat.ofDigitChars 10 digits 0) hdigits
  have hlists := congrArg String.toList h
  rw [toList_aliasName, toList_aliasName, hdigits] at hlists
  exact ⟨String.toList_inj.mp (List.append_cancel_right hlists), hcount⟩

-- Two underscores with decimal digits of any script after them stand at the end of a name.
def EndsNumbered (name : List Char) : Prop :=
  ∃ stem digits, digits ≠ [] ∧ (∀ c ∈ digits, isDecimalDigit c = true) ∧
    name = stem ++ '_' :: '_' :: digits

theorem isReserved_iff {name : List Char} : isReserved name = true ↔ EndsNumbered name := by
  constructor
  · intro h
    unfold isReserved at h
    simp only at h
    split at h
    next first others stem hdigits hrest =>
      have htake := List.prefix_iff_eq_take.mp
        (List.takeWhile_prefix isDecimalDigit (l := name.reverse))
      have hsplit := List.take_append_drop (name.reverse.takeWhile isDecimalDigit).length name.reverse
      rw [← htake, hrest] at hsplit
      refine ⟨stem.reverse, (name.reverse.takeWhile isDecimalDigit).reverse, by simp [hdigits],
        fun c hc => List.mem_takeWhile_imp (List.mem_reverse.mp hc), ?_⟩
      simpa using (congrArg List.reverse hsplit).symm
    · cases h
  · rintro ⟨stem, digits, hne, hdigits, rfl⟩
    have hrest : (stem ++ '_' :: '_' :: digits).reverse.drop digits.reverse.length =
        '_' :: '_' :: stem.reverse := by simp
    obtain ⟨last, others, hlast⟩ :=
      List.exists_cons_of_ne_nil (by simpa using hne : digits.reverse ≠ [])
    unfold isReserved
    simp only [takeWhile_reverse_numbered hdigits, hrest]
    simp only [hlast]

-- The names of further references are just what field names may not look like.
theorem isReserved_aliasName (field : String) (occurrence : Nat) :
    isReserved (aliasName field occurrence).toList = true := by
  rw [isReserved_iff]
  exact ⟨field.toList, Nat.toDigits 10 occurrence, by simp, isDecimalDigit_of_mem_toDigits,
    toList_aliasName field occurrence⟩

-- What a schema's entry has to be for a field to come of it.
structure FieldOf (flags : Nat) (entry : Value × Value) (field : WrappedField) : Prop where
  name : entry.1 = .text field.name
  identifier : isIdentifier field.name.toList = true
  unreserved : isReserved field.name.toList = false
  group : field.group = wrapGroup field.name field.pattern

theorem fieldName_eq_ok {key : Value} {name : String} (h : fieldName key = .ok name) :
    key = .text name ∧ isIdentifier name.toList = true ∧ isReserved name.toList = false := by
  unfold fieldName at h
  split at h
  next given =>
    split at h
    · cases h
    · split at h
      · cases h
      next hid =>
        split at h
        · cases h
        next hres =>
          cases h
          exact ⟨rfl, by simpa using hid, by simpa using hres⟩
  next => cases h

theorem wrapField_eq_ok {flags : Nat} {entry : Value × Value} {field : WrappedField}
    (h : wrapField flags entry = .ok field) : FieldOf flags entry field := by
  obtain ⟨name, hname, h⟩ := bind_eq_ok.mp h
  obtain ⟨hkey, hid, hres⟩ := fieldName_eq_ok (mapError_eq_ok.mp hname)
  split at h
  next pattern hpattern =>
    split at h
    · cases h
    · obtain ⟨_, _, h⟩ := bind_eq_ok.mp h
      obtain ⟨_, _, h⟩ := bind_eq_ok.mp h
      cases h
      exact ⟨hkey, hid, hres, rfl⟩
  next => cases h

end RecordPattern
