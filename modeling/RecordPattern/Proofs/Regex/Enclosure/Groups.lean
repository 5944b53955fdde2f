import RecordPattern.Proofs.Regex.Enclosure.Escape
import RecordPattern.Proofs.Regex.Enclosure.Raise
import RecordPattern.Text.Identifier

namespace RecordPattern.Regex

open Outcome Cursor Text

-- Whether three digits after a backslash make an octal code.
def isOctalCode (first : Char) : List Token → Bool
  | .plain second :: .plain third :: _ =>
    [first, second, third].all fun c => (octalValue? c).isSome
  | _ => false

-- Whether a pattern begins with a reference to a group by its number, or with a condition on one.
def refersByNumber : List Token → Bool
  | .escaped c :: rest => c.isDigit && c != '0' && !isOctalCode c rest
  | .plain '(' :: .plain '?' :: .plain '(' :: rest =>
    !isIdentifier (Token.textOf (rest.takeWhile (· ≠ .plain ')')))
  | _ => false

namespace Groups

-- The groups of a pattern that is read inside one more group, which is still open.
structure Inside (name : String) (inner outer : Groups) : Prop where
  names : outer.names = (name, 1) :: inner.names.map fun entry => (entry.1, entry.2 + 1)
  widths : outer.widths = .none :: inner.widths
  lookbehind : outer.lookbehind = inner.lookbehind.map (· + 1)
  fresh : inner.number? name = .none
  positive : ∀ entry ∈ inner.names, 1 ≤ entry.2

namespace Inside

variable {name : String} {inner outer : Groups}

theorem count_eq (h : inner.Inside name outer) : outer.count = inner.count + 1 := by
  simp [count, h.widths]

theorem number?_eq (h : inner.Inside name outer) {given : String} (hgiven : given ≠ name) :
    outer.number? given = (inner.number? given).map (· + 1) := by
  have hmap : ∀ names : List (String × Nat),
      (names.map fun entry => (entry.1, entry.2 + 1)).lookup given =
        (names.lookup given).map (· + 1) := by
    intro names
    induction names with
    | nil => rfl
    | cons entry rest ih =>
        obtain ⟨key, group⟩ := entry
        simp only [List.map_cons, List.lookup_cons, ih]
        split <;> rfl
  rw [number?, h.names, List.lookup_cons, beq_false_of_ne hgiven, hmap, number?]

theorem ne_of_number? (h : inner.Inside name outer) {given : String} {group : Nat}
    (hnumber : inner.number? given = some group) : given ≠ name := by
  rintro rfl
  rw [h.fresh] at hnumber
  cases hnumber

theorem ne_of_unused (h : inner.Inside name outer) {given : String}
    (hnumber : outer.number? given = .none) : given ≠ name := by
  rintro rfl
  simp [number?, h.names] at hnumber

theorem pos_of_number? (h : inner.Inside name outer) {given : String} {group : Nat}
    (hnumber : inner.number? given = some group) : 1 ≤ group := by
  obtain ⟨before, after, hsplit, _⟩ := List.lookup_eq_some_iff.mp hnumber
  exact h.positive (given, group) (by simp [hsplit])

theorem width?_eq (h : inner.Inside name outer) {group : Nat} (hgroup : 1 ≤ group) :
    outer.width? (group + 1) = inner.width? group := by
  obtain ⟨group, rfl⟩ := Nat.exists_eq_add_of_le' hgroup
  simp [width?, h.widths]

theorem lookbehindIssue?_eq (h : inner.Inside name outer) {group : Nat} (hgroup : 1 ≤ group) :
    outer.lookbehindIssue? (group + 1) = inner.lookbehindIssue? group := by
  unfold lookbehindIssue?
  rw [h.lookbehind, h.width?_eq hgroup]
  cases inner.lookbehind with
  | none => rfl
  | some bound => simp only [Option.map_some, Nat.add_lt_add_iff_right]

-- A further group is opened inside under a name that none outside has.
theorem opened (h : inner.Inside name outer) (given : Option String)
    (hgiven : given.bind outer.number? = .none) :
    (inner.opened given).Inside name (outer.opened given) where
  names := by
    cases given with
    | none => exact h.names
    | some given => simp [Groups.opened, h.names, h.count_eq]
  widths := by simp [Groups.opened, h.widths]
  lookbehind := h.lookbehind
  fresh := by
    cases given with
    | none => exact h.fresh
    | some given =>
        have hne := (h.ne_of_unused hgiven).symm
        have hfresh := h.fresh
        rw [number?] at hfresh ⊢
        simp [Groups.opened, List.lookup_append, hfresh, List.lookup_cons, beq_false_of_ne hne]
  positive := by
    cases given with
    | none => exact h.positive
    | some given =>
        simp only [Groups.opened, List.forall_mem_append, List.forall_mem_singleton]
        exact ⟨h.positive, Nat.le_add_left 1 _⟩

theorem closed (h : inner.Inside name outer) {group : Nat} (hgroup : 1 ≤ group) (width : Width) :
    (inner.closed group width).Inside name (outer.closed (group + 1) width) where
  names := h.names
  widths := by
    obtain ⟨group, rfl⟩ := Nat.exists_eq_add_of_le' hgroup
    simp [Groups.closed, h.widths]
  lookbehind := h.lookbehind
  fresh := h.fresh
  positive := h.positive

theorem lookingBehind (h : inner.Inside name outer) (bound : Option Nat) :
    { inner with lookbehind := bound }.Inside name
      { outer with lookbehind := bound.map (· + 1) } where
  names := h.names
  widths := h.widths
  lookbehind := rfl
  fresh := h.fresh
  positive := h.positive

end Inside

end Groups

namespace Escape

variable {closing : Closing} {inner outer : Cursor} {name : String} {groups around : Groups}

-- Two computations read the same part of a pattern, but for the numbers of its groups.
abbrev AgreeRaised (closing : Closing) (first second : Read (Node × Cursor)) : Prop :=
  Relates (fun result other => other.1 = result.1.raise ∧ result.1.Positive ∧
    Within closing result.2 other.2) first second

theorem isDigit_of_octal {c : Char} (h : (octalValue? c).isSome = true) : c.isDigit = true := by
  unfold octalValue? at h
  split at h
  next hrange =>
    simp only [Bool.and_eq_true, decide_eq_true_eq] at hrange
    have hle : '7'.val ≤ '9'.val := by decide
    simp only [Char.isDigit, Bool.and_eq_true, decide_eq_true_eq]
    exact ⟨hrange.1, UInt32.le_trans hrange.2 hle⟩
  · cases h

-- Three octal digits in a row are not taken for the number of a group.
theorem takeRun_octal {c : Char} {second third : List Char} {after last : Cursor}
    (hcode : isOctalCode c inner.rest = true)
    (hsecond : inner.takeRun 1 Char.isDigit = .ok (second, after))
    (hthird : after.takeRun
      (if !second.isEmpty && (c :: second).all fun d => (octalValue? d).isSome then 1 else 0)
      (fun d => (octalValue? d).isSome) = .ok (third, last)) :
    third.isEmpty = false := by
  unfold isOctalCode at hcode
  split at hcode
  next d e rest hrest =>
    simp only [List.all_cons, List.all_nil, Bool.and_true, Bool.and_eq_true] at hcode
    obtain ⟨hc, hd, he⟩ := hcode
    obtain ⟨rfl, hskip⟩ := Cursor.takeRun_eq_ok hsecond
    obtain ⟨hafter, _⟩ := Cursor.skip_eq_ok hskip
    obtain ⟨rfl, _⟩ := Cursor.takeRun_eq_ok hthird
    simp only [hrest, plainRun, isDigit_of_octal hd, if_true, List.length_singleton, List.drop_one,
      List.tail_cons] at hafter ⊢
    simp [hafter, plainRun, hc, hd, he]
  · cases hcode

theorem numeric_agree (h : Within closing inner outer)
    (flags : Flags) {c : Char} (hdigit : c.isDigit = true)
    (hnumber : refersByNumber (.escaped c :: inner.rest) = false) :
    AgreeRaised closing (numeric inner groups flags c) (numeric outer around flags c) := by
  unfold numeric
  refine .ite (fun _ => ?_) fun hzero => ?_
  · refine .bind _ (takeRun_agree h (by decide) 2) ?_
    rintro ⟨digits, after⟩ ⟨_, further⟩ ⟨rfl, hafter⟩
    exact .ok ⟨rfl, trivial, hafter⟩
  · have hcode : isOctalCode c inner.rest = true := by
      simpa [refersByNumber, hdigit, hzero] using hnumber
    refine .bind _ (takeRun_agree h (by decide) 1).withLeft ?_
    rintro ⟨second, after⟩ ⟨_, further⟩ ⟨hsecond, rfl, hafter⟩
    refine .bind _ (takeRun_agree hafter (by decide) _).withLeft ?_
    rintro ⟨third, last⟩ ⟨_, last'⟩ ⟨hthird, rfl, hlast⟩
    simp only [takeRun_octal hcode hsecond hthird, Bool.false_eq_true, if_false]
    refine .bind _ (octalCode_agree hlast c (second ++ third)) ?_
    rintro ⟨code, rest⟩ ⟨_, rest'⟩ ⟨rfl, hrest⟩
    exact .ok ⟨rfl, trivial, hrest⟩

-- An escape that is no reference by number reads the same inside of a group.
theorem inPattern_agree (h : Within closing inner outer)
    (flags : Flags) {c : Char} (hnumber : refersByNumber (.escaped c :: inner.rest) = false) :
    AgreeRaised closing (inPattern inner groups flags c) (inPattern outer around flags c) := by
  unfold inPattern
  split
  · exact .ok ⟨rfl, trivial, h⟩
  · exact .ok ⟨rfl, trivial, h⟩
  · exact .ok ⟨rfl, trivial, h⟩
  · rcases sharedCode?_agree h c with ⟨hnone, hnone'⟩ | ⟨first, second, hsome, hsome', hread⟩
    · simp only [hnone, hnone']
      refine .ite (fun hdigit => numeric_agree h flags hdigit hnumber) fun _ => ?_
      refine .bind _ (itself_agree h c) ?_
      rintro ⟨code, after⟩ ⟨_, further⟩ ⟨rfl, hafter⟩
      exact .ok ⟨rfl, trivial, hafter⟩
    · simp only [hsome, hsome']
      refine .bind _ hread ?_
      rintro ⟨code, after⟩ ⟨_, further⟩ ⟨rfl, hafter⟩
      exact .ok ⟨rfl, trivial, hafter⟩

end Escape

end RecordPattern.Regex
