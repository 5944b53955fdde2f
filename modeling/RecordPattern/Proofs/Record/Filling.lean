import RecordPattern.Proofs.Record.Fields
import RecordPattern.Record.Shape

namespace RecordPattern

namespace Value

-- What a field holds after a match. It takes the text it is given; otherwise it keeps what it
-- had, and holds empty text if it had nothing.
def renewed (given : Option String) (old : Option Value) : Value :=
  match given, old with
  | some new, _ => .text new
  | none, none => .text ""
  | none, some .null => .text ""
  | none, some value => value

theorem renewed_ne_null (given : Option String) (old : Option Value) : renewed given old ≠ .null := by
  unfold renewed
  split <;> simp_all

theorem renewed_of_some {value : Value} (h : value ≠ .null) : renewed none (some value) = value := by
  unfold renewed
  split <;> simp_all

-- Renewing twice is renewing once, with the later text if there is one.
theorem renewed_renewed (first second : Option String) (old : Option Value) :
    renewed second (some (renewed first old)) = renewed (second.or first) old := by
  cases second with
  | none => exact renewed_of_some (renewed_ne_null first old)
  | some text => rfl

end Value

open Value

-- What writing into some fields makes of a record. Each of them is renewed and nothing else is
-- touched; the keys keep their order, and those that were missing follow in the order of the
-- fields.
structure Fills (names : List String) (given : String → Option String) (before after : Value) :
    Prop where
  kind : before.SameKind after
  keys : after.keys = before.keys ++
    ((names.filter fun name => (before.field? name).isNone).eraseDups.map .text)
  written : ∀ name ∈ names, after.field? name = some (renewed (given name) (before.field? name))
  others : ∀ name, name ∉ names → after.field? name = before.field? name

namespace Fills

variable {names : List String} {given : String → Option String} {before middle after : Value}

-- Once a field is written, it is missing no more, and whether others are has not changed.
theorem filter_missing {first : String} (h : Fills [first] given before middle) (rest : List String) :
    (rest.filter fun name => (middle.field? name).isNone) =
      (rest.filter fun name => (before.field? name).isNone).filter (· != first) := by
  rw [List.filter_filter]
  apply List.filter_congr
  intro name _
  by_cases hname : name = first
  · subst hname
    simp [h.written name (by simp)]
  · simp [h.others name (by simp [hname]), hname]

-- Writing the fields one by one.
theorem cons {first : String} {rest : List String} (hf : Fills [first] given before middle)
    (hr : Fills rest given middle after) : Fills (first :: rest) given before after where
  kind := hf.kind.trans hr.kind
  keys := by
    rw [hr.keys, hf.keys, hf.filter_missing rest, List.append_assoc, ← List.map_append,
      List.filter_singleton, List.filter_cons]
    cases hmissing : (before.field? first).isNone with
    | true => simp [List.eraseDups_cons, bne]
    | false =>
        have hnot : (rest.filter fun name => (before.field? name).isNone).filter (· != first) =
            rest.filter fun name => (before.field? name).isNone := by
          apply List.filter_eq_self.mpr
          intro name hn
          have hnone := (List.mem_filter.mp hn).2
          rw [bne_iff_ne]
          rintro rfl
          simp [hmissing] at hnone
        simp [hnot]
  written := by
    intro name hn
    by_cases hfirst : name = first
    · subst hfirst
      have hw := hf.written name (by simp)
      by_cases hrest : name ∈ rest
      · rw [hr.written name hrest, hw, renewed_renewed, Option.or_self]
      · rw [hr.others name hrest, hw]
    · have hrest : name ∈ rest := by simpa [hfirst] using hn
      rw [hr.written name hrest, hf.others name (by simp [hfirst])]
  others := by
    intro name hn
    rw [List.mem_cons, not_or] at hn
    rw [hr.others name hn.2, hf.others name (by simp [hn.1])]

-- Filling a record twice is filling it once, where the later text of a field wins.
theorem trans {later : String → Option String} (hf : Fills names given before middle)
    (hs : Fills names later middle after) :
    Fills names (fun name => (later name).or (given name)) before after where
  kind := hf.kind.trans hs.kind
  keys := by
    have hpresent : (names.filter fun name => (middle.field? name).isNone) = [] := by
      apply List.filter_eq_nil_iff.mpr
      intro name hn
      simp [hf.written name hn]
    rw [hs.keys, hpresent, hf.keys]
    simp
  written := fun name hn => by rw [hs.written name hn, hf.written name hn, renewed_renewed]
  others := fun name hn => by rw [hs.others name hn, hf.others name hn]

end Fills

-- Contents into which the fields of a name can be written: a mapping that can be changed, or a
-- record of a class that is not frozen and declares all these fields.
inductive Receives (kind : ShapeKind) (names : List String) : Value → Prop
  | mapping {entries : List (Value × Value)} (hkind : kind = .mapping) :
      Receives kind names (.mapping false entries)
  | record {type : RecordType} {held : Fin type.fields.length → Value}
      {others : List (String × Value)} (hkind : kind ≠ .mapping) (hfrozen : type.frozen = false)
      (hfields : ∀ name ∈ names, name ∈ type.fields.map FieldDecl.name) :
      Receives kind names (.record type held others)

namespace Receives

variable {kind : ShapeKind} {names : List String} {contents : Value} {name : String}

theorem get_eq (h : Receives kind names contents) (hn : name ∈ names) :
    kind.get name contents = .ok ((contents.field? name).getD .null) := by
  cases h with
  | mapping hkind => subst hkind; rfl
  | record hkind _ hfields =>
      obtain ⟨value, hvalue, hget⟩ := ShapeKind.get_of_declared hkind (hfields name hn) _ _
      rw [hget, Value.field?, hvalue]
      rfl

end Receives

end RecordPattern
