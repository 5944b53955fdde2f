import Mathlib.Data.List.Nodup
import Mathlib.Data.List.OfFn
import Mathlib.Data.Set.List
import RecordPattern.Record.Access

namespace RecordPattern

namespace RecordType

variable {type : RecordType} {name : String} {i : Fin type.fields.length}

theorem exists_index? (h : name ∈ type.fields.map FieldDecl.name) : ∃ i, type.index? name = some i := by
  rw [← Option.isSome_iff_exists, index?, List.isSome_findFinIdx?]
  simpa using h

end RecordType

namespace Value

-- The value of a field, in a mapping and in a record of a class alike.
def field? (contents : Value) (name : String) : Option Value :=
  match contents with
  | .mapping _ entries => lookup? entries name
  | .record type held others => attribute? type held others name
  | _ => none

-- The keys of a mapping, or the names of a record's attributes, in order.
def keys : Value → List Value
  | .mapping _ entries => entries.map Prod.fst
  | .record type _ others =>
    (type.fields.map fun decl => .text decl.name) ++ others.map fun other => .text other.1
  | _ => []

-- Both are mappings that can be changed, or both are not, or both are records of one class.
inductive SameKind : Value → Value → Prop
  | mapping {readOnly : Bool} {old new : List (Value × Value)} :
      SameKind (.mapping readOnly old) (.mapping readOnly new)
  | record {type : RecordType} {old new : Fin type.fields.length → Value}
      {others more : List (String × Value)} :
      SameKind (.record type old others) (.record type new more)

theorem SameKind.trans {before middle after : Value} (hfirst : before.SameKind middle)
    (hsecond : middle.SameKind after) : before.SameKind after := by
  cases hfirst with
  | mapping => cases hsecond with | mapping => exact .mapping
  | record => cases hsecond with | record => exact .record

theorem SameKind.symm {before after : Value} (h : before.SameKind after) : after.SameKind before := by
  cases h with
  | mapping => exact .mapping
  | record => exact .record

theorem text_injective : Function.Injective Value.text := fun _ _ h => Value.text.inj h

theorem isText_iff {value : Value} {text : String} : value.isText text = true ↔ value = .text text := by
  cases value <;> simp [isText]

@[simp] theorem lookup?_nil (name : String) : lookup? [] name = none := rfl

theorem lookup?_cons (entry : Value × Value) (rest : List (Value × Value)) (name : String) :
    lookup? (entry :: rest) name = if entry.1.isText name then some entry.2 else lookup? rest name := by
  unfold lookup?
  rw [List.find?_cons]
  cases hkey : entry.1.isText name <;> simp [hkey]

theorem lookup?_append (first second : List (Value × Value)) (name : String) :
    lookup? (first ++ second) name = (lookup? first name).or (lookup? second name) := by
  induction first with
  | nil => simp
  | cons entry rest ih =>
      rw [List.cons_append, lookup?_cons, lookup?_cons, ih]
      split <;> simp

theorem lookup?_eq_none_iff {entries : List (Value × Value)} {name : String} :
    lookup? entries name = none ↔ ∀ entry ∈ entries, entry.1 ≠ .text name := by
  induction entries with
  | nil => simp
  | cons entry rest ih =>
      rw [lookup?_cons, List.forall_mem_cons, ← ih, ne_eq, ← isText_iff]
      split <;> simp_all

theorem any_isText_iff {entries : List (Value × Value)} {name : String} :
    (entries.any fun (key, _) => key.isText name) = true ↔ (lookup? entries name).isSome = true := by
  rw [List.any_eq_true, Option.isSome_iff_ne_none, ne_eq, lookup?_eq_none_iff]
  simp only [isText_iff, not_forall, not_not, exists_prop]

theorem lookup?_replace (entries : List (Value × Value)) (name other : String) (value : Value) :
    lookup? (entries.map fun (key, old) => (key, if key.isText name then value else old)) other =
      if other = name then (lookup? entries name).map fun _ => value else lookup? entries other := by
  induction entries with
  | nil => simp
  | cons entry rest ih =>
      obtain ⟨key, old⟩ := entry
      rw [List.map_cons, lookup?_cons, lookup?_cons, lookup?_cons, ih]
      by_cases hkey : key.isText other = true
      · obtain rfl := isText_iff.mp hkey
        by_cases hother : other = name <;> simp [isText, hother]
      · by_cases hother : other = name
        · subst hother
          simp [hkey]
        · simp [hkey, hother]

theorem lookup?_assign (entries : List (Value × Value)) (name other : String) (value : Value) :
    lookup? (assign entries name value) other =
      if other = name then some value else lookup? entries other := by
  unfold assign
  split
  next hany =>
    obtain ⟨old, hold⟩ := Option.isSome_iff_exists.mp (any_isText_iff.mp hany)
    rw [lookup?_replace, hold]
    rfl
  next hnone =>
    have habsent : lookup? entries name = none := by
      simpa using any_isText_iff.not.mp hnone
    rw [lookup?_append, lookup?_cons]
    by_cases hother : other = name
    · subst hother
      simp [habsent, isText]
    · simp [hother, Ne.symm hother, isText]

theorem assign_of_absent {entries : List (Value × Value)} {name : String} (value : Value)
    (h : lookup? entries name = none) :
    assign entries name value = entries ++ [(.text name, value)] := by
  have habsent : ¬(entries.any fun (key, _) => key.isText name) = true := by
    rw [any_isText_iff, h]
    simp
  rw [assign, if_neg habsent]

-- Keys that differ and what is found at each of them make up all entries.
theorem eq_of_lookup? {entries : List (Value × Value)} {names : List String}
    (hkeys : entries.map Prod.fst = names.map .text) (hnames : names.Nodup) {value : String → Value}
    (hvalue : ∀ name ∈ names, lookup? entries name = some (value name)) :
    entries = names.map fun name => (.text name, value name) := by
  induction names generalizing entries with
  | nil => simpa using hkeys
  | cons name names ih =>
      cases entries with
      | nil => cases hkeys
      | cons entry entries =>
          obtain ⟨key, held⟩ := entry
          obtain ⟨rfl, hrest⟩ := List.cons.inj hkeys
          obtain ⟨hfirst, hnames⟩ := List.nodup_cons.mp hnames
          have hheld : held = value name := by
            simpa [lookup?_cons, isText] using hvalue name List.mem_cons_self
          have hlater : entries = names.map fun name => (.text name, value name) := by
            refine ih hrest hnames fun other ho => ?_
            have hother := hvalue other (List.mem_cons_of_mem _ ho)
            have hne : name ≠ other := by
              rintro rfl
              exact hfirst ho
            simpa [lookup?_cons, isText, hne] using hother
          rw [List.map_cons, ← hlater, hheld]

theorem keys_assign (entries : List (Value × Value)) (name : String) (value : Value) :
    (assign entries name value).map Prod.fst =
      entries.map Prod.fst ++ if (lookup? entries name).isNone then [.text name] else [] := by
  unfold assign
  split
  next hany =>
    obtain ⟨old, hold⟩ := Option.isSome_iff_exists.mp (any_isText_iff.mp hany)
    rw [hold, List.map_map]
    simp only [Option.isNone_some, Bool.false_eq_true, if_false, List.append_nil]
    rfl
  next hnone =>
    have habsent : lookup? entries name = none := by
      simpa using any_isText_iff.not.mp hnone
    simp [habsent]

-- What a value holds, with a text for the name of each attribute of a record.
def entries : Value → List (Value × Value)
  | .mapping _ entries => entries
  | .record type held others =>
    (List.ofFn fun i => (.text (type.fields.get i).name, held i)) ++
      others.map fun other => (.text other.1, other.2)
  | _ => []

variable {first second : Value}

theorem map_entries (contents : Value) : contents.entries.map Prod.fst = contents.keys := by
  cases contents with
  | record type held others =>
      have hnames : (List.ofFn fun i : Fin type.fields.length => Value.text (type.fields.get i).name) =
          type.fields.map fun decl => .text decl.name :=
        List.ext_getElem (by simp) (by simp)
      simp [entries, keys, List.map_ofFn, Function.comp_def, ← hnames]
  | _ => simp [entries, keys]

theorem lookup?_ofFn (decls : List FieldDecl) (held : Fin decls.length → Value) (name : String) :
    lookup? (List.ofFn fun i => (.text (decls.get i).name, held i)) name =
      (decls.findFinIdx? (·.name = name)).map held := by
  induction decls with
  | nil => rfl
  | cons decl rest ih =>
      have hlater := ih fun i => held i.succ
      rw [List.ofFn_succ, lookup?_cons, List.findFinIdx?_cons]
      by_cases hname : decl.name = name
      · simp [isText, hname]
      · simpa [isText, hname, Function.comp_def] using hlater

theorem lookup?_others (others : List (String × Value)) (name : String) :
    lookup? (others.map fun other => (.text other.1, other.2)) name =
      others.lookup name := by
  induction others with
  | nil => rfl
  | cons other rest ih =>
      rw [List.map_cons, lookup?_cons, List.lookup_cons, ih]
      by_cases hname : other.1 = name
      · subst hname
        simp [isText]
      · simp [isText, hname, beq_false_of_ne (Ne.symm hname)]

theorem lookup?_entries (contents : Value) (name : String) :
    lookup? contents.entries name = contents.field? name := by
  cases contents with
  | record type held others =>
      rw [entries, lookup?_append, lookup?_ofFn, lookup?_others]
      change ((type.index? name).map held).or _ = attribute? type held others name
      unfold attribute?
      cases type.index? name <;> rfl
  | _ => rfl

theorem mem_of_lookup? {entries : List (Value × Value)} {name : String} {value : Value}
    (h : lookup? entries name = some value) : (.text name, value) ∈ entries := by
  induction entries with
  | nil => cases h
  | cons entry rest ih =>
      rw [lookup?_cons] at h
      split at h
      next hkey =>
        cases h
        rw [← isText_iff.mp hkey]
        exact List.mem_cons_self
      next => exact List.mem_cons_of_mem _ (ih h)

theorem isSome_field? {contents : Value} {name : String} (h : .text name ∈ contents.keys) :
    (contents.field? name).isSome = true := by
  rw [← map_entries] at h
  obtain ⟨entry, hentry, hkey⟩ := List.mem_map.mp h
  rw [Option.isSome_iff_ne_none, ne_eq, ← lookup?_entries, lookup?_eq_none_iff]
  exact fun hall => hall entry hentry hkey

theorem eq_of_entries (hkind : first.SameKind second) (h : first.entries = second.entries) :
    first = second := by
  cases hkind with
  | mapping => exact congrArg _ h
  | @record type old new others more =>
      obtain ⟨hheld, hothers⟩ := List.append_inj h (by simp)
      have hsame : old = new := funext fun i => (Prod.mk.inj (congrFun (List.ofFn_injective hheld) i)).2
      have hinjective : Function.Injective fun other : String × Value =>
          (Value.text other.1, other.2) := by
        rintro ⟨_, _⟩ ⟨_, _⟩ hsame
        cases hsame
        rfl
      rw [hsame, List.map_injective_iff.mpr hinjective hothers]

-- Values of one kind are the same if they have the same fields, once each, and the same in them.
theorem eq_of_field? (hkind : first.SameKind second) (hkeys : second.keys = first.keys)
    (hdistinct : first.keys.Nodup) (htext : ∀ key ∈ first.keys, ∃ name, key = .text name)
    (hfield : ∀ name, .text name ∈ first.keys → second.field? name = first.field? name) :
    first = second := by
  have hrange : first.keys ∈ Set.range (List.map Value.text) := by
    rw [Set.range_list_map]
    intro key hk
    obtain ⟨name, rfl⟩ := htext key hk
    exact ⟨name, rfl⟩
  obtain ⟨names, hnames⟩ := hrange
  have hmem : ∀ name ∈ names, .text name ∈ first.keys := fun name hn =>
    hnames ▸ List.mem_map_of_mem hn
  rw [← hnames] at hkeys hdistinct
  have hnodup := hdistinct.of_map Value.text
  have hvalue : ∀ name ∈ names, first.field? name = some ((first.field? name).getD .null) := by
    intro name hn
    obtain ⟨value, hvalue⟩ := Option.isSome_iff_exists.mp (isSome_field? (hmem name hn))
    rw [hvalue]
    rfl
  apply eq_of_entries hkind
  rw [eq_of_lookup? ((map_entries first).trans hnames.symm) hnodup
      fun name hn => (lookup?_entries first name).trans (hvalue name hn),
    eq_of_lookup? ((map_entries second).trans hkeys) hnodup
      fun name hn => (lookup?_entries second name).trans
        ((hfield name (hmem name hn)).trans (hvalue name hn))]

end Value

namespace ShapeKind

variable {type : RecordType} {held : Fin type.fields.length → Value} {name : String}

theorem get_of_declared {kind : ShapeKind} (hkind : kind ≠ .mapping)
    (hdeclared : name ∈ type.fields.map FieldDecl.name) (held : Fin type.fields.length → Value)
    (others : List (String × Value)) :
    ∃ value, Value.attribute? type held others name = some value ∧
      kind.get name (.record type held others) = .ok value := by
  obtain ⟨i, hi⟩ := RecordType.exists_index? hdeclared
  have hvalue : Value.attribute? type held others name = some (held i) := by
    unfold Value.attribute?
    rw [hi]
  refine ⟨held i, hvalue, ?_⟩
  cases kind with
  | mapping => exact absurd rfl hkind
  | _ => simp [get, hvalue]

end ShapeKind

end RecordPattern
