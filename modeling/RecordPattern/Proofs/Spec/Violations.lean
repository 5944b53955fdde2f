import RecordPattern.Proofs.Spec.Reading

namespace RecordPattern

open Outcome Text

-- The places of a raw spec where something can be wrong. Fields, flags and keys go by their number.
inductive SpecPlace where
  | template
  | fields
  | fieldKey (index : Nat)
  | fieldValue (index : Nat)
  | flags
  | flag (index : Nat)
  | key (index : Nat)

namespace SpecPlace

-- The parts of a spec come in their order, and after them its keys.
def part : SpecPlace → Nat
  | .template => 0
  | .fields | .fieldKey _ | .fieldValue _ => 1
  | .flags | .flag _ => 2
  | .key _ => 3

-- Within a part, one item comes after the other, and the key of a field before its value.
def rank : SpecPlace → Nat
  | .template | .fields | .flags => 0
  | .fieldKey index => 2 * index + 1
  | .fieldValue index => 2 * index + 2
  | .flag index => index + 1
  | .key index => index

def Before (first second : SpecPlace) : Prop :=
  first.part < second.part ∨ (first.part = second.part ∧ first.rank < second.rank)

end SpecPlace

-- Errors that list just what is wrong: one for each place at fault, in the order of the places.
def Faithful (fault : SpecPlace → SpecError → Prop) (errors : List SpecError) : Prop :=
  ∃ places : List SpecPlace, places.Pairwise SpecPlace.Before ∧
    (∀ place, place ∈ places ↔ ∃ error, fault place error) ∧ List.Forall₂ fault places errors

namespace Faithful

variable {fault first second : SpecPlace → SpecError → Prop} {errors earlier later : List SpecError}

theorem nil (h : ∀ place error, ¬fault place error) : Faithful fault [] :=
  ⟨[], .nil, by simpa using h, .nil⟩

theorem singleton {place : SpecPlace} {error : SpecError} (h : fault place error)
    (honly : ∀ other error, fault other error → other = place) : Faithful fault [error] := by
  refine ⟨[place], List.pairwise_singleton _ _, fun other => ?_, .cons h .nil⟩
  rw [List.mem_singleton]
  constructor
  · rintro rfl
    exact ⟨error, h⟩
  · rintro ⟨error, hother⟩
    exact honly other error hother

theorem append (hfirst : Faithful first earlier) (hsecond : Faithful second later)
    (hbefore : ∀ place error other more, first place error → second other more → place.Before other) :
    Faithful (fun place error => first place error ∨ second place error) (earlier ++ later) := by
  obtain ⟨places, hplaces, hmem, herrors⟩ := hfirst
  obtain ⟨others, hothers, hmore, hlater⟩ := hsecond
  refine ⟨places ++ others, List.pairwise_append.mpr ⟨hplaces, hothers, fun place hp other ho => ?_⟩,
    fun place => ?_, List.rel_append (herrors.imp fun _ _ => Or.inl) (hlater.imp fun _ _ => Or.inr)⟩
  · obtain ⟨error, herror⟩ := (hmem place).mp hp
    obtain ⟨more, hmore⟩ := (hmore other).mp ho
    exact hbefore place error other more herror hmore
  · rw [List.mem_append, hmem, hmore, exists_or]

theorem congr (h : Faithful first errors) (hsame : ∀ place error, first place error ↔ second place error) :
    Faithful second errors := by
  have heq : first = second := by
    funext place error
    exact propext (hsame place error)
  exact heq ▸ h

-- Errors that are listed item by item.
theorem flatMap {α : Type} {items : List α} {errorsOf : α × Nat → List SpecError}
    {faultOf : Nat → α → SpecPlace → SpecError → Prop}
    (hitem : ∀ index item, items[index]? = some item →
      Faithful (faultOf index item) (errorsOf (item, index)))
    (hbefore : ∀ index item place error later other further more, index < later →
      faultOf index item place error → faultOf later other further more → place.Before further) :
    Faithful (fun place error => ∃ index item, items[index]? = some item ∧ faultOf index item place error)
      (items.zipIdx.flatMap errorsOf) := by
  suffices h : ∀ start, (∀ index item, items[index]? = some item →
      Faithful (faultOf (start + index) item) (errorsOf (item, start + index))) →
      Faithful (fun place error => ∃ index item, items[index]? = some item ∧
        faultOf (start + index) item place error) ((items.zipIdx start).flatMap errorsOf) by
    simpa using h 0 (by simpa using hitem)
  clear hitem
  induction items with
  | nil =>
      intro start _
      exact .nil (by simp)
  | cons item rest ih =>
      intro start hitem
      have hfirst := hitem 0 item rfl
      have hrest := ih (start + 1) fun index other hother => by
        have hlater := hitem (index + 1) other hother
        rwa [← Nat.add_assoc, Nat.add_right_comm] at hlater
      rw [List.zipIdx_cons, List.flatMap_cons]
      refine (hfirst.append hrest ?_).congr fun place error => ?_
      · rintro place error other more hfault ⟨index, further, _, hlater⟩
        exact hbefore _ _ _ _ _ _ _ _ (by omega) hfault hlater
      · constructor
        · rintro (h | ⟨index, other, hother, h⟩)
          · exact ⟨0, item, rfl, h⟩
          · refine ⟨index + 1, other, hother, ?_⟩
            rwa [← Nat.add_assoc, Nat.add_right_comm]
        · rintro ⟨index, other, hother, h⟩
          cases index with
          | zero =>
              cases hother
              exact Or.inl h
          | succ index =>
              rw [← Nat.add_assoc, Nat.add_right_comm] at h
              exact Or.inr ⟨index, other, hother, h⟩

theorem exists_fault (h : Faithful fault errors) {error : SpecError} (he : error ∈ errors) :
    ∃ place, fault place error := by
  obtain ⟨places, hordered, hplaces, herrors⟩ := h
  clear hordered hplaces
  induction herrors with
  | nil => cases he
  | cons hfirst _ ih =>
      rcases List.mem_cons.mp he with rfl | he
      · exact ⟨_, hfirst⟩
      · exact ih he

theorem exists_error (h : Faithful fault errors) {place : SpecPlace} {error : SpecError}
    (hfault : fault place error) : ∃ other ∈ errors, fault place other := by
  obtain ⟨places, hordered, hplaces, herrors⟩ := h
  have hplace := (hplaces place).mpr ⟨error, hfault⟩
  clear hordered hplaces
  induction herrors with
  | nil => cases hplace
  | cons hfirst _ ih =>
      rcases List.mem_cons.mp hplace with rfl | hplace
      · exact ⟨_, List.mem_cons_self, hfirst⟩
      · obtain ⟨other, ho, hother⟩ := ih hplace
        exact ⟨other, List.mem_cons_of_mem _ ho, hother⟩

end Faithful

namespace Checked

variable {α β : Type}

theorem errors_both (first : Checked α) (second : Checked β) :
    (both first second).errors = first.errors ++ second.errors := by
  cases first <;> cases second <;> rfl

theorem errors_map (outcome : Checked α) (f : α → β) : errors (outcome.map f) = outcome.errors := by
  cases outcome <;> rfl

theorem errors_all (checks : List (Checked α)) : (all checks).errors = checks.flatMap errors := by
  induction checks with
  | nil => rfl
  | cons first rest ih => rw [all, errors_map, errors_both, ih, List.flatMap_cons]

-- A check that finds nothing wrong gives a result.
def Founded (outcome : Checked α) : Prop :=
  outcome.errors = [] → ∃ result, outcome = .ok result

theorem Founded.both {first : Checked α} {second : Checked β} (hfirst : first.Founded)
    (hsecond : second.Founded) : (both first second).Founded := by
  intro h
  rw [errors_both, List.append_eq_nil_iff] at h
  obtain ⟨a, rfl⟩ := hfirst h.1
  obtain ⟨b, rfl⟩ := hsecond h.2
  exact ⟨(a, b), rfl⟩

theorem Founded.map {outcome : Checked α} (h : outcome.Founded) (f : α → β) :
    Founded (outcome.map f) := by
  intro herrors
  rw [errors_map] at herrors
  obtain ⟨a, rfl⟩ := h herrors
  exact ⟨f a, rfl⟩

theorem Founded.bind {outcome : Checked α} {next : α → Checked β} (h : outcome.Founded)
    (hnext : ∀ value, (next value).Founded) : Founded (outcome >>= next) := by
  cases outcome with
  | ok value => exact hnext value
  | error errors => exact fun herrors => by obtain ⟨_, hok⟩ := h herrors; cases hok

theorem Founded.all {checks : List (Checked α)} (h : ∀ check ∈ checks, check.Founded) :
    (all checks).Founded := by
  intro herrors
  rw [errors_all, List.flatMap_eq_nil_iff] at herrors
  exact exists_all_eq_ok_iff.mpr fun check hcheck => h check hcheck (herrors check hcheck)

theorem founded_ok (value : α) : Founded (.ok value : Checked α) :=
  fun _ => ⟨value, rfl⟩

theorem founded_error {errors : List SpecError} (h : errors ≠ []) :
    Founded (.error errors : Checked α) :=
  fun herrors => absurd herrors h

end Checked

namespace PatternSpec

inductive TemplateFault (entries : List (Value × Value)) : SpecPlace → SpecError → Prop
  | missing (h : Value.lookup? entries "template" = none) :
      TemplateFault entries .template ⟨["template"], .missing⟩
  | unreadable {value : Value} {issue : SpecIssue} (h : Value.lookup? entries "template" = some value)
      (hissue : value.Unreadable issue) : TemplateFault entries .template ⟨["template"], issue⟩

-- What is wrong with an entry among the fields, at its key and at its value.
inductive FieldFault (index : Nat) (entry : Value × Value) : SpecPlace → SpecError → Prop
  | key {issue : SpecIssue} (hissue : entry.1.Unreadable issue) :
      FieldFault index entry (.fieldKey index) ⟨["fields", pathItem entry.1, "[key]"], issue⟩
  | value {issue : SpecIssue} (hissue : entry.2.Unreadable issue) :
      FieldFault index entry (.fieldValue index) ⟨["fields", pathItem entry.1], issue⟩

inductive FieldsFault (store : Store) (entries : List (Value × Value)) : SpecPlace → SpecError → Prop
  | missing (h : Value.lookup? entries "fields" = none) :
      FieldsFault store entries .fields ⟨["fields"], .missing⟩
  | notAMapping {value : Value} (h : Value.lookup? entries "fields" = some value)
      (hother : ∀ readOnly items, store.contents value ≠ .mapping readOnly items) :
      FieldsFault store entries .fields ⟨["fields"], .notAMapping⟩
  | noFields {value : Value} {readOnly : Bool} (h : Value.lookup? entries "fields" = some value)
      (hcontents : store.contents value = .mapping readOnly []) :
      FieldsFault store entries .fields ⟨["fields"], .noFields⟩
  | field {value : Value} {readOnly : Bool} {items : List (Value × Value)} {index : Nat}
      {entry : Value × Value} {place : SpecPlace} {error : SpecError}
      (h : Value.lookup? entries "fields" = some value)
      (hcontents : store.contents value = .mapping readOnly items) (hentry : items[index]? = some entry)
      (hfault : FieldFault index entry place error) : FieldsFault store entries place error

-- Unknown names are looked for only if all flags count as texts.
inductive FlagsFault (store : Store) (entries : List (Value × Value)) : SpecPlace → SpecError → Prop
  | notAList {value : Value} (h : Value.lookup? entries "flags" = some value)
      (hother : ∀ items, ¬(store.contents value).Lists items) :
      FlagsFault store entries .flags ⟨["flags"], .notAList⟩
  | flag {value : Value} {items : List Value} {index : Nat} {item : Value} {issue : SpecIssue}
      (h : Value.lookup? entries "flags" = some value)
      (hitems : (store.contents value).Lists items) (hitem : items[index]? = some item)
      (hissue : item.Unreadable issue) :
      FlagsFault store entries (.flag index) ⟨["flags", toString index], issue⟩
  | unknown {value : Value} {items : List Value} {texts : List String}
      (h : Value.lookup? entries "flags" = some value)
      (hitems : (store.contents value).Lists items)
      (htexts : List.Forall₂ Value.ReadsAs items texts) (hunknown : FlagName.unknown texts ≠ []) :
      FlagsFault store entries .flags ⟨["flags"], .unknownFlags (FlagName.unknown texts)⟩

inductive KeyFault (index : Nat) : Value → SpecPlace → SpecError → Prop
  | unknown {name : String} (hname : name ∉ parts) :
      KeyFault index (.text name) (.key index) ⟨[name], .unknownKey⟩
  | notText {key : Value} (hkey : ∀ name, key ≠ .text name) :
      KeyFault index key (.key index) ⟨[pathItem key], .keyNotText⟩

-- All that can be wrong with a raw spec, at the places where it is.
def Violated (store : Store) (entries : List (Value × Value)) (place : SpecPlace) (error : SpecError) :
    Prop :=
  TemplateFault entries place error ∨ FieldsFault store entries place error ∨
    FlagsFault store entries place error ∨
    ∃ index entry, entries[index]? = some entry ∧ KeyFault index entry.1 place error

variable {lax : Lax} {store : Store} {raw value : Value} {entries items : List (Value × Value)}
  {path : List String} {errors : List SpecError}

theorem founded_checkText (hlax : lax.Documented) (path : List String) (value : Value) :
    (checkText lax path value).Founded := by
  cases hcheck : checkText lax path value with
  | ok text => exact Checked.founded_ok text
  | error errors =>
      obtain ⟨issue, _, rfl⟩ := (checkText_eq_error_iff hlax).mp hcheck
      exact Checked.founded_error (List.cons_ne_nil _ _)

theorem faithful_checkText (hlax : lax.Documented) (place : SpecPlace) (path : List String)
    (value : Value) :
    Faithful (fun other error => other = place ∧ ∃ issue, value.Unreadable issue ∧ error = ⟨path, issue⟩)
      (checkText lax path value).errors := by
  cases hcheck : checkText lax path value with
  | ok text =>
      refine .nil ?_
      rintro _ _ ⟨_, issue, hissue, _⟩
      cases hcheck.symm.trans ((checkText_eq_error_iff hlax).mpr ⟨issue, hissue, rfl⟩)
  | error errors =>
      obtain ⟨issue, hissue, rfl⟩ := (checkText_eq_error_iff hlax).mp hcheck
      exact .singleton ⟨rfl, issue, hissue, rfl⟩ fun _ _ hother => hother.1

theorem faithful_checkTemplate (hlax : lax.Documented) :
    Faithful (TemplateFault entries) (checkTemplate lax entries).errors := by
  unfold checkTemplate
  cases h : Value.lookup? entries "template" with
  | none =>
      refine .singleton (.missing h) fun place error hfault => ?_
      cases hfault <;> rfl
  | some value =>
      refine (faithful_checkText hlax .template ["template"] value).congr fun place error => ⟨?_, ?_⟩
      · rintro ⟨rfl, issue, hissue, rfl⟩
        exact .unreadable h hissue
      · rintro (hnone | ⟨hvalue, hissue⟩)
        · cases h.symm.trans hnone
        · cases h.symm.trans hvalue
          exact ⟨rfl, _, hissue, rfl⟩

theorem faithful_checkField (hlax : lax.Documented) (index : Nat) (entry : Value × Value) :
    Faithful (FieldFault index entry) (checkField lax entry).errors := by
  rw [checkField, Checked.errors_both]
  refine ((faithful_checkText hlax (.fieldKey index) _ entry.1).append
    (faithful_checkText hlax (.fieldValue index) _ entry.2) ?_).congr fun place error => ⟨?_, ?_⟩
  · rintro _ _ _ _ ⟨rfl, _⟩ ⟨rfl, _⟩
    exact Or.inr ⟨rfl, Nat.lt_succ_self _⟩
  · rintro (⟨rfl, issue, hissue, rfl⟩ | ⟨rfl, issue, hissue, rfl⟩)
    · exact .key hissue
    · exact .value hissue
  · rintro (hissue | hissue)
    · exact Or.inl ⟨rfl, _, hissue, rfl⟩
    · exact Or.inr ⟨rfl, _, hissue, rfl⟩

-- The items of a list are gone through with their numbers.
theorem flatMap_zipIdx {α β : Type} (f : α → List β) (items : List α) :
    items.zipIdx.flatMap (fun item => f item.1) = items.flatMap f := by
  rw [← List.flatMap_map, List.zipIdx_map_fst]

-- What can be wrong with fields that are a mapping.
theorem fieldsFault_iff {readOnly : Bool} (h : Value.lookup? entries "fields" = some value)
    (hcontents : store.contents value = .mapping readOnly items) {place : SpecPlace}
    {error : SpecError} : FieldsFault store entries place error ↔
      (items = [] ∧ place = .fields ∧ error = ⟨["fields"], .noFields⟩) ∨
        ∃ index entry, items[index]? = some entry ∧ FieldFault index entry place error := by
  constructor
  · intro hfault
    cases hfault with
    | missing hnone => cases h.symm.trans hnone
    | notAMapping hvalue hother =>
        cases h.symm.trans hvalue
        exact absurd hcontents (hother _ _)
    | noFields hvalue hempty =>
        cases h.symm.trans hvalue
        cases hcontents.symm.trans hempty
        exact Or.inl ⟨rfl, rfl, rfl⟩
    | field hvalue hitems hentry hfault =>
        cases h.symm.trans hvalue
        cases hcontents.symm.trans hitems
        exact Or.inr ⟨_, _, hentry, hfault⟩
  · rintro (⟨rfl, rfl, rfl⟩ | ⟨index, entry, hentry, hfault⟩)
    · exact .noFields h hcontents
    · exact .field h hcontents hentry hfault

theorem faithful_fieldItems (hlax : lax.Documented) : Faithful (fun place error => ∃ index entry,
    items[index]? = some entry ∧ FieldFault index entry place error)
    (items.flatMap fun entry => (checkField lax entry).errors) := by
  rw [← flatMap_zipIdx]
  refine .flatMap (fun index entry _ => faithful_checkField hlax index entry) ?_
  rintro index _ _ _ later _ _ _ hlater ⟨⟩ ⟨⟩ <;>
    exact Or.inr ⟨rfl, by simp only [SpecPlace.rank]; omega⟩

theorem faithful_checkFields (hlax : lax.Documented) :
    Faithful (FieldsFault store entries) (checkFields lax store entries).errors := by
  cases hvalue : Value.lookup? entries "fields" with
  | none =>
      rw [checkFields_of_missing hvalue]
      refine .singleton (.missing hvalue) fun place error hfault => ?_
      cases hfault with
      | field h => cases hvalue.symm.trans h
      | _ => rfl
  | some value =>
      by_cases hother : ∀ readOnly items, store.contents value ≠ .mapping readOnly items
      · rw [checkFields_of_other hlax hvalue hother]
        refine .singleton (.notAMapping hvalue hother) fun place error hfault => ?_
        cases hfault with
        | field h hcontents =>
            cases hvalue.symm.trans h
            exact absurd hcontents (hother _ _)
        | _ => rfl
      · simp only [ne_eq, not_forall, not_not] at hother
        obtain ⟨readOnly, items, hcontents⟩ := hother
        by_cases hitems : items = []
        · subst hitems
          rw [checkFields_of_empty hlax hvalue hcontents]
          refine .singleton (.noFields hvalue hcontents) fun place error hfault => ?_
          rcases (fieldsFault_iff hvalue hcontents).mp hfault with ⟨_, hplace, _⟩ | ⟨_, _, hentry, _⟩
          · exact hplace
          · cases hentry
        · rw [checkFields_of_items hlax hvalue hcontents hitems, Checked.errors_map, Checked.errors_all,
            List.flatMap_map]
          refine (faithful_fieldItems hlax).congr fun place error => ?_
          rw [fieldsFault_iff hvalue hcontents]
          simp [hitems]

-- Flags that all count as texts have no errors of their own.
theorem not_unreadable_of_readsAs {items : List Value} {texts : List String}
    (h : List.Forall₂ Value.ReadsAs items texts) {index : Nat} {item : Value} {issue : SpecIssue}
    (hitem : items[index]? = some item) : ¬item.Unreadable issue := by
  induction h generalizing index with
  | nil => cases hitem
  | cons hfirst _ ih =>
      cases index with
      | zero =>
          cases hitem
          exact hfirst.not_unreadable
      | succ index => exact ih hitem

theorem readsAs_unique {items : List Value} {texts others : List String}
    (h : List.Forall₂ Value.ReadsAs items texts) (hothers : List.Forall₂ Value.ReadsAs items others) :
    texts = others := by
  induction h generalizing others with
  | nil => cases hothers; rfl
  | cons hfirst _ ih =>
      cases hothers with
      | cons hother hmore => rw [hfirst.unique hother, ih hmore]

-- What can be wrong with flags that are a list.
theorem flagsFault_iff {flags : List Value} (h : Value.lookup? entries "flags" = some value)
    (hitems : (store.contents value).Lists flags) {place : SpecPlace} {error : SpecError} :
    FlagsFault store entries place error ↔
      (∃ index item, flags[index]? = some item ∧ place = .flag index ∧
        ∃ issue, item.Unreadable issue ∧ error = ⟨["flags", toString index], issue⟩) ∨
      ∃ texts, List.Forall₂ Value.ReadsAs flags texts ∧ FlagName.unknown texts ≠ [] ∧
        place = .flags ∧ error = ⟨["flags"], .unknownFlags (FlagName.unknown texts)⟩ := by
  constructor
  · intro hfault
    cases hfault with
    | notAList hvalue hnone =>
        cases h.symm.trans hvalue
        exact absurd hitems (hnone flags)
    | flag hvalue hsome hitem hissue =>
        cases h.symm.trans hvalue
        cases hitems.unique hsome
        exact Or.inl ⟨_, _, hitem, rfl, _, hissue, rfl⟩
    | unknown hvalue hsome htexts hunknown =>
        cases h.symm.trans hvalue
        cases hitems.unique hsome
        exact Or.inr ⟨_, htexts, hunknown, rfl, rfl⟩
  · rintro (⟨index, item, hitem, rfl, issue, hissue, rfl⟩ | ⟨texts, htexts, hunknown, rfl, rfl⟩)
    · exact .flag h hitems hitem hissue
    · exact .unknown h hitems htexts hunknown

theorem faithful_flagItems (hlax : lax.Documented) (flags : List Value) :
    Faithful (fun place error => ∃ index item,
    flags[index]? = some item ∧ place = .flag index ∧
      ∃ issue, item.Unreadable issue ∧ error = ⟨["flags", toString index], issue⟩)
    (flags.zipIdx.flatMap fun item => (checkFlag lax item).errors) := by
  refine .flatMap (fun index item _ =>
    faithful_checkText hlax (.flag index) ["flags", toString index] item) ?_
  rintro index _ _ _ later _ _ _ hlater ⟨rfl, _⟩ ⟨rfl, _⟩
  exact Or.inr ⟨rfl, Nat.succ_lt_succ hlater⟩

-- The names are looked up only after the items were found to be texts, and then there are no other
-- errors than theirs.
theorem faithful_checkNames {flags : List Value} {texts : List String}
    (htexts : List.Forall₂ Value.ReadsAs flags texts)
    (h : Value.lookup? entries "flags" = some value)
    (hitems : (store.contents value).Lists flags) :
    Faithful (FlagsFault store entries) (checkNames texts).errors := by
  have honly : ∀ place error, FlagsFault store entries place error →
      FlagName.unknown texts ≠ [] ∧ place = .flags := by
    intro place error hfault
    rcases (flagsFault_iff h hitems).mp hfault with
      ⟨_, _, hitem, _, _, hissue, _⟩ | ⟨others, hothers, hunknown, hplace, _⟩
    · exact absurd hissue (not_unreadable_of_readsAs htexts hitem)
    · exact ⟨readsAs_unique htexts hothers ▸ hunknown, hplace⟩
  rw [checkNames_eq]
  split
  next hknown => exact .nil fun place error hfault => (honly place error hfault).1 hknown
  next hunknown =>
    exact .singleton (.unknown h hitems htexts hunknown) fun place error hfault =>
      (honly place error hfault).2

theorem faithful_checkFlags (hlax : lax.Documented) :
    Faithful (FlagsFault store entries) (checkFlags lax store entries).errors := by
  cases hvalue : Value.lookup? entries "flags" with
  | none =>
      rw [checkFlags_of_missing hvalue]
      refine .nil fun place error hfault => ?_
      cases hfault with
      | notAList h => cases hvalue.symm.trans h
      | flag h => cases hvalue.symm.trans h
      | unknown h => cases hvalue.symm.trans h
  | some value =>
      cases hitems : lax.items? (store.contents value) with
      | none =>
          have hnone := hlax.items?_eq_none_iff.mp hitems
          rw [checkFlags_of_other hvalue hitems]
          refine .singleton (.notAList hvalue hnone) fun place error hfault => ?_
          cases hfault with
          | flag h hsome =>
              cases hvalue.symm.trans h
              exact absurd hsome (hnone _)
          | _ => rfl
      | some flags =>
          have hlists := hlax.items?_eq_some_iff.mp hitems
          rw [checkFlags_of_items hvalue hitems]
          cases hall : Checked.all (flags.zipIdx.map (checkFlag lax)) with
          | ok texts => exact faithful_checkNames ((all_checkFlag_eq_ok_iff hlax).mp hall) hvalue hlists
          | error errors =>
              have herrors : errors = flags.zipIdx.flatMap fun item => (checkFlag lax item).errors := by
                rw [← List.flatMap_map, ← Checked.errors_all, hall]
                rfl
              have hnames : ∀ texts, ¬List.Forall₂ Value.ReadsAs flags texts := by
                intro texts htexts
                cases hall.symm.trans ((all_checkFlag_eq_ok_iff hlax).mpr htexts)
              change Faithful _ errors
              rw [herrors]
              refine (faithful_flagItems hlax flags).congr fun place error => ?_
              rw [flagsFault_iff hvalue hlists]
              simp [hnames]

theorem faithful_checkKey (index : Nat) (key : Value) :
    Faithful (KeyFault index key) (checkKey key).errors := by
  unfold checkKey
  split
  next name =>
    split
    next hpart =>
      refine .nil fun place error hfault => ?_
      cases hfault with
      | unknown hname => exact hname (List.contains_iff_mem.mp hpart)
      | notText hkey => exact hkey name rfl
    next hpart =>
      have hname : name ∉ parts := fun hmem => hpart (List.contains_iff_mem.mpr hmem)
      refine .singleton (.unknown hname) fun place error hfault => ?_
      cases hfault <;> rfl
  next hkey =>
    refine .singleton (.notText hkey) fun place error hfault => ?_
    cases hfault <;> rfl

variable {readOnly : Bool} {spec : PatternSpec}

-- What reading a raw mapping comes to: its parts and its keys are all checked.
theorem validate_eq_map (h : store.contents raw = .mapping readOnly entries) : validate lax store raw =
    Except.map (fun found : (String × List (String × String) × List FlagName) × List Unit =>
      ⟨found.1.1, found.1.2.1, found.1.2.2⟩)
      (Checked.both (Checked.both (checkTemplate lax entries)
        (Checked.both (checkFields lax store entries) (checkFlags lax store entries)))
        (Checked.all (entries.map fun entry => checkKey entry.1))) := by
  unfold validate
  simp only [h]
  rfl

theorem errors_validate (h : store.contents raw = .mapping readOnly entries) :
    (validate lax store raw).errors = (checkTemplate lax entries).errors ++
      ((checkFields lax store entries).errors ++ ((checkFlags lax store entries).errors ++
        entries.flatMap fun entry => (checkKey entry.1).errors)) := by
  rw [validate_eq_map h, Checked.errors_map, Checked.errors_both, Checked.errors_both, Checked.errors_both,
    Checked.errors_all, List.flatMap_map]
  simp only [List.append_assoc]

-- The errors of a raw spec list just what is wrong with it.
theorem faithful_validate (hlax : lax.Documented) (h : store.contents raw = .mapping readOnly entries) :
    Faithful (Violated store entries) (validate lax store raw).errors := by
  have hkey : ∀ index key place error, KeyFault index key place error → place = .key index := by
    rintro _ _ _ _ ⟨⟩ <;> rfl
  have hkeys : Faithful (fun place error => ∃ index entry, entries[index]? = some entry ∧
      KeyFault index entry.1 place error) (entries.flatMap fun entry => (checkKey entry.1).errors) := by
    rw [← flatMap_zipIdx]
    refine .flatMap (fun index entry _ => faithful_checkKey index entry.1) ?_
    intro index _ _ _ later _ _ _ hlater hfault hmore
    rw [hkey _ _ _ _ hfault, hkey _ _ _ _ hmore]
    exact Or.inr ⟨rfl, hlater⟩
  have htemplate : ∀ place error, TemplateFault entries place error → place.part = 0 := by
    rintro _ _ ⟨⟩ <;> rfl
  have hfields : ∀ place error, FieldsFault store entries place error → place.part = 1 := by
    rintro _ _ (_ | _ | _ | ⟨_, _, _, ⟨⟩⟩) <;> rfl
  have hflags : ∀ place error, FlagsFault store entries place error → place.part = 2 := by
    rintro _ _ ⟨⟩ <;> rfl
  have hlast : ∀ index key place error, KeyFault index key place error → place.part = 3 :=
    fun index key place error hfault => congrArg SpecPlace.part (hkey index key place error hfault)
  rw [errors_validate h]
  refine (faithful_checkTemplate hlax).append ((faithful_checkFields hlax).append
    ((faithful_checkFlags hlax).append hkeys ?_) ?_) ?_
  · rintro place error other more hfault ⟨index, entry, _, hmore⟩
    rw [SpecPlace.Before, hflags _ _ hfault, hlast _ _ _ _ hmore]
    omega
  · rintro place error other more hfault (hmore | ⟨index, entry, _, hmore⟩)
    · rw [SpecPlace.Before, hfields _ _ hfault, hflags _ _ hmore]
      omega
    · rw [SpecPlace.Before, hfields _ _ hfault, hlast _ _ _ _ hmore]
      omega
  · rintro place error other more hfault (hmore | hmore | ⟨index, entry, _, hmore⟩)
    · rw [SpecPlace.Before, htemplate _ _ hfault, hfields _ _ hmore]
      omega
    · rw [SpecPlace.Before, htemplate _ _ hfault, hflags _ _ hmore]
      omega
    · rw [SpecPlace.Before, htemplate _ _ hfault, hlast _ _ _ _ hmore]
      omega

theorem founded_fail {α : Type} (path : List String) (issue : SpecIssue) :
    (Checked.fail path issue : Checked α).Founded :=
  Checked.founded_error (List.cons_ne_nil _ _)

theorem founded_checkTemplate (hlax : lax.Documented) : (checkTemplate lax entries).Founded := by
  unfold checkTemplate
  split
  · exact founded_fail _ _
  · exact founded_checkText hlax _ _

theorem founded_checkFields (hlax : lax.Documented) : (checkFields lax store entries).Founded := by
  unfold checkFields
  split
  · exact founded_fail _ _
  · split
    · exact founded_fail _ _
    · refine (Checked.Founded.all fun check hcheck => ?_).bind fun fields => ?_
      · obtain ⟨entry, _, rfl⟩ := List.mem_map.mp hcheck
        exact (founded_checkText hlax _ entry.1).both (founded_checkText hlax _ entry.2)
      · split
        · exact founded_fail _ _
        · exact Checked.founded_ok _

theorem founded_checkFlags (hlax : lax.Documented) : (checkFlags lax store entries).Founded := by
  unfold checkFlags
  split
  · exact Checked.founded_ok []
  · split
    · exact founded_fail _ _
    · refine (Checked.Founded.all fun check hcheck => ?_).bind fun names => ?_
      · obtain ⟨item, _, rfl⟩ := List.mem_map.mp hcheck
        exact founded_checkText hlax _ item.1
      · unfold checkNames
        simp only
        split
        · exact Checked.founded_ok _
        · exact founded_fail _ _

theorem founded_checkKey (key : Value) : (checkKey key).Founded := by
  unfold checkKey
  split
  · split
    · exact Checked.founded_ok _
    · exact founded_fail _ _
  · exact founded_fail _ _

theorem founded_validate (hlax : lax.Documented) (h : store.contents raw = .mapping readOnly entries) :
    (validate lax store raw).Founded := by
  have hkeys : (Checked.all (entries.map fun entry => checkKey entry.1)).Founded := by
    refine .all fun check hcheck => ?_
    obtain ⟨entry, _, rfl⟩ := List.mem_map.mp hcheck
    exact founded_checkKey entry.1
  rw [validate_eq_map h]
  exact (((founded_checkTemplate hlax).both
    ((founded_checkFields hlax).both (founded_checkFlags hlax))).both hkeys).map _

-- Flags that all count as texts, and the names among them that no flag has.
def HasUnknown (store : Store) (entries : List (Value × Value)) (names : List String) : Prop :=
  ∃ value items texts, Value.lookup? entries "flags" = some value ∧
    (store.contents value).Lists items ∧ List.Forall₂ Value.ReadsAs items texts ∧
    names = FlagName.unknown texts ∧ names ≠ []

theorem unknownFlags_mem_iff (hlax : lax.Documented)
    (h : store.contents raw = .mapping readOnly entries) {names : List String} :
    ⟨path, .unknownFlags names⟩ ∈ (validate lax store raw).errors ↔
      path = ["flags"] ∧ HasUnknown store entries names := by
  have hfaithful := faithful_validate hlax h
  have hreadable : ∀ value : Value, ¬value.Unreadable (.unknownFlags names) := by
    rintro value ⟨⟩
  constructor
  · intro hmem
    obtain ⟨place, hfault | hfault | hfault | ⟨index, entry, _, hfault⟩⟩ := hfaithful.exists_fault hmem
    · cases hfault with
      | unreadable _ hissue => exact absurd hissue (hreadable _)
    · cases hfault with
      | field _ _ _ hfault =>
          cases hfault with
          | key hissue => exact absurd hissue (hreadable _)
          | value hissue => exact absurd hissue (hreadable _)
    · cases hfault with
      | flag _ _ _ hissue => exact absurd hissue (hreadable _)
      | unknown hvalue hitems htexts hunknown =>
          exact ⟨rfl, _, _, _, hvalue, hitems, htexts, rfl, hunknown⟩
    · generalize entry.1 = key at hfault
      cases hfault
  · rintro ⟨rfl, value, items, texts, hvalue, hitems, htexts, rfl, hunknown⟩
    have hviolated : Violated store entries .flags
        ⟨["flags"], .unknownFlags (FlagName.unknown texts)⟩ :=
      Or.inr (Or.inr (Or.inl (.unknown hvalue hitems htexts hunknown)))
    obtain ⟨other, hother, hfault | hfault | hfault | ⟨index, entry, _, hfault⟩⟩ :=
      hfaithful.exists_error hviolated
    · cases hfault
    · cases hfault with
      | field _ _ _ hfault => cases hfault
    · cases hfault with
      | notAList h hnone =>
          cases hvalue.symm.trans h
          exact absurd hitems (hnone _)
      | unknown h hsome hothers =>
          cases hvalue.symm.trans h
          cases hitems.unique hsome
          cases readsAs_unique htexts hothers
          exact hother
    · generalize entry.1 = key at hfault
      cases hfault

-- A raw mapping is read just if it is in order, and as the spec it stands for; otherwise its errors
-- list just what is wrong, and unknown flags only where all flags count as texts. What was read is
-- read again as it is, and all its flags are found by their names.
theorem validate_exact (hlax : lax.Documented) (h : store.contents raw = .mapping readOnly entries) :
    (∀ spec, validate lax store raw = .ok spec ↔ Gives store entries spec) ∧
      (∀ errors, validate lax store raw = .error errors →
        errors ≠ [] ∧ Faithful (Violated store entries) errors) ∧
      (∀ path names, (∃ errors, validate lax store raw = .error errors ∧
        ⟨path, .unknownFlags names⟩ ∈ errors) ↔ path = ["flags"] ∧ HasUnknown store entries names) ∧
      ∀ spec, validate lax store raw = .ok spec →
        (∀ other, validate lax other spec.toValue = .ok spec) ∧
          (spec.flags.map FlagName.text).mapM FlagName.ofNormalized? = some spec.flags ∧
          ∀ position, spec.regexFlags.testBit position =
            spec.flags.any fun flag => flag.bits.testBit position := by
  refine ⟨fun spec => validate_eq_ok_iff hlax h, fun errors herrors => ⟨?_, ?_⟩, fun path names => ?_,
    fun spec hspec => ⟨validate_toValue hlax hspec, ?_, FlagName.testBit_allBits spec.flags⟩⟩
  · rintro rfl
    obtain ⟨spec, hspec⟩ := founded_validate hlax h (by rw [herrors]; rfl)
    cases herrors.symm.trans hspec
  · have hfaithful := faithful_validate hlax h
    rwa [herrors] at hfaithful
  · rw [← unknownFlags_mem_iff hlax h]
    cases hvalidate : validate lax store raw <;> simp [Checked.errors]
  · generalize spec.flags = flags
    induction flags with
    | nil => rfl
    | cons flag rest ih =>
        rw [List.map_cons, List.mapM_cons, FlagName.ofNormalized?_eq_some_iff.mpr rfl, ih]
        rfl

-- A name in bytes is unknown beside one with a blank, while the template is missing.
theorem validate_exact_bytes : ∃ errors,
    validate .standard .empty (.mapping false [(.text "fields", .mapping true [(.text "a", .text "x")]),
      (.text "flags", .tuple [.text " i", .bytes (Utf8.encode "nope".toList)])]) = .error errors ∧
    ⟨["flags"], .unknownFlags ["NOPE"]⟩ ∈ errors := by
  have hexact := validate_exact Lax.standard_documented (rfl : Store.empty.contents
    (.mapping false [(.text "fields", .mapping true [(.text "a", .text "x")]),
      (.text "flags", .tuple [.text " i", .bytes (Utf8.encode "nope".toList)])]) = .mapping false _)
  refine (hexact.2.2.1 ["flags"] ["NOPE"]).mpr ⟨rfl, _, _, [" i", "nope"], rfl, .tuple _, ?_, ?_, by simp⟩
  · exact .cons (.text _) (.cons (.bytes _) .nil)
  · decide +kernel

end PatternSpec

end RecordPattern
