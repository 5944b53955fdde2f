import RecordPattern.Proofs.Spec.Fields
import RecordPattern.Proofs.Spec.Lax

namespace RecordPattern

open Outcome

-- Flag names that no flag has, normalized and in their order.
def FlagName.unknown (names : List String) : List String :=
  (names.map normalize).filter fun name => ∀ flag ∈ all, flag.text ≠ name

namespace Checked

variable {α β : Type}

theorem all_eq_ok_iff {checks : List (Checked α)} {results : List α} :
    all checks = .ok results ↔ List.Forall₂ (fun check result => check = .ok result) checks results := by
  induction checks generalizing results with
  | nil => cases results <;> simp [all]
  | cons first rest ih =>
      rw [all, map_eq_ok]
      constructor
      · rintro ⟨⟨result, more⟩, hboth, rfl⟩
        obtain ⟨hfirst, hrest⟩ := both_eq_ok_iff.mp hboth
        exact .cons hfirst (ih.mp hrest)
      · intro h
        cases h with
        | @cons _ result _ more hfirst hrest =>
            exact ⟨(result, more), both_eq_ok_iff.mpr ⟨hfirst, ih.mpr hrest⟩, rfl⟩

theorem exists_all_eq_ok_iff {checks : List (Checked α)} :
    (∃ results, all checks = .ok results) ↔ ∀ check ∈ checks, ∃ result, check = .ok result := by
  simp only [all_eq_ok_iff]
  induction checks with
  | nil => simp
  | cons first rest ih =>
      rw [List.forall_mem_cons, ← ih]
      constructor
      · rintro ⟨_, hfirst | ⟨hfirst, hrest⟩⟩
        exact ⟨⟨_, hfirst⟩, _, hrest⟩
      · rintro ⟨⟨result, hfirst⟩, results, hrest⟩
        exact ⟨result :: results, .cons hfirst hrest⟩

end Checked

namespace FlagName

theorem ofNormalized?_eq_some_iff {text : String} {flag : FlagName} :
    ofNormalized? text = some flag ↔ flag.text = text := by
  constructor
  · intro h
    simpa using List.find?_some h
  · rintro rfl
    cases flag <;> rfl

-- The name of a flag is in uppercase and has no blanks around it.
theorem normalize_text (flag : FlagName) : normalize flag.text = flag.text := by
  cases flag <;> decide +kernel

theorem ofNormalized?_eq_none_iff {text : String} :
    ofNormalized? text = none ↔ ∀ flag ∈ all, flag.text ≠ text := by
  simp [ofNormalized?]

theorem unknown_eq (names : List String) :
    ((names.map normalize).filter fun name => (ofNormalized? name).isNone) = unknown names := by
  apply List.filter_congr
  intro name _
  rw [Bool.eq_iff_iff, Option.isNone_iff_eq_none, ofNormalized?_eq_none_iff, decide_eq_true_eq]

-- Flags are named just if no name is unknown, and then each name has one flag.
theorem forall₂_iff {names : List String} {flags : List FlagName} :
    List.Forall₂ (fun name flag => normalize name = flag.text) names flags ↔
      unknown names = [] ∧ names.filterMap ofText? = flags := by
  rw [← unknown_eq]
  induction names generalizing flags with
  | nil => simp [eq_comm]
  | cons name rest ih =>
      rw [List.forall₂_cons_left_iff]
      cases hname : ofText? name with
      | none =>
          have hunknown : (ofNormalized? (normalize name)).isNone = true := by
            rw [← ofText?, hname]
            rfl
          simp only [List.map_cons, List.filter_cons, hunknown, if_true, reduceCtorEq, false_and, iff_false]
          rintro ⟨flag, _, hflag, _⟩
          cases hname.symm.trans (ofNormalized?_eq_some_iff.mpr hflag.symm)
      | some flag =>
          have hknown : (ofNormalized? (normalize name)).isNone = false := by
            rw [← ofText?, hname]
            rfl
          have htext := ofNormalized?_eq_some_iff.mp hname
          simp only [List.map_cons, List.filter_cons, hknown, List.filterMap_cons, hname]
          constructor
          · rintro ⟨other, more, hother, hmore, rfl⟩
            obtain rfl := Option.some.inj (hname.symm.trans (ofNormalized?_eq_some_iff.mpr hother.symm))
            obtain ⟨hnone, rfl⟩ := ih.mp hmore
            exact ⟨hnone, rfl⟩
          · rintro ⟨hnone, rfl⟩
            exact ⟨flag, _, htext.symm, ih.mpr ⟨hnone, rfl⟩, rfl⟩

theorem testBit_allBits (flags : List FlagName) (position : Nat) :
    (allBits flags).testBit position = flags.any fun flag => flag.bits.testBit position := by
  suffices h : ∀ bits : Nat, (flags.foldl (fun bits flag => bits ||| flag.bits) bits).testBit position =
      (bits.testBit position || flags.any fun flag => flag.bits.testBit position) by
    simpa [allBits] using h 0
  induction flags with
  | nil => simp
  | cons flag rest ih =>
      intro bits
      rw [List.foldl_cons, ih, Nat.testBit_or, List.any_cons, Bool.or_assoc]

end FlagName

namespace PatternSpec

variable {lax : Lax} {store : Store} {raw value : Value} {entries items : List (Value × Value)}
  {path : List String} {text : String} {errors : List SpecError}

theorem checkText_eq_ok_iff (hlax : lax.Documented) :
    checkText lax path value = .ok text ↔ value.ReadsAs text :=
  mapError_eq_ok.trans hlax.text_eq_ok_iff

theorem checkText_eq_error_iff (hlax : lax.Documented) : checkText lax path value = .error errors ↔
    ∃ issue, value.Unreadable issue ∧ errors = [⟨path, issue⟩] := by
  rw [checkText, mapError_eq_error]
  simp only [hlax.text_eq_error_iff, eq_comm (b := errors)]

-- Both parts of an entry count as texts.
def ReadsAsField (entry : Value × Value) (field : String × String) : Prop :=
  entry.1.ReadsAs field.1 ∧ entry.2.ReadsAs field.2

-- The fields of a raw spec are a mapping from texts to texts, and not an empty one.
def GivesFields (store : Store) (entries : List (Value × Value)) (fields : List (String × String)) :
    Prop :=
  ∃ value readOnly items texts, Value.lookup? entries "fields" = some value ∧
    store.contents value = .mapping readOnly items ∧ items ≠ [] ∧
    List.Forall₂ ReadsAsField items texts ∧ fields = mergeFields texts

-- Its flags are left out, or are a sequence of texts that normalize to names of flags.
def GivesFlags (store : Store) (entries : List (Value × Value)) (flags : List FlagName) : Prop :=
  (Value.lookup? entries "flags" = none ∧ flags = []) ∨
    ∃ value items texts, Value.lookup? entries "flags" = some value ∧
      (store.contents value).Lists items ∧ List.Forall₂ Value.ReadsAs items texts ∧
      List.Forall₂ (fun text flag => FlagName.normalize text = flag.text) texts flags

-- A raw spec that is in order, and the spec that it stands for.
structure Gives (store : Store) (entries : List (Value × Value)) (spec : PatternSpec) : Prop where
  template : ∃ value, Value.lookup? entries "template" = some value ∧ value.ReadsAs spec.template
  fields : GivesFields store entries spec.fields
  flags : GivesFlags store entries spec.flags
  keys : ∀ entry ∈ entries, ∃ part ∈ parts, entry.1 = .text part

theorem checkTemplate_eq_ok_iff (hlax : lax.Documented) : checkTemplate lax entries = .ok text ↔
    ∃ value, Value.lookup? entries "template" = some value ∧ value.ReadsAs text := by
  unfold checkTemplate
  cases Value.lookup? entries "template" with
  | none => simp [Checked.fail]
  | some value => simp [checkText_eq_ok_iff hlax]

theorem checkField_eq_ok_iff (hlax : lax.Documented) {entry : Value × Value}
    {field : String × String} : checkField lax entry = .ok field ↔ ReadsAsField entry field := by
  obtain ⟨name, pattern⟩ := field
  rw [checkField, Checked.both_eq_ok_iff, checkText_eq_ok_iff hlax, checkText_eq_ok_iff hlax]
  rfl

theorem all_checkField_eq_ok_iff (hlax : lax.Documented) {texts : List (String × String)} :
    Checked.all (items.map (checkField lax)) = .ok texts ↔ List.Forall₂ ReadsAsField items texts := by
  rw [Checked.all_eq_ok_iff, List.forall₂_map_left_iff]
  simp only [checkField_eq_ok_iff hlax]

theorem checkFields_of_missing (h : Value.lookup? entries "fields" = none) :
    checkFields lax store entries = .error [⟨["fields"], .missing⟩] := by
  unfold checkFields
  rw [h]
  rfl

theorem checkFields_of_other (hlax : lax.Documented)
    (h : Value.lookup? entries "fields" = some value)
    (hother : ∀ readOnly items, store.contents value ≠ .mapping readOnly items) :
    checkFields lax store entries = .error [⟨["fields"], .notAMapping⟩] := by
  unfold checkFields
  rw [h]
  simp only [hlax.noEntries hother]
  rfl

theorem checkFields_of_empty (hlax : lax.Documented) {readOnly : Bool}
    (h : Value.lookup? entries "fields" = some value)
    (hcontents : store.contents value = .mapping readOnly []) :
    checkFields lax store entries = .error [⟨["fields"], .noFields⟩] := by
  unfold checkFields
  rw [h]
  simp only [hcontents, hlax.entries]
  rfl

theorem checkFields_of_items (hlax : lax.Documented) {readOnly : Bool}
    (h : Value.lookup? entries "fields" = some value)
    (hcontents : store.contents value = .mapping readOnly items) (hitems : items ≠ []) :
    checkFields lax store entries = (Checked.all (items.map (checkField lax))).map mergeFields := by
  unfold checkFields
  rw [h]
  simp only [hcontents, hlax.entries]
  cases hall : Checked.all (items.map (checkField lax)) with
  | error errors => rfl
  | ok texts =>
      have htexts := (all_checkField_eq_ok_iff hlax).mp hall
      change (if texts.isEmpty then _ else _) = _
      rw [if_neg]
      · rfl
      · rw [List.isEmpty_iff]
        rintro rfl
        cases htexts
        exact hitems rfl

theorem checkFields_eq_ok_iff (hlax : lax.Documented) {fields : List (String × String)} :
    checkFields lax store entries = .ok fields ↔ GivesFields store entries fields := by
  constructor
  · intro h
    cases hvalue : Value.lookup? entries "fields" with
    | none => cases (checkFields_of_missing hvalue).symm.trans h
    | some value =>
        by_cases hother : ∀ readOnly items, store.contents value ≠ .mapping readOnly items
        · cases (checkFields_of_other hlax hvalue hother).symm.trans h
        · simp only [ne_eq, not_forall, not_not] at hother
          obtain ⟨readOnly, items, hcontents⟩ := hother
          by_cases hitems : items = []
          · cases (checkFields_of_empty hlax hvalue (hitems ▸ hcontents)).symm.trans h
          · rw [checkFields_of_items hlax hvalue hcontents hitems, map_eq_ok] at h
            obtain ⟨texts, htexts, rfl⟩ := h
            exact ⟨value, readOnly, items, texts, hvalue, hcontents, hitems,
              (all_checkField_eq_ok_iff hlax).mp htexts, rfl⟩
  · rintro ⟨value, readOnly, items, texts, hvalue, hcontents, hitems, htexts, rfl⟩
    rw [checkFields_of_items hlax hvalue hcontents hitems, (all_checkField_eq_ok_iff hlax).mpr htexts]
    rfl

theorem checkNames_eq (names : List String) : checkNames names =
    if FlagName.unknown names = [] then .ok (names.filterMap FlagName.ofText?)
    else .error [⟨["flags"], .unknownFlags (FlagName.unknown names)⟩] := by
  unfold checkNames
  simp only [FlagName.unknown_eq, List.isEmpty_iff]
  rfl

theorem checkNames_eq_ok_iff {names : List String} {flags : List FlagName} :
    checkNames names = .ok flags ↔
      List.Forall₂ (fun name flag => FlagName.normalize name = flag.text) names flags := by
  rw [checkNames_eq, FlagName.forall₂_iff]
  split <;> simp [*]

theorem checkFlags_of_missing (h : Value.lookup? entries "flags" = none) :
    checkFlags lax store entries = .ok [] := by
  unfold checkFlags
  rw [h]

theorem checkFlags_of_other (h : Value.lookup? entries "flags" = some value)
    (hother : lax.items? (store.contents value) = none) :
    checkFlags lax store entries = .error [⟨["flags"], .notAList⟩] := by
  unfold checkFlags
  rw [h]
  simp only [hother]
  rfl

-- A flag is checked at its place in the list.
def checkFlag (lax : Lax) (item : Value × Nat) : Checked String :=
  checkText lax ["flags", toString item.2] item.1

theorem checkFlags_of_items {flags : List Value} (h : Value.lookup? entries "flags" = some value)
    (hitems : lax.items? (store.contents value) = some flags) :
    checkFlags lax store entries = Checked.all (flags.zipIdx.map (checkFlag lax)) >>= checkNames := by
  unfold checkFlags
  rw [h]
  simp only [hitems]
  rfl

theorem all_checkFlag_eq_ok_iff (hlax : lax.Documented) {flags : List Value} {texts : List String} :
    Checked.all (flags.zipIdx.map (checkFlag lax)) = .ok texts ↔
      List.Forall₂ Value.ReadsAs flags texts := by
  have hitems : List.Forall₂ Value.ReadsAs flags texts ↔
      List.Forall₂ (fun item text => item.1.ReadsAs text) flags.zipIdx texts := by
    conv_lhs => rw [← List.zipIdx_map_fst 0 flags, List.forall₂_map_left_iff]
  rw [Checked.all_eq_ok_iff, List.forall₂_map_left_iff, hitems]
  simp only [checkFlag, checkText_eq_ok_iff hlax]

theorem checkFlags_eq_ok_iff (hlax : lax.Documented) {flags : List FlagName} :
    checkFlags lax store entries = .ok flags ↔ GivesFlags store entries flags := by
  constructor
  · intro h
    cases hvalue : Value.lookup? entries "flags" with
    | none =>
        cases (checkFlags_of_missing hvalue).symm.trans h
        exact Or.inl ⟨hvalue, rfl⟩
    | some value =>
        cases hitems : lax.items? (store.contents value) with
        | none => cases (checkFlags_of_other hvalue hitems).symm.trans h
        | some items =>
            rw [checkFlags_of_items hvalue hitems, bind_eq_ok] at h
            obtain ⟨texts, htexts, hnames⟩ := h
            exact Or.inr ⟨value, items, texts, hvalue, hlax.items?_eq_some_iff.mp hitems,
              (all_checkFlag_eq_ok_iff hlax).mp htexts, checkNames_eq_ok_iff.mp hnames⟩
  · rintro (⟨hvalue, rfl⟩ | ⟨value, items, texts, hvalue, hitems, htexts, hnames⟩)
    · exact checkFlags_of_missing hvalue
    · rw [checkFlags_of_items hvalue (hlax.items hitems), bind_eq_ok]
      exact ⟨texts, (all_checkFlag_eq_ok_iff hlax).mpr htexts, checkNames_eq_ok_iff.mpr hnames⟩

theorem checkKey_eq_ok_iff {key : Value} {result : Unit} :
    checkKey key = .ok result ↔ ∃ part ∈ parts, key = .text part := by
  unfold checkKey
  split
  next name =>
    split
    next hpart => simpa using hpart
    next hpart => simpa [Checked.fail] using hpart
  next hkey =>
    simp only [Checked.fail, reduceCtorEq, false_iff, not_exists, not_and]
    exact fun part _ => hkey part

-- A raw spec is read just if it is in order, and then as the spec that it stands for.
theorem validate_eq_ok_iff (hlax : lax.Documented) {readOnly : Bool} {spec : PatternSpec}
    (h : store.contents raw = .mapping readOnly entries) :
    validate lax store raw = .ok spec ↔ Gives store entries spec := by
  have hkeys : (∃ units, Checked.all (entries.map fun entry => checkKey entry.1) = .ok units) ↔
      ∀ entry ∈ entries, ∃ part ∈ parts, entry.1 = .text part := by
    simp only [Checked.exists_all_eq_ok_iff, List.forall_mem_map, checkKey_eq_ok_iff, exists_const]
  unfold validate
  simp only [h, bind_eq_ok]
  constructor
  · rintro ⟨⟨⟨template, fields, flags⟩, units⟩, hboth, hspec⟩
    cases hspec
    simp only [Checked.both_eq_ok_iff] at hboth
    obtain ⟨⟨htemplate, hfields, hflags⟩, hunits⟩ := hboth
    exact ⟨(checkTemplate_eq_ok_iff hlax).mp htemplate, (checkFields_eq_ok_iff hlax).mp hfields,
      (checkFlags_eq_ok_iff hlax).mp hflags, hkeys.mp ⟨units, hunits⟩⟩
  · intro hgives
    obtain ⟨units, hunits⟩ := hkeys.mpr hgives.keys
    refine ⟨((spec.template, spec.fields, spec.flags), units), ?_, rfl⟩
    simp only [Checked.both_eq_ok_iff]
    exact ⟨⟨(checkTemplate_eq_ok_iff hlax).mpr hgives.template,
      (checkFields_eq_ok_iff hlax).mpr hgives.fields, (checkFlags_eq_ok_iff hlax).mpr hgives.flags⟩, hunits⟩

-- A spec as a raw one, with its flags by their names.
def toValue (spec : PatternSpec) : Value :=
  .mapping false [(.text "template", .text spec.template),
    (.text "fields", .mapping false (spec.fields.map fun field => (.text field.1, .text field.2))),
    (.text "flags", .list (spec.flags.map fun flag => .text flag.text))]

-- Fields with different names are merged as they are.
theorem mergeFields_of_nodup {fields : List (String × String)} (h : (fields.map Prod.fst).Nodup) :
    mergeFields fields = fields := by
  unfold mergeFields
  suffices hmerge : ∀ merged : List (String × String), ((merged ++ fields).map Prod.fst).Nodup →
      fields.foldl _ merged = merged ++ fields from hmerge [] h
  clear h
  induction fields with
  | nil => simp
  | cons field rest ih =>
      intro merged h
      have hnew : ¬merged.any (·.1 = field.1) = true := by
        rw [List.map_append, List.nodup_append] at h
        simp only [List.any_eq_true, decide_eq_true_eq, not_exists, not_and]
        exact fun other ho hsame => h.2.2 _ (List.mem_map_of_mem ho) _ List.mem_cons_self hsame
      rw [List.append_cons] at h ⊢
      rw [List.foldl_cons]
      simp only [if_neg hnew]
      exact ih _ h

theorem mergeFields_ne_nil {fields : List (String × String)} (h : fields ≠ []) :
    mergeFields fields ≠ [] := by
  unfold mergeFields
  suffices hmerge : ∀ merged : List (String × String), merged ≠ [] ∨ fields ≠ [] →
      fields.foldl _ merged ≠ [] from hmerge [] (Or.inr h)
  clear h
  induction fields with
  | nil => simp
  | cons field rest ih =>
      intro merged _
      refine ih _ (Or.inl ?_)
      simp only
      split_ifs with hany
      · obtain ⟨earlier, he, _⟩ := List.any_eq_true.mp hany
        simp [List.ne_nil_of_mem he]
      · simp

-- A spec that was read is read again as it is.
theorem validate_toValue (hlax : lax.Documented) {spec : PatternSpec}
    (h : validate lax store raw = .ok spec) (other : Store) :
    validate lax other spec.toValue = .ok spec := by
  have hnodup := validate_nodup h
  have hraw : ∃ readOnly entries, store.contents raw = .mapping readOnly entries := by
    unfold validate at h
    split at h
    next readOnly entries hcontents => exact ⟨readOnly, entries, hcontents⟩
    · cases h
  obtain ⟨readOnly, entries, hcontents⟩ := hraw
  have hgives := (validate_eq_ok_iff hlax hcontents).mp h
  obtain ⟨_, _, items, texts, _, _, hitems, htexts, hfields⟩ := hgives.fields
  have hsome : spec.fields ≠ [] := by
    rw [hfields]
    apply mergeFields_ne_nil
    rintro rfl
    cases htexts
    exact hitems rfl
  have hvalue : other.contents spec.toValue = .mapping false _ := rfl
  refine (validate_eq_ok_iff hlax hvalue).mpr
    ⟨⟨_, rfl, .text _⟩, ⟨_, _, _, spec.fields, rfl, rfl, by simpa using hsome, ?_, ?_⟩,
      Or.inr ⟨_, _, spec.flags.map FlagName.text, rfl, .list _, ?_, ?_⟩, by simp [parts]⟩
  · rw [List.forall₂_map_left_iff, List.forall₂_same]
    exact fun field _ => ⟨.text _, .text _⟩
  · exact (mergeFields_of_nodup hnodup).symm
  · rw [List.forall₂_map_left_iff, List.forall₂_map_right_iff, List.forall₂_same]
    exact fun flag _ => .text _
  · rw [List.forall₂_map_left_iff, List.forall₂_same]
    exact fun flag _ => FlagName.normalize_text flag

end PatternSpec

end RecordPattern
