import RecordPattern.Proofs.Record.Fields
import RecordPattern.Proofs.Spec.Violations

namespace RecordPattern

open Outcome

namespace FlagName

-- The value of the flag that a text names.
def valueOf? (text : String) : Option Nat :=
  (ofText? text).map bits

-- Two spellings of one name, or two names of one flag.
def SameFlag (text other : String) : Prop :=
  normalize text = normalize other ∨
    ∃ flag twin : FlagName, normalize text = flag.text ∧ normalize other = twin.text ∧ flag.bits = twin.bits

theorem ofText?_eq_some_iff {text : String} {flag : FlagName} :
    ofText? text = some flag ↔ normalize text = flag.text :=
  ofNormalized?_eq_some_iff.trans eq_comm

theorem valueOf?_eq_some_iff {text : String} {value : Nat} :
    valueOf? text = some value ↔ ∃ flag : FlagName, normalize text = flag.text ∧ flag.bits = value := by
  simp only [valueOf?, Option.map_eq_some_iff, ofText?_eq_some_iff]

theorem SameFlag.valueOf?_eq {text other : String} (h : SameFlag text other) :
    valueOf? text = valueOf? other := by
  rcases h with hspelling | ⟨flag, twin, htext, hother, hbits⟩
  · simp only [valueOf?, ofText?, hspelling]
  · rw [valueOf?_eq_some_iff.mpr ⟨flag, htext, rfl⟩, valueOf?_eq_some_iff.mpr ⟨twin, hother, rfl⟩, hbits]

-- Every text names a flag just if there are flags that the texts name.
theorem exists_forall₂_iff {texts : List String} :
    (∃ flags : List FlagName, List.Forall₂ (fun text flag => normalize text = flag.text) texts flags) ↔
      ∀ text ∈ texts, ∃ value, valueOf? text = some value := by
  induction texts with
  | nil => simp
  | cons text rest ih =>
      rw [List.forall_mem_cons, ← ih]
      constructor
      · rintro ⟨_, hnamed⟩
        cases hnamed with
        | @cons _ flag _ flags hflag hrest =>
            exact ⟨⟨flag.bits, valueOf?_eq_some_iff.mpr ⟨flag, hflag, rfl⟩⟩, flags, hrest⟩
      · rintro ⟨⟨_, hvalue⟩, flags, hrest⟩
        obtain ⟨flag, hflag, _⟩ := valueOf?_eq_some_iff.mp hvalue
        exact ⟨flag :: flags, .cons hflag hrest⟩

-- A bit is set in the flags of a list of texts just if it is in the value of one of them.
theorem testBit_allBits_iff {texts : List String} {flags : List FlagName}
    (h : List.Forall₂ (fun text flag => normalize text = flag.text) texts flags) (position : Nat) :
    (allBits flags).testBit position = true ↔
      ∃ text ∈ texts, ∃ value, valueOf? text = some value ∧ value.testBit position = true := by
  rw [testBit_allBits]
  induction h with
  | nil => simp
  | @cons text flag texts flags hflag hrest ih =>
      have hvalue : valueOf? text = some flag.bits := valueOf?_eq_some_iff.mpr ⟨flag, hflag, rfl⟩
      simp only [List.any_cons, Bool.or_eq_true, ih, List.exists_mem_cons_iff, hvalue,
        Option.some.injEq, exists_eq_left']

theorem allBits_append (first second : List FlagName) :
    allBits (first ++ second) = allBits first ||| allBits second := by
  apply Nat.eq_of_testBit_eq
  intro position
  rw [Nat.testBit_or, testBit_allBits, testBit_allBits, testBit_allBits, List.any_append]

-- The flags of a list are the disjunction of the values of its texts.
theorem allBits_eq {texts : List String} {flags : List FlagName}
    (h : List.Forall₂ (fun text flag => normalize text = flag.text) texts flags) :
    allBits flags = (texts.filterMap valueOf?).foldl (· ||| ·) 0 := by
  have hvalues : texts.filterMap valueOf? = flags.map bits := by
    induction h with
    | nil => rfl
    | @cons text flag texts flags hflag _ ih =>
        rw [List.filterMap_cons, valueOf?_eq_some_iff.mpr ⟨flag, hflag, rfl⟩, ih, List.map_cons]
  rw [hvalues, List.foldl_map, allBits]

end FlagName

namespace PatternSpec

-- A raw spec with the given texts as its flags.
def flagged (entries : List (Value × Value)) (texts : List String) : List (Value × Value) :=
  Value.assign entries "flags" (.list (texts.map .text))

-- What it is read as.
def readFlagged (lax : Lax) (store : Store) (entries : List (Value × Value))
    (texts : List String) : Checked PatternSpec :=
  validate lax store (.mapping false (flagged entries texts))

variable {lax : Lax} {store : Store} {entries : List (Value × Value)} {raw : Value} {readOnly : Bool}
  {spec result : PatternSpec} {texts others : List String}

theorem flagged_keys (h : ∀ entry ∈ entries, ∃ part ∈ parts, entry.1 = .text part) :
    ∀ entry ∈ flagged entries texts, ∃ part ∈ parts, entry.1 = .text part := by
  suffices hkeys : ∀ key ∈ (flagged entries texts).map Prod.fst, ∃ part ∈ parts, key = .text part from
    fun entry he => hkeys _ (List.mem_map_of_mem he)
  intro key hkey
  rw [flagged, Value.keys_assign, List.mem_append] at hkey
  rcases hkey with hold | hnew
  · obtain ⟨entry, he, rfl⟩ := List.mem_map.mp hold
    exact h entry he
  · split at hnew
    · obtain rfl := List.mem_singleton.mp hnew
      exact ⟨"flags", by decide, rfl⟩
    · cases hnew

theorem givesFlags_flagged {flags : List FlagName} : GivesFlags store (flagged entries texts) flags ↔
    List.Forall₂ (fun text flag => FlagName.normalize text = flag.text) texts flags := by
  have hvalue : Value.lookup? (flagged entries texts) "flags" = some (.list (texts.map .text)) := by
    rw [flagged, Value.lookup?_assign, if_pos rfl]
  have hreads : List.Forall₂ Value.ReadsAs (texts.map .text) texts := by
    rw [List.forall₂_map_left_iff, List.forall₂_same]
    exact fun text _ => .text text
  constructor
  · rintro (⟨hnone, _⟩ | ⟨value, items, found, hlookup, hitems, hfound, hnamed⟩)
    · cases hvalue.symm.trans hnone
    · cases hvalue.symm.trans hlookup
      cases hitems
      obtain rfl := readsAs_unique hreads hfound
      exact hnamed
  · intro hnamed
    exact Or.inr ⟨_, _, texts, hvalue, .list _, hreads, hnamed⟩

-- Other flags leave the rest of a spec as it is.
theorem Gives.flagged {flags : List FlagName} (h : Gives store entries spec)
    (hflags : List.Forall₂ (fun text flag => FlagName.normalize text = flag.text) texts flags) :
    Gives store (flagged entries texts) { spec with flags } := by
  obtain ⟨value, htemplate, hreads⟩ := h.template
  obtain ⟨fields, readOnly, items, found, hfields, hrest⟩ := h.fields
  refine ⟨⟨value, ?_, hreads⟩, ⟨fields, readOnly, items, found, ?_, hrest⟩,
    givesFlags_flagged.mpr hflags, flagged_keys h.keys⟩
  · rw [PatternSpec.flagged, Value.lookup?_assign, if_neg (by decide)]
    exact htemplate
  · rw [PatternSpec.flagged, Value.lookup?_assign, if_neg (by decide)]
    exact hfields

theorem readFlagged_eq_ok_iff (hlax : lax.Documented) (h : Gives store entries spec) :
    readFlagged lax store entries texts = .ok result ↔ ∃ flags,
      List.Forall₂ (fun text flag => FlagName.normalize text = flag.text) texts flags ∧
        result = { spec with flags } := by
  have hcontents : store.contents (.mapping false (flagged entries texts)) = .mapping false _ := rfl
  constructor
  · intro hresult
    have hnamed := givesFlags_flagged.mp ((validate_eq_ok_iff hlax hcontents).mp hresult).flags
    have hsame := (validate_eq_ok_iff hlax hcontents).mpr (h.flagged hnamed)
    exact ⟨result.flags, hnamed, Except.ok.inj (hresult.symm.trans hsame)⟩
  · rintro ⟨flags, hnamed, rfl⟩
    exact (validate_eq_ok_iff hlax hcontents).mpr (h.flagged hnamed)

-- Texts are accepted as flags just if each of them names one.
theorem exists_readFlagged_iff (hlax : lax.Documented) (h : Gives store entries spec) :
    (∃ result, readFlagged lax store entries texts = .ok result) ↔
      ∀ text ∈ texts, ∃ value, FlagName.valueOf? text = some value := by
  rw [← FlagName.exists_forall₂_iff]
  simp only [readFlagged_eq_ok_iff hlax h]
  constructor
  · rintro ⟨_, flags, hnamed, _⟩
    exact ⟨flags, hnamed⟩
  · rintro ⟨flags, hnamed⟩
    exact ⟨_, flags, hnamed, rfl⟩

-- Texts that name the same flags, whichever and however often, are accepted alike and set the
-- same bits.
theorem readFlagged_of_sameValues (hlax : lax.Documented) (h : Gives store entries spec)
    (hresult : readFlagged lax store entries texts = .ok result)
    (hsame : ∀ value?, value? ∈ texts.map FlagName.valueOf? ↔ value? ∈ others.map FlagName.valueOf?) :
    ∃ other, readFlagged lax store entries others = .ok other ∧ other.regexFlags = result.regexFlags := by
  have hvalues (value? : Option Nat) : (∃ text ∈ texts, FlagName.valueOf? text = value?) ↔
      ∃ text ∈ others, FlagName.valueOf? text = value? := by
    simpa only [List.mem_map] using hsame value?
  have hknown := (exists_readFlagged_iff hlax h).mp ⟨result, hresult⟩
  have hothers : ∀ text ∈ others, ∃ value, FlagName.valueOf? text = some value := by
    intro text ht
    obtain ⟨first, hf, hequal⟩ := (hvalues _).mpr ⟨text, ht, rfl⟩
    exact hequal ▸ hknown first hf
  obtain ⟨other, hother⟩ := (exists_readFlagged_iff hlax h).mpr hothers
  obtain ⟨flags, hnamed, rfl⟩ := (readFlagged_eq_ok_iff hlax h).mp hresult
  obtain ⟨twins, htwins, rfl⟩ := (readFlagged_eq_ok_iff hlax h).mp hother
  refine ⟨_, hother, Nat.eq_of_testBit_eq fun position => ?_⟩
  have hbits (found : List String) : (∃ text ∈ found, ∃ value,
      FlagName.valueOf? text = some value ∧ value.testBit position = true) ↔
        ∃ value, (∃ text ∈ found, FlagName.valueOf? text = some value) ∧
          value.testBit position = true := by
    constructor
    · rintro ⟨text, ht, value, hvalue, hbit⟩
      exact ⟨value, ⟨text, ht, hvalue⟩, hbit⟩
    · rintro ⟨value, ⟨text, ht, hvalue⟩, hbit⟩
      exact ⟨text, ht, value, hvalue, hbit⟩
  rw [Bool.eq_iff_iff, regexFlags, regexFlags, FlagName.testBit_allBits_iff htwins,
    FlagName.testBit_allBits_iff hnamed, hbits, hbits]
  simp only [hvalues]

theorem regexFlags_append (hlax : lax.Documented) (h : Gives store entries spec) {second : PatternSpec}
    (hresult : readFlagged lax store entries texts = .ok result)
    (hsecond : readFlagged lax store entries others = .ok second) :
    ∃ both, readFlagged lax store entries (texts ++ others) = .ok both ∧
      both.regexFlags = result.regexFlags ||| second.regexFlags := by
  obtain ⟨flags, hnamed, rfl⟩ := (readFlagged_eq_ok_iff hlax h).mp hresult
  obtain ⟨further, hfurther, rfl⟩ := (readFlagged_eq_ok_iff hlax h).mp hsecond
  exact ⟨_, (readFlagged_eq_ok_iff hlax h).mpr ⟨_, List.rel_append hnamed hfurther, rfl⟩,
    FlagName.allBits_append flags further⟩

-- The flags of a spec stand for the set of flags that they name: they set the bits of all of
-- them, in whichever order, however often and however each is written. Lists put together set the
-- bits of both, and a list is refused just if one of its texts is.
theorem flags_denote_set (hlax : lax.Documented)
    (hraw : store.contents raw = .mapping readOnly entries) (hspec : validate lax store raw = .ok spec) :
    (∀ texts result, readFlagged lax store entries texts = .ok result →
      result = { spec with flags := result.flags } ∧
      (∀ text ∈ texts, ∃ value, FlagName.valueOf? text = some value) ∧
      result.regexFlags = (texts.filterMap FlagName.valueOf?).foldl (· ||| ·) 0 ∧
      (∀ others, texts.Perm others → ∃ other, readFlagged lax store entries others = .ok other ∧
        other.regexFlags = result.regexFlags) ∧
      (∀ others, (∀ text, text ∈ others ↔ text ∈ texts) →
        ∃ other, readFlagged lax store entries others = .ok other ∧
          other.regexFlags = result.regexFlags) ∧
      ∀ before text after, texts = before ++ text :: after → ∀ spelling,
        FlagName.SameFlag text spelling →
          ∃ other, readFlagged lax store entries (before ++ spelling :: after) = .ok other ∧
            other.regexFlags = result.regexFlags) ∧
    (∀ texts others first second, readFlagged lax store entries texts = .ok first →
      readFlagged lax store entries others = .ok second →
        ∃ both, readFlagged lax store entries (texts ++ others) = .ok both ∧
          both.regexFlags = first.regexFlags ||| second.regexFlags) ∧
    ∀ texts, (∃ errors, readFlagged lax store entries texts = .error errors) ↔
      ∃ text ∈ texts, ∃ errors, readFlagged lax store entries [text] = .error errors := by
  have h := (validate_eq_ok_iff hlax hraw).mp hspec
  refine ⟨fun texts result hresult => ⟨?_, ?_, ?_, ?_, ?_, ?_⟩, ?_, fun texts => ?_⟩
  · obtain ⟨flags, _, rfl⟩ := (readFlagged_eq_ok_iff hlax h).mp hresult
    rfl
  · exact (exists_readFlagged_iff hlax h).mp ⟨result, hresult⟩
  · obtain ⟨flags, hnamed, rfl⟩ := (readFlagged_eq_ok_iff hlax h).mp hresult
    exact FlagName.allBits_eq hnamed
  · intro others hperm
    exact readFlagged_of_sameValues hlax h hresult fun value? => (hperm.map _).mem_iff
  · intro others hsame
    refine readFlagged_of_sameValues hlax h hresult fun value? => ?_
    simp only [List.mem_map, hsame]
  · rintro before text after rfl spelling hspelling
    refine readFlagged_of_sameValues hlax h hresult fun value? => ?_
    simp only [List.map_append, List.map_cons, hspelling.valueOf?_eq]
  · intro texts others first second hfirst hsecond
    exact regexFlags_append hlax h hfirst hsecond
  · simp only [exists_eq_error_iff, exists_readFlagged_iff hlax h, List.forall_mem_singleton, not_forall,
      exists_prop]

-- A raw spec with one field and without flags.
def oneField : List (Value × Value) :=
  [(.text "template", .text "x"), (.text "fields", .mapping false [(.text "A", .text "x")])]

-- Other spellings of two names, the long name of a flag, and one that is left out where it is repeated.
theorem flags_denote_set_spellings :
    ∃ result, readFlagged .standard .empty oneField [" IgnoreCase ", "s\t"] = .ok result ∧
      result.regexFlags = Regex.ignoreCaseBit ||| Regex.dotAllBit := by
  have hset := flags_denote_set Lax.standard_documented
    (rfl : Store.empty.contents (.mapping false oneField) = .mapping false _)
    (rfl : validate .standard .empty (.mapping false oneField) = .ok ⟨"x", [("A", "x")], []⟩)
  have hplain : readFlagged .standard .empty oneField ["S", "i", "S"] =
      .ok ⟨"x", [("A", "x")], [.s, .i, .s]⟩ := by
    decide +kernel
  have hshort : FlagName.normalize "S" = FlagName.s.text := by decide +kernel
  have hblank : FlagName.normalize "s\t" = FlagName.s.text := by decide +kernel
  obtain ⟨_, honce, hfirst⟩ := (hset.1 _ _ hplain).2.2.2.2.1 ["S", "i"] (by simp; tauto)
  obtain ⟨_, hspelled, hsecond⟩ := (hset.1 _ _ honce).2.2.2.2.2 [] "S" ["i"] rfl "s\t"
    (Or.inl (hshort.trans hblank.symm))
  obtain ⟨_, hlong, hthird⟩ := (hset.1 _ _ hspelled).2.2.2.2.2 ["s\t"] "i" [] rfl " IgnoreCase "
    (Or.inr ⟨.i, .ignoreCase, by decide +kernel, by decide +kernel, rfl⟩)
  obtain ⟨result, hresult, hlast⟩ := (hset.1 _ _ hlong).2.2.2.1 [" IgnoreCase ", "s\t"] (.swap _ _ _)
  exact ⟨result, hresult, by rw [hlast, hthird, hsecond, hfirst]; rfl⟩

end PatternSpec

end RecordPattern
