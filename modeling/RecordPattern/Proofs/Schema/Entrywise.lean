import RecordPattern.Proofs.Schema.Entry

namespace RecordPattern

open Outcome Text

-- No text is the key of two entries. Keys of other kinds may look alike.
def DistinctKeys (schema : List (Value × Value)) : Prop :=
  schema.Pairwise fun first second => ∀ name, first.1 = .text name → second.1 ≠ .text name

-- What comes of a schema that is accepted: its fields in order, and under the name of each its
-- sub-pattern with the flags scoped, and the group of its name around that.
structure Wraps (schema : List (Value × Value)) (wrapped : List WrappedField) : Prop where
  names : (wrapped.map fun field => Value.text field.name) = schema.map Prod.fst
  field : ∀ entry ∈ schema, ∃ name pattern, entry = (.text name, .text pattern) ∧
    Composite.findField? wrapped name =
      some ⟨name, InlineFlags.scope pattern, wrapGroup name (InlineFlags.scope pattern)⟩

variable {flags : Nat} {schema : List (Value × Value)} {wrapped : List WrappedField}
  {entry : Value × Value} {field : WrappedField} {name pattern : String} {error : PatternError}

theorem synthesize_singleton_eq_ok_iff :
    synthesize flags [entry] = .ok wrapped ↔ ∃ field, wrapField flags entry = .ok field ∧ wrapped = [field] := by
  rw [synthesize, mapM_eq_ok]
  constructor
  · intro h
    cases h with
    | cons hfield hrest =>
        cases hrest
        exact ⟨_, hfield, rfl⟩
  · rintro ⟨field, hfield, rfl⟩
    exact .cons hfield .nil

theorem synthesize_singleton_eq_error_iff :
    synthesize flags [entry] = .error error ↔ wrapField flags entry = .error error := by
  cases hfield : wrapField flags entry with
  | error other => simp [synthesize, hfield, bind, Except.bind]
  | ok field => simp [synthesize, hfield, bind, Except.bind, pure, Except.pure]

theorem exists_synthesize_singleton_iff :
    (∃ wrapped, synthesize flags [entry] = .ok wrapped) ↔ ∃ field, wrapField flags entry = .ok field := by
  simp [synthesize_singleton_eq_ok_iff]

theorem properName_iff :
    ProperName name ↔ name ≠ "" ∧ isIdentifier name.toList = true ∧ ¬EndsNumbered name.toList := by
  rw [← isReserved_iff, Bool.not_eq_true]
  constructor
  · intro h
    exact ⟨ne_empty_of_isIdentifier h.identifier, h.identifier, h.unreserved⟩
  · rintro ⟨_, hidentifier, hunreserved⟩
    exact ⟨hidentifier, hunreserved⟩

theorem lookup?_of_distinct (hdistinct : DistinctKeys schema)
    (hentry : (.text name, .text pattern) ∈ schema) :
    Value.lookup? schema name = some (.text pattern) := by
  induction schema with
  | nil => cases hentry
  | cons first rest ih =>
      obtain ⟨hfirst, hrest⟩ := List.pairwise_cons.mp hdistinct
      rw [Value.lookup?_cons]
      rcases List.mem_cons.mp hentry with rfl | hentry
      · rw [if_pos (Value.isText_iff.mpr rfl)]
      · have hother : ¬first.1.isText name = true := by
          rw [Value.isText_iff]
          intro hname
          exact hfirst _ hentry name hname rfl
        rw [if_neg hother]
        exact ih hrest hentry

theorem wraps_of_synthesize (h : synthesize flags schema = .ok wrapped)
    (hdistinct : DistinctKeys schema) : Wraps schema wrapped := by
  obtain ⟨fields, hschema, _, hwrapped⟩ := synthesize_eq_ok_iff.mp h
  constructor
  · rw [hwrapped, hschema, List.map_map, List.map_map]
    rfl
  · intro entry hentry
    have hmem := hentry
    rw [hschema] at hmem
    obtain ⟨field, _, rfl⟩ := List.mem_map.mp hmem
    exact ⟨field.1, field.2, rfl, findField?_of_lookup? h (lookup?_of_distinct hdistinct hentry)⟩

-- Each entry of a schema is judged by itself. All have to be accepted; otherwise the schema fails
-- just as the first that is not accepted does when there is no other.
theorem synthesize_entrywise (flags : Nat) (schema : List (Value × Value)) :
    ((∃ wrapped, synthesize flags schema = .ok wrapped) ↔
      ∀ entry ∈ schema, ∃ wrapped, synthesize flags [entry] = .ok wrapped) ∧
    (∀ entry, (∃ wrapped, synthesize flags [entry] = .ok wrapped) ↔
      ∃ name pattern, entry = (.text name, .text pattern) ∧ name ≠ "" ∧
        isIdentifier name.toList = true ∧ ¬EndsNumbered name.toList ∧ pattern ≠ "" ∧
        (∃ regex, Regex.compile pattern flags = .ok regex) ∧
        ∃ regex, Regex.compile (wrapGroup name (InlineFlags.scope pattern)) flags = .ok regex) ∧
    (∀ wrapped, synthesize flags schema = .ok wrapped → DistinctKeys schema → Wraps schema wrapped) ∧
    ∀ error, synthesize flags schema = .error error ↔
      ∃ before entry after, schema = before ++ entry :: after ∧
        (∀ earlier ∈ before, ∃ wrapped, synthesize flags [earlier] = .ok wrapped) ∧
        synthesize flags [entry] = .error error := by
  have heach : ∀ entries : List (Value × Value), (∃ wrapped, synthesize flags entries = .ok wrapped) ↔
      ∀ entry ∈ entries, ∃ wrapped, synthesize flags [entry] = .ok wrapped := by
    intro entries
    simp only [exists_synthesize_singleton_iff]
    constructor
    · rintro ⟨wrapped, h⟩ entry hentry
      obtain ⟨field, _, hfield⟩ := exists_of_mem_mapM h hentry
      exact ⟨field, hfield⟩
    · exact exists_mapM_eq_ok
  refine ⟨heach schema, fun entry => ?_, fun wrapped h hdistinct => wraps_of_synthesize h hdistinct,
    fun error => ?_⟩
  · simp only [exists_synthesize_singleton_iff, wrapField_eq_ok_iff]
    constructor
    · rintro ⟨_, name, pattern, hentry, haccepted, _⟩
      obtain ⟨hname, hidentifier, hnumbered⟩ := properName_iff.mp haccepted.proper
      exact ⟨name, pattern, hentry, hname, hidentifier, hnumbered, haccepted.filled, haccepted.bare,
        haccepted.enclosed⟩
    · rintro ⟨name, pattern, hentry, hname, hidentifier, hnumbered, hfilled, hbare, henclosed⟩
      have hproper := properName_iff.mpr ⟨hname, hidentifier, hnumbered⟩
      exact ⟨_, name, pattern, hentry, ⟨hproper, hfilled, hbare, henclosed⟩, rfl⟩
  · rw [synthesize, mapM_eq_error]
    constructor
    · rintro ⟨before, entry, after, results, rfl, hbefore, hentry⟩
      exact ⟨before, entry, after, rfl, (heach before).mp ⟨results, hbefore⟩,
        synthesize_singleton_eq_error_iff.mpr hentry⟩
    · rintro ⟨before, entry, after, rfl, hbefore, hentry⟩
      obtain ⟨results, hresults⟩ := (heach before).mpr hbefore
      exact ⟨before, entry, after, results, rfl, hresults,
        synthesize_singleton_eq_error_iff.mp hentry⟩

-- The digit at the end of the second name is an Arabic-Indic three.
theorem synthesize_entrywise_foreign_digit :
    (∃ wrapped, synthesize 0 [(.text "A_", .text "(?i)x"), (.text "B", .text "y+")] = .ok wrapped ∧
      Wraps [(.text "A_", .text "(?i)x"), (.text "B", .text "y+")] wrapped) ∧
    synthesize 0 [(.text "A_", .text "(?i)x"), (.text "n__\u0663", .text "y"), (.text "B", .text "(")] =
      .error (.schema (.nameReserved "n__\u0663")) := by
  have hdistinct : DistinctKeys [(.text "A_", .text "(?i)x"), (.text "B", .text "y+")] := by
    simp [DistinctKeys]
  have haccepted : ∃ wrapped,
      synthesize 0 [(.text "A_", .text "(?i)x"), (.text "B", .text "y+")] = .ok wrapped ∧ True := by
    decide +kernel
  have hearlier : ∃ wrapped, synthesize 0 [(.text "A_", .text "(?i)x")] = .ok wrapped ∧ True := by
    decide +kernel
  have hdigit : isDecimalDigit '\u0663' = true := by
    unfold isDecimalDigit decimalValue? foreignZeros Ranges.ofTable
    -- The kernel is slow to read the table as it is written.
    rw [String.toList_ofList]
    decide +kernel
  have hnumbered : EndsNumbered "n__\u0663".toList :=
    ⟨['n'], ['\u0663'], by simp, by simpa using hdigit, rfl⟩
  have hfault : EntryFault 0 (.text "n__\u0663", .text "y") (.schema (.nameReserved "n__\u0663")) :=
    .name (.reserved (by decide +kernel) (isReserved_iff.mpr hnumbered))
  have hrefused : synthesize 0 [(.text "n__\u0663", .text "y")] =
      .error (.schema (.nameReserved "n__\u0663")) :=
    synthesize_singleton_eq_error_iff.mpr ((wrapField_eq_error_iff rfl).mpr hfault)
  obtain ⟨wrapped, hwrapped, _⟩ := haccepted
  obtain ⟨alone, halone, _⟩ := hearlier
  constructor
  · exact ⟨wrapped, hwrapped, (synthesize_entrywise 0 _).2.2.1 wrapped hwrapped hdistinct⟩
  · refine ((synthesize_entrywise 0 _).2.2.2 _).mpr
      ⟨[(.text "A_", .text "(?i)x")], _, [(.text "B", .text "(")], rfl, ?_, hrefused⟩
    intro earlier hmem
    rw [List.mem_singleton.mp hmem]
    exact ⟨alone, halone⟩

end RecordPattern
