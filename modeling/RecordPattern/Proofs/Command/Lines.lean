import RecordPattern.Proofs.Command.Run

namespace RecordPattern

namespace Json

mutual

-- The value that a document stands for. Of members with one key the first gives the place and the
-- last the value.
def toValue : Json → Value
  | .null => .null
  | .bool value => .bool value
  | .int value => .int value
  | .float value => .float value
  | .string value => .text value
  | .array items => .list (toItems items)
  | .object members => .mapping false (toEntries [] members)

def toItems : List Json → List Value
  | [] => []
  | item :: rest => toValue item :: toItems rest

def toEntries (entries : List (Value × Value)) : List (String × Json) → List (Value × Value)
  | [] => entries
  | (key, value) :: rest => toEntries (Value.assign entries key (toValue value)) rest

end

end Json

namespace Command

variable {tools : Toolkit} {record other : Value} {records : List Value} {line : String}
  {lines : List String}

-- Members with keys that are new, each in its turn, become entries in their order.
theorem toEntries_textMembers {entries : List (Value × Value)} {fields : List (String × String)}
    (hnames : (fields.map Prod.fst).Nodup)
    (hnew : ∀ name ∈ fields.map Prod.fst, Value.lookup? entries name = none) :
    Json.toEntries entries (textMembers fields) =
      entries ++ fields.map fun field => (.text field.1, .text field.2) := by
  induction fields generalizing entries with
  | nil => simp [textMembers, Json.toEntries]
  | cons field rest ih =>
      obtain ⟨hfirst, hrest⟩ := List.nodup_cons.mp hnames
      obtain ⟨habsent, hlater⟩ := List.forall_mem_cons.mp hnew
      have hstep : Json.toEntries entries (textMembers (field :: rest)) =
          Json.toEntries (entries ++ [(.text field.1, .text field.2)]) (textMembers rest) := by
        rw [← Value.assign_of_absent _ habsent]
        rfl
      have hstill : ∀ name ∈ rest.map Prod.fst,
          Value.lookup? (entries ++ [(.text field.1, .text field.2)]) name = none := by
        intro name hname
        have hne : field.1 ≠ name := by
          rintro rfl
          exact hfirst hname
        rw [Value.lookup?_append, hlater name hname, Value.lookup?_cons]
        simp [Value.isText, hne]
      rw [hstep, ih hrest hstill]
      simp

theorem toValue_textMembers {fields : List (String × String)} (hnames : (fields.map Prod.fst).Nodup) :
    (Json.object (textMembers fields)).toValue = textRecord fields := by
  have hentries := @toEntries_textMembers [] fields hnames fun _ _ => rfl
  rw [Json.toValue, hentries]
  rfl

-- A line that a record is printed on: a JSON object without control characters, and the record can
-- be read back from it, its fields in their order.
structure LineOf (record : Value) (line : String) : Prop where
  dumped : recordLine record = .ok line
  opening : line.toList.head? = some '\x7b'
  visible : ∀ c ∈ line.toList, 32 ≤ c.toNat
  decoded : (Json.read? line).map Json.toValue = some record

theorem lineOf_compact {fields : List (String × String)} (hnames : (fields.map Prod.fst).Nodup) :
    LineOf (textRecord fields) (Json.object (textMembers fields)).compact := by
  have hfree := floatFree_textMembers fields
  constructor
  · rw [recordLine, ofValue_textRecord]
    rfl
  · rw [Json.compact, String.toList_ofList, Json.compactChars_object]
    cases (textMembers fields).map Json.memberChars <;> rfl
  · rw [Json.compact, String.toList_ofList]
    exact hfree.visible
  · rw [Json.read?_compact hfree, Option.map_some, toValue_textMembers hnames]

theorem IsTextRecord.lineOf (h : IsTextRecord record) (hline : recordLine record = .ok line) :
    LineOf record line := by
  obtain ⟨fields, rfl, hnames⟩ := h
  have hcompact := lineOf_compact hnames
  cases hline.symm.trans hcompact.dumped
  exact hcompact

theorem exists_lineOf (htools : tools.Documented) (h : ∀ record ∈ records, IsTextRecord record) :
    ∃ lines, List.Forall₂ LineOf records lines ∧
      recordLines tools records = String.join (lines.map (· ++ "\n")) := by
  obtain ⟨lines, hprinted⟩ := exists_lines h
  refine ⟨lines, ?_, recordLines_eq htools hprinted⟩
  refine ((List.forall₂_and_left _ _).mpr ⟨h, hprinted⟩).imp ?_
  intro record line hboth
  exact hboth.1.lineOf hboth.2.dumped

-- A line has no line feed in it, so lines that each end in one are told apart by it.
theorem splitOn_lines (h : List.Forall₂ LineOf records lines) :
    (String.join (lines.map (· ++ "\n"))).toList.splitOn '\n' = lines.map String.toList ++ [[]] := by
  rw [String.toList_join]
  induction h with
  | nil => rfl
  | @cons record line records lines hline hlines ih =>
      have hfeed : '\n' ∉ line.toList := by
        intro hmem
        exact absurd (hline.visible _ hmem) (by decide)
      have hsplit : ((line :: lines).map (· ++ "\n")).flatMap String.toList =
          line.toList ++ '\n' :: (lines.map (· ++ "\n")).flatMap String.toList := by
        simp
      rw [hsplit, List.splitOn_append_cons_self_of_not_mem hfeed, ih]
      rfl

-- Two records with one line are both what is read from it.
theorem LineOf.unique (h : LineOf record line) (hother : LineOf other line) : record = other :=
  Option.some.inj (h.decoded.symm.trans hother.decoded)

-- Records are printed as lines that can be taken apart and read back: one for each record, none of
-- them empty, and none with a control character. Records that differ have different lines.
theorem lines_decode (htools : tools.Documented) (h : ∀ record ∈ records, IsTextRecord record) :
    ∃ lines, List.Forall₂ LineOf records lines ∧
      recordLines tools records = String.join (lines.map (· ++ "\n")) ∧
      (recordLines tools records).toList.splitOn '\n' = lines.map String.toList ++ [[]] ∧
      ∀ first second line, IsTextRecord first → IsTextRecord second →
        recordLine first = .ok line → recordLine second = .ok line → first = second := by
  obtain ⟨lines, hlines, hprinted⟩ := exists_lineOf htools h
  refine ⟨lines, hlines, hprinted, ?_, ?_⟩
  · rw [hprinted]
    exact splitOn_lines hlines
  · intro first second line hfirst hsecond hf hs
    exact (hfirst.lineOf hf).unique (hsecond.lineOf hs)

-- Quotes, backslashes and line feeds in names and texts, a text that looks like the end of a line
-- and the start of another, and a character that ends lines elsewhere.
theorem lines_decode_escapes :
    ∃ records lines,
      records = [textRecord [("a\"", "x\ny\\n"), ("b", "\x7d\n\x7b")], textRecord [("é", "\x01\u2028")]] ∧
      (∀ record ∈ records, IsTextRecord record) ∧
      List.Forall₂ LineOf records lines ∧
      (recordLines .standard records).toList.splitOn '\n' = lines.map String.toList ++ [[]] ∧
      recordLines .standard records = "\x7b\"a\\\"\":\"x\\ny\\\\n\",\"b\":\"\x7d\\n\x7b\"\x7d\n" ++
        "\x7b\"é\":\"\\u0001\u2028\"\x7d\n" := by
  have hrecords : ∀ record ∈ [textRecord [("a\"", "x\ny\\n"), ("b", "\x7d\n\x7b")],
      textRecord [("é", "\x01\u2028")]], IsTextRecord record := by
    refine List.forall_mem_cons.mpr ⟨⟨_, rfl, by decide⟩, ?_⟩
    exact List.forall_mem_singleton.mpr ⟨_, rfl, by decide⟩
  obtain ⟨lines, hlines, _, hsplit, _⟩ := lines_decode Toolkit.standard_documented hrecords
  exact ⟨_, lines, rfl, hrecords, hlines, hsplit, by decide +kernel⟩

end Command

end RecordPattern
