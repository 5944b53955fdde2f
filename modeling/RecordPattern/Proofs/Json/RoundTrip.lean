import RecordPattern.Proofs.Json.Dump
import RecordPattern.Proofs.Json.Number
import RecordPattern.Proofs.Json.Text

namespace RecordPattern.Json

open Text

variable {json first : Json} {items more : List Json} {rest : List Char} {fuel : Nat}

-- A document that holds no floating point number.
inductive FloatFree : Json → Prop
  | null : FloatFree .null
  | bool (value : Bool) : FloatFree (.bool value)
  | int (value : Int) : FloatFree (.int value)
  | string (value : String) : FloatFree (.string value)
  | array {items : List Json} (h : ∀ item ∈ items, FloatFree item) : FloatFree (.array items)
  | object {members : List (String × Json)} (h : ∀ member ∈ members, FloatFree member.2) :
      FloatFree (.object members)

-- A document is read back from its text, whatever comes after, given enough fuel for the text.
def Reads (json : Json) : Prop :=
  ∀ fuel rest, Ended rest → json.compactChars.length ≤ fuel →
    readValue? fuel (json.compactChars ++ rest) = some (json, rest)

theorem skipBlanks_cons {c : Char} (h : isBlank c = false) : skipBlanks (c :: rest) = c :: rest := by
  simp [skipBlanks, h]

theorem compactChars_array (items : List Json) :
    (Json.array items).compactChars = joined '[' ']' (items.map compactChars) := by
  rw [compactChars, compactItems_eq]

theorem compactChars_object (members : List (String × Json)) :
    (Json.object members).compactChars = joined '\x7b' '\x7d' (members.map memberChars) := by
  rw [compactChars, compactMembers_eq]

-- What stands after the first of several parts in brackets.
def following (closing : Char) : List (List Char) → List Char
  | [] => [closing]
  | part :: parts => ',' :: (part ++ following closing parts)

theorem joined_cons (opening closing : Char) (part : List Char) (parts : List (List Char)) :
    joined opening closing (part :: parts) = opening :: (part ++ following closing parts) := by
  have hfollowing : parts.flatMap (',' :: ·) ++ [closing] = following closing parts := by
    induction parts with
    | nil => rfl
    | cons next parts ih =>
        rw [List.flatMap_cons, List.append_assoc, ih]
        rfl
  rw [joined, List.append_assoc, hfollowing]

theorem isBlank_of_isDigit {c : Char} (h : c.isDigit = true) : isBlank c = false := by
  cases hblank : isBlank c with
  | false => rfl
  | true =>
      simp only [isBlank, Bool.or_eq_true, decide_eq_true_eq] at hblank
      rcases hblank with ((rfl | rfl) | rfl) | rfl <;> cases h

-- How a document begins.
theorem FloatFree.head (h : FloatFree json) :
    ∃ c more, json.compactChars = c :: more ∧ isBlank c = false ∧ c ≠ ']' := by
  cases h with
  | null => exact ⟨'n', _, rfl, by decide, by decide⟩
  | bool value => cases value <;> exact ⟨_, _, rfl, by decide, by decide⟩
  | int value =>
      obtain ⟨c, more, htext⟩ := exists_toList_toString value
      refine ⟨c, more, htext, ?_⟩
      rcases mem_toString (htext ▸ List.mem_cons_self) with rfl | hdigit
      · decide
      · refine ⟨isBlank_of_isDigit hdigit, ?_⟩
        rintro rfl
        cases hdigit
  | string value => exact ⟨'"', _, rfl, by decide, by decide⟩
  | @array items _ =>
      rw [compactChars_array]
      cases items <;> exact ⟨'[', _, rfl, by decide, by decide⟩
  | @object members _ =>
      rw [compactChars_object]
      cases members <;> exact ⟨'\x7b', _, rfl, by decide, by decide⟩

theorem ended_comma (rest : List Char) : Ended (',' :: rest) := by
  intro c hc
  cases hc
  exact Or.inl rfl

theorem ended_bracket (rest : List Char) : Ended (']' :: rest) := by
  intro c hc
  cases hc
  exact Or.inr (Or.inl rfl)

theorem ended_brace (rest : List Char) : Ended ('\x7d' :: rest) := by
  intro c hc
  cases hc
  exact Or.inr (Or.inr rfl)

theorem reads_int (value : Int) : Reads (.int value) := by
  intro fuel rest hrest hfuel
  have hchars : (Json.int value).compactChars = (toString value).toList := rfl
  have hnumber := readNumber?_int value hrest
  obtain ⟨c, more, htext⟩ := exists_toList_toString value
  have hc : c = '-' ∨ c.isDigit = true := mem_toString (htext ▸ List.mem_cons_self)
  have hblank : isBlank c = false := by
    rcases hc with rfl | hdigit
    · decide
    · exact isBlank_of_isDigit hdigit
  rw [hchars, htext] at hfuel ⊢
  rw [htext, List.cons_append] at hnumber
  obtain ⟨fuel, rfl⟩ : ∃ less, fuel = less + 1 := ⟨fuel - 1, by simp at hfuel; omega⟩
  have hnot (d : Char) (hd : d ≠ '-' ∧ d.isDigit = false) : c ≠ d := by
    rintro rfl
    rcases hc with rfl | hdigit
    · exact hd.1 rfl
    · cases hdigit.symm.trans hd.2
  rw [List.cons_append, readValue?, skipBlanks_cons hblank]
  split
  next heq => exact absurd (List.cons.inj heq).1 (hnot _ (by decide))
  next heq => exact absurd (List.cons.inj heq).1 (hnot _ (by decide))
  next heq => exact absurd (List.cons.inj heq).1 (hnot _ (by decide))
  next heq => exact absurd (List.cons.inj heq).1 (hnot _ (by decide))
  next heq => exact absurd (List.cons.inj heq).1 (hnot _ (by decide))
  next heq => exact absurd (List.cons.inj heq).1 (hnot _ (by decide))
  next => exact hnumber

-- The items of an array are read one after the other up to the closing bracket.
theorem readItems?_compact (hfirst : Reads first) (hmore : ∀ item ∈ more, Reads item)
    (hfuel : (first.compactChars ++ following ']' (more.map compactChars)).length ≤ fuel) :
    readItems? fuel (first.compactChars ++ (following ']' (more.map compactChars) ++ rest)) =
      some (first :: more, rest) := by
  induction more generalizing first fuel with
  | nil =>
      simp only [List.map_nil, following, List.length_append, List.length_singleton] at hfuel ⊢
      obtain ⟨fuel, rfl⟩ : ∃ less, fuel = less + 1 := ⟨fuel - 1, by omega⟩
      rw [readItems?, List.singleton_append, hfirst fuel _ (ended_bracket rest) (by omega)]
      rfl
  | cons second more ih =>
      obtain ⟨hsecond, hmore⟩ := List.forall_mem_cons.mp hmore
      simp only [List.map_cons, following, List.cons_append, List.append_assoc, List.length_append,
        List.length_cons] at hfuel ⊢
      obtain ⟨fuel, rfl⟩ : ∃ less, fuel = less + 1 := ⟨fuel - 1, by omega⟩
      have hlater : readItems? fuel (second.compactChars ++
          (following ']' (more.map compactChars) ++ rest)) = some (second :: more, rest) := by
        apply ih hsecond hmore
        rw [List.length_append]
        omega
      rw [readItems?, hfirst fuel _ (ended_comma _) (by omega)]
      simp only [skipBlanks_cons (show isBlank ',' = false by decide), bind, Option.bind, hlater]
      rfl

theorem textChars_append (key : String) (rest : List Char) :
    textChars key ++ rest = '"' :: (key.toList.flatMap escapedChar ++ '"' :: rest) := by
  simp [textChars]

theorem readText?_key (key : String) (rest : List Char) :
    readText? ((key.toList.flatMap escapedChar ++ '"' :: rest).length + 1)
      (key.toList.flatMap escapedChar ++ '"' :: rest) = some (key.toList, rest) := by
  apply readText?_escaped
  have hchars : key.toList.length ≤ (key.toList.flatMap escapedChar).length := by
    induction key.toList with
    | nil => exact Nat.le_refl 0
    | cons c text ih =>
        rw [List.flatMap_cons, List.length_append, List.length_cons]
        have hone : 0 < (escapedChar c).length := List.length_pos_iff.mpr (escapedChar_ne_nil c)
        omega
  rw [List.length_append]
  omega

-- A member of an object is read, and then what follows it.
theorem readMembers?_brace {member : String × Json} (h : Reads member.2)
    (hfuel : member.2.compactChars.length ≤ fuel) :
    readMembers? (fuel + 1) (memberChars member ++ '\x7d' :: rest) = some ([member], rest) := by
  have hvalue := h fuel _ (ended_brace rest) hfuel
  rw [memberChars, List.append_assoc, List.cons_append, textChars_append, readMembers?,
    skipBlanks_cons (by decide)]
  simp only [readText?_key, skipBlanks_cons (show isBlank ':' = false by decide), hvalue,
    skipBlanks_cons (show isBlank '\x7d' = false by decide), bind, Option.bind, String.ofList_toList]
  rfl

theorem readMembers?_comma {member : String × Json} (h : Reads member.2)
    (hfuel : member.2.compactChars.length ≤ fuel) :
    readMembers? (fuel + 1) (memberChars member ++ ',' :: rest) =
      (readMembers? fuel rest).map fun (more, rest) => (member :: more, rest) := by
  have hvalue := h fuel _ (ended_comma rest) hfuel
  rw [memberChars, List.append_assoc, List.cons_append, textChars_append, readMembers?,
    skipBlanks_cons (by decide)]
  simp only [readText?_key, skipBlanks_cons (show isBlank ':' = false by decide), hvalue,
    skipBlanks_cons (show isBlank ',' = false by decide), bind, Option.bind, String.ofList_toList]
  cases readMembers? fuel rest <;> rfl

-- The members of an object are read up to the closing brace.
theorem readMembers?_compact {member : String × Json} {members : List (String × Json)}
    (hfirst : Reads member.2) (hmore : ∀ other ∈ members, Reads other.2)
    (hfuel : (memberChars member ++ following '\x7d' (members.map memberChars)).length ≤ fuel) :
    readMembers? fuel (memberChars member ++ (following '\x7d' (members.map memberChars) ++ rest)) =
      some (member :: members, rest) := by
  have hlength (member : String × Json) :
      member.2.compactChars.length < (memberChars member).length := by
    rw [memberChars, List.length_append, List.length_cons]
    omega
  induction members generalizing member fuel with
  | nil =>
      have hshort := hlength member
      simp only [List.map_nil, following, List.length_append, List.length_singleton] at hfuel ⊢
      obtain ⟨fuel, rfl⟩ : ∃ less, fuel = less + 1 := ⟨fuel - 1, by omega⟩
      rw [List.singleton_append, readMembers?_brace hfirst (by omega)]
  | cons second members ih =>
      have hshort := hlength member
      obtain ⟨hsecond, hmore⟩ := List.forall_mem_cons.mp hmore
      simp only [List.map_cons, following, List.cons_append, List.append_assoc, List.length_append,
        List.length_cons] at hfuel ⊢
      obtain ⟨fuel, rfl⟩ : ∃ less, fuel = less + 1 := ⟨fuel - 1, by omega⟩
      have hlater : readMembers? fuel (memberChars second ++
          (following '\x7d' (members.map memberChars) ++ rest)) = some (second :: members, rest) := by
        apply ih hsecond hmore
        rw [List.length_append]
        omega
      rw [readMembers?_comma hfirst (by omega), hlater]
      rfl

theorem reads_array {items : List Json} (hitems : ∀ item ∈ items, FloatFree item)
    (ih : ∀ item ∈ items, Reads item) : Reads (.array items) := by
  intro fuel rest _ hfuel
  rw [compactChars_array] at hfuel ⊢
  cases items with
  | nil =>
      obtain ⟨fuel, rfl⟩ : ∃ less, fuel = less + 1 := ⟨fuel - 1, by simp [joined] at hfuel; omega⟩
      rfl
  | cons first more =>
      obtain ⟨hfirst, hmore⟩ := List.forall_mem_cons.mp ih
      obtain ⟨c, chars, hhead, hblank, hbracket⟩ := (hitems first List.mem_cons_self).head
      rw [List.map_cons, joined_cons, List.length_cons] at hfuel
      obtain ⟨fuel, rfl⟩ : ∃ less, fuel = less + 1 := ⟨fuel - 1, by omega⟩
      have hread : readItems? fuel (first.compactChars ++
          (following ']' (more.map compactChars) ++ rest)) = some (first :: more, rest) :=
        readItems?_compact hfirst hmore (Nat.le_of_succ_le_succ hfuel)
      rw [hhead, List.cons_append] at hread
      rw [List.map_cons, joined_cons, List.cons_append, List.append_assoc, readValue?,
        skipBlanks_cons (by decide)]
      simp only [hhead, List.cons_append, skipBlanks_cons hblank]
      split
      next heq => exact absurd (List.cons.inj heq).1 hbracket
      next =>
        simp only [hread, bind, Option.bind]
        rfl

theorem reads_object {members : List (String × Json)} (ih : ∀ member ∈ members, Reads member.2) :
    Reads (.object members) := by
  intro fuel rest _ hfuel
  rw [compactChars_object] at hfuel ⊢
  cases members with
  | nil =>
      obtain ⟨fuel, rfl⟩ : ∃ less, fuel = less + 1 := ⟨fuel - 1, by simp [joined] at hfuel; omega⟩
      rfl
  | cons first more =>
      obtain ⟨hfirst, hmore⟩ := List.forall_mem_cons.mp ih
      rw [List.map_cons, joined_cons, List.length_cons] at hfuel
      obtain ⟨fuel, rfl⟩ : ∃ less, fuel = less + 1 := ⟨fuel - 1, by omega⟩
      have hread : readMembers? fuel (memberChars first ++
          (following '\x7d' (more.map memberChars) ++ rest)) = some (first :: more, rest) :=
        readMembers?_compact hfirst hmore (Nat.le_of_succ_le_succ hfuel)
      obtain ⟨chars, hhead⟩ : ∃ chars, memberChars first = '"' :: chars := ⟨_, rfl⟩
      rw [hhead, List.cons_append] at hread
      rw [List.map_cons, joined_cons, List.cons_append, List.append_assoc, readValue?,
        skipBlanks_cons (by decide)]
      simp only [hhead, List.cons_append, skipBlanks_cons (show isBlank '"' = false by decide)]
      split
      next heq => exact absurd (List.cons.inj heq).1 (by decide)
      next =>
        simp only [hread, bind, Option.bind]
        rfl

theorem reads_string (value : String) : Reads (.string value) := by
  intro fuel rest _ hfuel
  have hchars : (Json.string value).compactChars = textChars value := rfl
  rw [hchars] at hfuel ⊢
  obtain ⟨fuel, rfl⟩ : ∃ less, fuel = less + 1 := ⟨fuel - 1, by simp [textChars] at hfuel; omega⟩
  rw [textChars_append, readValue?, skipBlanks_cons (by decide)]
  simp only [readText?_key, bind, Option.bind, String.ofList_toList]
  rfl

theorem reads_literal {literal : Char} {chars : List Char} (h : json.compactChars = literal :: chars)
    (hread : ∀ fuel rest, readValue? (fuel + 1) (literal :: chars ++ rest) = some (json, rest)) :
    Reads json := by
  intro fuel rest _ hfuel
  rw [h] at hfuel ⊢
  obtain ⟨fuel, rfl⟩ : ∃ less, fuel = less + 1 := ⟨fuel - 1, by simp at hfuel; omega⟩
  exact hread fuel rest

theorem FloatFree.reads (h : FloatFree json) : Reads json := by
  induction h with
  | null => exact reads_literal rfl fun _ _ => rfl
  | bool value => cases value <;> exact reads_literal rfl fun _ _ => rfl
  | int value => exact reads_int value
  | string value => exact reads_string value
  | array hitems ih => exact reads_array hitems ih
  | object _ ih => exact reads_object ih

theorem mem_following {closing c : Char} {parts : List (List Char)} (h : c ∈ following closing parts) :
    c = closing ∨ c = ',' ∨ ∃ part ∈ parts, c ∈ part := by
  induction parts with
  | nil => exact Or.inl (List.mem_singleton.mp h)
  | cons part parts ih =>
      rcases List.mem_cons.mp h with rfl | h
      · exact Or.inr (Or.inl rfl)
      rcases List.mem_append.mp h with h | h
      · exact Or.inr (Or.inr ⟨part, List.mem_cons_self, h⟩)
      rcases ih h with hclosing | hcomma | ⟨other, ho, hc⟩
      · exact Or.inl hclosing
      · exact Or.inr (Or.inl hcomma)
      · exact Or.inr (Or.inr ⟨other, List.mem_cons_of_mem _ ho, hc⟩)

theorem mem_joined {opening closing c : Char} {parts : List (List Char)}
    (h : c ∈ joined opening closing parts) :
    c = opening ∨ c = closing ∨ c = ',' ∨ ∃ part ∈ parts, c ∈ part := by
  cases parts with
  | nil =>
      rcases List.mem_cons.mp h with hopening | h
      · exact Or.inl hopening
      · exact Or.inr (Or.inl (List.mem_singleton.mp h))
  | cons part parts =>
      rw [joined_cons] at h
      rcases List.mem_cons.mp h with hopening | h
      · exact Or.inl hopening
      rcases List.mem_append.mp h with h | h
      · exact Or.inr (Or.inr (Or.inr ⟨part, List.mem_cons_self, h⟩))
      rcases mem_following h with hclosing | hcomma | ⟨other, ho, hc⟩
      · exact Or.inr (Or.inl hclosing)
      · exact Or.inr (Or.inr (Or.inl hcomma))
      · exact Or.inr (Or.inr (Or.inr ⟨other, List.mem_cons_of_mem _ ho, hc⟩))

theorem visible_of_all {text : List Char} (h : (text.all fun c => 32 ≤ c.toNat) = true) :
    ∀ c ∈ text, 32 ≤ c.toNat := by
  simpa using h

-- A document on one line: its text holds no control.
theorem FloatFree.visible (h : FloatFree json) : ∀ c ∈ json.compactChars, 32 ≤ c.toNat := by
  induction h with
  | null => exact visible_of_all (by decide)
  | bool value => cases value <;> exact visible_of_all (by decide)
  | int value => exact fun _ => visible_of_mem_toString
  | string value => exact fun _ => visible_of_mem_textChars
  | array _ ih =>
      intro c hc
      rw [compactChars_array] at hc
      rcases mem_joined hc with rfl | rfl | rfl | ⟨part, hp, hc⟩
      · decide
      · decide
      · decide
      · obtain ⟨item, hi, rfl⟩ := List.mem_map.mp hp
        exact ih item hi c hc
  | object _ ih =>
      intro c hc
      rw [compactChars_object] at hc
      rcases mem_joined hc with rfl | rfl | rfl | ⟨part, hp, hc⟩
      · decide
      · decide
      · decide
      · obtain ⟨member, hm, rfl⟩ := List.mem_map.mp hp
        rcases List.mem_append.mp hc with hc | hc
        · exact visible_of_mem_textChars hc
        rcases List.mem_cons.mp hc with rfl | hc
        · decide
        · exact ih member hm c hc

-- A document without floating point numbers is read back from its text.
theorem read?_compact (h : FloatFree json) : read? json.compact = some json := by
  unfold read? compact
  have hread := h.reads (json.compactChars.length + 1) [] (by simp [Ended]) (by omega)
  rw [List.append_nil] at hread
  rw [String.toList_ofList]
  simp only [hread, bind, Option.bind]
  rfl

end RecordPattern.Json
