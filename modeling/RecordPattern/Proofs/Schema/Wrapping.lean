import RecordPattern.Proofs.Regex.Enclosure.Whole
import RecordPattern.Proofs.Schema.InlineFlags
import RecordPattern.Proofs.Schema.Wrapped

namespace RecordPattern

open Outcome Text Regex

namespace Regex

-- A pattern refers to groups by their names only: none of its parts is a number of a group, as a
-- reference or as a condition.
def RefersByName (pattern : String) (flags : Nat) : Prop :=
  Ensures (fun cursor => ∀ stage ∈
    (Reading.atStart cursor (.ofBits flags)).stages (cursor.rest.length + 1),
    refersByNumber stage.cursor.rest = false) (Cursor.ofPattern pattern.toList)

instance {pattern : String} {flags : Nat} : Decidable (RefersByName pattern flags) := by
  unfold RefersByName
  infer_instance

variable {name pattern : String} {flags : Nat} {bare enclosed : Regex}

theorem toList_wrapGroup (name pattern : String) : (wrapGroup name pattern).toList =
    '(' :: '?' :: 'P' :: '<' :: (name.toList ++ '>' :: (pattern.toList ++ [')'])) := by
  simp [wrapGroup]

-- Reading a wrapped pattern begins with opening its group.
theorem exists_inCapture (hname : isIdentifier name.toList = true)
    (h : compile (wrapGroup name pattern) flags = .ok enclosed) :
    ∃ start cursor left last, cursor.rest = (Token.ofChars (pattern.toList ++ [')'])).1 ∧
      Reading.run left (Reading.inCapture name start (.ofBits flags) cursor) = .ok last ∧
      last.Ends enclosed := by
  obtain ⟨cursor, last, hcursor, hrun, hends⟩ := compile_ends h
  have hplain : ∀ c ∈ name.toList, c ≠ '\\' := Reading.isIdentifierPart_ne hname (by decide)
  have hrest := (Cursor.before_of_ofPattern hcursor).rest
  simp only [toList_wrapGroup, Token.ofChars_cons (show '(' ≠ '\\' by decide),
    Token.ofChars_cons (show '?' ≠ '\\' by decide), Token.ofChars_cons (show 'P' ≠ '\\' by decide),
    Token.ofChars_cons (show '<' ≠ '\\' by decide), Token.ofChars_append hplain,
    Token.ofChars_cons (show '>' ≠ '\\' by decide)] at hrest
  obtain ⟨next, left, hstep, hrun, _⟩ := Reading.run_of_open hrest hrun hends
  obtain ⟨inside, start, hinside, _, _, rfl⟩ := Reading.step_openNamed hname hrest hstep
  rw [String.ofList_toList] at hrun
  exact ⟨start, inside, left, last, hinside, hrun, hends⟩

-- What a pattern that ends well has for flags at its start is good for a group of flags.
theorem flags_inside_eq {flags on : Flags} {cursor : Cursor} {fuel : Nat} {final : Reading}
    (hrun : Reading.run fuel (.atStart cursor (flags.union on)) = .ok final)
    (hends : final.Ends bare) : flags.inside on .none = flags.union on := by
  obtain ⟨more, hmore⟩ := Reading.run_wholeFlags fuel final hrun
  have hwhole : final.wholeFlags = final.frame.flags := by
    rw [Reading.wholeFlags, hends.outer]
    rfl
  have hstart : (Reading.atStart cursor (flags.union on)).wholeFlags = flags.union on := rfl
  rw [hwhole, hstart] at hmore
  have hlocale := hends.locale
  have halphabets := hends.alphabets
  rw [hmore] at hlocale halphabets
  refine Flags.inside_eq_union (Bool.or_eq_false_iff.mp hlocale).1 ?_
  generalize flags.union on = whole at halphabets
  cases hascii : whole.ascii <;> cases hunicode : whole.unicode <;>
    simp_all [Flags.union]

-- A wrapped pattern is the pattern itself inside one more group, which bears the name.
theorem compile_wrapGroup_encloses (hname : isIdentifier name.toList = true)
    (hnumber : RefersByName pattern flags) (hbare : compile pattern flags = .ok bare)
    (henclosed : compile (wrapGroup name (InlineFlags.scope pattern)) flags = .ok enclosed) :
    Encloses name enclosed bare := by
  obtain ⟨cursor, final, hcursor, hbare, hends⟩ := compile_ends hbare
  obtain ⟨start, inside, left, last, hinside, hrun, hends'⟩ := exists_inCapture hname henclosed
  have hnumber := hnumber cursor hcursor
  have hbefore := Cursor.before_of_ofPattern hcursor
  rw [InlineFlags.scope, String.toList_ofList] at hinside
  rcases InlineFlags.scopeChars_eq pattern.toList with hscope | ⟨groups, rest, hne, hwords, hsplit, hscope⟩
  · rw [hscope] at hinside
    exact Reading.encloses_of_capture hbefore hinside hnumber hbare hends hrun hends'
  · have hword := InlineFlags.IsWord.flatten hne hwords
    rw [hsplit] at hbefore
    obtain ⟨past, fewer, hpast, hbare, hstages⟩ :=
      Reading.run_wholeFlags_of_groups hwords hbefore hbare hends
    have hscoped : (Token.ofChars (InlineFlags.scopeChars pattern.toList ++ [')'])).1 =
        .plain '(' :: .plain '?' :: (groups.flatten.map .plain ++ .plain ':' ::
          (Token.ofChars (rest ++ [')', ')'])).1) := by
      simp only [hscope, List.cons_append, List.append_assoc, List.nil_append,
        Token.ofChars_cons (show '(' ≠ '\\' by decide), Token.ofChars_cons (show '?' ≠ '\\' by decide),
        Token.ofChars_append hword.ne_backslash, Token.ofChars_cons (show ':' ≠ '\\' by decide)]
    rw [hscoped] at hinside
    obtain ⟨next, less, hstep, hrun, _⟩ := Reading.run_of_open hinside hrun hends'
    obtain ⟨around, scopeStart, haround, rfl⟩ :=
      Reading.step_scopedFlags hword.nonempty hword.ofLetter? hinside hstep
    have hsame : (Flags.ofBits flags).inside (.ofLetters groups.flatten) .none =
        (Flags.ofBits flags).union (.ofLetters groups.flatten) := flags_inside_eq hbare hends
    have hframe : (Reading.inCapture name start (.ofBits flags) inside).frame.flags =
        .ofBits flags := rfl
    rw [hframe, hsame] at hrun
    exact Reading.encloses_of_scope hpast haround
      (fun stage hstage => hnumber stage (hstages stage hstage)) hbare hends hrun hends'

end Regex

-- A field that refers to its groups by name means the same wrapped as by itself: searching any text
-- finds the same stretch or none, the groups inside capture the same, and the group of the field,
-- which is the first, captures the whole stretch.
theorem synthesize_search {flags : Nat} {schema : List (Value × Value)}
    {wrapped : List WrappedField} {name pattern : String}
    (h : synthesize flags schema = .ok wrapped) (hentry : (.text name, .text pattern) ∈ schema)
    (hnumber : RefersByName pattern flags) :
    ∃ field ∈ wrapped, field.name = name ∧ ∃ bare enclosed,
      Regex.compile pattern flags = .ok bare ∧ Regex.compile field.group flags = .ok enclosed ∧
      enclosed.names = (name, 1) :: bare.names.map (fun entry => (entry.1, entry.2 + 1)) ∧
      ∀ text, enclosed.search? text = (bare.search? text).map Match.enclosed := by
  obtain ⟨field, hfield, hwrap⟩ := exists_of_mem_mapM h hentry
  obtain ⟨rfl, ⟨bare, hbare⟩, enclosed, henclosed⟩ := wrapField_text_eq_ok hwrap
  have hname := (wrapField_eq_ok hwrap).identifier
  have hencloses := compile_wrapGroup_encloses hname hnumber hbare henclosed
  exact ⟨.of name pattern, hfield, rfl, bare, enclosed, hbare, henclosed, hencloses.names,
    hencloses.search?_eq⟩

-- The flags at the start of a field are put around it, and its own groups move behind its group.
theorem synthesize_search_flags :
    ∃ wrapped, ∃ field ∈ wrapped, ∃ enclosed,
      synthesize 0 [(.text "n", .text "(?s)(?m)(?P<q>a+)(b)?(?(q).|d)(?P=q)$")] = .ok wrapped ∧
      field.group = "(?P<n>(?sm:(?P<q>a+)(b)?(?(q).|d)(?P=q)$))" ∧
      Regex.compile field.group 0 = .ok enclosed ∧
      enclosed.search? "aab\naa\n".toList.toArray =
        some ⟨0, 6, [some (0, 6), some (0, 2), some (2, 3)]⟩ := by
  have hready : ∃ wrapped,
      synthesize 0 [(.text "n", .text "(?s)(?m)(?P<q>a+)(b)?(?(q).|d)(?P=q)$")] = .ok wrapped ∧
      wrapped = [.of "n" "(?s)(?m)(?P<q>a+)(b)?(?(q).|d)(?P=q)$"] := by
    decide +kernel
  have hfound : ∃ bare, Regex.compile "(?s)(?m)(?P<q>a+)(b)?(?(q).|d)(?P=q)$" 0 = .ok bare ∧
      bare.search? "aab\naa\n".toList.toArray = some ⟨0, 6, [some (0, 2), some (2, 3)]⟩ := by
    decide +kernel
  obtain ⟨wrapped, hsynthesize, hwrapped⟩ := hready
  obtain ⟨bare, hbare, hsearch⟩ := hfound
  obtain ⟨field, hfield, _, same, enclosed, hsame, henclosed, _, h⟩ :=
    synthesize_search hsynthesize List.mem_cons_self (by decide +kernel)
  cases hbare.symm.trans hsame
  have hgroup : field.group = "(?P<n>(?sm:(?P<q>a+)(b)?(?(q).|d)(?P=q)$))" := by
    rw [hwrapped, List.mem_singleton] at hfield
    rw [hfield]
    decide +kernel
  refine ⟨wrapped, field, hfield, enclosed, hsynthesize, hgroup, henclosed, ?_⟩
  rw [h, hsearch]
  rfl

-- Searching a text finds the same stretch with the group around a field and without it, or none.
def SearchesAlike (name pattern : String) (flags : Nat) : Prop :=
  ∃ bare enclosed, Regex.compile pattern flags = .ok bare ∧
    Regex.compile (wrapGroup name (InlineFlags.scope pattern)) flags = .ok enclosed ∧
    ∀ text, (enclosed.search? text).map (fun found => (found.start, found.stop)) =
      (bare.search? text).map (fun found => (found.start, found.stop))

theorem not_searchesAlike {name pattern : String} {flags : Nat} {text : Array Char}
    (hbare : ∃ bare, Regex.compile pattern flags = .ok bare ∧ (bare.search? text).isSome = true)
    (henclosed : ∃ enclosed,
      Regex.compile (wrapGroup name (InlineFlags.scope pattern)) flags = .ok enclosed ∧
      enclosed.search? text = none) : ¬SearchesAlike name pattern flags := by
  obtain ⟨bare, hbare, hsome⟩ := hbare
  obtain ⟨enclosed, henclosed, hnone⟩ := henclosed
  rintro ⟨bare', enclosed', hbare', henclosed', h⟩
  cases hbare.symm.trans hbare'
  cases henclosed.symm.trans henclosed'
  have hsearch := h text
  rw [hnone, Option.map_none, eq_comm, Option.map_eq_none_iff] at hsearch
  rw [hsearch] at hsome
  cases hsome

-- References and conditions by number are not moved with the groups that they are meant for: inside
-- of the field's group the second group is the first, and the first is the field's own.
theorem numbered_references_miss :
    (∃ wrapped, synthesize 0
      [(.text "n", .text "(a)(b)\\2"), (.text "m", .text "(a)?(?(1)b|c)")] = .ok wrapped) ∧
    ¬SearchesAlike "n" "(a)(b)\\2" 0 ∧ ¬SearchesAlike "m" "(a)?(?(1)b|c)" 0 := by
  have hready : ∃ wrapped, synthesize 0
      [(.text "n", .text "(a)(b)\\2"), (.text "m", .text "(a)?(?(1)b|c)")] = .ok wrapped ∧
      wrapped.length = 2 := by
    decide +kernel
  obtain ⟨wrapped, hsynthesize, _⟩ := hready
  refine ⟨⟨wrapped, hsynthesize⟩, ?_, ?_⟩
  · exact @not_searchesAlike _ _ _ "abb".toList.toArray (by decide +kernel) (by decide +kernel)
  · exact @not_searchesAlike _ _ _ "ab".toList.toArray (by decide +kernel) (by decide +kernel)

end RecordPattern
