import RecordPattern.Proofs.Regex.Enclosure.Search
import RecordPattern.Proofs.Regex.Enclosure.Steps

namespace RecordPattern.Regex

open Outcome Cursor

-- The parentheses after a pattern. A backslash at its end takes the first of them.
def Closing.after (dangling : Bool) (more : Nat) : Closing where
  tokens := (if dangling then .escaped ')' else .plain ')') :: List.replicate more (.plain ')')
  head := by
    intro c hc
    cases dangling <;> cases hc
    rfl
  noBreak := by
    cases dangling <;> simp [List.mem_replicate]

theorem Closing.after_tokens {dangling : Bool} {more : Nat}
    (h : (after dangling more).tokens.head? = some (.plain ')')) :
    (after dangling more).tokens = List.replicate (more + 1) (.plain ')') := by
  cases dangling with
  | false => rfl
  | true => cases h

theorem Cursor.Before.within {cursor around : Cursor} {text : List Char} (h : cursor.Before text)
    (more : Nat)
    (haround : around.rest = (Token.ofChars (text ++ ')' :: List.replicate more ')')).1) :
    Within (.after (Token.ofChars text).2 more) cursor around where
  rest := by
    have hplain : ∀ c ∈ List.replicate more ')', c ≠ '\\' := by simp [List.mem_replicate]
    have hmore := Token.ofChars_append hplain []
    rw [List.append_nil] at hmore
    rw [haround, Token.ofChars_append_cons text (by decide), hmore, h.rest]
    simp [Closing.after, Token.ofChars]
  intact := h.intact
  dangling := by
    rw [h.dangling]
    cases (Token.ofChars text).2 with
    | true => exact .inl rfl
    | false => exact .inr rfl

namespace Reading

variable {enclosure : Enclosure} {final outside last : Reading} {regex regex' : Regex}

-- Where the reading of a pattern has come to its end, the pattern inside of groups has come to
-- what closes them.
structure Closes (enclosure : Enclosure) (final outside : Reading) : Prop where
  rest : outside.cursor.rest = enclosure.closing.tokens
  head : enclosure.closing.tokens.head? = some (.plain ')')
  groups : final.groups.Inside enclosure.name outside.groups
  outer : outside.outer = enclosure.outer
  opening : outside.frame.opening = enclosure.opening
  mirrors : final.frame.Mirrors outside.frame

theorem Inside.closes (h : Inside enclosure final outside) (hends : final.Ends regex) :
    Closes enclosure final outside := by
  obtain ⟨hcursor, hgroups, hframes⟩ := h
  have hrest := hcursor.rest
  rw [hends.rest, List.nil_append] at hrest
  have hhead := hcursor.dangling.resolve_left fun hsome => hcursor.intact hsome hends.rest
  rw [hends.outer] at hframes
  generalize houter : outside.outer = further at hframes
  cases hframes with
  | bottom opening mirrors => exact ⟨hrest, hhead, hgroups, houter, opening, mirrors⟩

theorem Closes.encloses (h : Closes enclosure final outside) (hends : final.Ends regex)
    {inner : Node} (hinner : ∀ text, inner.run text = outside.frame.body.run text) :
    Encloses enclosure.name ⟨.capture 1 inner, outside.groups.names, outside.groups.count⟩ regex := by
  rw [hends.regex_eq]
  refine ⟨⟨inner, rfl, fun text => ?_⟩, h.mirrors.body_positive, h.groups.names, h.groups.count_eq⟩
  rw [hinner, h.mirrors.body_eq]

-- The last parenthesis closes the group around the whole pattern.
theorem capture_ends {reading : Reading} {start left : Nat} {flags : Flags}
    (hrest : reading.cursor.rest = [.plain ')']) (hopening : reading.frame.opening = .capture 1)
    (houter : reading.outer = [.opened .whole start flags]) (hrun : run left reading = .ok last)
    (hends : last.Ends regex) :
    regex = ⟨.capture 1 reading.frame.body, reading.groups.names, reading.groups.count⟩ := by
  obtain ⟨cursor, fewer, hcursor, hrun⟩ := run_of_close hrest houter hrun hends
  have hlast : run fewer ⟨cursor, closedGroups reading.groups reading.frame, reading.pending,
      (Frame.opened .whole start flags).push (closedItem reading.frame), []⟩ = .ok ⟨cursor,
      closedGroups reading.groups reading.frame, reading.pending,
      (Frame.opened .whole start flags).push (closedItem reading.frame), []⟩ := by
    cases fewer with
    | zero => rfl
    | succ fewer => simp only [run, Cursor.next?, hcursor, List.head?_nil]
  cases hrun.symm.trans hlast
  rw [hends.regex_eq]
  simp only [closedGroups, closedItem, hopening, Groups.count_closed]
  rfl

variable {name : String} {cursor around : Cursor} {flags : Flags} {fuel left start : Nat}

-- The state in which a named group has been opened at the start of a pattern.
def inCapture (name : String) (start : Nat) (flags : Flags) (cursor : Cursor) : Reading :=
  openFrame ⟨cursor, Groups.none.opened (some name), [], .opened .whole 0 flags, []⟩ (.capture 1)
    start flags cursor

theorem inside_none (name : String) : Groups.none.Inside name (Groups.none.opened (some name)) :=
  ⟨rfl, rfl, rfl, rfl, by simp [Groups.none]⟩

-- A pattern that is read in a named group makes that group.
theorem encloses_of_capture {text : List Char} (hcursor : cursor.Before text)
    (haround : around.rest = (Token.ofChars (text ++ [')'])).1)
    (hnumber : ∀ stage ∈ stages fuel (atStart cursor flags),
      refersByNumber stage.cursor.rest = false)
    (hbare : run fuel (atStart cursor flags) = .ok final) (hends : final.Ends regex)
    (hrun : run left (inCapture name start flags around) = .ok last) (hends' : last.Ends regex') :
    Encloses name regex' regex := by
  let enclosure : Enclosure := ⟨name, .after (Token.ofChars text).2 0, .capture 1,
    [.opened .whole 0 flags], List.cons_ne_nil _ _⟩
  have hinside : Inside enclosure (atStart cursor flags) (inCapture name start flags around) :=
    ⟨hcursor.within 0 haround, inside_none name, .bottom rfl (.opened _ _ _ _ _)⟩
  obtain ⟨outside, fewer, hinside, hrun⟩ := run_inside hinside hnumber hbare hends hrun hends'
  have hcloses := hinside.closes hends
  have hlast := hcloses.rest.trans (Closing.after_tokens hcloses.head)
  rw [capture_ends hlast hcloses.opening hcloses.outer hrun hends']
  exact hcloses.encloses hends fun _ => rfl

-- So does a pattern that is read in a group of flags inside of the named group.
theorem encloses_of_scope {text : List Char} {opened : Cursor} {scopeStart : Nat} {inner : Flags}
    (hcursor : cursor.Before text) (haround : around.rest = (Token.ofChars (text ++ [')', ')'])).1)
    (hnumber : ∀ stage ∈ stages fuel (atStart cursor inner),
      refersByNumber stage.cursor.rest = false)
    (hbare : run fuel (atStart cursor inner) = .ok final) (hends : final.Ends regex)
    (hrun : run left ((inCapture name start flags opened).openFrame .scope scopeStart inner around) =
      .ok last) (hends' : last.Ends regex') :
    Encloses name regex' regex := by
  let enclosure : Enclosure := ⟨name, .after (Token.ofChars text).2 1, .scope,
    [.opened (.capture 1) start flags, .opened .whole 0 flags], List.cons_ne_nil _ _⟩
  have hinside : Inside enclosure (atStart cursor inner)
      ((inCapture name start flags opened).openFrame .scope scopeStart inner around) :=
    ⟨hcursor.within 1 haround, inside_none name, .bottom rfl (.opened _ _ _ _ _)⟩
  obtain ⟨outside, fewer, hinside, hrun⟩ := run_inside hinside hnumber hbare hends hrun hends'
  have hcloses := hinside.closes hends
  have hlast := hcloses.rest.trans (Closing.after_tokens hcloses.head)
  obtain ⟨further, left, hfurther, hrun⟩ := run_of_close hlast hcloses.outer hrun hends'
  have hopening : outside.frame.opening = .scope := hcloses.opening
  rw [capture_ends hfurther rfl rfl hrun hends']
  simp only [closedGroups, closedItem, hopening]
  exact hcloses.encloses hends fun _ => rfl

end Reading

end RecordPattern.Regex
