import RecordPattern.Proofs.Regex.Enclosure.Reading
import RecordPattern.Proofs.Regex.Stages

namespace RecordPattern.Regex

open Outcome Cursor Text

namespace Reading

variable {enclosure : Enclosure} {inner outer : Reading}
  {within around : Cursor}

theorem groupName_agree (h : Within enclosure.closing within around) (terminator : Char) :
    Agree enclosure.closing (groupName within terminator) (groupName around terminator) := by
  unfold groupName
  refine .bind _ (takeName_agree h terminator _) ?_
  rintro ⟨given, after⟩ ⟨_, further⟩ ⟨rfl, hafter⟩
  exact .ite (fun _ => .ok ⟨rfl, hafter⟩) fun _ => .errorLeft _

-- A group is opened inside of another when its name is new inside and outside.
theorem openCapture_inside (h : Inside enclosure inner outer)
    (hcursor : Within enclosure.closing within around) (start start' : Nat) (given : Option String) :
    Relates (Inside enclosure) (openCapture inner start given within)
      (openCapture outer start' given around) := by
  unfold openCapture
  cases hinner : given.bind inner.groups.number? with
  | some earlier => exact .errorLeft _
  | none =>
      cases houter : given.bind outer.groups.number? with
      | some earlier => exact .errorRight _
      | none =>
          have hopened : Inside enclosure
              { inner with groups := inner.groups.opened given }
              { outer with groups := outer.groups.opened given } :=
            ⟨h.cursor, h.groups.opened given houter, h.frames⟩
          simp only [h.groups.count_eq, h.flags_eq]
          exact .ok (hopened.openFrame hcursor (.capture (inner.groups.count + 1))
            (Nat.le_add_left 1 _) _ _ _)

theorem readReference_inside (h : Inside enclosure inner outer)
    (hcursor : Within enclosure.closing within around) :
    Relates (Inside enclosure) (readReference inner within) (readReference outer around) := by
  unfold readReference
  refine .bind _ (groupName_agree hcursor ')') ?_
  rintro ⟨given, after⟩ ⟨_, further⟩ ⟨rfl, hafter⟩
  cases hnumber : inner.groups.number? given with
  | none =>
      simp only [hnumber]
      exact .errorLeft _
  | some group =>
      have hpositive := h.groups.pos_of_number? hnumber
      have houter := h.groups.number?_eq (h.groups.ne_of_number? hnumber)
      simp only [hnumber, houter, Option.map_some, h.groups.width?_eq hpositive,
        h.groups.lookbehindIssue?_eq hpositive, h.flags_eq]
      cases inner.groups.width? group with
      | none => exact .errorLeft _
      | some width =>
          cases inner.groups.lookbehindIssue? group with
          | some issue => exact .errorLeft _
          | none => exact .ok (h.pushNode hafter (.reference group _ width) hpositive)

-- A condition on a named group is one on the same group.
theorem openConditional_inside (h : Inside enclosure inner outer)
    (hcursor : Within enclosure.closing within around) (start start' : Nat)
    (hnumber : refersByNumber (.plain '(' :: .plain '?' :: .plain '(' :: within.rest) = false) :
    Relates (Inside enclosure) (openConditional inner start within)
      (openConditional outer start' around) := by
  unfold openConditional
  refine .bind _ (takeName_agree hcursor ')' _).withLeft ?_
  rintro ⟨given, after⟩ ⟨_, further⟩ ⟨hgiven, rfl, hafter⟩
  have hname : isIdentifier given = true := by
    obtain ⟨taken, rest, hsplit, htaken, rfl, _⟩ := takeName_eq_ok hgiven
    have htake : (taken ++ .plain ')' :: rest).takeWhile (· ≠ .plain ')') = taken :=
      takeWhile_until (by simpa using htaken) (by simp) rest
    rw [refersByNumber, hsplit, htake] at hnumber
    simpa using hnumber
  simp only [hname, if_true]
  cases hgroup : inner.groups.number? (String.ofList given) with
  | none => exact .errorLeft _
  | some group =>
      have hpositive := h.groups.pos_of_number? hgroup
      have houter := h.groups.number?_eq (h.groups.ne_of_number? hgroup)
      simp only [houter, hgroup, Option.map_some, pure_bind, h.groups.lookbehindIssue?_eq hpositive,
        h.flags_eq]
      cases inner.groups.lookbehindIssue? group with
      | some issue => exact .errorLeft _
      | none => exact .ok (h.openFrame hafter (.conditional group) hpositive _ _ _)

theorem openLookbehind_inside (h : Inside enclosure inner outer)
    (hcursor : Within enclosure.closing within around) (start start' : Nat) (negated : Bool) :
    Inside enclosure (openLookbehind inner start negated within)
      (openLookbehind outer start' negated around) := by
  unfold openLookbehind
  have houtermost : outer.groups.lookbehind.isNone = inner.groups.lookbehind.isNone := by
    simp [h.groups.lookbehind]
  have hbound : Inside enclosure
      { inner with groups := { inner.groups with lookbehind := some inner.groups.count } }
      { outer with groups := { outer.groups with lookbehind := some outer.groups.count } } := by
    rw [h.groups.count_eq]
    exact ⟨h.cursor, h.groups.lookingBehind (some _), h.frames⟩
  simp only [houtermost, h.flags_eq]
  cases inner.groups.lookbehind.isNone with
  | true => exact hbound.openFrame hcursor (.behind negated true) trivial _ _ _
  | false => exact h.openFrame hcursor (.behind negated false) trivial _ _ _

theorem openNamed_inside (h : Inside enclosure inner outer)
    (hcursor : Within enclosure.closing within around) (start start' : Nat) :
    Relates (Inside enclosure) (openNamed inner start within)
      (openNamed outer start' around) := by
  unfold openNamed
  cases hnext : within.next? with
  | none => exact .errorLeft _
  | some token =>
      simp only [hcursor.next?_eq hnext]
      refine .bind _ (hcursor.skipNext hnext) fun after further hafter => ?_
      refine .ite (fun _ => ?_) fun _ => .ite (fun _ => ?_) fun _ => .errorLeft _
      · refine .bind _ (groupName_agree hafter '>') ?_
        rintro ⟨given, last⟩ ⟨_, last'⟩ ⟨rfl, hlast⟩
        exact openCapture_inside h hlast start start' (some given)
      · exact readReference_inside h hafter

theorem openBehind_inside (h : Inside enclosure inner outer)
    (hcursor : Within enclosure.closing within around) (start start' : Nat) :
    Relates (Inside enclosure) (openBehind inner start within)
      (openBehind outer start' around) := by
  unfold openBehind
  cases hnext : within.next? with
  | none => exact .errorLeft _
  | some token =>
      simp only [hcursor.next?_eq hnext]
      refine .bind _ (hcursor.skipNext hnext) fun after further hafter => ?_
      refine .ite (fun _ => ?_) fun _ => .ite (fun _ => ?_) fun _ => .errorLeft _
      · exact .ok (openLookbehind_inside h hafter start start' false)
      · exact .ok (openLookbehind_inside h hafter start start' true)

-- A comment that ends in the pattern ends there inside of groups too.
theorem skipComment_inside (h : Inside enclosure inner outer)
    (hcursor : Within enclosure.closing within around) (start start' : Nat) :
    Relates (Inside enclosure) (skipComment inner start within)
      (skipComment outer start' around) := by
  unfold skipComment
  by_cases hlength : (within.rest.takeWhile (· ≠ .plain ')')).length < within.rest.length
  · obtain ⟨last, rest, hsplit, hlast⟩ := takeWhile_splits hlength
    have hsame : around.rest.takeWhile (· ≠ .plain ')') = within.rest.takeWhile (· ≠ .plain ')') := by
      rw [hcursor.rest, List.takeWhile_append, if_neg (by omega)]
    simp only [hsame]
    refine .bind _ (hcursor.skip hlength) fun after further hafter => ?_
    rw [if_neg (by omega), if_neg (by rw [hcursor.rest, List.length_append]; omega)]
    exact .ok (h.moved hafter)
  · have hall : within.rest.length = (within.rest.takeWhile (· ≠ .plain ')')).length :=
      Nat.le_antisymm (Nat.not_lt.mp hlength) (List.takeWhile_prefix _).length_le
    refine .bind (fun _ _ => True) (fun _ _ _ _ => trivial) fun after further _ => ?_
    rw [if_pos hall]
    exact .errorLeft _

-- Flags of the whole pattern do not stand inside of a group.
theorem openFlags_inside (h : Inside enclosure inner outer)
    (hcursor : Within enclosure.closing within around) (start start' : Nat) (first : Token) :
    Relates (Inside enclosure) (openFlags inner start first within)
      (openFlags outer start' first around) := by
  unfold openFlags
  refine .bind _ (FlagGroup.read_agree hcursor first) ?_
  rintro ⟨group, after⟩ ⟨_, further⟩ ⟨rfl, hafter⟩
  cases group with
  | inside on off =>
      simp only [h.flags_eq]
      exact .ok (h.openFrame hafter .scope trivial _ _ _)
  | global flags =>
      have houter : outer.outer.isEmpty = false := by
        rw [List.isEmpty_eq_false_iff]
        exact h.frames.further_ne_nil
      simp only [houter, Bool.false_and, Bool.false_eq_true, if_false]
      exact .errorRight _

theorem openExtension_inside (h : Inside enclosure inner outer)
    (hcursor : Within enclosure.closing within around) (start start' : Nat)
    (hnumber : refersByNumber (.plain '(' :: .plain '?' :: within.rest) = false) :
    Relates (Inside enclosure) (openExtension inner start within)
      (openExtension outer start' around) := by
  unfold openExtension
  cases hnext : within.next? with
  | none => exact .errorLeft _
  | some token =>
      obtain ⟨rest, hrest⟩ := List.head?_eq_some_iff.mp hnext
      simp only [hcursor.next?_eq hnext, h.flags_eq]
      refine .bind _ (hcursor.skipNext hnext).withLeft fun after further hafter => ?_
      obtain ⟨hskip, hafter⟩ := hafter
      split
      · exact openNamed_inside h hafter start start'
      · exact .ok (h.openFrame hafter .contents trivial _ _ _)
      · exact skipComment_inside h hafter start start'
      · exact .ok (h.openFrame hafter (.ahead false) trivial _ _ _)
      · exact .ok (h.openFrame hafter (.ahead true) trivial _ _ _)
      · exact openBehind_inside h hafter start start'
      · obtain ⟨hlast, _⟩ := skip_eq_ok hskip
        rw [hrest, List.drop_one, List.tail_cons] at hlast
        rw [hrest, ← hlast] at hnumber
        exact openConditional_inside h hafter start start' hnumber
      · exact .ok (h.openFrame hafter .atomic trivial _ _ _)
      · exact .ite (fun _ => openFlags_inside h hafter start start' token) fun _ =>
          .errorLeft _

theorem openGroup_inside
    (h : Inside enclosure inner outer) (hcursor : Within enclosure.closing within around)
    (hnumber : refersByNumber (.plain '(' :: within.rest) = false) :
    Relates (Inside enclosure) (openGroup inner within) (openGroup outer around) := by
  unfold openGroup
  simp only [hcursor.nextIs_eq (c := '?') (by decide)]
  cases hquestion : within.nextIs '?' with
  | false => exact openCapture_inside h hcursor _ _ none
  | true =>
      have hnext : within.next? = some (.plain '?') := of_decide_eq_true hquestion
      obtain ⟨rest, hrest⟩ := List.head?_eq_some_iff.mp hnext
      refine .bind _ (hcursor.skipNext hnext).withLeft fun after further hafter => ?_
      obtain ⟨hskip, hafter⟩ := hafter
      obtain ⟨hlast, _⟩ := skip_eq_ok hskip
      rw [hrest, List.drop_one, List.tail_cons] at hlast
      rw [hrest, ← hlast] at hnumber
      exact openExtension_inside h hafter _ _ hnumber

theorem nextBranch_eq_ok {reading next : Reading} (h : nextBranch reading = .ok next) :
    ∃ after, reading.cursor.skip 1 = .ok after ∧
      next = { reading with cursor := after, frame := reading.frame.finishBranch } := by
  unfold nextBranch at h
  split at h
  · cases h
  · obtain ⟨after, hskip, h⟩ := bind_eq_ok.mp h
    cases h
    exact ⟨after, hskip, rfl⟩

theorem nextBranch_inside (h : Inside enclosure inner outer) {token : Token}
    (hnext : inner.cursor.next? = some token) :
    Relates (Inside enclosure) (nextBranch inner) (nextBranch outer) := by
  intro next follow hinner houter
  obtain ⟨after, hskip, rfl⟩ := nextBranch_eq_ok hinner
  obtain ⟨further, hskip', rfl⟩ := nextBranch_eq_ok houter
  have hafter := h.cursor.skipNext hnext _ _ hskip hskip'
  exact ⟨hafter, h.groups, h.frames.replace rfl rfl h.frames.mirrors.finishBranch⟩

theorem closeGroup_inside (h : Inside enclosure inner outer) {token : Token}
    (hnext : inner.cursor.next? = some token) :
    Relates (Inside enclosure) (closeGroup inner) (closeGroup outer) := by
  obtain ⟨hcursor, hgroups, hframes⟩ := h
  unfold closeGroup
  generalize inner.outer = rest, outer.outer = further at hframes
  cases hframes with
  | bottom mirrors => exact .errorLeft _
  | above opening positive mirrors stacked =>
      refine .bind _ (hcursor.skipNext hnext) fun after last hafter => ?_
      have hitem := closedItem_positive mirrors positive
      have hpushed := stacked.mirrors.push hitem
      rw [← closedItem_raise mirrors opening] at hpushed
      exact .ok ⟨hafter, closedGroups_inside hgroups mirrors opening positive,
        stacked.replace rfl rfl hpushed⟩

-- A comment to the end of the line takes what closes the groups around the pattern, if the
-- pattern has no further line.
theorem skipLine_inside
    (h : Inside enclosure inner outer) (hcursor : Within enclosure.closing within around) :
    Relates (fun next follow => Inside enclosure next follow ∨ follow.Doomed)
      (skipLine inner within) (skipLine outer around) := by
  unfold skipLine
  by_cases hlength : (within.rest.takeWhile (· ≠ .plain '\n')).length < within.rest.length
  · have hsame : around.rest.takeWhile (· ≠ .plain '\n') = within.rest.takeWhile (· ≠ .plain '\n') := by
      rw [hcursor.rest, List.takeWhile_append, if_neg (by omega)]
    simp only [hsame]
    refine .bind _ (hcursor.skip hlength) fun after further hafter => ?_
    exact .ok (.inl (h.moved hafter))
  · intro next follow _ hfollow
    obtain ⟨after, hskip, hfollow⟩ := bind_eq_ok.mp hfollow
    cases hfollow
    obtain ⟨hrest, _⟩ := skip_eq_ok hskip
    have hwhole := (List.takeWhile_prefix (l := within.rest) (· ≠ .plain '\n')).eq_of_length_le
      (Nat.not_lt.mp hlength)
    have hall : ∀ token ∈ around.rest, decide (token ≠ .plain '\n') = true := by
      rw [hcursor.rest, List.forall_mem_append]
      refine ⟨List.takeWhile_eq_self_iff.mp hwhole, fun token ht => ?_⟩
      exact decide_eq_true fun he => enclosure.closing.noBreak (he ▸ ht)
    rw [List.takeWhile_eq_self_iff.mpr hall, List.drop_eq_nil_of_le (Nat.le_succ _)] at hrest
    exact .inr ⟨hrest, h.frames.further_ne_nil⟩

theorem readItem_inside
    (h : Inside enclosure inner outer) {token : Token}
    (hnext : inner.cursor.next? = some token)
    (hnumber : refersByNumber inner.cursor.rest = false) :
    Relates (fun next follow => Inside enclosure next follow ∨ follow.Doomed)
      (readItem inner token) (readItem outer token) := by
  have hleft : ∀ {first second : Read Reading}, Relates (Inside enclosure) first second →
      Relates (fun next follow => Inside enclosure next follow ∨ follow.Doomed)
        first second :=
    fun hrelates => hrelates.mono fun _ _ => .inl
  obtain ⟨rest, hrest⟩ := List.head?_eq_some_iff.mp hnext
  unfold readItem
  refine .bind _ (h.cursor.skipNext hnext).withLeft fun within around hcursor => ?_
  obtain ⟨hskip, hcursor⟩ := hcursor
  obtain ⟨hlast, _⟩ := skip_eq_ok hskip
  rw [hrest, List.drop_one, List.tail_cons] at hlast
  rw [hrest, ← hlast] at hnumber
  simp only [h.flags_eq]
  refine .ite (fun _ => .ok (.inl (h.moved hcursor))) fun _ => ?_
  refine .ite (fun _ => skipLine_inside h hcursor) fun _ => hleft ?_
  split
  · refine .bind _ (Escape.inPattern_agree hcursor _ hnumber) ?_
    rintro ⟨node, after⟩ ⟨_, further⟩ ⟨rfl, hnode, hafter⟩
    exact .ok (h.pushNode hafter _ hnode)
  · refine .bind _ (CharClass.read_agree hcursor _) ?_
    rintro ⟨test, after⟩ ⟨_, further⟩ ⟨rfl, hafter⟩
    exact .ok (h.pushNode hafter (.unit test) trivial)
  · exact .ok (h.pushNode hcursor (.unit _) trivial)
  · exact .ok (h.pushNode hcursor (.anchor _) trivial)
  · exact .ok (h.pushNode hcursor (.anchor _) trivial)
  · exact openGroup_inside h hcursor hnumber
  · exact repeatLast_inside h hcursor _ _ _ _
  · exact repeatLast_inside h hcursor _ _ _ _
  · exact repeatLast_inside h hcursor _ _ _ _
  · exact readBraces_inside h hcursor
  · exact .ok (h.pushChar hcursor _)

-- A step of reading a pattern is the same step inside of groups.
theorem step_inside
    (h : Inside enclosure inner outer) {token : Token}
    (hnext : inner.cursor.next? = some token)
    (hnumber : refersByNumber inner.cursor.rest = false) :
    Relates (fun next follow => Inside enclosure next follow ∨ follow.Doomed)
      (step inner token) (step outer token) := by
  unfold step
  split
  · exact (nextBranch_inside h hnext).mono fun _ _ => .inl
  · exact (closeGroup_inside h hnext).mono fun _ _ => .inl
  · exact readItem_inside h hnext hnumber

-- Once it is doomed, reading does not end well.
theorem Doomed.not_ends {reading final : Reading} {regex : Regex} (h : reading.Doomed) {fuel : Nat}
    (hrun : run fuel reading = .ok final) : ¬final.Ends regex := by
  intro hends
  have hsame : final = reading := by
    cases fuel with
    | zero => exact (Except.ok.inj hrun).symm
    | succ fuel =>
        simp only [run, Cursor.next?, h.1, List.head?_nil] at hrun
        exact (Except.ok.inj hrun).symm
  exact h.2 (hsame ▸ hends.outer)

-- Reading a pattern to its end is reading it inside of groups up to what closes them.
theorem run_inside {fuel fuel' : Nat}
    {final last : Reading} {regex regex' : Regex} (h : Inside enclosure inner outer)
    (hnumber : ∀ stage ∈ stages fuel inner, refersByNumber stage.cursor.rest = false)
    (hinner : run fuel inner = .ok final) (hends : final.Ends regex)
    (houter : run fuel' outer = .ok last) (hends' : last.Ends regex') :
    ∃ outside left, Inside enclosure final outside ∧ run left outside = .ok last := by
  induction fuel generalizing inner outer fuel' with
  | zero =>
      cases hinner
      exact ⟨outer, fuel', h, houter⟩
  | succ fuel ih =>
      cases hnext : inner.cursor.next? with
      | none =>
          simp only [run, hnext] at hinner
          cases hinner
          exact ⟨outer, fuel', h, houter⟩
      | some token =>
          obtain ⟨rest, hrest⟩ := List.head?_eq_some_iff.mp hnext
          have hnext' := h.cursor.next?_eq hnext
          simp only [stages, hnext, List.forall_mem_cons] at hnumber
          simp only [run, hnext] at hinner
          split at hinner
          · -- a parenthesis that closes no group is left, and nothing is left at the end
            cases hinner
            have hempty := hends.rest
            rw [hrest] at hempty
            cases hempty
          next hopen =>
            rw [if_neg hopen] at hnumber
            obtain ⟨next, hstep, hinner⟩ := bind_eq_ok.mp hinner
            rw [hstep] at hnumber
            cases fuel' with
            | zero =>
                cases houter
                have hempty := hends'.rest
                rw [h.cursor.rest, hrest] at hempty
                cases hempty
            | succ fuel' =>
                have houtside : outer.outer.isEmpty = false := by
                  rw [List.isEmpty_eq_false_iff]
                  exact h.frames.further_ne_nil
                simp only [run, hnext', houtside, Bool.and_false, Bool.false_eq_true, if_false] at houter
                obtain ⟨follow, hstep', houter⟩ := bind_eq_ok.mp houter
                rcases step_inside h hnext hnumber.1 _ _ hstep hstep' with hinside | hdoomed
                · exact ih hinside hnumber.2 hinner houter
                · exact absurd hends' (hdoomed.not_ends houter)

-- A parenthesis that comes next closes the innermost group.
theorem run_of_close {reading final : Reading} {left : Nat} {regex : Regex} {frame : Frame}
    {further : List Frame} {rest : List Token} (hrest : reading.cursor.rest = .plain ')' :: rest)
    (houter : reading.outer = frame :: further) (hrun : run left reading = .ok final)
    (hends : final.Ends regex) :
    ∃ cursor fewer, cursor.rest = rest ∧
      run fewer ⟨cursor, closedGroups reading.groups reading.frame, reading.pending,
        frame.push (closedItem reading.frame), further⟩ = .ok final := by
  cases left with
  | zero =>
      cases hrun
      have hempty := hends.outer
      rw [houter] at hempty
      cases hempty
  | succ fewer =>
      simp only [run, Cursor.next?, hrest, List.head?_cons, houter, List.isEmpty_cons, Bool.and_false,
        Bool.false_eq_true, if_false, step, closeGroup] at hrun
      obtain ⟨next, hnext, hrun⟩ := bind_eq_ok.mp hrun
      obtain ⟨cursor, hskip, hnext⟩ := bind_eq_ok.mp hnext
      cases hnext
      obtain ⟨hcursor, _⟩ := skip_eq_ok hskip
      rw [hrest, List.drop_one, List.tail_cons] at hcursor
      exact ⟨cursor, fewer, hcursor, hrun⟩

end Reading

end RecordPattern.Regex
