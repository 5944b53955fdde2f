import RecordPattern.Proofs.Outcome
import RecordPattern.Regex.Search

namespace RecordPattern.Regex

open Outcome

-- What a step of reading does to the groups: it leaves their names and their number alone, or it
-- opens one more, under a name that none of them has.
inductive Groups.Grows (before after : Groups) : Prop
  | same (names : after.names = before.names) (count : after.count = before.count)
  | opened (name : Option String) (fresh : name.bind before.number? = .none)
      (names : after.names = (before.opened name).names) (count : after.count = before.count + 1)

theorem Groups.count_opened (groups : Groups) (name : Option String) :
    (groups.opened name).count = groups.count + 1 := by
  simp [opened, count]

theorem Groups.count_closed (groups : Groups) (group : Nat) (width : Width) :
    (groups.closed group width).count = groups.count := by
  simp [closed, count]

-- One set of flags has all that another has.
def Flags.Extends (flags base : Flags) : Prop :=
  ∃ more, flags = base.union more

namespace Flags.Extends

variable {first second third : Flags}

theorem refl (flags : Flags) : flags.Extends flags :=
  ⟨flags, by simp [union]⟩

theorem trans (hs : second.Extends first) (ht : third.Extends second) : third.Extends first := by
  obtain ⟨more, rfl⟩ := hs
  obtain ⟨further, rfl⟩ := ht
  exact ⟨more.union further, by simp [union, Bool.or_assoc]⟩

end Flags.Extends

namespace Reading

-- The flags of the pattern as a whole, which are those of the outermost group.
def wholeFlags (reading : Reading) : Flags :=
  (reading.outer.getLast?.map Frame.flags).getD reading.frame.flags

-- What a step of reading does, as far as groups and the flags of the whole pattern go.
structure Leads (before after : Reading) : Prop where
  groups : before.groups.Grows after.groups
  flags : after.wholeFlags.Extends before.wholeFlags

abbrev EnsuresLeads (before : Reading) (outcome : Read Reading) : Prop :=
  Ensures before.Leads outcome

variable {reading after : Reading}

theorem Leads.of_same (hgroups : reading.groups.Grows after.groups)
    (hflags : after.wholeFlags = reading.wholeFlags) : reading.Leads after :=
  ⟨hgroups, hflags ▸ .refl _⟩

-- A part is added to the group that is being read.
theorem leads_pushNode (node : Node) (cursor : Cursor) :
    reading.Leads (reading.pushNode node cursor) :=
  .of_same (.same rfl rfl) rfl

theorem leads_openFrame (reading after : Reading) (hgroups : reading.groups.Grows after.groups)
    (hframe : after.frame = reading.frame) (houter : after.outer = reading.outer)
    (opening : Opening) (start : Nat) (flags : Flags) (cursor : Cursor) :
    reading.Leads (after.openFrame opening start flags cursor) := by
  refine .of_same hgroups ?_
  simp [wholeFlags, openFrame, hframe, houter, List.getLast?_cons]

theorem repeatLast_leads (start least : Nat) (greatest : Option Nat) (cursor : Cursor) :
    EnsuresLeads reading (repeatLast reading start least greatest cursor) := by
  unfold repeatLast
  split
  · exact .error _
  · exact .error _
  · exact .error _
  · exact .after fun _ => .ok (.of_same (.same rfl rfl) rfl)

theorem readBraces_leads (cursor : Cursor) : EnsuresLeads reading (readBraces reading cursor) := by
  unfold readBraces
  split
  · exact .ok (leads_pushNode _ cursor)
  · refine .after fun after => .after fun least => .after fun greatest => ?_
    split
    · exact repeatLast_leads _ _ _ _
    · split
      · exact .error _
      · exact repeatLast_leads _ _ _ _

theorem openCapture_leads (start : Nat) (name : Option String) (cursor : Cursor) :
    EnsuresLeads reading (openCapture reading start name cursor) := by
  unfold openCapture
  split
  · exact .error _
  next hfresh =>
    exact .ok (leads_openFrame reading { reading with groups := reading.groups.opened name }
      (.opened name hfresh rfl (Groups.count_opened _ _)) rfl rfl _ _ _ _)

theorem readReference_leads (cursor : Cursor) :
    EnsuresLeads reading (readReference reading cursor) := by
  unfold readReference
  refine .after fun (name, after) => ?_
  simp only
  split
  · exact .error _
  · split
    · exact .error _
    · split
      · exact .error _
      · exact .ok (leads_pushNode _ after)

theorem conditionNumber_same (name : List Char) (after : Cursor) :
    Ensures (fun result : Nat × Reading => result.2.groups = reading.groups ∧
      result.2.frame = reading.frame ∧ result.2.outer = reading.outer)
      (conditionNumber reading name after) := by
  unfold conditionNumber
  simp only
  split
  · exact .error _
  · split
    · exact .error _
    · exact .ok ⟨rfl, rfl, rfl⟩
  · exact .error _

theorem openConditional_leads (start : Nat) (cursor : Cursor) :
    EnsuresLeads reading (openConditional reading start cursor) := by
  unfold openConditional
  refine .after fun named => ?_
  obtain ⟨name, after⟩ := named
  simp only
  split
  · split
    · rw [pure_bind]
      split
      · exact .error _
      · exact .ok (leads_openFrame reading reading (.same rfl rfl) rfl rfl _ _ _ _)
    · exact .error _
  · refine .bind _ (conditionNumber_same name after) fun result hresult => ?_
    obtain ⟨hgroups, hframe, houter⟩ := hresult
    split
    · exact .error _
    · exact .ok (leads_openFrame reading result.2 (hgroups ▸ .same rfl rfl) hframe houter _ _ _ _)

theorem openLookbehind_leads (start : Nat) (negated : Bool) (cursor : Cursor) :
    reading.Leads (openLookbehind reading start negated cursor) := by
  unfold openLookbehind
  simp only
  split
  · exact leads_openFrame reading
      { reading with groups := { reading.groups with lookbehind := some reading.groups.count } }
      (.same rfl rfl) rfl rfl _ _ _ _
  · exact leads_openFrame reading reading (.same rfl rfl) rfl rfl _ _ _ _

theorem openNamed_leads (start : Nat) (cursor : Cursor) :
    EnsuresLeads reading (openNamed reading start cursor) := by
  unfold openNamed
  split
  · exact .error _
  · refine .after fun after => ?_
    split
    · exact .after fun (name, after) => openCapture_leads start (some name) after
    · split
      · exact readReference_leads after
      · exact .error _

theorem openBehind_leads (start : Nat) (cursor : Cursor) :
    EnsuresLeads reading (openBehind reading start cursor) := by
  unfold openBehind
  split
  · exact .error _
  · refine .after fun after => ?_
    split
    · exact .ok (openLookbehind_leads start false after)
    · split
      · exact .ok (openLookbehind_leads start true after)
      · exact .error _

theorem skipComment_leads (start : Nat) (cursor : Cursor) :
    EnsuresLeads reading (skipComment reading start cursor) := by
  refine .after fun after => ?_
  split
  · exact .error _
  · exact .ok (.of_same (.same rfl rfl) rfl)

-- Only flags of the whole pattern change the flags of a group that is open already, and only
-- when that group is the outermost.
theorem openFlags_leads (start : Nat) (first : Token) (cursor : Cursor) :
    EnsuresLeads reading (openFlags reading start first cursor) := by
  unfold openFlags
  refine .after fun (group, after) => ?_
  cases group with
  | inside on off => exact .ok (leads_openFrame reading reading (.same rfl rfl) rfl rfl _ _ _ _)
  | global flags =>
      simp only
      split
      next hwhole =>
        have houter : reading.outer = [] := by
          simp only [Bool.and_eq_true, List.isEmpty_iff] at hwhole
          exact hwhole.1.1
        refine .ok ⟨.same rfl rfl, flags, ?_⟩
        simp [wholeFlags, houter]
      · exact .error _

theorem openExtension_leads (start : Nat) (cursor : Cursor) :
    EnsuresLeads reading (openExtension reading start cursor) := by
  have hopen : ∀ opening after,
      reading.Leads (reading.openFrame opening start reading.frame.flags after) :=
    fun opening after => leads_openFrame reading reading (.same rfl rfl) rfl rfl _ _ _ _
  unfold openExtension
  split
  · exact .error _
  · refine .after fun after => ?_
    simp only
    split
    · exact openNamed_leads start after
    · exact .ok (hopen _ after)
    · exact skipComment_leads start after
    · exact .ok (hopen _ after)
    · exact .ok (hopen _ after)
    · exact openBehind_leads start after
    · exact openConditional_leads start after
    · exact .ok (hopen _ after)
    · split
      · exact openFlags_leads start _ after
      · exact .error _

theorem openGroup_leads (cursor : Cursor) : EnsuresLeads reading (openGroup reading cursor) := by
  unfold openGroup
  simp only
  split
  · exact .after fun after => openExtension_leads _ after
  · exact openCapture_leads _ none cursor

theorem nextBranch_leads : EnsuresLeads reading (nextBranch reading) := by
  unfold nextBranch
  split
  · exact .error _
  · exact .after fun _ => .ok (.of_same (.same rfl rfl) rfl)

theorem closedGroups_grows (groups : Groups) (frame : Frame) :
    groups.Grows (closedGroups groups frame) := by
  unfold closedGroups
  split
  · exact .same rfl (Groups.count_closed _ _ _)
  · exact .same rfl rfl
  · exact .same rfl rfl

theorem closeGroup_leads : EnsuresLeads reading (closeGroup reading) := by
  unfold closeGroup
  split
  · exact .error _
  next frame outer houter =>
    refine .after fun cursor => .ok (.of_same (closedGroups_grows _ _) ?_)
    simp only [wholeFlags, houter, List.getLast?_cons, Option.map_some, Option.getD_some]
    cases outer.getLast? <;> rfl

theorem readItem_leads (token : Token) : EnsuresLeads reading (readItem reading token) := by
  unfold readItem
  refine .after fun cursor => ?_
  split
  · exact .ok (.of_same (.same rfl rfl) rfl)
  · split
    · exact .after fun _ => .ok (.of_same (.same rfl rfl) rfl)
    · split
      · exact .after fun (_, after) => .ok (leads_pushNode _ after)
      · exact .after fun (_, after) => .ok (leads_pushNode _ after)
      · exact .ok (leads_pushNode _ cursor)
      · exact .ok (leads_pushNode _ cursor)
      · exact .ok (leads_pushNode _ cursor)
      · exact openGroup_leads cursor
      · exact repeatLast_leads _ _ _ cursor
      · exact repeatLast_leads _ _ _ cursor
      · exact repeatLast_leads _ _ _ cursor
      · exact readBraces_leads cursor
      · exact .ok (leads_pushNode _ cursor)

-- Every step opens at most one group and takes no flag away from the whole pattern.
theorem step_leads (reading : Reading) (token : Token) :
    EnsuresLeads reading (step reading token) := by
  unfold step
  split
  · exact nextBranch_leads
  · exact closeGroup_leads
  · exact readItem_leads _

-- What every step keeps, reading to the end keeps.
theorem run_ensures {kept : Reading → Prop}
    (hstep : ∀ before after, Leads before after → kept before → kept after) (fuel : Nat)
    (h : kept reading) : Ensures kept (run fuel reading) := by
  induction fuel generalizing reading with
  | zero => exact .ok h
  | succ fuel ih =>
      unfold run
      split
      · exact .ok h
      · split
        · exact .ok h
        · exact .bind _ (step_leads reading _) fun next hnext => ih (hstep _ _ hnext h)

-- Group names are kept until reading ends.
theorem run_names (fuel : Nat) {name : String} (h : name ∈ reading.groups.names.map Prod.fst) :
    Ensures (fun final : Reading => name ∈ final.groups.names.map Prod.fst) (run fuel reading) := by
  refine run_ensures (fun before after hleads hmem => ?_) fuel h
  cases hleads.groups with
  | same hnames _ => rwa [hnames]
  | opened given _ hnames _ =>
      rw [hnames]
      cases given with
      | none => exact hmem
      | some given => simp only [Groups.opened, List.map_append, List.mem_append, hmem, true_or]

theorem run_wholeFlags (fuel : Nat) :
    Ensures (fun final : Reading => final.wholeFlags.Extends reading.wholeFlags)
      (run fuel reading) :=
  run_ensures (fun _ _ hleads hkept => hkept.trans hleads.flags) fuel (.refl _)

-- The reading of a pattern before its first token.
def atStart (cursor : Cursor) (flags : Flags) : Reading :=
  ⟨cursor, .none, [], .opened .whole 0 flags, []⟩

-- A reading that has come to the end of its pattern, and the pattern that it has read.
structure Ends (final : Reading) (regex : Regex) : Prop where
  outer : final.outer = []
  rest : final.cursor.rest = []
  locale : final.frame.flags.locale = false
  alphabets : (final.frame.flags.ascii && final.frame.flags.unicode) = false
  regex_eq : regex = ⟨final.frame.body, final.groups.names, final.groups.count⟩

theorem finish_ends {final : Reading} {parsed : Parsed} (h : final.finish = .ok parsed) :
    final.Ends ⟨parsed.body, parsed.names, parsed.groupCount⟩ := by
  unfold finish at h
  simp only at h
  split at h
  · cases h
  next houter =>
    split at h
    · cases h
    next hlocale =>
      split at h
      · cases h
      next halphabets =>
        split at h
        · cases h
        next hrest =>
          split at h
          · cases h
          · cases h
            refine ⟨by simpa using houter, ?_, by simpa using hlocale, by simpa using halphabets, rfl⟩
            simpa [Cursor.next?] using hrest

end Reading

-- A pattern that compiles is read to its end.
theorem compile_ends {pattern : String} {flags : Nat} {regex : Regex}
    (h : compile pattern flags = .ok regex) :
    ∃ cursor final, Cursor.ofPattern pattern.toList = .ok cursor ∧
      (Reading.atStart cursor (.ofBits flags)).run (cursor.rest.length + 1) = .ok final ∧
      final.Ends regex := by
  obtain ⟨parsed, hparse, h⟩ := bind_eq_ok.mp (mapError_eq_ok.mp h)
  obtain ⟨_, _, h⟩ := bind_eq_ok.mp h
  cases h
  obtain ⟨cursor, hcursor, hparse⟩ := bind_eq_ok.mp hparse
  obtain ⟨final, hrun, hfinish⟩ := bind_eq_ok.mp hparse
  exact ⟨cursor, final, hcursor, hrun, Reading.finish_ends hfinish⟩

end RecordPattern.Regex
