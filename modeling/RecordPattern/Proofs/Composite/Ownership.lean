import Mathlib.Data.Nat.Find
import RecordPattern.Proofs.Composite.GroupIndex
import RecordPattern.Proofs.Template.Parsing

namespace RecordPattern.GroupIndex

open Template

variable {regex : Regex} {fields : List String} {aliases : List (String × String)}
  {index : GroupIndex} {position : Nat} {field target stranger : String}

-- A group belongs to the field whose name it has. A name that is no field's may stand for a field.
def Belongs (regex : Regex) (fields : List String) (aliases : List (String × String))
    (position : Nat) (field : String) : Prop :=
  ∃ name, (name, position) ∈ regex.names ∧
    (name = field ∨ name ∉ fields ∧ aliases.lookup name = some field)

-- A group is astray if its name is no field's and stands for something that is no field either.
def Astray (regex : Regex) (fields : List String) (aliases : List (String × String))
    (position : Nat) (target : String) : Prop :=
  ∃ name, (name, position) ∈ regex.names ∧ name ∉ fields ∧ aliases.lookup name = some target ∧
    target ∉ fields

-- An index that lists each field once, with just the groups that belong to it in ascending order.
structure Exact (regex : Regex) (fields : List String) (aliases : List (String × String))
    (index : GroupIndex) : Prop where
  keys : FirstSeen fields (index.map Prod.fst)
  ascending : ∀ entry ∈ index, entry.2.Pairwise (· < ·)
  inRange : ∀ entry ∈ index, ∀ position ∈ entry.2, 1 ≤ position ∧ position ≤ regex.groupCount
  mem_iff : ∀ entry ∈ index, ∀ position,
    position ∈ entry.2 ↔ Belongs regex fields aliases position entry.1
  apart : ∀ first ∈ index, ∀ second ∈ index, ∀ position ∈ first.2,
    position ∈ second.2 → first = second
  unlisted : ∀ position, (∀ name, (name, position) ∈ regex.names →
    name ∉ fields ∧ aliases.lookup name = none) → ∀ entry ∈ index, position ∉ entry.2

theorem ownerOf?_eq_some {name : String} :
    ownerOf? fields aliases name = some target ↔
      name ∈ fields ∧ name = target ∨ name ∉ fields ∧ aliases.lookup name = some target := by
  unfold ownerOf?
  by_cases hname : name ∈ fields
  · simp [hname]
  · simp [hname]

theorem ownerAt?_eq_some (hapart : (regex.names.map Prod.snd).Nodup) :
    ownerAt? regex fields aliases position = some target ↔
      ∃ name, (name, position) ∈ regex.names ∧
        (name ∈ fields ∧ name = target ∨ name ∉ fields ∧ aliases.lookup name = some target) := by
  unfold ownerAt?
  rw [Option.bind_eq_some_iff]
  simp only [nameAt?_eq_some_iff_of_nodup hapart, ownerOf?_eq_some]

theorem ownerAt?_iff_belongs (hapart : (regex.names.map Prod.snd).Nodup) (hfield : field ∈ fields) :
    ownerAt? regex fields aliases position = some field ↔
      Belongs regex fields aliases position field := by
  rw [ownerAt?_eq_some hapart]
  refine exists_congr fun name => and_congr_right fun _ => or_congr_left ?_
  constructor
  · exact And.right
  · intro hname
    exact ⟨hname ▸ hfield, hname⟩

theorem ownerAt?_iff_astray (hapart : (regex.names.map Prod.snd).Nodup) :
    (ownerAt? regex fields aliases position = some target ∧ target ∉ fields) ↔
      Astray regex fields aliases position target := by
  rw [ownerAt?_eq_some hapart]
  constructor
  · rintro ⟨⟨name, hname, howner⟩, htarget⟩
    rcases howner with ⟨hmem, rfl⟩ | ⟨hfree, hlookup⟩
    · exact absurd hmem htarget
    · exact ⟨name, hname, hfree, hlookup, htarget⟩
  · rintro ⟨name, hname, hfree, hlookup, htarget⟩
    exact ⟨⟨name, hname, Or.inr ⟨hfree, hlookup⟩⟩, htarget⟩

theorem Belongs.mem_positions (hrange : ∀ entry ∈ regex.names, 1 ≤ entry.2 ∧ entry.2 ≤ regex.groupCount)
    (h : Belongs regex fields aliases position field) : position ∈ positions regex := by
  obtain ⟨name, hname, _⟩ := h
  exact mem_positions_iff.mpr (hrange _ hname)

theorem Astray.mem_positions (hrange : ∀ entry ∈ regex.names, 1 ≤ entry.2 ∧ entry.2 ≤ regex.groupCount)
    (h : Astray regex fields aliases position target) : position ∈ positions regex := by
  obtain ⟨name, hname, _⟩ := h
  exact mem_positions_iff.mpr (hrange _ hname)

-- Building stops at the first group that is astray.
theorem build_eq_error_iff (hapart : (regex.names.map Prod.snd).Nodup)
    (hrange : ∀ entry ∈ regex.names, 1 ≤ entry.2 ∧ entry.2 ≤ regex.groupCount) :
    build regex fields aliases = .error stranger ↔
      ∃ position, Astray regex fields aliases position stranger ∧
        ∀ earlier other, Astray regex fields aliases earlier other → position ≤ earlier := by
  have hfound (position : Nat) (target : String) :
      (ownerAt? regex fields aliases position).filter (!fields.contains ·) = some target ↔
        Astray regex fields aliases position target := by
    rw [Option.filter_eq_some_iff, ← ownerAt?_iff_astray hapart]
    simp
  have hbuild : build regex fields aliases = .error stranger ↔
      ((positions regex).findSome? fun position =>
        (ownerAt? regex fields aliases position).filter (!fields.contains ·)) = some stranger := by
    unfold build
    dsimp only
    split
    next other hother => rw [hother, Except.error.injEq, Option.some.injEq]
    next hnone =>
      rw [hnone]
      simp
  rw [hbuild, List.findSome?_eq_some_iff]
  have hascending := positions_ascending regex
  constructor
  · rintro ⟨before, position, after, hsplit, hstray, hbefore⟩
    refine ⟨position, (hfound position stranger).mp hstray, ?_⟩
    intro earlier other hother
    have hmem := hother.mem_positions hrange
    rw [hsplit, List.mem_append, List.mem_cons] at hmem
    rw [hsplit, List.pairwise_append, List.pairwise_cons] at hascending
    rcases hmem with hmem | rfl | hmem
    · -- none of the groups before is astray
      have hsome := (hfound earlier other).mpr hother
      rw [hbefore earlier hmem] at hsome
      cases hsome
    · exact Nat.le_refl _
    · exact Nat.le_of_lt (hascending.2.1.1 earlier hmem)
  · rintro ⟨position, hstray, hleast⟩
    obtain ⟨before, after, hsplit⟩ := List.append_of_mem (hstray.mem_positions hrange)
    refine ⟨before, position, after, hsplit, (hfound position stranger).mpr hstray, ?_⟩
    intro earlier hearlier
    rw [hsplit, List.pairwise_append] at hascending
    have hlt : earlier < position := hascending.2.2 earlier hearlier position List.mem_cons_self
    rw [← Option.not_isSome_iff_eq_none, Option.isSome_iff_exists]
    rintro ⟨other, hother⟩
    have hle := hleast earlier other ((hfound earlier other).mp hother)
    omega

theorem exact_of_build (hapart : (regex.names.map Prod.snd).Nodup)
    (hrange : ∀ entry ∈ regex.names, 1 ≤ entry.2 ∧ entry.2 ≤ regex.groupCount)
    (h : build regex fields aliases = .ok index) : Exact regex fields aliases index := by
  have hentry : ∀ entry ∈ index, entry.1 ∈ fields ∧ entry.2 = (positions regex).filter fun position =>
      ownerAt? regex fields aliases position = some entry.1 := by
    intro entry he
    rw [build_eq_ok h, List.mem_map] at he
    obtain ⟨field, hfield, rfl⟩ := he
    exact ⟨List.mem_eraseDups.mp hfield, rfl⟩
  have hmem : ∀ entry ∈ index, ∀ position,
      position ∈ entry.2 ↔ Belongs regex fields aliases position entry.1 := by
    intro entry he position
    obtain ⟨hfield, hpositions⟩ := hentry entry he
    rw [hpositions, List.mem_filter, decide_eq_true_iff, ownerAt?_iff_belongs hapart hfield]
    exact ⟨And.right, fun hbelongs => ⟨hbelongs.mem_positions hrange, hbelongs⟩⟩
  have howner : ∀ entry ∈ index, ∀ position ∈ entry.2,
      ownerAt? regex fields aliases position = some entry.1 := by
    intro entry he position hp
    obtain ⟨hfield, _⟩ := hentry entry he
    exact (ownerAt?_iff_belongs hapart hfield).mpr ((hmem entry he position).mp hp)
  constructor
  · have hkeys : index.map Prod.fst = fields.eraseDups := by
      rw [build_eq_ok h, List.map_map]
      exact List.map_id _
    rw [hkeys]
    exact firstSeen_eraseDups fields
  · intro entry he
    rw [(hentry entry he).2]
    exact (positions_ascending regex).filter _
  · intro entry he position hp
    rw [(hentry entry he).2] at hp
    exact mem_positions_iff.mp (List.mem_filter.mp hp).1
  · exact hmem
  · intro first hf second hs position hfirst hsecond
    have hname : first.1 = second.1 :=
      Option.some.inj ((howner first hf position hfirst).symm.trans (howner second hs position hsecond))
    have hlist : first.2 = second.2 := by
      rw [(hentry first hf).2, (hentry second hs).2, hname]
    exact Prod.ext hname hlist
  · intro position hforeign entry he hp
    obtain ⟨name, hname, hbelongs⟩ := (hmem entry he position).mp hp
    obtain ⟨hfree, hnone⟩ := hforeign name hname
    rcases hbelongs with rfl | ⟨_, hlookup⟩
    · exact hfree (hentry entry he).1
    · cases hnone.symm.trans hlookup

-- Building an index lists the groups of a compiled pattern by field and leaves none out that
-- belongs to a field. It fails just when a group is astray, and for the first that is.
theorem build_exact (hapart : (regex.names.map Prod.snd).Nodup)
    (hrange : ∀ entry ∈ regex.names, 1 ≤ entry.2 ∧ entry.2 ≤ regex.groupCount)
    (fields : List String) (aliases : List (String × String)) :
    (∀ index, build regex fields aliases = .ok index → Exact regex fields aliases index) ∧
      (∀ stranger, build regex fields aliases = .error stranger ↔
        ∃ position, Astray regex fields aliases position stranger ∧
          ∀ earlier other, Astray regex fields aliases earlier other → position ≤ earlier) ∧
      ((∃ stranger, build regex fields aliases = .error stranger) ↔
        ∃ position target, Astray regex fields aliases position target) := by
  refine ⟨fun _ => exact_of_build hapart hrange, fun _ => build_eq_error_iff hapart hrange, ?_⟩
  constructor
  · rintro ⟨stranger, h⟩
    obtain ⟨position, hstray, _⟩ := (build_eq_error_iff hapart hrange).mp h
    exact ⟨position, stranger, hstray⟩
  · intro hstray
    classical
    obtain ⟨target, htarget⟩ := Nat.find_spec hstray
    refine ⟨target, (build_eq_error_iff hapart hrange).mpr ⟨Nat.find hstray, htarget, ?_⟩⟩
    intro earlier other hother
    exact Nat.find_min' hstray ⟨other, hother⟩

-- A group without a name and one of another's name are left out; a name that is both a field's and
-- stands for another is its own field's. The foreign group fails once its name stands for no field.
theorem build_exact_compiled :
    ∃ regex index,
      Regex.compile "(?P<A>x)(y)(?P<q>z)(?P<B>w)(?P<A__2>v)" 0 = .ok regex ∧
      (regex.names.map Prod.snd).Nodup ∧
      (∀ entry ∈ regex.names, 1 ≤ entry.2 ∧ entry.2 ≤ regex.groupCount) ∧
      build regex ["B", "A", "B"] [("A__2", "A"), ("B", "A")] = .ok index ∧
      index = [("B", [4]), ("A", [1, 5])] ∧
      Exact regex ["B", "A", "B"] [("A__2", "A"), ("B", "A")] index ∧
      ∃ position, Astray regex ["B", "A"] [("q", "C"), ("A__2", "A")] position "C" := by
  have hready : ∃ regex, Regex.compile "(?P<A>x)(y)(?P<q>z)(?P<B>w)(?P<A__2>v)" 0 = .ok regex ∧
      (∃ index, build regex ["B", "A", "B"] [("A__2", "A"), ("B", "A")] = .ok index ∧
        index = [("B", [4]), ("A", [1, 5])]) ∧
      build regex ["B", "A"] [("q", "C"), ("A__2", "A")] = .error "C" := by
    decide +kernel
  obtain ⟨regex, hregex, ⟨index, hbuild, hindex⟩, herror⟩ := hready
  have hnumbered := Regex.compile_numbered hregex
  have hapart : (regex.names.map Prod.snd).Nodup := hnumbered.ascending.imp Nat.ne_of_lt
  have hrange := hnumbered.inRange
  obtain ⟨hexact, _, _⟩ :=
    build_exact hapart hrange ["B", "A", "B"] [("A__2", "A"), ("B", "A")]
  obtain ⟨_, hfirst, _⟩ := build_exact hapart hrange ["B", "A"] [("q", "C"), ("A__2", "A")]
  obtain ⟨position, hstray, _⟩ := (hfirst "C").mp herror
  exact ⟨regex, index, hregex, hapart, hrange, hbuild, hindex, hexact index hbuild, position, hstray⟩

end RecordPattern.GroupIndex
