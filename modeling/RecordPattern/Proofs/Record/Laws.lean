import RecordPattern.Proofs.Record.Schema
import RecordPattern.Proofs.Record.Writing
import RecordPattern.Proofs.Template.Parsing

namespace RecordPattern

open Outcome Value

namespace Fills

variable {names : List String} {given other : String → Option String} {before first second : Value}

-- The keys of a record stay different: those that are added were missing.
theorem nodup_keys (h : Fills names given before first) (hdistinct : before.keys.Nodup) :
    first.keys.Nodup := by
  rw [h.keys]
  refine hdistinct.append ((Template.firstSeen_eraseDups _).nodup.map text_injective) fun key hold hnew => ?_
  obtain ⟨name, hn, rfl⟩ := List.mem_map.mp hnew
  have hmissing := (List.mem_filter.mp (List.mem_eraseDups.mp hn)).2
  have hpresent := isSome_field? hold
  simp_all

theorem text_of_mem_keys (h : Fills names given before first)
    (htext : ∀ key ∈ before.keys, ∃ name, key = .text name) :
    ∀ key ∈ first.keys, ∃ name, key = .text name := by
  rw [h.keys, List.forall_mem_append]
  refine ⟨htext, fun key hk => ?_⟩
  obtain ⟨name, _, rfl⟩ := List.mem_map.mp hk
  exact ⟨name, rfl⟩

-- What is written into a record whose keys are the names of fields, once each, determines what it
-- holds afterwards.
theorem unique (hfirst : Fills names given before first) (hsecond : Fills names other before second)
    (hgiven : ∀ name ∈ names, other name = given name) (hdistinct : before.keys.Nodup)
    (htext : ∀ key ∈ before.keys, ∃ name, key = .text name) : first = second := by
  refine eq_of_field? (hfirst.kind.symm.trans hsecond.kind) (hsecond.keys.trans hfirst.keys.symm)
    (hfirst.nodup_keys hdistinct) (hfirst.text_of_mem_keys htext) fun name _ => ?_
  by_cases hn : name ∈ names
  · rw [hfirst.written name hn, hsecond.written name hn, hgiven name hn]
  · rw [hfirst.others name hn, hsecond.others name hn]

end Fills

namespace Shape

variable {shape : Shape} {contents after : Value} {resolved : List (String × String)}

end Shape

namespace Shape

end Shape

end RecordPattern
