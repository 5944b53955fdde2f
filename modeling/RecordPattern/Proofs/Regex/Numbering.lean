import Mathlib.Data.List.Nodup
import RecordPattern.Proofs.Regex.Reading

namespace RecordPattern.Regex

open Outcome

-- Group names are told apart, and so are their numbers, which ascend up to the number of groups.
structure Numbered (names : List (String × Nat)) (count : Nat) : Prop where
  distinct : (names.map Prod.fst).Nodup
  ascending : (names.map Prod.snd).Pairwise (· < ·)
  inRange : ∀ entry ∈ names, 1 ≤ entry.2 ∧ entry.2 ≤ count

namespace Numbered

variable {names : List (String × Nat)} {count : Nat}

theorem nil : Numbered [] 0 :=
  ⟨List.nodup_nil, .nil, by simp⟩

theorem mono (h : Numbered names count) {larger : Nat} (hle : count ≤ larger) :
    Numbered names larger where
  distinct := h.distinct
  ascending := h.ascending
  inRange := fun entry he => ⟨(h.inRange entry he).1, Nat.le_trans (h.inRange entry he).2 hle⟩

theorem append (h : Numbered names count) {name : String} (hnew : names.lookup name = none) :
    Numbered (names ++ [(name, count + 1)]) (count + 1) where
  distinct := by
    rw [List.map_append, List.nodup_append]
    refine ⟨h.distinct, by simp, ?_⟩
    rintro other ho last hl rfl
    obtain ⟨entry, he, rfl⟩ := List.mem_map.mp ho
    have hne := List.lookup_eq_none_iff.mp hnew entry he
    simp_all
  ascending := by
    rw [List.map_append, List.pairwise_append]
    refine ⟨h.ascending, by simp, ?_⟩
    intro number hn last hl
    obtain ⟨entry, he, rfl⟩ := List.mem_map.mp hn
    have := (h.inRange entry he).2
    simp only [List.map_cons, List.map_nil, List.mem_singleton] at hl
    omega
  inRange := by
    intro entry he
    rcases List.mem_append.mp he with he | he
    · have := h.inRange entry he
      omega
    · rw [List.mem_singleton] at he
      subst he
      exact ⟨Nat.succ_le_succ (Nat.zero_le count), Nat.le_refl _⟩

theorem eq_of_number (h : Numbered names count) {first second : String × Nat}
    (hf : first ∈ names) (hs : second ∈ names) (hn : first.2 = second.2) : first = second :=
  List.inj_on_of_nodup_map (h.ascending.imp Nat.ne_of_lt) hf hs hn

theorem eq_of_name (h : Numbered names count) {first second : String × Nat}
    (hf : first ∈ names) (hs : second ∈ names) (hn : first.1 = second.1) : first = second :=
  List.inj_on_of_nodup_map h.distinct hf hs hn

end Numbered

-- A group is opened only under a new name, with the next number.
theorem Numbered.of_grows {before after : Groups} (hgrows : before.Grows after)
    (h : Numbered before.names before.count) : Numbered after.names after.count := by
  cases hgrows with
  | same hnames hcount => rwa [hnames, hcount]
  | opened name hfresh hnames hcount =>
      rw [hnames, hcount]
      cases name with
      | none => exact h.mono (Nat.le_succ _)
      | some name => exact h.append hfresh

namespace Reading

-- What the groups opened so far have in common at every step of reading a pattern.
def Numbered (reading : Reading) : Prop :=
  Regex.Numbered reading.groups.names reading.groups.count

variable {reading : Reading}

theorem run_numbered (h : reading.Numbered) (fuel : Nat) : Ensures Numbered (run fuel reading) :=
  run_ensures (fun _ _ hleads => .of_grows hleads.groups) fuel h

end Reading

-- The named groups of a compiled pattern have names of their own and numbers of their own.
theorem compile_numbered {pattern : String} {flags : Nat} {regex : Regex}
    (h : compile pattern flags = .ok regex) : Numbered regex.names regex.groupCount := by
  obtain ⟨cursor, final, _, hrun, hends⟩ := compile_ends h
  have hstart : (Reading.atStart cursor (.ofBits flags)).Numbered := Numbered.nil
  rw [hends.regex_eq]
  exact Reading.run_numbered hstart _ final hrun

end RecordPattern.Regex
