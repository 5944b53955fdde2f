import RecordPattern.Command.Run
import RecordPattern.Proofs.Command.Arguments
import RecordPattern.Proofs.Command.Document
import RecordPattern.Proofs.Files.Message
import RecordPattern.Proofs.Toolkit

namespace RecordPattern

open Outcome

namespace Command

variable {tools : Toolkit} {reader : ArgumentReader} {tree : Files.Tree} {stdin : List UInt8}
  {arguments tags : List String} {options : FindOptions} {records : List Value}

-- The engine is silent unless there is a spec that asks for its report.
theorem noise_eq_empty (htools : tools.Documented) {path : Files.Path}
    (h : ∀ spec, PatternSpec.load tools tree path = .ok spec → .debug ∉ spec.flags) :
    noise tools tree path = "" := by
  unfold noise
  split
  next spec hspec => exact htools.trace (h spec hspec)
  next => rfl

-- What is printed after the records.
def ending (records : List Value) : Option (Files.WriteError JsonError) → String
  | some error => "ERROR: write output failed: " ++ error.message JsonError.message ++ "\n"
  | none => if records.isEmpty then "INFO: no match\n" else ""

-- An error that is reported before anything is searched: the output is its message in plain form,
-- which is the message itself unless there is an escape in it.
structure Reported (tree : Files.Tree) (error : RunError) (outcome : Outcome) : Prop where
  exit : outcome.exit = 1
  escape : outcome.escape = none
  tree : outcome.tree = tree
  output : ∃ plain, Plain ("ERROR: " ++ error.kind ++ ": " ++ error.message).toList plain ∧
    outcome.output = String.ofList plain ++ "\n"
  literal : '\x1b' ∉ ("ERROR: " ++ error.kind ++ ": " ++ error.message).toList →
    outcome.output = "ERROR: " ++ error.kind ++ ": " ++ error.message ++ "\n"

theorem PrintedAs.echo_eq (htools : tools.Documented) {record : Value} {line : String}
    (h : PrintedAs record line) : tools.echo line = line ++ "\n" := by
  apply htools.echo_of_not_mem
  intro hmem
  exact absurd (h.visible _ hmem) (by decide)

-- The records are printed one by one.
theorem recordLines_eq (htools : tools.Documented) {lines : List String}
    (h : List.Forall₂ PrintedAs records lines) :
    recordLines tools records = String.join (lines.map (· ++ "\n")) := by
  unfold recordLines
  congr 1
  induction h with
  | nil => rfl
  | cons hfirst _ ih => simp only [List.map_cons, hfirst.dumped, hfirst.echo_eq htools, ih]

theorem exists_lines (h : ∀ record ∈ records, IsTextRecord record) :
    ∃ lines, List.Forall₂ PrintedAs records lines := by
  induction records with
  | nil => exact ⟨[], .nil⟩
  | cons record records ih =>
      obtain ⟨hrecord, hrecords⟩ := List.forall_mem_cons.mp h
      obtain ⟨line, hline⟩ := hrecord.exists_printedAs
      obtain ⟨lines, hlines⟩ := ih hrecords
      exact ⟨line :: lines, .cons hline hlines⟩

end Command

end RecordPattern
