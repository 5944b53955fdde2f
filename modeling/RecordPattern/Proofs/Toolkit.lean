import RecordPattern.Proofs.Command.Echo
import RecordPattern.Proofs.Spec.Fields
import RecordPattern.Toolkit.Standard

namespace RecordPattern.Toolkit

open Outcome

-- What is known of the code around the library. A mapping has each of its keys once. A message is
-- printed on a line of its own, without control sequences. The engine says nothing of its own accord
-- unless a spec asks for it.
structure Documented (tools : Toolkit) : Prop where
  names : ∀ {store : Store} {raw : Value} {spec : PatternSpec},
    tools.spec store raw = .ok spec → (spec.fields.map Prod.fst).Nodup
  echo : ∀ {message : String} {plain : List Char},
    Command.Plain message.toList plain → tools.echo message = String.ofList plain ++ "\n"
  trace : ∀ {spec : PatternSpec}, .debug ∉ spec.flags → tools.trace spec = ""

theorem Documented.echo_of_not_mem {tools : Toolkit} (h : tools.Documented) {message : String}
    (hplain : '\x1b' ∉ message.toList) : tools.echo message = message ++ "\n" := by
  rw [h.echo (.of_not_mem hplain), String.ofList_toList]

theorem standard_documented : standard.Documented where
  names h := PatternSpec.validate_nodup (mapError_eq_ok.mp h)
  echo := Command.echo_of_plain
  trace _ := rfl

end RecordPattern.Toolkit
