import RecordPattern.Command.Arguments
import RecordPattern.Proofs.Number.IntegerText
import RecordPattern.Proofs.Outcome

namespace RecordPattern.Command

open Outcome

variable {tree : Files.Tree} {arguments : List String} {options : FindOptions}

-- What is known of a reader of arguments: it looks up the path to write to, and it reads the limit
-- from a text.
structure ArgumentReader.Documented (reader : ArgumentReader) : Prop where
  out : ∀ {tree : Files.Tree} {arguments : List String} {options : FindOptions} {path : Files.Path},
    reader tree arguments = .ok (.find options) → options.out = some path → path.hasNull = false
  limit : ∀ {tree : Files.Tree} {arguments : List String} {options : FindOptions},
    reader tree arguments = .ok (.find options) → Number.hasText options.limit = true

-- What the options of a search were, once they are understood.
theorem readFind_eq_ok {request : Request} (h : readFind tree arguments = .ok request) :
    ∃ given options, readOptions allOptions arguments = .ok given ∧ request = .find options ∧
      ((given.value? .limit).map readLimit).getD (.ok defaultLimit) = .ok options.limit ∧
      (given.value? .input).mapM (filePath tree) = .ok options.input ∧
      (given.value? .out).mapM outPath = .ok options.out := by
  obtain ⟨given, hgiven, h⟩ := bind_eq_ok.mp h
  obtain ⟨_, _, h⟩ := bind_eq_ok.mp h
  obtain ⟨_, hlimit, h⟩ := bind_eq_ok.mp h
  obtain ⟨_, _, h⟩ := bind_eq_ok.mp h
  obtain ⟨_, hinput, h⟩ := bind_eq_ok.mp h
  obtain ⟨_, hout, h⟩ := bind_eq_ok.mp h
  cases h
  exact ⟨given, _, hgiven, rfl, hlimit, hinput, hout⟩

end RecordPattern.Command
