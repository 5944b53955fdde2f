import RecordPattern.Files.Replace
import RecordPattern.Proofs.Text.Printable

namespace RecordPattern.Files

open Text

variable {c : Char}

theorem isPrintable_of_mem_fault {fault : Fault}
    (h : c ∈ ("[Errno " ++ toString fault.number ++ "] " ++ fault.text ++ ": ").toList) :
    isPrintable c = true := by
  have hall : ("[Errno " ++ toString fault.number ++ "] " ++ fault.text ++ ": ").toList.all
      isPrintable = true := by
    cases fault <;> decide
  exact List.all_eq_true.mp hall c h

-- What the system has to say is printable throughout, whatever the paths are that it names.
theorem Error.isPrintable_of_mem_message {error : Error} (h : c ∈ error.message.toList) :
    isPrintable c = true := by
  unfold Error.message at h
  rw [String.toList_append, List.mem_append] at h
  rcases h with h | h
  · exact isPrintable_of_mem_fault h
  · cases htarget : error.target with
    | none =>
        rw [htarget] at h
        exact isPrintable_of_mem_quoted h
    | some target =>
        rw [htarget] at h
        simp only [String.toList_append, List.mem_append] at h
        rcases h with (h | h) | h
        · exact isPrintable_of_mem_quoted h
        · have harrow : " -> ".toList.all isPrintable = true := by decide
          exact List.all_eq_true.mp harrow c h
        · exact isPrintable_of_mem_quoted h

theorem WriteError.isPrintable_of_mem_message {ε : Type} {text : ε → String} {error : WriteError ε}
    (hsystem : error.isSystem = true) (h : c ∈ (error.message text).toList) :
    isPrintable c = true := by
  cases error with
  | system error => exact error.isPrintable_of_mem_message h
  | noFreeName =>
      have hall : "[Errno 17] No usable temporary file name found".toList.all isPrintable = true := by
        decide
      exact List.all_eq_true.mp hall c h
  | nullInPath function => cases hsystem
  | other failure => cases hsystem

end RecordPattern.Files
