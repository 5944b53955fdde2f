import RecordPattern.Text.Quoted

namespace RecordPattern.Files

-- Why the system refuses an operation on files.
inductive Fault where
  | missing
  | busy
  | exists
  | notDirectory
  | isDirectory
  | nameTooLong
  deriving DecidableEq, Repr

namespace Fault

-- The number of a fault among the system's errors.
def number : Fault → Nat
  | .missing => 2
  | .busy => 16
  | .exists => 17
  | .notDirectory => 20
  | .isDirectory => 21
  | .nameTooLong => 36

def text : Fault → String
  | .missing => "No such file or directory"
  | .busy => "Device or resource busy"
  | .exists => "File exists"
  | .notDirectory => "Not a directory"
  | .isDirectory => "Is a directory"
  | .nameTooLong => "File name too long"

-- The name of a fault's kind in messages.
def kind : Fault → String
  | .missing => "FileNotFoundError"
  | .exists => "FileExistsError"
  | .notDirectory => "NotADirectoryError"
  | .isDirectory => "IsADirectoryError"
  | .busy | .nameTooLong => "OSError"

end Fault

-- A fault with the path that was asked for, and a second path where there are two.
structure Error where
  fault : Fault
  path : String
  target : Option String
  deriving DecidableEq, Repr

def Error.message (error : Error) : String :=
  let paths := match error.target with
    | none => Text.quoted error.path
    | some target => Text.quoted error.path ++ " -> " ++ Text.quoted target
  "[Errno " ++ toString error.fault.number ++ "] " ++ error.fault.text ++ ": " ++ paths

end RecordPattern.Files
