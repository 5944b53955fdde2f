import RecordPattern.Composite.Assembly
import RecordPattern.Pattern.Error

namespace RecordPattern

-- A compiled pattern that fills records: the shape of the records, their wrapped fields and the
-- composite of the template.
structure Pattern where
  shape : Shape
  wrapped : List WrappedField
  composite : Composite

-- The steps of compiling, each of which can fail.
inductive Stage where
  | shape
  | synthesize
  | assemble
  deriving DecidableEq, Repr

def Stage.name : Stage → String
  | .shape => "shape"
  | .synthesize => "synthesize"
  | .assemble => "assemble"

-- What compiling reports to the log.
inductive Event where
  | compiled (pattern : String) (groupCount fieldCount : Nat)
  | compileFailed (stage : Stage) (kind : String)
  deriving DecidableEq, Repr

namespace Pattern

def fieldNames (pattern : Pattern) : List String :=
  pattern.wrapped.map WrappedField.name

-- Compiles a template against a schema. An error comes with the step that failed.
def compileStaged (store : Store) (template : String) (schema : Value) (flags : Nat) :
    Except (Stage × PatternError) Pattern := do
  let failed (stage : Stage) (error : PatternError) : Stage × PatternError := (stage, error)
  let shape ← (Shape.ofSchema store schema).mapError (failed .shape ∘ .schema)
  let fields ← (shape.read (store.contents schema)).mapError (failed .synthesize ∘ .unreadable)
  let wrapped ← (synthesize flags (fields.map fun (name, value) => (.text name, value))).mapError
    (failed .synthesize)
  let composite ← (Composite.assemble template wrapped flags).mapError (failed .assemble)
  return ⟨shape, wrapped, composite⟩

def compile (store : Store) (template : String) (schema : Value) (flags : Nat) :
    Except PatternError Pattern :=
  (compileStaged store template schema flags).mapError (·.2)

-- What is logged about the outcome of compiling; refusals by the engine are not logged.
def events (outcome : Except (Stage × PatternError) Pattern) : List Event :=
  match outcome with
  | .ok pattern =>
    [.compiled pattern.composite.pattern pattern.composite.regex.groupCount pattern.wrapped.length]
  | .error (stage, error) => if error.isTyped then [.compileFailed stage error.kind] else []

-- A short description of a pattern, with its source in quotes.
def describe (pattern : Pattern) : String :=
  "TypedPattern(" ++ Text.quoted pattern.composite.pattern ++ ", " ++ pattern.shape.typeName ++ ")"

end Pattern

end RecordPattern
