import RecordPattern.Text.Blank
import RecordPattern.Text.Identifier
import RecordPattern.Text.Quoted

namespace RecordPattern

open Text

-- A reference to a field, with the offsets between which it stands in its template.
structure Placeholder where
  field : String
  start : Nat
  stop : Nat
  deriving DecidableEq, Repr

-- A template, cut into literal text and placeholders. Each placeholder comes with the literal
-- text before it.
structure Template where
  pieces : List (List Char × Placeholder)
  tail : List Char
  deriving DecidableEq, Repr

-- Why a text is no template, or does not fit the known fields.
inductive TemplateError where
  | unclosed (position : Nat) (rest : String)
  | empty (position : Nat)
  | unsupported (position : Nat) (action : String)
  | invalidReference (position : Nat) (action : String)
  | unknownField (position : Nat) (field : String)
  deriving DecidableEq, Repr

namespace TemplateError

def position : TemplateError → Nat
  | .unclosed position _ => position
  | .empty position => position
  | .unsupported position _ => position
  | .invalidReference position _ => position
  | .unknownField position _ => position

def message : TemplateError → String
  | .unclosed position rest =>
    "unclosed action at offset " ++ toString position ++ ": " ++ quoted rest
  | .empty position => "empty action at offset " ++ toString position
  | .unsupported position action =>
    "unsupported action " ++ quoted action ++ " at offset " ++ toString position ++
      ", expected \x7b\x7b.FieldName\x7d\x7d"
  | .invalidReference position action =>
    "invalid field reference " ++ quoted action ++ " at offset " ++ toString position
  | .unknownField position field =>
    "template references unknown field " ++ quoted field ++ " at offset " ++ toString position

end TemplateError

namespace Template

-- The field that an action names: a dot and an identifier between blanks.
def fieldOf (start : Nat) (inner : List Char) : Except TemplateError String :=
  match trim inner with
  | [] => .error (.empty start)
  | '.' :: name =>
    if isIdentifier name then .ok (String.ofList name)
    else .error (.invalidReference start (String.ofList ('.' :: name)))
  | action => .error (.unsupported start (String.ofList action))

def cons (literal : List Char) (placeholder : Placeholder) (rest : Template) : Template :=
  { rest with pieces := (literal, placeholder) :: rest.pieces }

mutual

-- Reads literal text up to an action. What has been read of it is kept in reverse.
def readLiteral (literal : List Char) (offset : Nat) : List Char → Except TemplateError Template
  | [] => .ok ⟨[], literal.reverse⟩
  | '\x7b' :: '\x7b' :: rest => readAction literal.reverse offset [] rest
  | c :: rest => readLiteral (c :: literal) (offset + 1) rest

-- Reads an action that began at `start`, up to the first two closing braces.
def readAction (literal : List Char) (start : Nat) (inner : List Char) :
    List Char → Except TemplateError Template
  | [] => .error (.unclosed start (String.ofList ('\x7b' :: '\x7b' :: inner.reverse)))
  | '\x7d' :: '\x7d' :: rest =>
    match fieldOf start inner.reverse with
    | .error error => .error error
    | .ok field =>
      let stop := start + inner.length + 4
      (readLiteral [] stop rest).map (cons literal ⟨field, start, stop⟩)
  | c :: rest => readAction literal start (c :: inner) rest

end

def parseChars (text : List Char) : Except TemplateError Template :=
  readLiteral [] 0 text

def parse (text : String) : Except TemplateError Template :=
  parseChars text.toList

def placeholders (template : Template) : List Placeholder :=
  template.pieces.map (·.2)

-- The fields that a template refers to, in the order of their first references.
def fields (template : Template) : List String :=
  (template.placeholders.map Placeholder.field).eraseDups

end Template

end RecordPattern
