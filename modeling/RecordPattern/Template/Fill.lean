import RecordPattern.Template.Template

namespace RecordPattern.Template

-- Replaces placeholders from left to right; each gets the text that the renderer gives for it,
-- which may depend on the placeholders before.
def fillPieces {σ : Type} (render : σ → Placeholder → List Char × σ) :
    List (List Char × Placeholder) → σ → List Char × σ
  | [], state => ([], state)
  | (literal, placeholder) :: rest, state =>
    let (text, next) := render state placeholder
    let (more, last) := fillPieces render rest next
    (literal ++ text ++ more, last)

def fill {σ : Type} (template : Template) (render : σ → Placeholder → List Char × σ) (state : σ) :
    List Char × σ :=
  let (text, last) := fillPieces render template.pieces state
  (text ++ template.tail, last)

-- Refuses a template for the first reference to a field that is not known.
def checkFields (template : Template) (known : List String) : Except TemplateError Unit :=
  match template.placeholders.find? (!known.contains ·.field) with
  | some placeholder => .error (.unknownField placeholder.start placeholder.field)
  | none => .ok ()

-- Reads a template and fills it. Nothing is rendered unless all its fields are known.
def fillText {σ : Type} (text : String) (known : List String)
    (render : σ → Placeholder → List Char × σ) (state : σ) : Except TemplateError (String × σ) := do
  let template ← parse text
  template.checkFields known
  let (filled, last) := template.fill render state
  return (String.ofList filled, last)

-- Fills pieces with what a renderer gives that may have effects of any kind.
def fillPiecesM {m : Type → Type} [Monad m] (render : Placeholder → m (List Char)) :
    List (List Char × Placeholder) → m (List Char)
  | [] => return []
  | (literal, placeholder) :: rest => do
    let text ← render placeholder
    let more ← fillPiecesM render rest
    return literal ++ text ++ more

-- Reads a template and fills it, with the effects of the renderer and no others. A renderer that
-- keeps a state is one such.
def fillM {m : Type → Type} [Monad m] (text : String) (known : List String)
    (render : Placeholder → m (List Char)) : m (Except TemplateError String) := do
  match parse text with
  | .error error => return .error error
  | .ok template =>
    match template.checkFields known with
    | .error error => return .error error
    | .ok () =>
      let filled ← fillPiecesM render template.pieces
      return .ok (String.ofList (filled ++ template.tail))

end RecordPattern.Template
