import RecordPattern.Proofs.Pattern.Assignment

namespace RecordPattern

-- A value that can receive the fields of a match.
def Pattern.Ready (pattern : Pattern) (store : Store) (value : Value) : Prop :=
  pattern.shape.Accepts (store.contents value)

namespace Template

variable {template : Template} {regex : Regex} {text : Array Char} {found : Regex.Match}
  {slot target : Value} {rest : List (Regex.Match × Value)} {field value : String}

end Template

namespace Pattern

variable {pattern : Pattern} {template : Template} {text : Array Char} {store next last : Store}
  {found : Regex.Match} {target slot value : Value} {pairs : List (Regex.Match × Value)}

-- Whatever was ready is ready still once some value has new contents that are.
theorem Ready.updated {after : Value} (h : pattern.Ready store value)
    (haccepts : pattern.shape.Accepts after) :
    pattern.Ready (store.updated target after) value := by
  unfold Ready at h ⊢
  rcases store.contents_updated target value after with hsame | hsame
  · rwa [hsame]
  · rwa [hsame]

end Pattern

end RecordPattern
