import RecordPattern.Record.Value

namespace RecordPattern

-- The mappings and records that can be changed, each known by its index. A value that mentions
-- an object sees its changes.
structure Store where
  objects : Array Value

namespace Store

def empty : Store := ⟨#[]⟩

-- Adds an object and gives the value that stands for it.
def add (store : Store) (contents : Value) : Value × Store :=
  (.object store.objects.size, ⟨store.objects.push contents⟩)

def set (store : Store) (id : Nat) (contents : Value) : Store :=
  ⟨store.objects.setIfInBounds id contents⟩

-- A store of equal objects, with the values that stand for them.
def replicate (count : Nat) (contents : Value) : List Value × Store :=
  ((List.range count).map .object, ⟨Array.replicate count contents⟩)

-- What a value holds: an object's present contents, or the value itself.
def contents (store : Store) (value : Value) : Value :=
  match value with
  | .object id => (store.objects[id]?).getD .null
  | value => value

def typeName (store : Store) (value : Value) : String :=
  (store.contents value).typeName

end Store

end RecordPattern
