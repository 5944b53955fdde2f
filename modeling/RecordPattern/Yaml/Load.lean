import RecordPattern.Record.Store
import RecordPattern.Yaml.Document
import RecordPattern.Yaml.Merge
import RecordPattern.Yaml.Scalar

namespace RecordPattern.Yaml

-- How far the values of a document are worked out: the nodes, the value of each node that has
-- been reached, what the collections among them hold, and the collections still to be filled.
-- The value of a collection is the object with the index of its node.
structure Loading where
  graph : Graph
  values : List (Nat × Value)
  contents : List (Nat × Value)
  waiting : List Nat

namespace Loading

def isCollection : Tag → Bool
  | .sequence | .mapping | .set | .pairs => true
  | _ => false

-- The text of a scalar, or of the default entry of a mapping, which may lead back to the mapping.
def scalarOf (graph : Graph) : Nat → Nat → Scan Codes
  | 0, _ => Scalar.fail .endless
  | fuel + 1, id =>
    match graph.content id with
    | .scalar codes => .ok codes
    | .mapping pairs =>
      match pairs.find? fun (key, _) => graph.tag key = .default with
      | some (_, value) => scalarOf graph fuel value
      | none => malformed
    | .sequence _ => malformed

def isMapping (graph : Graph) (id : Nat) : Bool :=
  match graph.content id with
  | .mapping _ => true
  | _ => false

-- The value of a node that is no collection. A moment has to be written at the node itself.
def scalarAt (graph : Graph) (id : Nat) : Scan Value := do
  let tag := graph.tag id
  if Scalar.isScalar tag then
    let codes ← scalarOf graph (graph.size + 1) id
    if tag = .moment && isMapping graph id then Scalar.fail .momentOfMapping
    else Scalar.value tag codes
  else malformed

-- The value of a node. A collection is filled later.
def reach (loading : Loading) (id : Nat) : Scan (Value × Loading) := do
  match loading.values.lookup id with
  | some value => return (value, loading)
  | none =>
    if isCollection (loading.graph.tag id) then
      let value := Value.object id
      return (value, { loading with
        values := (id, value) :: loading.values
        waiting := loading.waiting ++ [id] })
    else
      let value ← scalarAt loading.graph id
      return (value, { loading with values := (id, value) :: loading.values })

def reachAll (loading : Loading) : List Nat → Scan (List Value × Loading)
  | [] => .ok ([], loading)
  | id :: rest => do
    let (value, loading) ← loading.reach id
    let (values, loading) ← reachAll loading rest
    return (value :: values, loading)

-- Collections cannot be keys.
def isKey : Value → Bool
  | .object _ => false
  | _ => true

def reachPairs (loading : Loading) : List (Nat × Nat) → Scan (List (Value × Value) × Loading)
  | [] => .ok ([], loading)
  | (key, value) :: rest => do
    let (key, loading) ← loading.reach key
    if !isKey key then malformed
    else
      let (value, loading) ← loading.reach value
      let (entries, loading) ← reachPairs loading rest
      return ((key, value) :: entries, loading)

-- Each item of a list of pairs is a mapping with one entry.
def reachSingles (loading : Loading) : List Nat → Scan (List Value × Loading)
  | [] => .ok ([], loading)
  | item :: rest =>
    match loading.graph.content item with
    | .mapping [(key, value)] => do
      let (key, loading) ← loading.reach key
      let (value, loading) ← loading.reach value
      let (pairs, loading) ← reachSingles loading rest
      return (.tuple [key, value] :: pairs, loading)
    | _ => malformed

-- The entries of a mapping. A later entry for a key replaces the value of the earlier one.
def entriesOf (loading : Loading) (id : Nat) : Scan (List (Value × Value) × Loading) := do
  match loading.graph.content id with
  | .mapping _ =>
    let graph ← loading.graph.mergeKeys (loading.graph.size + 1) id
    let (entries, loading) ← { loading with graph }.reachPairs (graph.pairs id)
    return (Value.mergeEntries entries, loading)
  | _ => malformed

def itemsOf (graph : Graph) (id : Nat) : Scan (List Nat) :=
  match graph.content id with
  | .sequence items => .ok items
  | _ => malformed

-- What a collection holds.
def contentsOf (loading : Loading) (id : Nat) : Scan (Value × Loading) := do
  match loading.graph.tag id with
  | .mapping =>
    let (entries, loading) ← loading.entriesOf id
    return (.mapping false entries, loading)
  | .set =>
    let (entries, loading) ← loading.entriesOf id
    return (.set (entries.map (·.1)), loading)
  | .sequence =>
    let (items, loading) ← loading.reachAll (← itemsOf loading.graph id)
    return (.list items, loading)
  | .pairs =>
    let (pairs, loading) ← loading.reachSingles (← itemsOf loading.graph id)
    return (.list pairs, loading)
  | _ => malformed

-- Fills the waiting collections, the one that was reached first before the others.
def fillAll : Nat → Loading → Scan Loading
  | 0, loading => .ok loading
  | fuel + 1, loading =>
    match loading.waiting with
    | [] => .ok loading
    | id :: rest => do
      let (contents, next) ← { loading with waiting := rest }.contentsOf id
      fillAll fuel { next with contents := (id, contents) :: next.contents }

-- The objects of a document by their index.
def store (loading : Loading) : Store :=
  ⟨(Array.range loading.graph.size).map fun id => (loading.contents.lookup id).getD .null⟩

end Loading

-- Reads the only document of a text: its value, and the store of its collections.
def load (text : String) : Scan (Value × Store) := do
  match ← document text.toList with
  | (none, _) => return (.null, .empty)
  | (some root, graph) =>
    let (value, loading) ← Loading.reach ⟨graph, [], [], []⟩ root
    let filled ← loading.fillAll (graph.size + 1)
    return (value, filled.store)

end RecordPattern.Yaml
