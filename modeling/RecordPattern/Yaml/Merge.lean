import RecordPattern.Yaml.Graph

namespace RecordPattern.Yaml

namespace Graph

-- The mappings that a merge key brings in. Of a sequence of mappings the last one comes first.
def mergedMappings (graph : Graph) (id : Nat) : List Nat :=
  match graph.content id with
  | .mapping _ => [id]
  | .sequence items => items.reverse
  | .scalar _ => []

def canMerge (graph : Graph) (id : Nat) : Bool :=
  match graph.content id with
  | .mapping _ => true
  | .sequence items => items.all fun item =>
    match graph.content item with
    | .mapping _ => true
    | _ => false
  | .scalar _ => false

def isMergeKey (graph : Graph) (pair : Nat × Nat) : Bool :=
  graph.tag pair.1 = .merge

-- A default key is a text like others.
def textKeys (graph : Graph) (pairs : List (Nat × Nat)) : Graph :=
  pairs.foldl (fun graph (key, _) =>
    if graph.tag key = .default then graph.setTag key .text else graph) graph

-- The pairs that merged mappings bring in, each after its own merge keys have been dealt with.
def mergeEach (merge : Graph → Nat → Scan Graph) : Graph → List Nat →
    Scan (List (Nat × Nat) × Graph)
  | graph, [] => .ok ([], graph)
  | graph, id :: rest => do
    let graph ← merge graph id
    let pairs := graph.pairs id
    let (more, graph) ← mergeEach merge graph rest
    return (pairs ++ more, graph)

-- The pairs that the values of merge keys bring in.
def mergeAll (merge : Graph → Nat → Scan Graph) : Graph → List Nat →
    Scan (List (Nat × Nat) × Graph)
  | graph, [] => .ok ([], graph)
  | graph, id :: rest => do
    if graph.canMerge id then
      let (pairs, graph) ← mergeEach merge graph (graph.mergedMappings id)
      let (more, graph) ← mergeAll merge graph rest
      return (pairs ++ more, graph)
    else malformed

-- Puts the pairs of merged mappings before the other pairs of a mapping, which come to the same
-- keys later and so prevail.
def mergeKeys : Nat → Graph → Nat → Scan Graph
  | 0, _, _ => malformed
  | fuel + 1, graph, id => do
    let pairs := graph.pairs id
    let merges := pairs.filter graph.isMergeKey
    let others := pairs.filter (!graph.isMergeKey ·)
    let cleared := (graph.setContent id (.mapping others)).textKeys others
    let (merged, result) ← mergeAll (mergeKeys fuel) cleared (merges.map (·.2))
    return result.setContent id (.mapping (merged ++ result.pairs id))

end Graph

end RecordPattern.Yaml
