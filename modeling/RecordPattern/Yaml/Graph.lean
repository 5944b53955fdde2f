import RecordPattern.Yaml.Tag

namespace RecordPattern.Yaml

-- What a node holds. Other nodes are given by their index.
inductive Content where
  | scalar (codes : Codes)
  | sequence (items : List Nat)
  | mapping (pairs : List (Nat × Nat))
  deriving DecidableEq, Repr

structure Node where
  tag : Tag
  content : Content
  deriving DecidableEq, Repr

-- The nodes of a document. A node may stand at several places, also inside itself.
structure Graph where
  nodes : Array Node

namespace Graph

def empty : Graph := ⟨#[]⟩

def size (graph : Graph) : Nat :=
  graph.nodes.size

-- Adds a node and gives its index.
def add (graph : Graph) (node : Node) : Nat × Graph :=
  (graph.size, ⟨graph.nodes.push node⟩)

def node? (graph : Graph) (id : Nat) : Option Node :=
  graph.nodes[id]?

def tag (graph : Graph) (id : Nat) : Tag :=
  match graph.node? id with
  | some node => node.tag
  | none => .other

def content (graph : Graph) (id : Nat) : Content :=
  match graph.node? id with
  | some node => node.content
  | none => .scalar []

def pairs (graph : Graph) (id : Nat) : List (Nat × Nat) :=
  match graph.content id with
  | .mapping pairs => pairs
  | _ => []

def set (graph : Graph) (id : Nat) (node : Node) : Graph :=
  ⟨graph.nodes.setIfInBounds id node⟩

def setContent (graph : Graph) (id : Nat) (content : Content) : Graph :=
  graph.set id ⟨graph.tag id, content⟩

def setTag (graph : Graph) (id : Nat) (tag : Tag) : Graph :=
  graph.set id ⟨tag, graph.content id⟩

end Graph

end RecordPattern.Yaml
