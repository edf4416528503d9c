import Canopen.Yaml.Tag

/-!
# Nodes

The nodes of a document form a graph: an alias is one more reference to a node, which may be a
collection that the alias itself stands in.  Nodes have the numbers in which they start.
-/

namespace Canopen.Yaml

/-- The number of a node. -/
abbrev NodeId := Nat

/-- A key and its value. -/
abbrev NodePair := NodeId × NodeId

/-- A tagged scalar or collection. -/
inductive Node where
  | scalar (tag : Tag) (text : String)
  | sequence (tag : Tag) (items : List NodeId)
  | mapping (tag : Tag) (pairs : List NodePair)
deriving DecidableEq, Repr

namespace Node

def tag : Node → Tag
  | scalar tag _ => tag
  | sequence tag _ => tag
  | mapping tag _ => tag

def withTag (tag : Tag) : Node → Node
  | scalar _ text => scalar tag text
  | sequence _ items => sequence tag items
  | mapping _ pairs => mapping tag pairs

/-- A scalar that is left out. -/
def missing : Node := scalar .null ""

end Node

structure Graph where
  nodes : Array Node := #[]

namespace Graph

def size (graph : Graph) : Nat :=
  graph.nodes.size

def node (graph : Graph) (id : NodeId) : Node :=
  graph.nodes.getD id .missing

/-- One node more; its number is the size of the graph before. -/
def add (graph : Graph) (node : Node) : Graph :=
  ⟨graph.nodes.push node⟩

def put (graph : Graph) (id : NodeId) (node : Node) : Graph :=
  ⟨graph.nodes.setIfInBounds id node⟩

theorem size_add (graph : Graph) (node : Node) : (graph.add node).size = graph.size + 1 := by
  simp [add, size]

theorem size_put (graph : Graph) (id : NodeId) (node : Node) :
    (graph.put id node).size = graph.size := by
  simp [put, size]

theorem node_add_self (graph : Graph) (node : Node) : (graph.add node).node graph.size = node := by
  simp [add, size, Graph.node]

theorem node_put_self {graph : Graph} {id : NodeId} (known : id < graph.size) (node : Node) :
    (graph.put id node).node id = node := by
  have inside : id < graph.nodes.size := known
  simp [put, Graph.node, inside]

theorem node_put_of_ne {graph : Graph} {id other : NodeId} (different : other ≠ id) (node : Node) :
    (graph.put id node).node other = graph.node other := by
  simp [put, Graph.node, Ne.symm different]

/-- How many pairs all mappings have. -/
def pairCount (graph : Graph) : Nat :=
  graph.nodes.foldl
    (fun count node =>
      match node with
      | .mapping _ pairs => count + pairs.length
      | _ => count)
    0

/-- The pairs of a mapping. -/
def pairs? (graph : Graph) (id : NodeId) : Option (List NodePair) :=
  match graph.node id with
  | .mapping _ pairs => some pairs
  | _ => none

/-- The text that a node stands for where a scalar is called for: a mapping stands for the value
under the first of its keys that mark the default. -/
def textFrom (graph : Graph) : Nat → NodeId → Result String
  | 0, _ => .error (.scalar .endlessDefault)
  | steps + 1, id =>
      match graph.node id with
      | .scalar _ text => .ok text
      | .sequence _ _ => broken "expected a scalar node"
      | .mapping _ pairs =>
          match pairs.find? fun pair => (graph.node pair.1).tag = .default with
          | some (_, value) => graph.textFrom steps value
          | none => broken "expected a scalar node"

/-- The text that a node stands for.  A way longer than the graph is large has no end. -/
def text (graph : Graph) (id : NodeId) : Result String :=
  graph.textFrom (graph.size + 1) id

end Graph

end Canopen.Yaml
