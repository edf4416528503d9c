import Canopen.Yaml.Merge
import Canopen.Yaml.ScalarValue

/-!
# Contents of nodes

A node becomes a scalar, or a collection that refers to its parts.  Every node is read once.  A
collection is there before its parts are, and collections are filled in the order in which they are
found, so of several faults the one that is nested least is reported, and of those the first.
-/

namespace Canopen.Yaml

/-- What a node holds. -/
inductive NodeContent where
  /-- A scalar; two scalars of the same origin are the very same thing. -/
  | scalar (value : Value) (origin : NodeId)
  | list (items : List NodeId)
  | pairs (items : List NodePair)
  | map (fields : List NodePair)
  | set (members : List NodeId)
deriving Repr

structure Contents where
  graph : Graph
  /-- The contents of the nodes that have been read, by number. -/
  found : Array (Option NodeContent)
  /-- The collections that are not yet filled, latest first. -/
  waiting : List NodeId := []
  /-- How many pairs the mappings had at first. -/
  pairCount : Nat

namespace Contents

def content? (contents : Contents) (id : NodeId) : Option NodeContent :=
  contents.found.getD id none

def put (contents : Contents) (id : NodeId) (content : NodeContent) : Contents :=
  { contents with found := contents.found.setIfInBounds id (some content) }

/-- The empty collection that a tag calls for. -/
def emptyOf? : Tag → Option NodeContent
  | .sequence => some (.list [])
  | .orderedMap | .pairs => some (.pairs [])
  | .mapping => some (.map [])
  | .set => some (.set [])
  | _ => none

/-- The origin of a scalar.  Every spelling of the undefined number means the same one, whose origin
is beyond all nodes; any other scalar is a thing of its own. -/
def originOf (graph : Graph) (id : NodeId) (tag : Tag) (text : String) : NodeId :=
  if tag = .float ∧ (floatDigits text.toList).2 = undefinedWord then graph.size else id

/-- The scalar that a node holds. -/
def readScalar (graph : Graph) (id : NodeId) : Result NodeContent := do
  let node := graph.node id
  if !isScalarTag node.tag then broken "could not determine a constructor for the tag"
  else
    let text ← graph.text id
    match node.tag, node with
    | .moment, .mapping _ _ => .error (.scalar .momentNotText)
    | tag, _ => return .scalar (← scalarValue tag text) (originOf graph id tag text)

/-- Read a node, unless that has been done; a collection waits to be filled. -/
def visit (contents : Contents) (id : NodeId) : Result Contents :=
  match contents.content? id with
  | some _ => .ok contents
  | none =>
      match emptyOf? (contents.graph.node id).tag with
      | some empty => .ok { contents.put id empty with waiting := id :: contents.waiting }
      | none => (readScalar contents.graph id).map (contents.put id)

/-- Two keys that a mapping cannot tell apart. -/
def sameKey (contents : Contents) (left right : NodeId) : Bool :=
  match contents.content? left, contents.content? right with
  | some (.scalar value origin), some (.scalar other otherOrigin) =>
      origin = otherOrigin || value.sameKey other
  | _, _ => false

/-- The fields with one more; the value of a key that is already there is replaced in place. -/
def putField (contents : Contents) (key value : NodeId) : List NodePair → List NodePair
  | [] => [(key, value)]
  | (present, old) :: rest =>
      if contents.sameKey key present then (present, value) :: rest
      else (present, old) :: contents.putField key value rest

/-- Only scalars can be keys. -/
def isKey (contents : Contents) (id : NodeId) : Bool :=
  match contents.content? id with
  | some (.scalar _ _) => true
  | _ => false

/-- The key and the value of a field. -/
def visitField (state : Contents × List NodePair) (pair : NodePair) :
    Result (Contents × List NodePair) := do
  let contents ← state.1.visit pair.1
  if contents.isKey pair.1 then
    let contents ← contents.visit pair.2
    return (contents, contents.putField pair.1 pair.2 state.2)
  else broken "found unhashable key"

/-- The fields of a mapping, each key with its last value. -/
def visitFields (contents : Contents) (id : NodeId) : Result (Contents × List NodePair) := do
  let graph ← Graph.mergeFrom (contents.pairCount + 1) id [] contents.graph
  let contents := { contents with graph }
  ((graph.pairs? id).getD []).foldlM visitField (contents, [])

/-- The only pair of a mapping, as an item of an ordered mapping. -/
def visitItem (state : Contents × List NodePair) (item : NodeId) :
    Result (Contents × List NodePair) :=
  match state.1.graph.node item with
  | .mapping _ [(key, value)] => do
      let contents ← state.1.visit key
      let contents ← contents.visit value
      return (contents, (key, value) :: state.2)
  | .mapping _ _ => broken "expected a single mapping item"
  | _ => broken "expected a mapping of length 1"

/-- Fill a collection. -/
def fill (contents : Contents) (id : NodeId) : Result Contents :=
  let node := contents.graph.node id
  match node.tag, node with
  | .sequence, .sequence _ items => do
      let contents ← items.foldlM visit contents
      return contents.put id (.list items)
  | .orderedMap, .sequence _ items | .pairs, .sequence _ items => do
      let (contents, pairs) ← items.foldlM visitItem (contents, [])
      return contents.put id (.pairs pairs.reverse)
  | .mapping, _ => do
      let (contents, fields) ← contents.visitFields id
      return contents.put id (.map fields)
  | .set, _ => do
      let (contents, fields) ← contents.visitFields id
      return contents.put id (.set (fields.map (·.1)))
  | _, _ => broken "expected a sequence node"

/-- Fill all collections, one nesting after the other. -/
def fillAll : Nat → Contents → Result Contents
  | 0, contents => .ok contents
  | nestings + 1, contents =>
      match contents.waiting with
      | [] => .ok contents
      | waiting => do
          fillAll nestings (← waiting.reverse.foldlM fill { contents with waiting := [] })

end Contents

/-- The contents of all nodes that the root leads to.  There are no more nestings than nodes. -/
def contentsOf (graph : Graph) (root : NodeId) : Result Contents := do
  let contents : Contents :=
    { graph, found := Array.replicate graph.size none, pairCount := graph.pairCount }
  Contents.fillAll (graph.size + 1) (← contents.visit root)

end Canopen.Yaml
