import Canopen.Yaml.Graph

/-!
# Merged mappings

A merge key brings the pairs of other mappings into its own mapping, in front of the pairs that are
written there.  Of several mappings the first one counts most, so its pairs come last.  A merge key
is taken out before its sources are looked at, so mappings may even be merged into each other.
-/

namespace Canopen.Yaml.Graph

/-- The value of the first merge key, and the pairs without that key. -/
def takeMerge? (graph : Graph) : List NodePair → Option (NodeId × List NodePair)
  | [] => none
  | (key, value) :: rest =>
      if (graph.node key).tag = .merge then some (value, rest)
      else (graph.takeMerge? rest).map fun (source, others) => (source, (key, value) :: others)

/-- The keys that mark a default are ordinary texts. -/
def settleDefaults (graph : Graph) (pairs : List NodePair) : Graph :=
  pairs.foldl
    (fun graph (key, _) =>
      let node := graph.node key
      if node.tag = .default then graph.put key (node.withTag .text) else graph)
    graph

/-- The graph in which a mapping has no merge key; the pairs brought in so far are given.  Every
step takes out one merge key, so there are no more steps than pairs. -/
def mergeFrom : Nat → NodeId → List NodePair → Graph → Result Graph
  | 0, _, _, _ => broken "merge keys without end"
  | steps + 1, id, brought, graph =>
      match graph.node id with
      | .mapping tag pairs =>
          match graph.takeMerge? pairs with
          | none => .ok ((graph.put id (.mapping tag (brought ++ pairs))).settleDefaults pairs)
          | some (source, others) =>
              let graph := graph.put id (.mapping tag others)
              match graph.node source with
              | .mapping _ _ => do
                  let graph ← mergeFrom steps source [] graph
                  mergeFrom steps id (brought ++ (graph.pairs? source).getD []) graph
              | .sequence _ items => do
                  let (graph, sources) ← items.foldlM
                    (fun (state : Graph × List (List NodePair)) item => do
                      let graph ← mergeFrom steps item [] state.1
                      return (graph, (graph.pairs? item).getD [] :: state.2))
                    (graph, [])
                  mergeFrom steps id (brought ++ sources.flatten) graph
              | .scalar _ _ => broken "expected a mapping or list of mappings for merging"
      | _ => broken "expected a mapping for merging"

end Canopen.Yaml.Graph
