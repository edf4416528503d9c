import Canopen.Value.Members
import Canopen.Yaml.Contents
import Canopen.Yaml.Node
import Canopen.Yaml.Scanner

/-!
# From nodes to values

A collection is assembled when all its parts are, so a part that several aliases stand for is
assembled once.  What is left over leads into a collection that contains itself; it is unfolded as far
as anyone looks.
-/

namespace Canopen.Yaml

/-- The value of a node whose parts have values. -/
def NodeContent.assemble (part : NodeId → Option Value) : NodeContent → Option Value
  | .scalar value _ => some value
  | .list items => (items.mapM part).map .list
  | .pairs items =>
      (items.mapM fun (key, value) => do return Value.pair (← part key) (← part value)).map .list
  | .map fields =>
      (fields.mapM fun (key, value) => do return (← part key, ← part value)).map .map
  | .set members => (members.mapM part).map fun members => .set (Value.ordered members)

/-- The values that are known, by the numbers of their nodes. -/
abbrev Values := Array (Option Value)

namespace Contents

/-- The value of a node, from its parts. -/
def valueFrom (contents : Contents) (values : Values) (id : NodeId) : Option Value :=
  (contents.content? id).bind (NodeContent.assemble fun part => values.getD part none)

/-- Assemble what can be assembled of the nodes below a number, the last ones first. -/
def assembleBelow (contents : Contents) : Nat → Values → Values
  | 0, values => values
  | id + 1, values =>
      contents.assembleBelow id
        (if (values.getD id none).isSome then values
          else values.setIfInBounds id (contents.valueFrom values id))

/-- How many values are known. -/
def knownCount (values : Values) : Nat :=
  values.countP Option.isSome

/-- How many nodes have been read. -/
def foundCount (contents : Contents) : Nat :=
  contents.found.countP Option.isSome

/-- Assemble all that can be assembled. -/
def assembleAll (contents : Contents) : Nat → Values → Values
  | 0, values => values
  | rounds + 1, values =>
      let next := contents.assembleBelow contents.found.size values
      if knownCount next = knownCount values then values else contents.assembleAll rounds next

/-- The values of the nodes that lead nowhere into themselves. -/
def finiteValues (contents : Contents) : Values :=
  contents.assembleAll contents.found.size (Array.replicate contents.found.size none)

/-- The values with one layer more of those that have no end. -/
def unfoldOnce (contents : Contents) (finite values : Values) : Values :=
  values.mapIdx fun id _ =>
    match finite.getD id none with
    | some value => some value
    | none => (contents.valueFrom values id).map (.named id)

/-- How many layers are looked at on the way from the root to a field. -/
def depthOfFields : Nat := 8

/-- The values with so many layers of those that have no end. -/
def unfold (contents : Contents) (finite : Values) : Nat → Values
  | 0 => finite.map fun value => some (value.getD .null)
  | layers + 1 => contents.unfoldOnce finite (contents.unfold finite layers)

/-- The values of all nodes.  A way that enters no collection twice is no longer than there are
collections without end. -/
def values (contents : Contents) : Values :=
  let finite := contents.finiteValues
  match contents.foundCount - knownCount finite with
  | 0 => finite
  | endless => contents.unfold finite (endless + depthOfFields)

end Contents

/-- The value of the document in a text, with room for so many collections inside each other. -/
def read (room : Nat) (text : List Char) : Result Value := do
  let (tokens, fault) := tokens text
  let (graph, root) ← nodesOf room tokens fault
  let contents ← contentsOf graph root
  return (contents.values.getD root none).getD .null

end Canopen.Yaml
