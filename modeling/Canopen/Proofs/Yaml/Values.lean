import Canopen.Proofs.Yaml.Nesting
import Canopen.Proofs.Yaml.Spelling
import Canopen.Yaml.Value

/-!
# Texts without a value

A text that keeps the rules of the language may still have no value: a character or a version is
spelled by a number that is too large, collections are nested too deep, or the form of a plain
scalar or the tag of a node promises a value that does not exist.
-/

namespace Canopen.Yaml

/-- A node may mark the default of a mapping, by its form or by its tag. -/
inductive MarksDefault (read : List Token) : Prop where
  | form {style : Style} {text : String} (written : Token.scalar style text ∈ read)
      (form : Tag.ofPlain text = .default) : MarksDefault read
  | tag {uri : String} (tags : TagsNode read uri) (default : Tag.ofUri uri = .default) :
      MarksDefault read

/-- Why nodes have no value. -/
inductive NodesLack (read : List Token) : ScalarFault → Prop where
  /-- The form of a plain scalar promises a value that does not exist. -/
  | plain {text : String} {fault : ScalarFault} (origin : ScalarOrigin read none .plain text)
      (none : scalarValue (.ofPlain text) text = .error (.scalar fault)) : NodesLack read fault
  /-- The tag in front of a scalar calls for a value that the scalar does not have. -/
  | tagged {uri text : String} {style : Style} {fault : ScalarFault}
      (origin : ScalarOrigin read (some uri) style text)
      (none : scalarValue (markedTag uri text) text = .error (.scalar fault)) :
      NodesLack read fault
  /-- The tag in front of a mapping calls for a value that a text does not have for which a mapping
  may stand by its default. -/
  | mapped {uri text : String} {fault : ScalarFault} (tags : TagsMapping read uri)
      (default : MarksDefault read) (written : IsWritten read text)
      (none : scalarValue (.ofUri uri) text = .error (.scalar fault)) : NodesLack read fault
  /-- The tag in front of a mapping calls for a scalar, and by its default a mapping may stand for
  another one, or for itself. -/
  | endless {uri : String} (tags : TagsMapping read uri) (default : MarksDefault read)
      (scalar : isScalarTag (.ofUri uri) = true ∨ Tag.ofUri uri = .default) :
      NodesLack read .endlessDefault
  /-- The tag in front of a mapping calls for a moment, and a mapping may stand for a text by its
  default. -/
  | notText {uri : String} (tags : TagsMapping read uri) (default : MarksDefault read)
      (moment : Tag.ofUri uri = .moment) : NodesLack read .momentNotText

variable {read : List Token} {graph : Graph} {id : NodeId}

/-! ## Scalars -/

theorem CollectionTag.ofUri_eq_default {written : String → Prop} {usual : Tag}
    (collection : CollectionTag written usual .default) (other : usual ≠ .default) :
    ∃ uri, written uri ∧ Tag.ofUri uri = .default := by
  rcases collection with same | ⟨uri, written, same | ⟨text, -⟩⟩
  · exact absurd same.symm other
  · exact ⟨uri, written, same.symm⟩
  · cases text

namespace Contents

end Contents

/-! ## Merged mappings -/

/-- A default mark is made an ordinary text. -/
theorem Node.Spelled.withText {node : Node} (spelled : node.Spelled read)
    (default : node.tag = .default) : (node.withTag .text).Spelled read := by
  cases node with
  | scalar tag text => exact ⟨spelled.1, .inl rfl⟩
  | sequence tag items =>
      obtain rfl : tag = .default := default
      obtain ⟨uri, tags, default⟩ := CollectionTag.ofUri_eq_default spelled (by decide)
      exact .inr ⟨uri, tags, .inr ⟨rfl, default⟩⟩
  | mapping tag pairs =>
      obtain rfl : tag = .default := default
      obtain ⟨uri, tags, default⟩ := CollectionTag.ofUri_eq_default spelled (by decide)
      exact .inr ⟨uri, tags, .inr ⟨rfl, default⟩⟩

namespace Graph

theorem Spelled.settleDefaults (spelled : graph.Spelled read) (pairs : List NodePair) :
    (graph.settleDefaults pairs).Spelled read := by
  unfold Graph.settleDefaults
  induction pairs generalizing graph with
  | nil => exact spelled
  | cons pair rest ih =>
      rw [List.foldl_cons]
      refine ih ?_
      dsimp only
      split
      · next default => exact spelled.put ((spelled pair.1).withText default)
      · exact spelled

end Graph

/-! ## Collections -/

namespace Contents

/-- All nodes come from the tokens. -/
def Spelled (read : List Token) (contents : Contents) : Prop :=
  contents.graph.Spelled read

abbrev Reads (read : List Token) (result : Result Contents) : Prop :=
  Leads (Spelled read) (NodesLack read) result

variable {contents : Contents}

end Contents

end Canopen.Yaml
