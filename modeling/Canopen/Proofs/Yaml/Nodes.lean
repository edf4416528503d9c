import Canopen.Proofs.Yaml.Marks
import Canopen.Proofs.Yaml.Results

/-!
# Where the tags of nodes come from

A scalar has the tag that is written in front of it, and a plain one without a tag that of its form.
A collection has a tag of its own only where one is written in front of it.  Every step of building
that adds a node, fills it or hands it on keeps this, and it fails on broken rules only.
-/

namespace Canopen.Yaml

/-- The text is that of a scalar, or that of one that is left out. -/
def IsWritten (read : List Token) (text : String) : Prop :=
  text = "" ∨ ∃ style, Token.scalar style text ∈ read

/-- The tag is one that every text has a value by, or that of a scalar as it is written. -/
def HasOrigin (read : List Token) (tag : Tag) (text : String) : Prop :=
  tag = .text ∨ tag = .null ∨ ∃ mark style, ScalarOrigin read mark style text ∧
    tag = ({ tag := mark } : Properties).scalarTag style text

/-- The tag of a collection is the usual one, or one that is written in front of it.  The mark of a
default may have been made an ordinary text. -/
def CollectionTag (written : String → Prop) (usual tag : Tag) : Prop :=
  tag = usual ∨ ∃ uri, written uri ∧ (tag = .ofUri uri ∨ tag = .text ∧ Tag.ofUri uri = .default)

/-- The tag of a node comes from the tokens. -/
def Node.Spelled (read : List Token) : Node → Prop
  | .scalar tag text => IsWritten read text ∧ HasOrigin read tag text
  | .sequence tag _ => CollectionTag (TagsNode read) .sequence tag
  | .mapping tag _ => CollectionTag (TagsMapping read) .mapping tag

def Graph.Spelled (read : List Token) (graph : Graph) : Prop :=
  ∀ id, (graph.node id).Spelled read

variable {read done : List Token} {token : Token}

theorem spelled_missing (read : List Token) : Node.missing.Spelled read :=
  ⟨.inl rfl, .inr (.inl rfl)⟩

theorem CollectionTag.mono {written more : String → Prop} {usual tag : Tag}
    (collection : CollectionTag written usual tag) (onward : ∀ uri, written uri → more uri) :
    CollectionTag more usual tag := by
  rcases collection with usual | ⟨uri, written, tag⟩
  · exact .inl usual
  · exact .inr ⟨uri, onward uri written, tag⟩

/-- What is read before is read as well. -/
theorem Node.Spelled.more {node : Node} (spelled : node.Spelled read) (more : List Token) :
    node.Spelled (read ++ more) := by
  cases node with
  | scalar tag text =>
      obtain ⟨written, origin⟩ := spelled
      refine ⟨written.imp_right ?_, origin.imp_right (Or.imp_right ?_)⟩
      · rintro ⟨style, inside⟩
        exact ⟨style, List.mem_append_left _ inside⟩
      · rintro ⟨mark, style, origin, same⟩
        exact ⟨mark, style, origin.more more, same⟩
  | sequence tag items => exact CollectionTag.mono spelled fun _ tags => tags.more more
  | mapping tag pairs => exact CollectionTag.mono spelled fun _ tags => tags.more more

namespace Graph

variable {graph : Graph} {id : NodeId} {node : Node}

theorem Spelled.more (spelled : graph.Spelled read) (more : List Token) :
    graph.Spelled (read ++ more) :=
  fun id => (spelled id).more more

theorem Spelled.add (spelled : graph.Spelled read) (new : node.Spelled read) :
    (graph.add node).Spelled read := by
  intro id
  by_cases inside : id < graph.nodes.size
  · have same : (graph.add node).node id = graph.node id := by
      simp [Graph.add, Graph.node, Array.getElem?_push, Nat.ne_of_lt inside]
    rw [same]
    exact spelled id
  · by_cases last : id = graph.size
    · rw [last, node_add_self]
      exact new
    · have absent : (graph.add node).node id = .missing := by
        have beyond : graph.nodes.size ≠ id := fun same => last same.symm
        have outside : graph.nodes[id]? = none := by simpa using inside
        simp [Graph.add, Graph.node, Array.getElem?_push, beyond.symm, outside]
      rw [absent]
      exact spelled_missing read

theorem Spelled.put (spelled : graph.Spelled read) (new : node.Spelled read) :
    (graph.put id node).Spelled read := by
  intro other
  by_cases same : other = id
  · subst same
    by_cases known : other < graph.size
    · rw [node_put_self known]
      exact new
    · have outside : ¬ other < graph.nodes.size := known
      have absent : (graph.put other node).node other = .missing := by
        simp [Graph.put, Graph.node, outside]
      rw [absent]
      exact spelled_missing read
  · rw [node_put_of_ne same]
    exact spelled other

/-- The node is there and has the tag of a sequence. -/
def Sequences (read : List Token) (graph : Graph) (id : NodeId) : Prop :=
  id < graph.size ∧ CollectionTag (TagsNode read) .sequence (graph.node id).tag

/-- The node is there and has the tag of a mapping. -/
def Mappings (read : List Token) (graph : Graph) (id : NodeId) : Prop :=
  id < graph.size ∧ CollectionTag (TagsMapping read) .mapping (graph.node id).tag

/-- Nodes are added, and those that are there keep their tags. -/
def Grows (before after : Graph) : Prop :=
  ∀ id < before.size, id < after.size ∧ (after.node id).tag = (before.node id).tag

theorem grows_put (same : node.tag = (graph.node id).tag) : graph.Grows (graph.put id node) := by
  intro other inside
  refine ⟨by rwa [size_put], ?_⟩
  by_cases here : other = id
  · subst here
    rw [node_put_self inside, same]
  · rw [node_put_of_ne here]

end Graph

/-! ## Frames -/

/-- The collection of an open frame is there. -/
def Frame.Spelled (read : List Token) (graph : Graph) : Frame → Prop
  | .blockSequence id _ _ | .indentless id _ _ | .flowSequence id _ _ => graph.Sequences read id
  | .blockMapping id _ _ | .flowPair id _ | .flowMapping id _ _ => graph.Mappings read id
  | .tagged _ _ _ | .pending _ _ => True

theorem Frame.Spelled.mono {frame : Frame} {graph after : Graph}
    (spelled : frame.Spelled read graph) (grows : graph.Grows after) :
    frame.Spelled read after := by
  cases frame with
  | tagged handle suffix allowed => trivial
  | pending properties allowed => trivial
  | _ =>
      obtain ⟨inside, kind⟩ := spelled
      exact ⟨(grows _ inside).1, (grows _ inside).2 ▸ kind⟩

theorem Frame.Spelled.more {frame : Frame} {graph : Graph} (spelled : frame.Spelled read graph)
    (more : List Token) : frame.Spelled (read ++ more) graph := by
  cases frame with
  | tagged handle suffix allowed => trivial
  | pending properties allowed => trivial
  | _ => exact ⟨spelled.1, spelled.2.mono fun _ tags => tags.more more⟩

/-- The collection awaits no node before the next mark. -/
def Frame.isSated : Frame → Bool
  | .blockSequence _ _ awaiting | .indentless _ _ awaiting => !awaiting
  | .flowSequence _ _ itemDone => itemDone
  | .blockMapping _ _ .entry | .blockMapping _ _ (.keyDone _) => true
  | .flowPair _ (.keyDone _) => true
  | .flowMapping _ _ .entryDone | .flowMapping _ _ (.keyDone _) => true
  | _ => false

/-- The properties stand at the end of the tokens; without an anchor, nothing is behind their tag. -/
structure Bears (front : List Token) (properties : Properties) : Prop where
  marks : Marks front properties.tag
  last : properties.anchor = none → ∀ uri, properties.tag = some uri →
    ∃ before handle suffix, front = before ++ [.tag handle suffix] ∧
      Resolves before handle suffix uri

/-- The innermost frame tells what stands at the end of the tokens. -/
def Fronts (front : List Token) : List Frame → Prop
  | .tagged handle suffix _ :: _ => ∃ before, front = before ++ [.tag handle suffix]
  | .pending properties _ :: _ => Bears front properties
  | _ => Marks front none

/-- The same once the tag has been looked up; a second anchor does not belong to the node. -/
def Settled (front : List Token) (token : Token) : List Frame → Prop
  | .tagged _ _ _ :: _ => False
  | .pending properties _ :: _ =>
      Bears front properties ∧ ∀ name, token = .anchor name → properties.anchor = none
  | _ => Marks front none

/-- The document has come to its end. -/
def Phase.isOver : Phase → Bool
  | .done _ | .further _ => true
  | _ => false

/-! ## Building -/

/-- Everything inside the document comes from the tokens. -/
structure Builder.Spelled (read : List Token) (builder : Builder) : Prop where
  graph : builder.graph.Spelled read
  frames : ∀ frame ∈ builder.frames, frame.Spelled read builder.graph
  handles : ∀ entry ∈ builder.handles, Token.tagDirective entry.1 entry.2 ∈ read
  phase : builder.phase = .content ∨ ∃ root, builder.phase = .done root

/-- No properties await their node. -/
def Builder.Quiet (builder : Builder) : Prop :=
  ∀ frame ∈ builder.frames.head?, frame.isCollection = true

/-- No node is awaited before the next mark. -/
def Builder.Sated (builder : Builder) : Prop :=
  match builder.frames with
  | [] => ∃ root, builder.phase = .done root
  | frame :: _ => frame.isSated = true

namespace Builder

variable {builder after : Builder}

theorem Sated.quiet (sated : builder.Sated) : builder.Quiet := by
  unfold Sated at sated
  unfold Quiet
  cases open_ : builder.frames with
  | nil => simp
  | cons frame outer =>
      rw [open_] at sated
      cases frame with
      | tagged | pending => cases sated
      | _ => simp [Frame.isCollection]

namespace Spelled

theorem more (spelled : builder.Spelled read) (more : List Token) :
    builder.Spelled (read ++ more) where
  graph := spelled.graph.more more
  frames frame inside := (spelled.frames frame inside).more more
  handles entry inside := List.mem_append_left _ (spelled.handles entry inside)
  phase := spelled.phase

theorem outer (spelled : builder.Spelled read) {frame : Frame} {outer : List Frame}
    (open_ : builder.frames = frame :: outer) :
    ∀ frame ∈ outer, frame.Spelled read builder.graph :=
  fun frame member => spelled.frames frame (by rw [open_]; exact List.mem_cons_of_mem _ member)

theorem inner (spelled : builder.Spelled read) {frame : Frame} {outer : List Frame}
    (open_ : builder.frames = frame :: outer) : frame.Spelled read builder.graph :=
  spelled.frames frame (by rw [open_]; exact List.mem_cons_self)

theorem within (spelled : builder.Spelled read) {frame : Frame} {outer : List Frame}
    (new : frame.Spelled read builder.graph)
    (around : ∀ frame ∈ outer, frame.Spelled read builder.graph) :
    (builder.within frame outer).Spelled read := by
  refine ⟨spelled.graph, fun other member => ?_, spelled.handles, spelled.phase⟩
  rcases List.mem_cons.1 member with rfl | member
  · exact new
  · exact around other member

/-- The innermost frame is closed. -/
theorem around (spelled : builder.Spelled read) {frame : Frame} {outer : List Frame}
    (open_ : builder.frames = frame :: outer) : { builder with frames := outer }.Spelled read :=
  ⟨spelled.graph, spelled.outer open_, spelled.handles, spelled.phase⟩

theorem withGraph (spelled : builder.Spelled read) {graph : Graph} (new : graph.Spelled read)
    (grows : builder.graph.Grows graph) : { builder with graph }.Spelled read :=
  ⟨new, fun frame member => (spelled.frames frame member).mono grows, spelled.handles,
    spelled.phase⟩

/-- A collection that is filled keeps its tag. -/
theorem fillSequence (spelled : builder.Spelled read) {id : NodeId}
    (sequence : builder.graph.Sequences read id) (items : List NodeId) :
    (builder.fillSequence id items).Spelled read :=
  spelled.withGraph (spelled.graph.put sequence.2) (Graph.grows_put rfl)

theorem fillMapping (spelled : builder.Spelled read) {id : NodeId}
    (mapping : builder.graph.Mappings read id) (pairs : List NodePair) :
    (builder.fillMapping id pairs).Spelled read :=
  spelled.withGraph (spelled.graph.put mapping.2) (Graph.grows_put rfl)

end Spelled

/-! ## Nodes -/

/-- What is inside the document, and what stands at the end of the tokens. -/
def Stands (read : List Token) (builder : Builder) : Prop :=
  builder.Spelled read ∧ Fronts read builder.frames

end Builder

end Canopen.Yaml
