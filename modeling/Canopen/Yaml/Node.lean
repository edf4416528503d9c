import Canopen.Yaml.Graph
import Canopen.Yaml.Token

/-!
# From tokens to nodes

The open collections form a stack.  Each token first settles what it shows to be missing, such as
the value of a key that is followed by another key, and is then consumed by the innermost
collection.  A collection is a node from its first token on, so an alias inside it may stand for it.
-/

namespace Canopen.Yaml

/-- The anchor and the tag in front of a node. -/
structure Properties where
  anchor : Option String := none
  tag : Option String := none

namespace Properties

/-- The tag of a collection, unless one is given. -/
def tagOr (properties : Properties) (usual : Tag) : Tag :=
  match properties.tag with
  | none => usual
  | some uri => if uri = "!" then usual else .ofUri uri

/-- The tag of a scalar; a quoted one is text unless it is marked to go by its form. -/
def scalarTag (properties : Properties) (style : Style) (text : String) : Tag :=
  let tag :=
    if properties.tag = some "!" ∨ (style = .plain ∧ properties.tag = none) then .ofPlain text
    else properties.tagOr .text
  match style, tag with
  | .halved halves, .text => .halved halves
  | _, tag => tag

end Properties

/-- Where a nested node may start: whether a block collection may, and whether a sequence may that
is not indented further than the mapping around it. -/
structure Allowed where
  block : Bool := false
  indentless : Bool := false

/-- What comes next in a mapping. -/
inductive MappingSlot where
  /-- An entry may start. -/
  | entry
  /-- An entry is complete; in brackets a comma has to follow. -/
  | entryDone
  /-- A key follows its mark. -/
  | key
  /-- A key without a mark and without a value. -/
  | keyAlone
  /-- A key has been read. -/
  | keyDone (key : NodeId)
  /-- A value follows its mark. -/
  | value (key : NodeId)

/-- A collection under way: its number, and its contents latest first. -/
inductive Frame where
  | blockSequence (id : NodeId) (items : List NodeId) (awaiting : Bool)
  | indentless (id : NodeId) (items : List NodeId) (awaiting : Bool)
  | blockMapping (id : NodeId) (pairs : List NodePair) (slot : MappingSlot)
  | flowSequence (id : NodeId) (items : List NodeId) (itemDone : Bool)
  /-- A single pair as an item of a sequence in brackets. -/
  | flowPair (id : NodeId) (slot : MappingSlot)
  | flowMapping (id : NodeId) (pairs : List NodePair) (slot : MappingSlot)
  /-- A tag in front of its node; an anchor may follow it. -/
  | tagged (handle : Option String) (suffix : String) (allowed : Allowed)
  /-- Properties whose node is to come. -/
  | pending (properties : Properties) (allowed : Allowed)

/-- The frame is that of a collection. -/
def Frame.isCollection : Frame → Bool
  | .tagged _ _ _ | .pending _ _ => false
  | _ => true

/-- How far the document has come. -/
inductive Phase where
  | start
  | directives
  /-- The document has been opened by its mark. -/
  | opened
  | content
  | done (root : NodeId)
  /-- Directives of a second document follow the first. -/
  | further (root : NodeId)

structure Builder where
  phase : Phase := .start
  frames : List Frame := []
  graph : Graph := {}
  /-- The nodes named so far. -/
  anchors : List (String × NodeId) := []
  versionSeen : Bool := false
  handles : List (String × String) := []

namespace Builder

def usualHandles : List (String × String) :=
  [("!", "!"), ("!!", Tag.standard)]

/-- The tag that a handle and a suffix spell. -/
def resolve (builder : Builder) (handle : Option String) (suffix : String) : Result String :=
  match handle with
  | none => .ok suffix
  | some handle =>
      match (builder.handles ++ usualHandles).lookup handle with
      | some start => .ok (start ++ suffix)
      | none => broken "found undefined tag handle"

/-- A node that starts, with its number; a new anchor names it. -/
def addNode (builder : Builder) (properties : Properties) (node : Node) :
    Result (NodeId × Builder) :=
  let id := builder.graph.size
  let builder := { builder with graph := builder.graph.add node }
  match properties.anchor with
  | none => .ok (id, builder)
  | some name =>
      if (builder.anchors.lookup name).isSome then broken "found duplicate anchor"
      else .ok (id, { builder with anchors := (name, id) :: builder.anchors })

def within (builder : Builder) (frame : Frame) (outer : List Frame) : Builder :=
  { builder with frames := frame :: outer }

/-- A sequence has come to its end. -/
def fillSequence (builder : Builder) (id : NodeId) (items : List NodeId) : Builder :=
  { builder with
    graph := builder.graph.put id (.sequence (builder.graph.node id).tag items.reverse) }

/-- A mapping has come to its end. -/
def fillMapping (builder : Builder) (id : NodeId) (pairs : List NodePair) : Builder :=
  { builder with
    graph := builder.graph.put id (.mapping (builder.graph.node id).tag pairs.reverse) }

def misplacedNode {α : Type} : Result α :=
  broken "found a node that is neither key nor value"

/-- A node goes into the innermost collection. -/
def deliver (builder : Builder) (node : NodeId) : Result Builder :=
  match builder.frames with
  | [] => .ok { builder with phase := .done node }
  | .blockSequence id items _ :: outer =>
      .ok (builder.within (.blockSequence id (node :: items) false) outer)
  | .indentless id items _ :: outer =>
      .ok (builder.within (.indentless id (node :: items) false) outer)
  | .flowSequence id items _ :: outer =>
      .ok (builder.within (.flowSequence id (node :: items) true) outer)
  | .blockMapping id pairs slot :: outer =>
      match slot with
      | .key => .ok (builder.within (.blockMapping id pairs (.keyDone node)) outer)
      | .value key => .ok (builder.within (.blockMapping id ((key, node) :: pairs) .entry) outer)
      | _ => misplacedNode
  | .flowMapping id pairs slot :: outer =>
      match slot with
      | .key => .ok (builder.within (.flowMapping id pairs (.keyDone node)) outer)
      | .keyAlone =>
          let missing := builder.graph.size
          let builder := { builder with graph := builder.graph.add .missing }
          .ok (builder.within (.flowMapping id ((node, missing) :: pairs) .entryDone) outer)
      | .value key =>
          .ok (builder.within (.flowMapping id ((key, node) :: pairs) .entryDone) outer)
      | _ => misplacedNode
  | .flowPair id slot :: outer =>
      match slot, outer with
      | .key, _ => .ok (builder.within (.flowPair id (.keyDone node)) outer)
      | .value key, .flowSequence around items _ :: outer =>
          .ok ((builder.fillMapping id [(key, node)]).within
            (.flowSequence around (id :: items) true) outer)
      | _, _ => misplacedNode
  | .tagged _ _ _ :: _ => misplacedNode
  | .pending _ _ :: _ => misplacedNode

/-- A scalar with its properties goes into the innermost collection. -/
def deliverScalar (builder : Builder) (properties : Properties) (style : Style) (text : String) :
    Result Builder := do
  let (id, builder) ←
    builder.addNode properties (.scalar (properties.scalarTag style text) text)
  builder.deliver id

/-- A node that is left out. -/
def deliverMissing (builder : Builder) : Result Builder :=
  builder.deliverScalar {} .plain ""

/-- A collection is opened inside the innermost one. -/
def openCollection (builder : Builder) (properties : Properties) (node : Node)
    (frame : NodeId → Frame) : Result Builder := do
  let (id, builder) ← builder.addNode properties node
  return builder.within (frame id) builder.frames

def openSequence (builder : Builder) (properties : Properties) (frame : NodeId → Frame) :
    Result Builder :=
  builder.openCollection properties (.sequence (properties.tagOr .sequence) []) frame

def openMapping (builder : Builder) (properties : Properties) (frame : NodeId → Frame) :
    Result Builder :=
  builder.openCollection properties (.mapping (properties.tagOr .mapping) []) frame

/-- The token starts a node that may have properties in front of it. -/
def startsContent (allowed : Allowed) : Token → Bool
  | .scalar _ _ | .flowSequenceStart | .flowMappingStart => true
  | .blockSequenceStart | .blockMappingStart => allowed.block
  | .blockEntry => allowed.indentless
  | _ => false

/-- The content of a node starts. -/
def beginContent (builder : Builder) (properties : Properties) (allowed : Allowed) (token : Token) :
    Result Builder :=
  if !startsContent allowed token then broken "expected the node content"
  else
    match token with
    | .scalar style text => builder.deliverScalar properties style text
    | .flowSequenceStart => builder.openSequence properties fun id => .flowSequence id [] false
    | .flowMappingStart => builder.openMapping properties fun id => .flowMapping id [] .entry
    | .blockSequenceStart => builder.openSequence properties fun id => .blockSequence id [] false
    | .blockMappingStart => builder.openMapping properties fun id => .blockMapping id [] .entry
    | .blockEntry => builder.openSequence properties fun id => .indentless id [] true
    | _ => broken "expected the node content"

/-- A node starts. -/
def beginNode (builder : Builder) (allowed : Allowed) (token : Token) : Result Builder :=
  match token with
  | .alias name =>
      match builder.anchors.lookup name with
      | some id => builder.deliver id
      | none => broken "found undefined alias"
  | .anchor name =>
      .ok (builder.within (.pending { anchor := some name } allowed) builder.frames)
  | .tag handle suffix => .ok (builder.within (.tagged handle suffix allowed) builder.frames)
  | token => builder.beginContent {} allowed token

/-- The token shows that an item of a sequence is left out. -/
def endsItem (indentless : Bool) : Token → Bool
  | .blockEntry | .blockEnd => true
  | .key | .value => indentless
  | _ => false

/-- The token shows that a key or a value of a mapping is left out. -/
def endsBlockNode : Token → Bool
  | .key | .value | .blockEnd => true
  | _ => false

/-- The token shows that a key or a value between brackets is left out. -/
def endsFlowNode (inKey : Bool) (close : Token) (token : Token) : Bool :=
  token = .flowEntry || token = close || (inKey && token = .value)

/-- A tag that comes first is looked up when the token behind it is there. -/
def settleTag (builder : Builder) : Result Builder :=
  match builder.frames with
  | .tagged handle suffix allowed :: outer => do
      let uri ← builder.resolve handle suffix
      return builder.within (.pending { tag := some uri } allowed) outer
  | _ => .ok builder

/-- Properties without content belong to a scalar that is left out. -/
def settlePending (builder : Builder) (token : Token) : Result Builder :=
  match builder.frames with
  | .pending properties allowed :: outer =>
      let further :=
        match token with
        | .anchor _ => properties.anchor.isNone
        | .tag _ _ => properties.tag.isNone
        | token => startsContent allowed token
      if further then .ok builder
      else { builder with frames := outer }.deliverScalar properties .plain ""
  | _ => .ok builder

/-- An item, key or value that the token shows to be left out. -/
def settleNode (builder : Builder) (token : Token) : Result Builder :=
  let isMissing :=
    match builder.frames with
    | .blockSequence _ _ true :: _ => endsItem false token
    | .indentless _ _ true :: _ => endsItem true token
    | .blockMapping _ _ .key :: _ | .blockMapping _ _ (.value _) :: _ => endsBlockNode token
    | .flowPair _ .key :: _ => endsFlowNode true .flowSequenceEnd token
    | .flowPair _ (.value _) :: _ => endsFlowNode false .flowSequenceEnd token
    | .flowMapping _ _ .key :: _ => endsFlowNode true .flowMappingEnd token
    | .flowMapping _ _ (.value _) :: _ => endsFlowNode false .flowMappingEnd token
    | _ => false
  if isMissing then builder.deliverMissing else .ok builder

/-- A collection that is complete goes into the one around it. -/
def closeSequence (builder : Builder) (outer : List Frame) (id : NodeId) (items : List NodeId) :
    Result Builder :=
  { builder.fillSequence id items with frames := outer }.deliver id

def closeMapping (builder : Builder) (outer : List Frame) (id : NodeId) (pairs : List NodePair) :
    Result Builder :=
  { builder.fillMapping id pairs with frames := outer }.deliver id

/-- A sequence that is not indented further than the mapping around it ends without a mark. -/
def settleIndentless (builder : Builder) (token : Token) : Result Builder :=
  match builder.frames with
  | .indentless id items false :: outer =>
      if token = .blockEntry then .ok builder else builder.closeSequence outer id items
  | _ => .ok builder

/-- A key without the mark of its value has no value. -/
def settleValue (builder : Builder) (token : Token) : Result Builder :=
  if token = .value then .ok builder
  else
    match builder.frames with
    | .blockMapping id pairs (.keyDone key) :: outer =>
        (builder.within (.blockMapping id pairs (.value key)) outer).deliverMissing
    | .flowMapping id pairs (.keyDone key) :: outer =>
        (builder.within (.flowMapping id pairs (.value key)) outer).deliverMissing
    | .flowPair id (.keyDone key) :: outer =>
        (builder.within (.flowPair id (.value key)) outer).deliverMissing
    | _ => .ok builder

/-- Everything that the token shows to be left out or ended. -/
def settle (builder : Builder) (token : Token) : Result Builder := do
  let builder ← builder.settleTag
  let builder ← builder.settlePending token
  let builder ← builder.settleNode token
  let builder ← builder.settleIndentless token
  builder.settleValue token

/-- The innermost collection consumes a token. -/
def consume (builder : Builder) (token : Token) : Result Builder :=
  match builder.frames with
  | [] => builder.beginNode { block := true } token
  | .tagged _ _ _ :: _ => misplacedNode
  | .pending properties allowed :: outer =>
      match token with
      | .anchor name =>
          .ok (builder.within (.pending { properties with anchor := some name } allowed) outer)
      | .tag handle suffix => do
          let uri ← builder.resolve handle suffix
          return builder.within (.pending { properties with tag := some uri } allowed) outer
      | token => { builder with frames := outer }.beginContent properties allowed token
  | .blockSequence id items awaiting :: outer =>
      if awaiting then builder.beginNode { block := true } token
      else
        match token with
        | .blockEntry => .ok (builder.within (.blockSequence id items true) outer)
        | .blockEnd => builder.closeSequence outer id items
        | _ => broken "expected the end of a block sequence"
  | .indentless id items awaiting :: outer =>
      if awaiting then builder.beginNode { block := true } token
      else if token = .blockEntry then .ok (builder.within (.indentless id items true) outer)
      else broken "expected the end of a block sequence"
  | .blockMapping id pairs slot :: outer =>
      match slot, token with
      | .entry, .key => .ok (builder.within (.blockMapping id pairs .key) outer)
      | .entry, .blockEnd => builder.closeMapping outer id pairs
      | .keyDone key, .value => .ok (builder.within (.blockMapping id pairs (.value key)) outer)
      | .key, token => builder.beginNode { block := true, indentless := true } token
      | .value _, token => builder.beginNode { block := true, indentless := true } token
      | _, _ => broken "expected the end of a block mapping"
  | .flowSequence id items itemDone :: outer =>
      match token with
      | .flowSequenceEnd => builder.closeSequence outer id items
      | .flowEntry =>
          if itemDone then .ok (builder.within (.flowSequence id items false) outer)
          else broken "expected the node content"
      | .key =>
          if itemDone then broken "expected ',' or ']'"
          else builder.openMapping {} fun id => .flowPair id .key
      | token => if itemDone then broken "expected ',' or ']'" else builder.beginNode {} token
  | .flowPair id slot :: outer =>
      match slot, token with
      | .keyDone key, .value => .ok (builder.within (.flowPair id (.value key)) outer)
      | .keyDone _, _ => broken "expected ',' or ']'"
      | _, token => builder.beginNode {} token
  | .flowMapping id pairs slot :: outer =>
      match slot, token with
      | .entry, .flowMappingEnd => builder.closeMapping outer id pairs
      | .entry, .key => .ok (builder.within (.flowMapping id pairs .key) outer)
      | .entry, token =>
          (builder.within (.flowMapping id pairs .keyAlone) outer).beginNode {} token
      | .entryDone, .flowMappingEnd => builder.closeMapping outer id pairs
      | .entryDone, .flowEntry => .ok (builder.within (.flowMapping id pairs .entry) outer)
      | .entryDone, _ => broken "expected ',' or '\x7d'"
      | .keyDone key, .value => .ok (builder.within (.flowMapping id pairs (.value key)) outer)
      | .keyDone _, _ => broken "expected ',' or '\x7d'"
      | _, token => builder.beginNode {} token

/-- A directive in front of a document. -/
def readDirective (builder : Builder) (token : Token) : Result Builder :=
  match token with
  | .versionDirective major =>
      if builder.versionSeen then broken "found duplicate YAML directive"
      else if major ≠ 1 then broken "found incompatible YAML document"
      else .ok { builder with versionSeen := true }
  | .tagDirective handle start =>
      if (builder.handles.lookup handle).isSome then broken "duplicate tag handle"
      else .ok { builder with handles := (handle, start) :: builder.handles }
  | .otherDirective => .ok builder
  | _ => broken "expected the start of a document"

/-- A directive, or the mark that opens the document. -/
def openDocument (builder : Builder) (token : Token) : Result Builder :=
  if token = .documentStart then .ok { builder with phase := .opened }
  else { builder with phase := .directives }.readDirective token

def isDirective : Token → Bool
  | .versionDirective _ | .tagDirective _ _ | .otherDirective => true
  | _ => false

/-- The token ends the document. -/
def endsDocument : Token → Bool
  | .documentStart | .documentEnd | .streamEnd => true
  | token => isDirective token

/-- What may follow the document: marks of its end, and the end of the text.  Directives belong to
a second document, which is refused when it starts. -/
def afterDocument (builder : Builder) (root : NodeId) (token : Token) : Result Builder :=
  if token = .documentEnd ∨ token = .streamEnd then .ok { builder with phase := .done root }
  else
    { builder with phase := .further root, versionSeen := false, handles := [] }.readDirective token

/-- A document without content. -/
def emptyDocument (builder : Builder) (token : Token) : Result Builder := do
  let (root, builder) ← builder.addNode {} .missing
  builder.afterDocument root token

/-- A token inside the document. -/
def inDocument (builder : Builder) (token : Token) : Result Builder := do
  let builder ← { builder with phase := .content }.settle token
  match builder.phase with
  | .done root => builder.afterDocument root token
  | _ => builder.consume token

/-- One token more. -/
def step (builder : Builder) (token : Token) : Result Builder :=
  match builder.phase with
  | .start =>
      if token = .streamEnd then builder.emptyDocument token
      else if token = .documentStart ∨ isDirective token then builder.openDocument token
      else builder.inDocument token
  | .directives => builder.openDocument token
  | .opened =>
      if endsDocument token then builder.emptyDocument token else builder.inDocument token
  | .content => builder.inDocument token
  | .done root => builder.afterDocument root token
  | .further _ => builder.readDirective token

/-- How many collections are open, each inside the one before. -/
def depth (builder : Builder) : Nat :=
  builder.frames.countP Frame.isCollection

/-- One token more, unless it opens a collection for which there is no room inside the others. -/
def stepWithin (room : Nat) (builder : Builder) (token : Token) : Result Builder := do
  let builder ← builder.step token
  if room < builder.depth then .error (.scalar .tooDeep) else .ok builder

end Builder

/-- The nodes that tokens spell, and the number of the root.  There is room for so many collections
inside each other.  A fault behind the tokens counts only when nothing is wrong with the tokens. -/
def nodesOf (room : Nat) (tokens : List Token) (fault : Option Fault) : Result (Graph × NodeId) := do
  let builder ← tokens.foldlM (Builder.stepWithin room) {}
  match fault, builder.phase with
  | some fault, _ => .error fault
  | none, .done root => return (builder.graph, root)
  | none, _ => broken "expected the end of the document"

end Canopen.Yaml
