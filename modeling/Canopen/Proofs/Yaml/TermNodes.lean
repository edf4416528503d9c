import Canopen.Proofs.Yaml.Holding
import Canopen.Proofs.Yaml.Numerals
import Canopen.Proofs.Yaml.TermTokens
import Canopen.Yaml.Node

/-!
# Nodes of a JSON text

Wherever a node is awaited, the tokens of a term become nodes that hold its value.  A collection is
a node before its parts are, so its parts are behind it.
-/

namespace Canopen.Yaml.Builder

open Json (Pieces Term Word)
open Json.Term (tokensBehindItem tokensBehindField values fieldValues)

/-- The builder of a document without directives and anchors. -/
def plain (phase : Phase) (frames : List Frame) (graph : Graph) : Builder :=
  { phase, frames, graph }

/-- The innermost collection awaits a node. -/
inductive Awaits : List Frame → Prop where
  | root : Awaits []
  | item {id : NodeId} {items : List NodeId} {outer : List Frame} :
      Awaits (.flowSequence id items false :: outer)
  | value {id key : NodeId} {pairs : List NodePair} {outer : List Frame} :
      Awaits (.flowMapping id pairs (.value key) :: outer)

/-- The document has not come to its end. -/
def Goes (phase : Phase) : Prop :=
  phase = .start ∨ phase = .content

/-! ## Steps -/

variable {room : Nat} {phase : Phase} {frames outer : List Frame} {graph : Graph} {id : NodeId}

/-- A node that goes into a collection opens no other one. -/
theorem length_frames_deliver {builder after : Builder} {node : NodeId}
    (delivered : builder.deliver node = .ok after) :
    after.frames.length ≤ builder.frames.length := by
  unfold deliver at delivered
  split at delivered
  · next empty =>
    cases delivered
    rw [empty]
  all_goals
    next open_ =>
    rw [open_]
    repeat' split at delivered
    all_goals cases delivered <;> simp [within]

/-- Where there are not many collections, there is room for all of them. -/
theorem stepWithin_eq {builder : Builder} {token : Token} {result : Result Builder}
    (steps : builder.step token = result)
    (shallow : ∀ after, result = .ok after → after.frames.length ≤ room) :
    builder.stepWithin room token = result := by
  rw [stepWithin, steps]
  cases result with
  | error fault => rfl
  | ok after => exact if_neg (Nat.not_lt.2 (List.countP_le_length.trans (shallow after rfl)))

theorem foldlM_within {builder after : Builder} {token : Token}
    (steps : builder.stepWithin room token = .ok after) (later : List Token) :
    (token :: later).foldlM (stepWithin room) builder = later.foldlM (stepWithin room) after := by
  rw [List.foldlM_cons, steps]
  rfl

section Steps

variable (graph : Graph) (goes : Goes phase) (awaits : Awaits frames)
include goes awaits

theorem step_plain (text : String) (shallow : frames.length ≤ room) :
    (plain phase frames graph).stepWithin room (.scalar .plain text) =
      (plain .content frames (graph.add (.scalar (.ofPlain text) text))).deliver graph.size := by
  refine stepWithin_eq ?_ fun after delivered => (length_frames_deliver delivered).trans shallow
  rcases goes with rfl | rfl <;> cases awaits <;> rfl

theorem step_quoted (text : String) (shallow : frames.length ≤ room) :
    (plain phase frames graph).stepWithin room (.scalar .quoted text) =
      (plain .content frames (graph.add (.scalar .text text))).deliver graph.size := by
  refine stepWithin_eq ?_ fun after delivered => (length_frames_deliver delivered).trans shallow
  rcases goes with rfl | rfl <;> cases awaits <;> rfl

theorem step_openSequence (shallow : frames.length < room) :
    (plain phase frames graph).stepWithin room .flowSequenceStart =
      .ok (plain .content (.flowSequence graph.size [] false :: frames)
        (graph.add (.sequence .sequence []))) := by
  refine stepWithin_eq ?_ fun after opened => ?_
  · rcases goes with rfl | rfl <;> cases awaits <;> rfl
  · cases opened
    exact shallow

theorem step_openMapping (shallow : frames.length < room) :
    (plain phase frames graph).stepWithin room .flowMappingStart =
      .ok (plain .content (.flowMapping graph.size [] .entry :: frames)
        (graph.add (.mapping .mapping []))) := by
  refine stepWithin_eq ?_ fun after opened => ?_
  · rcases goes with rfl | rfl <;> cases awaits <;> rfl
  · cases opened
    exact shallow

end Steps

theorem step_comma (items : List NodeId) (shallow : outer.length < room) :
    (plain .content (.flowSequence id items true :: outer) graph).stepWithin room .flowEntry =
      .ok (plain .content (.flowSequence id items false :: outer) graph) := by
  refine stepWithin_eq rfl fun after stepped => ?_
  cases stepped
  exact shallow

theorem step_next (pairs : List NodePair) (shallow : outer.length < room) :
    (plain .content (.flowMapping id pairs .entryDone :: outer) graph).stepWithin room .flowEntry =
      .ok (plain .content (.flowMapping id pairs .entry :: outer) graph) := by
  refine stepWithin_eq rfl fun after stepped => ?_
  cases stepped
  exact shallow

/-- A key and its colon. -/
theorem steps_key (pairs : List NodePair) (name : String) (later : List Token)
    (shallow : outer.length < room) :
    (.key :: .scalar .quoted name :: .value :: later).foldlM (stepWithin room)
        (plain .content (.flowMapping id pairs .entry :: outer) graph) =
      later.foldlM (stepWithin room)
        (plain .content (.flowMapping id pairs (.value graph.size) :: outer)
          (graph.add (.scalar .text name))) := by
  have within {builder after : Builder} {token : Token} (steps : builder.step token = .ok after)
      (open_ : after.frames.length = outer.length + 1) :
      builder.stepWithin room token = .ok after := by
    refine stepWithin_eq steps fun other same => ?_
    cases same
    exact open_ ▸ shallow
  have mark : (plain .content (.flowMapping id pairs .entry :: outer) graph).stepWithin room .key =
      .ok (plain .content (.flowMapping id pairs .key :: outer) graph) := within rfl rfl
  have named : (plain .content (.flowMapping id pairs .key :: outer) graph).stepWithin room
        (.scalar .quoted name) =
      .ok (plain .content (.flowMapping id pairs (.keyDone graph.size) :: outer)
        (graph.add (.scalar .text name))) := within rfl rfl
  have colon : (plain .content (.flowMapping id pairs (.keyDone graph.size) :: outer)
        (graph.add (.scalar .text name))).stepWithin room .value =
      .ok (plain .content (.flowMapping id pairs (.value graph.size) :: outer)
        (graph.add (.scalar .text name))) := within rfl rfl
  rw [foldlM_within mark, foldlM_within named, foldlM_within colon]

/-! ## Values -/

/-- Wherever a node is awaited, a value with so many levels becomes one. -/
def Builds (room levels : Nat) (term : Term) : Prop :=
  ∀ (phase : Phase) (frames : List Frame) (graph : Graph), Goes phase → Awaits frames →
    frames.length + levels ≤ room →
      ∃ after, term.tokens.foldlM (stepWithin room) (plain phase frames graph) =
          (plain .content frames after).deliver graph.size ∧
        graph.Keeps after ∧ after.Holds graph.size term.value

/-- A scalar is one node. -/
theorem holds_scalar {tag : Tag} {text : String} {value : Value} (kind : isScalarTag tag = true)
    (spelled : scalarValue tag text = .ok value) :
    (graph.add (.scalar tag text)).Holds graph.size value := by
  refine .scalar ?_ (Graph.node_add_self _ _) kind spelled
  rw [Graph.size_add]
  exact Nat.lt_succ_self _

theorem builds_word {levels : Nat} {scalar : Word} (portable : scalar.Portable) :
    Builds room levels (.word scalar) := by
  intro phase frames graph goes awaits shallow
  obtain ⟨kind, spelled⟩ := scalar.scalarValue_text portable
  refine ⟨_, ?_, Graph.keeps_add _ _, holds_scalar kind spelled⟩
  rw [Term.tokens, List.foldlM_cons, step_plain graph goes awaits _ (by omega)]
  exact bind_pure _

theorem builds_string (levels : Nat) (pieces : Pieces) : Builds room levels (.string pieces) := by
  intro phase frames graph goes awaits shallow
  have text : (graph.add (.scalar .text pieces.string)).Holds graph.size (.text pieces.string) :=
    holds_scalar rfl rfl
  rw [Term.tokens, Term.value, List.foldlM_cons, step_quoted graph goes awaits _ (by omega)]
  exact ⟨_, bind_pure _, Graph.keeps_add _ _, text⟩

/-! ## Lists -/

/-- The parts of a list that is not closed yet hold values. -/
structure HoldsParts (graph : Graph) (id : NodeId) (parts : List (NodeId × Value)) : Prop where
  known : id < graph.size
  tag : (graph.node id).tag = .sequence
  behind : ∀ part ∈ parts, id < part.1
  each : ∀ part ∈ parts, graph.Holds part.1 part.2

namespace HoldsParts

variable {parts : List (NodeId × Value)}

theorem empty (graph : Graph) :
    HoldsParts (graph.add (.sequence .sequence [])) graph.size [] where
  known := by
    rw [Graph.size_add]
    exact Nat.lt_succ_self _
  tag := by rw [Graph.node_add_self, Node.tag]
  behind := nofun
  each := nofun

theorem append (holds : HoldsParts graph id parts) {after : Graph} {value : Value}
    (keeps : graph.Keeps after) (new : after.Holds graph.size value) :
    HoldsParts after id (parts ++ [(graph.size, value)]) where
  known := Nat.lt_of_lt_of_le holds.known keeps.1
  tag := by rw [keeps.2 _ holds.known trivial, holds.tag]
  behind := by
    rw [List.forall_mem_append, List.forall_mem_singleton]
    exact ⟨holds.behind, holds.known⟩
  each := by
    rw [List.forall_mem_append, List.forall_mem_singleton]
    exact ⟨fun part inside => (holds.each part inside).mono keeps.agrees, new⟩

theorem close (holds : HoldsParts graph id parts) :
    (graph.put id (.sequence (graph.node id).tag (parts.map (·.1)))).Holds id
      (.list (parts.map (·.2))) := by
  refine .list (by rw [Graph.size_put]; exact holds.known) ?_ holds.behind fun part inside => ?_
  · rw [Graph.node_put_self holds.known, holds.tag]
  · exact (holds.each part inside).mono
      ((Graph.agrees_put graph id _).mono fun _ _ behind =>
        Nat.ne_of_gt (Nat.lt_of_lt_of_le (holds.behind part inside) behind))

end HoldsParts

/-- The bracket behind the parts closes the list. -/
theorem builds_closeSequence (outer : List Frame) {parts : List (NodeId × Value)}
    (holds : HoldsParts graph id parts) (itemDone : Bool) (shallow : outer.length ≤ room) :
    ∃ after, [.flowSequenceEnd].foldlM (stepWithin room)
          (plain .content (.flowSequence id (parts.map (·.1)).reverse itemDone :: outer) graph) =
        (plain .content outer after).deliver id ∧
      Graph.Agrees (· ≠ id) graph after ∧ after.Holds id (.list (parts.map (·.2))) := by
  have closes (items : List NodeId) :
      (plain .content (.flowSequence id items itemDone :: outer) graph).stepWithin room
          .flowSequenceEnd =
        (plain .content outer
          (graph.put id (.sequence (graph.node id).tag items.reverse))).deliver id :=
    stepWithin_eq rfl fun after delivered => (length_frames_deliver delivered).trans shallow
  refine ⟨_, ?_, Graph.agrees_put _ _ _, holds.close⟩
  rw [List.foldlM_cons, closes, List.reverse_reverse]
  exact bind_pure _

/-- In a list with these parts, the tokens behind a part close it. -/
theorem builds_behindItem {levels : Nat} {items : List Term}
    (each : ∀ item ∈ items, Builds room levels item) {parts : List (NodeId × Value)}
    (holds : HoldsParts graph id parts) (shallow : outer.length + (levels + 1) ≤ room) :
    ∃ after, (tokensBehindItem items).foldlM (stepWithin room)
          (plain .content (.flowSequence id (parts.map (·.1)).reverse true :: outer) graph) =
        (plain .content outer after).deliver id ∧
      Graph.Agrees (· ≠ id) graph after ∧
      after.Holds id (.list (parts.map (·.2) ++ values items)) := by
  induction items generalizing graph parts with
  | nil =>
      rw [tokensBehindItem, values, List.append_nil]
      exact builds_closeSequence outer holds true (by omega)
  | cons item later ih =>
      obtain ⟨middle, built, keeps, new⟩ := each item List.mem_cons_self .content
        (.flowSequence id (parts.map (·.1)).reverse false :: outer) graph (.inr rfl) .item
        (by rw [List.length_cons]; omega)
      obtain ⟨after, closed, agrees, held⟩ := ih
        (fun other inside => each other (List.mem_cons_of_mem _ inside)) (holds.append keeps new)
      refine ⟨after, ?_, keeps.agrees.trans agrees, ?_⟩
      · rw [tokensBehindItem, List.foldlM_cons, step_comma _ (by omega)]
        change (item.tokens ++ tokensBehindItem later).foldlM (stepWithin room) _ = _
        rw [List.foldlM_append, built, ← closed, List.map_append, List.reverse_append]
        rfl
      · rw [List.map_append, List.append_assoc] at held
        rw [values]
        exact held

theorem builds_list {levels : Nat} {items : List Term}
    (each : ∀ item ∈ items, Builds room levels item) : Builds room (levels + 1) (.list items) := by
  intro phase frames graph goes awaits shallow
  have inside : frames.length < room := by omega
  have opens := step_openSequence graph goes awaits inside
  have empty := HoldsParts.empty graph
  cases items with
  | nil =>
      obtain ⟨after, closed, agrees, held⟩ := builds_closeSequence frames empty false inside.le
      refine ⟨after, ?_, Graph.keeps_of_add agrees, held⟩
      rw [Term.tokens, List.foldlM_cons, opens]
      exact closed
  | cons item later =>
      obtain ⟨middle, built, keeps, new⟩ := each item List.mem_cons_self .content
        (.flowSequence graph.size [] false :: frames) (graph.add (.sequence .sequence []))
        (.inr rfl) .item (by rw [List.length_cons]; omega)
      obtain ⟨after, closed, agrees, held⟩ := builds_behindItem
        (fun other inside => each other (List.mem_cons_of_mem _ inside)) (empty.append keeps new)
        shallow
      refine ⟨after, ?_, Graph.keeps_of_add (keeps.agrees.trans agrees), ?_⟩
      · rw [Term.tokens, List.foldlM_cons, opens]
        change (item.tokens ++ tokensBehindItem later).foldlM (stepWithin room) _ = _
        rw [List.foldlM_append, built, ← closed]
        rfl
      · rw [Term.value, values]
        exact held

/-! ## Mappings -/

/-- The entries of a mapping that is not closed yet hold values. -/
structure HoldsEntries (graph : Graph) (id : NodeId) (entries : List Entry) : Prop where
  known : id < graph.size
  tag : (graph.node id).tag = .mapping
  keys : ∀ entry ∈ entries, graph.HasKey id entry
  behind : ∀ entry ∈ entries, id < entry.value
  each : ∀ entry ∈ entries, graph.Holds entry.value entry.held

namespace HoldsEntries

variable {entries : List Entry}

theorem empty (graph : Graph) :
    HoldsEntries (graph.add (.mapping .mapping [])) graph.size [] where
  known := by
    rw [Graph.size_add]
    exact Nat.lt_succ_self _
  tag := by rw [Graph.node_add_self, Node.tag]
  keys := nofun
  behind := nofun
  each := nofun

theorem append (holds : HoldsEntries graph id entries) {after : Graph} {entry : Entry}
    (keeps : graph.Keeps after) (key : after.HasKey id entry) (behind : id < entry.value)
    (new : after.Holds entry.value entry.held) : HoldsEntries after id (entries ++ [entry]) where
  known := Nat.lt_of_lt_of_le holds.known keeps.1
  tag := by rw [keeps.2 _ holds.known trivial, holds.tag]
  keys := by
    rw [List.forall_mem_append, List.forall_mem_singleton]
    exact ⟨fun entry inside => (holds.keys entry inside).mono keeps.agrees, key⟩
  behind := by
    rw [List.forall_mem_append, List.forall_mem_singleton]
    exact ⟨holds.behind, behind⟩
  each := by
    rw [List.forall_mem_append, List.forall_mem_singleton]
    exact ⟨fun entry inside => (holds.each entry inside).mono keeps.agrees, new⟩

theorem close (holds : HoldsEntries graph id entries) :
    (graph.put id (.mapping (graph.node id).tag (entries.map Entry.pair))).Holds id
      (.map (Value.ofFields (entries.map Entry.field))) := by
  have agrees := Graph.agrees_put graph id (.mapping (graph.node id).tag (entries.map Entry.pair))
  refine .map (by rw [Graph.size_put]; exact holds.known) ?_ (fun entry inside => ?_) holds.behind
    fun entry inside => ?_
  · rw [Graph.node_put_self holds.known, holds.tag]
  · exact (holds.keys entry inside).mono (agrees.mono fun _ _ => Nat.ne_of_gt)
  · exact (holds.each entry inside).mono (agrees.mono fun _ _ behind =>
      Nat.ne_of_gt (Nat.lt_of_lt_of_le (holds.behind entry inside) behind))

end HoldsEntries

/-- The bracket behind the entries closes the mapping. -/
theorem builds_closeMapping (outer : List Frame) {entries : List Entry}
    (holds : HoldsEntries graph id entries) {slot : MappingSlot}
    (between : slot = .entry ∨ slot = .entryDone) (shallow : outer.length ≤ room) :
    ∃ after, [.flowMappingEnd].foldlM (stepWithin room)
          (plain .content (.flowMapping id (entries.map Entry.pair).reverse slot :: outer) graph) =
        (plain .content outer after).deliver id ∧
      Graph.Agrees (· ≠ id) graph after ∧
      after.Holds id (.map (Value.ofFields (entries.map Entry.field))) := by
  have closes (pairs : List NodePair) :
      (plain .content (.flowMapping id pairs slot :: outer) graph).stepWithin room
          .flowMappingEnd =
        (plain .content outer
          (graph.put id (.mapping (graph.node id).tag pairs.reverse))).deliver id := by
    refine stepWithin_eq ?_ fun after delivered => (length_frames_deliver delivered).trans shallow
    rcases between with rfl | rfl <;> rfl
  refine ⟨_, ?_, Graph.agrees_put _ _ _, holds.close⟩
  rw [List.foldlM_cons, closes, List.reverse_reverse]
  exact bind_pure _

/-- A key and its value become one entry more. -/
theorem builds_field {levels : Nat} (name : String) {value : Term}
    (builds : Builds room levels value) {entries : List Entry}
    (holds : HoldsEntries graph id entries)
    (shallow : outer.length + (levels + 1) ≤ room) :
    ∃ after entry, (∀ later,
        (.key :: .scalar .quoted name :: .value :: (value.tokens ++ later)).foldlM (stepWithin room)
          (plain .content
            (.flowMapping id (entries.map Entry.pair).reverse .entry :: outer) graph) =
        later.foldlM (stepWithin room) (plain .content
          (.flowMapping id ((entries ++ [entry]).map Entry.pair).reverse .entryDone :: outer)
            after)) ∧
      graph.Keeps after ∧ HoldsEntries after id (entries ++ [entry]) ∧
      entry.field = (.text name, value.value) := by
  have keyed := Graph.keeps_add graph (.scalar .text name)
  obtain ⟨after, built, keeps, new⟩ := builds .content
    (.flowMapping id (entries.map Entry.pair).reverse (.value graph.size) :: outer)
    (graph.add (.scalar .text name)) (.inr rfl) .value (by rw [List.length_cons]; omega)
  have all : graph.Keeps after := keyed.trans keeps
  have known : graph.size < (graph.add (.scalar .text name)).size := by
    rw [Graph.size_add]
    exact Nat.lt_succ_self _
  have key : after.node graph.size = .scalar .text name := by
    rw [keeps.2 _ known trivial, Graph.node_add_self]
  refine ⟨after, ⟨graph.size, _, name, value.value⟩, fun later => ?_, all,
    holds.append all ⟨key, holds.known, Nat.lt_of_lt_of_le known keeps.1⟩
      (Nat.lt_trans holds.known known) new, rfl⟩
  rw [steps_key _ _ _ (by omega), List.foldlM_append, built, List.map_append, List.reverse_append]
  rfl

/-- In a mapping with these entries, the tokens behind an entry close it. -/
theorem builds_behindField {levels : Nat} {fields : List (Pieces × Term)}
    (each : ∀ field ∈ fields, Builds room levels field.2) {entries : List Entry}
    (holds : HoldsEntries graph id entries)
    (shallow : outer.length + (levels + 1) ≤ room) :
    ∃ after, (tokensBehindField fields).foldlM (stepWithin room)
          (plain .content (.flowMapping id (entries.map Entry.pair).reverse .entryDone :: outer)
            graph) =
        (plain .content outer after).deliver id ∧
      Graph.Agrees (· ≠ id) graph after ∧
      after.Holds id (.map (Value.ofFields (entries.map Entry.field ++ fieldValues fields))) := by
  induction fields generalizing graph entries with
  | nil =>
      rw [tokensBehindField, fieldValues, List.append_nil]
      exact builds_closeMapping outer holds (.inr rfl) (by omega)
  | cons field later ih =>
      obtain ⟨key, value⟩ := field
      obtain ⟨middle, entry, built, keeps, held, spelled⟩ := builds_field key.string
        (each (key, value) List.mem_cons_self) holds shallow
      obtain ⟨after, closed, agrees, held⟩ := ih
        (fun other inside => each other (List.mem_cons_of_mem _ inside)) held
      refine ⟨after, ?_, keeps.agrees.trans agrees, ?_⟩
      · rw [tokensBehindField, foldlM_within (step_next _ (by omega)), ← closed, ← built]
      · rw [List.map_append, List.append_assoc, List.map_singleton, spelled] at held
        rw [fieldValues]
        exact held

theorem builds_map {levels : Nat} {fields : List (Pieces × Term)}
    (each : ∀ field ∈ fields, Builds room levels field.2) :
    Builds room (levels + 1) (.map fields) := by
  intro phase frames graph goes awaits shallow
  have inside : frames.length < room := by omega
  have opens := step_openMapping graph goes awaits inside
  have empty := HoldsEntries.empty graph
  cases fields with
  | nil =>
      obtain ⟨after, closed, agrees, held⟩ := builds_closeMapping frames empty (.inl rfl) inside.le
      refine ⟨after, ?_, Graph.keeps_of_add agrees, held⟩
      rw [Term.tokens, List.foldlM_cons, opens]
      exact closed
  | cons field later =>
      obtain ⟨key, value⟩ := field
      obtain ⟨middle, entry, built, keeps, held, spelled⟩ := builds_field key.string
        (each (key, value) List.mem_cons_self) empty shallow
      obtain ⟨after, closed, agrees, held⟩ := builds_behindField
        (fun other inside => each other (List.mem_cons_of_mem _ inside)) held shallow
      refine ⟨after, ?_, Graph.keeps_of_add (keeps.agrees.trans agrees), ?_⟩
      · rw [Term.tokens, List.foldlM_cons, opens, ← closed, ← built]
        rfl
      · rw [List.map_append, List.map_singleton, spelled] at held
        rw [Term.value, fieldValues]
        exact held

/-- Every portable value becomes a node. -/
theorem builds_of_portable {levels : Nat} {term : Term} (portable : term.Portable levels) :
    Builds room levels term := by
  induction portable with
  | word portable => exact builds_word portable
  | string portable => exact builds_string _ _
  | list portable each => exact builds_list each
  | map keys portable each => exact builds_map each

/-- The nodes of a text that is one portable value. -/
theorem exists_nodesOf {term : Term} (portable : term.Portable room) :
    ∃ graph, nodesOf room (term.tokens ++ [.streamEnd]) none = .ok (graph, 0) ∧
      graph.Holds 0 term.value := by
  obtain ⟨graph, built, -, holds⟩ := builds_of_portable portable .start [] {} (.inl rfl) .root
    (Nat.le_of_eq (Nat.zero_add _))
  refine ⟨graph, ?_, holds⟩
  rw [nodesOf, List.foldlM_append]
  change (term.tokens.foldlM (stepWithin room) (plain .start [] {}) >>= _) >>= _ = _
  rw [built]
  rfl

end Canopen.Yaml.Builder
