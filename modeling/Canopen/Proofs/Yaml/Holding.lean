import Canopen.Yaml.Contents

/-!
# Nodes that hold values

Where collections lead to later nodes only, a node holds the value that is spelled below it: without
tags and aliases, this is what the nodes of a text are like.
-/

namespace Canopen.Yaml

/-- A field of a mapping: the nodes of its key and of its value, and what they hold. -/
structure Entry where
  key : NodeId
  value : NodeId
  name : String
  held : Value

namespace Entry

def pair (entry : Entry) : NodePair :=
  (entry.key, entry.value)

def field (entry : Entry) : Value × Value :=
  (.text entry.name, entry.held)

/-- The entries with one more; what is under a name that is already there is replaced in place. -/
def put (entry : Entry) : List Entry → List Entry
  | [] => [entry]
  | present :: rest =>
      if entry.name = present.name then
        { present with value := entry.value, held := entry.held } :: rest
      else present :: entry.put rest

/-- Entries in the order in which their names first appear, each with its last value. -/
def settled (entries : List Entry) : List Entry :=
  entries.foldl (fun present entry => entry.put present) []

/-- What is told of the keys and of the values of entries. -/
def Each (keyed : NodeId → String → Prop) (valued : NodeId → Value → Prop)
    (entries : List Entry) : Prop :=
  ∀ entry ∈ entries, keyed entry.key entry.name ∧ valued entry.value entry.held

variable {keyed : NodeId → String → Prop} {valued : NodeId → Value → Prop}
  {entries present : List Entry} {entry : Entry}

theorem Each.put (present : Each keyed valued entries) (key : keyed entry.key entry.name)
    (value : valued entry.value entry.held) : Each keyed valued (entry.put entries) := by
  induction entries with
  | nil => exact List.forall_mem_singleton.2 ⟨key, value⟩
  | cons first rest ih =>
      rw [Each, List.forall_mem_cons] at present
      unfold Entry.put
      split
      · exact List.forall_mem_cons.2 ⟨⟨present.1.1, value⟩, present.2⟩
      · exact List.forall_mem_cons.2 ⟨present.1, ih present.2⟩

theorem Each.foldl_put (before : Each keyed valued present) (each : Each keyed valued entries) :
    Each keyed valued (entries.foldl (fun present entry => entry.put present) present) := by
  induction entries generalizing present with
  | nil => exact before
  | cons entry rest ih =>
      rw [Each, List.forall_mem_cons] at each
      exact ih (before.put each.1.1 each.1.2) each.2

theorem Each.settled (each : Each keyed valued entries) : Each keyed valued (settled entries) :=
  Each.foldl_put nofun each

theorem map_field_put (entry : Entry) (entries : List Entry) :
    (entry.put entries).map field =
      Value.putField (.text entry.name) entry.held (entries.map field) := by
  induction entries with
  | nil => rfl
  | cons first rest ih =>
      have same : (Value.text entry.name).sameKey (.text first.name) =
          decide (entry.name = first.name) := rfl
      rw [List.map_cons, field, Value.putField, same, Entry.put]
      by_cases equal : entry.name = first.name
      · rw [if_pos equal, if_pos (decide_eq_true equal)]
        rfl
      · rw [if_neg equal, if_neg (by rwa [decide_eq_true_eq]), ← ih]
        rfl

/-- The fields of a mapping are its entries when they are settled. -/
theorem map_field_settled (entries : List Entry) :
    (settled entries).map field = Value.ofFields (entries.map field) := by
  suffices from_ : ∀ present : List Entry,
      (entries.foldl (fun present entry => entry.put present) present).map field =
        (entries.map field).foldl (fun present field => Value.putField field.1 field.2 present)
          (present.map field) from from_ []
  intro present
  induction entries generalizing present with
  | nil => rfl
  | cons entry rest ih =>
      rw [List.foldl_cons, ih, map_field_put]
      rfl

end Entry

namespace Graph

/-- The nodes that are there stay as they are, those among the given ones at least. -/
def Agrees (among : NodeId → Prop) (graph after : Graph) : Prop :=
  graph.size ≤ after.size ∧ ∀ id < graph.size, among id → after.node id = graph.node id

/-- All nodes that are there stay as they are. -/
abbrev Keeps (graph after : Graph) : Prop :=
  Agrees (fun _ => True) graph after

/-- The key of an entry is a text behind its mapping. -/
structure HasKey (graph : Graph) (id : NodeId) (entry : Entry) : Prop where
  node : graph.node entry.key = .scalar .text entry.name
  behind : id < entry.key
  known : entry.key < graph.size

/-- The value is spelled below a node. -/
inductive Holds (graph : Graph) : NodeId → Value → Prop where
  | scalar {id : NodeId} {tag : Tag} {text : String} {value : Value} (known : id < graph.size)
      (node : graph.node id = .scalar tag text) (kind : isScalarTag tag = true)
      (spelled : scalarValue tag text = .ok value) : Holds graph id value
  | list {id : NodeId} {parts : List (NodeId × Value)} (known : id < graph.size)
      (node : graph.node id = .sequence .sequence (parts.map (·.1)))
      (behind : ∀ part ∈ parts, id < part.1)
      (each : ∀ part ∈ parts, Holds graph part.1 part.2) :
      Holds graph id (.list (parts.map (·.2)))
  | map {id : NodeId} {entries : List Entry} (known : id < graph.size)
      (node : graph.node id = .mapping .mapping (entries.map Entry.pair))
      (keys : ∀ entry ∈ entries, graph.HasKey id entry)
      (behind : ∀ entry ∈ entries, id < entry.value)
      (each : ∀ entry ∈ entries, Holds graph entry.value entry.held) :
      Holds graph id (.map (Value.ofFields (entries.map Entry.field)))

variable {among : NodeId → Prop} {graph middle after : Graph} {id : NodeId} {value : Value}

namespace Agrees

theorem trans (first : Agrees among graph middle) (second : Agrees among middle after) :
    Agrees among graph after := by
  refine ⟨Nat.le_trans first.1 second.1, fun id known inside => ?_⟩
  rw [second.2 id (Nat.lt_of_lt_of_le known first.1) inside, first.2 id known inside]

theorem mono {fewer : NodeId → Prop} (agrees : Agrees among graph after)
    (inside : ∀ id < graph.size, fewer id → among id) : Agrees fewer graph after :=
  ⟨agrees.1, fun id known few => agrees.2 id known (inside id known few)⟩

end Agrees

theorem Keeps.agrees (keeps : graph.Keeps after) : Agrees among graph after :=
  keeps.mono fun _ _ _ => trivial

theorem keeps_add (graph : Graph) (node : Node) : Keeps graph (graph.add node) := by
  refine ⟨by rw [size_add]; exact Nat.le_succ _, fun id known _ => ?_⟩
  have inside : id < graph.nodes.size := known
  simp [Graph.add, Graph.node, Array.getElem?_push, Nat.ne_of_lt inside]

theorem agrees_put (graph : Graph) (id : NodeId) (node : Node) :
    Agrees (· ≠ id) graph (graph.put id node) :=
  ⟨Nat.le_of_eq (size_put _ _ _).symm, fun _ _ other => node_put_of_ne other _⟩

/-- Only the new node is changed later. -/
theorem keeps_of_add {node : Node} (agrees : Agrees (· ≠ graph.size) (graph.add node) after) :
    Keeps graph after :=
  ((keeps_add graph node).agrees.trans agrees).mono fun _ known _ => Nat.ne_of_lt known

theorem HasKey.mono {entry : Entry} (key : graph.HasKey id entry)
    (agrees : Agrees (id < ·) graph after) : after.HasKey id entry where
  node := by rw [agrees.2 _ key.known key.behind, key.node]
  behind := key.behind
  known := Nat.lt_of_lt_of_le key.known agrees.1

namespace Holds

theorem known (holds : graph.Holds id value) : id < graph.size := by
  cases holds with
  | scalar known _ _ _ => exact known
  | list known _ _ _ => exact known
  | map known _ _ _ _ => exact known

/-- What stands in front of a node does not matter for it. -/
theorem mono (holds : graph.Holds id value) (agrees : Agrees (id ≤ ·) graph after) :
    after.Holds id value := by
  induction holds with
  | scalar known node kind spelled =>
      exact .scalar (Nat.lt_of_lt_of_le known agrees.1)
        ((agrees.2 _ known (Nat.le_refl _)).trans node) kind spelled
  | list known node behind each ih =>
      refine .list (Nat.lt_of_lt_of_le known agrees.1)
        ((agrees.2 _ known (Nat.le_refl _)).trans node) behind fun part inside => ?_
      exact ih part inside (agrees.mono fun _ _ => Nat.le_trans (Nat.le_of_lt (behind part inside)))
  | map known node keys behind each ih =>
      refine .map (Nat.lt_of_lt_of_le known agrees.1)
        ((agrees.2 _ known (Nat.le_refl _)).trans node)
        (fun entry inside => (keys entry inside).mono (agrees.mono fun _ _ => Nat.le_of_lt)) behind
        fun entry inside => ?_
      exact ih entry inside
        (agrees.mono fun _ _ => Nat.le_trans (Nat.le_of_lt (behind entry inside)))

theorem of_key {entry : Entry} (key : graph.HasKey id entry) :
    graph.Holds entry.key (.text entry.name) :=
  .scalar key.known key.node rfl rfl

/-- Lists with the same images are the same where images tell apart. -/
theorem eq_of_map_eq {α β : Type} {f : α → β} {first second : List α}
    (same : first.map f = second.map f)
    (apart : ∀ a ∈ first, ∀ b ∈ second, f a = f b → a = b) : first = second := by
  induction first generalizing second with
  | nil => exact (List.map_eq_nil_iff.1 same.symm).symm
  | cons a rest ih =>
      cases second with
      | nil => cases same
      | cons b later =>
          rw [List.map_cons, List.map_cons, List.cons.injEq] at same
          rw [apart a List.mem_cons_self b List.mem_cons_self same.1, ih same.2]
          exact fun a inside b inside' =>
            apart a (List.mem_cons_of_mem _ inside) b (List.mem_cons_of_mem _ inside')

/-- A node holds one value. -/
theorem unique {other : Value} (holds : graph.Holds id value) (holds' : graph.Holds id other) :
    value = other := by
  induction holds generalizing other with
  | scalar _ node _ spelled =>
      cases holds' with
      | scalar _ node' _ spelled' =>
          cases node.symm.trans node'
          exact Except.ok.inj (spelled.symm.trans spelled')
      | list _ node' _ _ => cases node.symm.trans node'
      | map _ node' _ _ _ => cases node.symm.trans node'
  | @list _ parts _ node _ _ ih =>
      cases holds' with
      | scalar _ node' _ _ => cases node.symm.trans node'
      | @list _ parts' _ node' _ each' =>
          have ids := (Node.sequence.inj (node.symm.trans node')).2
          have same : parts = parts' := eq_of_map_eq ids fun part inside part' inside' same =>
            Prod.ext same (ih part inside (same ▸ each' part' inside'))
          rw [same]
      | map _ node' _ _ _ => cases node.symm.trans node'
  | @map _ entries _ node keys _ _ ih =>
      cases holds' with
      | scalar _ node' _ _ => cases node.symm.trans node'
      | list _ node' _ _ => cases node.symm.trans node'
      | @map _ entries' _ node' keys' _ each' =>
          have pairs := (Node.mapping.inj (node.symm.trans node')).2
          have same : entries = entries' := by
            refine eq_of_map_eq pairs fun entry inside entry' inside' same => ?_
            obtain ⟨key, value, name, held⟩ := entry
            obtain ⟨key', value', name', held'⟩ := entry'
            obtain ⟨rfl, rfl⟩ : key = key' ∧ value = value' := Prod.mk.inj same
            have named := (keys _ inside).node.symm.trans (keys' _ inside').node
            obtain rfl : name = name' := (Node.scalar.inj named).2
            obtain rfl : held = held' := ih _ inside (each' _ inside')
            rfl
          rw [same]

end Holds

end Graph

end Canopen.Yaml
