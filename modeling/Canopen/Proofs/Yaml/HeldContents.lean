import Canopen.Proofs.Yaml.Holding

/-!
# Contents of nodes that hold values

When every node holds a value, all nodes below the root are read.  A collection waits until it is
filled, and since its parts are behind it, the nodes that wait move on by one in every round.
-/

namespace Canopen.Yaml

/-- The content shows a value through the values of its parts. -/
inductive NodeContent.Shows (part : NodeId → Value → Prop) : NodeContent → Value → Prop where
  | scalar {value : Value} {origin : NodeId} : Shows part (.scalar value origin) value
  | list {parts : List (NodeId × Value)} (each : ∀ item ∈ parts, part item.1 item.2) :
      Shows part (.list (parts.map (·.1))) (.list (parts.map (·.2)))
  | map {entries : List Entry}
      (each : Entry.Each (fun key name => part key (.text name)) part entries) :
      Shows part (.map (entries.map Entry.pair)) (.map (entries.map Entry.field))

theorem NodeContent.Shows.mono {part further : NodeId → Value → Prop} {content : NodeContent}
    {value : Value} (shows' : content.Shows part value)
    (each : ∀ id value, part id value → further id value) : content.Shows further value := by
  cases shows' with
  | scalar => exact .scalar
  | list parts => exact .list fun item inside => each _ _ (parts item inside)
  | map entries =>
      exact .map fun entry inside =>
        ⟨each _ _ (entries entry inside).1, each _ _ (entries entry inside).2⟩

namespace Contents

variable {graph : Graph} {contents after : Contents} {filling : List NodeId} {id : NodeId}
  {value : Value}

/-- A part of a node has been read. -/
def Part (graph : Graph) (contents : Contents) (id part : NodeId) (value : Value) : Prop :=
  id < part ∧ graph.Holds part value ∧ (contents.content? part).isSome

/-- The content of a node shows the value that it holds. -/
structure Filled (graph : Graph) (contents : Contents) (id : NodeId) (content : NodeContent)
    (value : Value) : Prop where
  holds : graph.Holds id value
  shown : content.Shows (Part graph contents id) value
  /-- A text is a thing of its own. -/
  own : ∀ name origin, content = .scalar (.text name) origin → origin = id

/-- The node of a collection. -/
structure Collects (graph : Graph) (id : NodeId) : Prop where
  holds : ∃ value, graph.Holds id value
  collection : emptyOf? (graph.node id).tag ≠ none

/-- What has been read is filled, or will be: it is under way, or it waits. -/
structure Sound (graph : Graph) (filling : List NodeId) (contents : Contents) : Prop where
  same : contents.graph = graph
  size : contents.found.size = graph.size
  read : ∀ id content, contents.content? id = some content →
    (∃ value, Filled graph contents id content value) ∨
      (Collects graph id ∧ (id ∈ filling ∨ id ∈ contents.waiting))
  waits : ∀ id, id ∈ filling ∨ id ∈ contents.waiting → Collects graph id

/-- The nodes have been visited. -/
structure Visits (ids : List NodeId) (contents after : Contents) : Prop where
  kept : ∀ id content, contents.content? id = some content → after.content? id = some content
  found : ∀ id ∈ ids, (after.content? id).isSome
  waiting : ∀ id ∈ after.waiting, id ∈ contents.waiting ∨ id ∈ ids

theorem Filled.mono {content : NodeContent} (filled : Filled graph contents id content value)
    (kept : ∀ id, (contents.content? id).isSome → (after.content? id).isSome) :
    Filled graph after id content value where
  holds := filled.holds
  shown := filled.shown.mono fun _ _ part => ⟨part.1, part.2.1, kept _ part.2.2⟩
  own := filled.own

namespace Visits

theorem refl (contents : Contents) : Visits [] contents contents :=
  ⟨fun _ _ found => found, nofun, fun _ waits => .inl waits⟩

theorem isSome {ids : List NodeId} (visits : Visits ids contents after) (id : NodeId)
    (found : (contents.content? id).isSome) : (after.content? id).isSome := by
  obtain ⟨content, found⟩ := Option.isSome_iff_exists.1 found
  rw [visits.kept id content found]
  rfl

theorem append {first second : List NodeId} {middle : Contents}
    (visits : Visits first contents middle) (later : Visits second middle after) :
    Visits (first ++ second) contents after where
  kept id content found := later.kept id content (visits.kept id content found)
  found := List.forall_mem_append.2 ⟨fun id inside => later.isSome id (visits.found id inside),
    later.found⟩
  waiting id waits := by
    rw [List.mem_append]
    rcases later.waiting id waits with before | inside
    · rcases visits.waiting id before with before | inside
      · exact .inl before
      · exact .inr (.inl inside)
    · exact .inr (.inr inside)

end Visits

/-! ## Contents that are put -/

theorem content?_put_self (inside : id < contents.found.size) (content : NodeContent) :
    (contents.put id content).content? id = some content := by
  simp [put, content?, inside]

theorem content?_put_of_ne {other : NodeId} (different : other ≠ id) (content : NodeContent) :
    (contents.put id content).content? other = contents.content? other := by
  simp [put, content?, different.symm]

theorem isSome_put {other : NodeId} (content : NodeContent)
    (found : (contents.content? other).isSome) :
    ((contents.put id content).content? other).isSome := by
  by_cases here : other = id
  · subst here
    have inside : other < contents.found.size := by
      refine Nat.lt_of_not_le fun outside => ?_
      simp [content?, Nat.not_lt.2 outside] at found
    rw [content?_put_self inside]
    rfl
  · rwa [content?_put_of_ne here]

/-- A node that is not read yet is visited. -/
theorem visits_put (fresh : contents.content? id = none) (inside : id < contents.found.size)
    (content : NodeContent) : Visits [id] contents (contents.put id content) where
  kept other found there := by
    rw [content?_put_of_ne, there]
    rintro rfl
    rw [fresh] at there
    cases there
  found := List.forall_mem_singleton.2 (by rw [content?_put_self inside]; rfl)
  waiting _ waits := .inl waits

/-- A content that is filled may be put. -/
theorem Sound.put {content : NodeContent} (filled : Filled graph contents id content value)
    (sound : contents.Sound graph filling) {still : List NodeId}
    (fewer : ∀ other ∈ still, other ∈ filling)
    (others : ∀ other ∈ filling, other ≠ id → other ∈ still) :
    (contents.put id content).Sound graph still where
  same := sound.same
  size := by rw [← sound.size, Contents.put, Array.size_setIfInBounds]
  read other found there := by
    by_cases here : other = id
    · subst here
      have inside : other < contents.found.size := by
        rw [sound.size]
        exact filled.holds.known
      rw [content?_put_self inside] at there
      cases there
      exact .inl ⟨value, filled.mono fun _ => isSome_put _⟩
    · rw [content?_put_of_ne here] at there
      rcases sound.read other found there with ⟨value, filled⟩ | ⟨collects, under | waits⟩
      · exact .inl ⟨value, filled.mono fun _ => isSome_put _⟩
      · exact .inr ⟨collects, .inl (others other under here)⟩
      · exact .inr ⟨collects, .inr waits⟩
  waits other pending := sound.waits other (pending.imp_left (fewer other))

/-! ## Visits -/

/-- A scalar is filled at once. -/
theorem exists_readScalar {tag : Tag} {text : String} (known : id < graph.size)
    (node : graph.node id = .scalar tag text) (kind : isScalarTag tag = true)
    (spelled : scalarValue tag text = .ok value) (contents : Contents) :
    ∃ content, readScalar graph id = .ok content ∧ Filled graph contents id content value := by
  refine ⟨.scalar value (originOf graph id tag text), ?_, .scalar known node kind spelled, .scalar,
    ?_⟩
  · have own : graph.text id = .ok text := by rw [Graph.text, Graph.textFrom, node]
    rw [readScalar, node]
    simp only [Node.tag, kind, own, spelled, bind, Except.bind, Bool.not_true,
      Bool.false_eq_true, if_false]
    rfl
  · intro name origin same
    cases same
    rw [originOf, if_neg]
    rintro ⟨rfl, _⟩
    cases text' : floatValue text.toList with
    | ok float =>
      rw [scalarValue, text'] at spelled
      cases spelled
    | error fault =>
      rw [scalarValue, text'] at spelled
      cases spelled

/-- A collection that is not read yet waits. -/
theorem Sound.await (sound : contents.Sound graph filling) (collects : Collects graph id)
    (fresh : contents.content? id = none) (empty : NodeContent) :
    { contents.put id empty with waiting := id :: contents.waiting }.Sound graph filling where
  same := sound.same
  size := by rw [← sound.size, Contents.put, Array.size_setIfInBounds]
  read other found there := by
    change (contents.put id empty).content? other = some found at there
    by_cases here : other = id
    · subst here
      exact .inr ⟨collects, .inr List.mem_cons_self⟩
    · rw [content?_put_of_ne here] at there
      rcases sound.read other found there with ⟨value, filled⟩ | ⟨collects, under | waits⟩
      · exact .inl ⟨value, filled.mono fun _ => isSome_put empty⟩
      · exact .inr ⟨collects, .inl under⟩
      · exact .inr ⟨collects, .inr (List.mem_cons_of_mem _ waits)⟩
  waits other pending := by
    rcases pending with under | waits
    · exact sound.waits other (.inl under)
    · rcases List.mem_cons.1 waits with rfl | waits
      · exact collects
      · exact sound.waits other (.inr waits)

/-- A node is visited, whether it has been read or not. -/
theorem exists_visit (sound : contents.Sound graph filling) (holds : graph.Holds id value) :
    ∃ after, contents.visit id = .ok after ∧ after.Sound graph filling ∧
      Visits [id] contents after := by
  unfold visit
  cases there : contents.content? id with
  | some content =>
      refine ⟨contents, rfl, sound, fun _ _ found => found, ?_, fun _ waits => .inl waits⟩
      exact List.forall_mem_singleton.2 (by rw [there]; rfl)
  | none =>
      have inside : id < contents.found.size := by
        rw [sound.size]
        exact holds.known
      rw [sound.same]
      cases kind : emptyOf? (graph.node id).tag with
      | none =>
          cases holds with
          | scalar known node kind spelled =>
              obtain ⟨content, read, filled⟩ := exists_readScalar known node kind spelled contents
              rw [read]
              exact ⟨contents.put id content, rfl,
                sound.put filled (fun _ under => under) fun _ under _ => under,
                visits_put there inside content⟩
          | list _ node _ _ =>
              rw [node] at kind
              cases kind
          | map _ node _ _ _ =>
              rw [node] at kind
              cases kind
      | some empty =>
          have collects : Collects graph id := ⟨⟨_, holds⟩, by rw [kind]; nofun⟩
          have visits := visits_put there inside empty
          refine ⟨_, rfl, sound.await collects there empty, visits.kept, visits.found,
            fun other waits => ?_⟩
          rcases List.mem_cons.1 waits with rfl | waits
          · exact .inr (List.mem_singleton.2 rfl)
          · exact .inl waits

theorem exists_foldlM_visit {ids : List NodeId} (sound : contents.Sound graph filling)
    (each : ∀ id ∈ ids, ∃ value, graph.Holds id value) :
    ∃ after, ids.foldlM visit contents = .ok after ∧ after.Sound graph filling ∧
      Visits ids contents after := by
  induction ids generalizing contents with
  | nil => exact ⟨contents, rfl, sound, .refl contents⟩
  | cons id rest ih =>
      rw [List.forall_mem_cons] at each
      obtain ⟨value, holds⟩ := each.1
      obtain ⟨middle, visit, sound, visits⟩ := exists_visit sound holds
      obtain ⟨after, others, sound, later⟩ := ih sound each.2
      refine ⟨after, ?_, sound, visits.append later⟩
      rw [List.foldlM_cons, visit]
      exact others

/-! ## Keys -/

/-- The key of an entry has been read. -/
def KeyRead (contents : Contents) (key : NodeId) (name : String) : Prop :=
  contents.content? key = some (.scalar (.text name) key)

theorem sameKey_eq {key other : NodeId} {name present : String} (read : KeyRead contents key name)
    (read' : KeyRead contents other present) :
    contents.sameKey key other = decide (name = present) := by
  rw [KeyRead] at read read'
  rw [sameKey, read, read']
  have texts : (Value.text name).sameKey (.text present) = decide (name = present) := rfl
  dsimp only
  rw [texts, Bool.or_eq_right_iff_imp]
  intro same
  obtain rfl : key = other := of_decide_eq_true same
  rw [read, Option.some.injEq, NodeContent.scalar.injEq, Value.text.injEq] at read'
  exact decide_eq_true read'.1

/-- Fields are put as their entries are. -/
theorem putField_map_pair {entry : Entry} {entries : List Entry}
    (read : KeyRead contents entry.key entry.name)
    (present : Entry.Each (KeyRead contents) (fun _ _ => True) entries) :
    contents.putField entry.key entry.value (entries.map Entry.pair) =
      (entry.put entries).map Entry.pair := by
  induction entries with
  | nil => rfl
  | cons first rest ih =>
      rw [Entry.Each, List.forall_mem_cons] at present
      rw [List.map_cons, Entry.pair, putField, sameKey_eq read present.1.1, Entry.put]
      by_cases equal : entry.name = first.name
      · rw [if_pos equal, if_pos (decide_eq_true equal)]
        rfl
      · rw [if_neg equal, if_neg (by rwa [decide_eq_true_eq]), ih present.2]
        rfl

/-- A key that has been found has been read. -/
theorem Sound.keyRead (sound : contents.Sound graph filling) {entry : Entry}
    (key : graph.HasKey id entry) (found : (contents.content? entry.key).isSome) :
    KeyRead contents entry.key entry.name := by
  obtain ⟨content, there⟩ := Option.isSome_iff_exists.1 found
  rcases sound.read _ _ there with ⟨value, filled⟩ | ⟨collects, _⟩
  · cases filled.holds.unique (.of_key key)
    have own := filled.own
    cases filled.shown with
    | scalar => rw [KeyRead, there, own _ _ rfl]
  · have kind := collects.collection
    rw [key.node] at kind
    exact absurd rfl kind

/-- A key and its value are visited, and the field is put. -/
theorem exists_visitField {entry : Entry} {present : List Entry}
    (sound : contents.Sound graph filling) (key : graph.HasKey id entry)
    (holds : graph.Holds entry.value entry.held)
    (before : Entry.Each (KeyRead contents) (fun _ _ => True) present) :
    ∃ after, visitField (contents, present.map Entry.pair) entry.pair =
        .ok (after, (entry.put present).map Entry.pair) ∧
      after.Sound graph filling ∧ Visits [entry.key, entry.value] contents after ∧
      Entry.Each (KeyRead after) (fun _ _ => True) (entry.put present) := by
  obtain ⟨middle, first, sound, visits⟩ := exists_visit sound (.of_key key)
  obtain ⟨after, second, sound', later⟩ := exists_visit sound holds
  have visits := visits.append later
  have read : KeyRead middle entry.key entry.name :=
    sound.keyRead key (‹Visits [entry.key] _ _›.found _ List.mem_cons_self)
  have kept : KeyRead after entry.key entry.name := later.kept _ _ read
  have before' : Entry.Each (KeyRead after) (fun _ _ => True) present :=
    fun other inside => ⟨visits.kept _ _ (before other inside).1, trivial⟩
  refine ⟨after, ?_, sound', visits, before'.put kept trivial⟩
  have isKey : middle.isKey entry.key = true := by rw [Contents.isKey, read]
  rw [← putField_map_pair kept before', visitField, Entry.pair, first]
  simp only [bind, Except.bind, isKey, if_true, second]
  rfl

theorem exists_foldlM_visitField {entries : List Entry} (present : List Entry)
    (sound : contents.Sound graph filling) (keys : ∀ entry ∈ entries, graph.HasKey id entry)
    (each : ∀ entry ∈ entries, graph.Holds entry.value entry.held)
    (before : Entry.Each (KeyRead contents) (fun _ _ => True) present) :
    ∃ after, (entries.map Entry.pair).foldlM visitField (contents, present.map Entry.pair) =
        .ok (after,
          (entries.foldl (fun present entry => entry.put present) present).map Entry.pair) ∧
      after.Sound graph filling ∧
      Visits (entries.flatMap fun entry => [entry.key, entry.value]) contents after := by
  induction entries generalizing contents present with
  | nil => exact ⟨contents, rfl, sound, .refl contents⟩
  | cons entry rest ih =>
      rw [List.forall_mem_cons] at keys each
      obtain ⟨middle, visit, sound, visits, before⟩ :=
        exists_visitField sound keys.1 each.1 before
      obtain ⟨after, others, sound, later⟩ :=
        ih (entry.put present) sound keys.2 each.2 before
      refine ⟨after, ?_, sound, visits.append later⟩
      rw [List.map_cons, List.foldlM_cons, visit, List.foldl_cons, ← others]
      rfl

/-! ## Mappings without merge keys -/

theorem put_node (graph : Graph) (id : NodeId) : graph.put id (graph.node id) = graph := by
  have same : graph.nodes.setIfInBounds id (graph.nodes.getD id .missing) = graph.nodes := by
    refine Array.ext_getElem? fun other => ?_
    rw [Array.getElem?_setIfInBounds]
    split
    · next here =>
      subst here
      split
      · next inside => simp [inside]
      · next outside => simp [outside]
    · rfl
  exact congrArg Graph.mk same

variable {pairs : List NodePair}

theorem takeMerge?_eq_none (keys : ∀ pair ∈ pairs, (graph.node pair.1).tag = .text) :
    graph.takeMerge? pairs = none := by
  induction pairs with
  | nil => rfl
  | cons pair rest ih =>
      rw [List.forall_mem_cons] at keys
      rw [Graph.takeMerge?, keys.1, if_neg nofun, ih keys.2]
      rfl

theorem settleDefaults_eq (keys : ∀ pair ∈ pairs, (graph.node pair.1).tag = .text) :
    graph.settleDefaults pairs = graph := by
  rw [Graph.settleDefaults]
  induction pairs with
  | nil => rfl
  | cons pair rest ih =>
      rw [List.forall_mem_cons] at keys
      rw [List.foldl_cons]
      simp only [keys.1]
      exact ih keys.2

/-- A mapping whose keys are texts is as it was. -/
theorem mergeFrom_eq (node : graph.node id = .mapping .mapping pairs)
    (keys : ∀ pair ∈ pairs, (graph.node pair.1).tag = .text) (steps : Nat) :
    Graph.mergeFrom (steps + 1) id [] graph = .ok graph := by
  rw [Graph.mergeFrom, node]
  dsimp only
  rw [takeMerge?_eq_none keys, List.nil_append, ← node, put_node, settleDefaults_eq keys]

/-! ## Collections -/

/-- Collections under way have been filled, and what waits then is behind one of them. -/
structure Fills (graph : Graph) (ids filling : List NodeId) (contents after : Contents) : Prop where
  sound : after.Sound graph filling
  kept : ∀ other, (contents.content? other).isSome → (after.content? other).isSome
  behind : ∀ other ∈ after.waiting, other ∈ contents.waiting ∨ ∃ id ∈ ids, id < other

/-- After visits to its parts, a collection may be filled. -/
theorem fills_put {visited : List NodeId} (visits : Visits visited contents after)
    (sound : after.Sound graph (id :: filling)) {content : NodeContent}
    (filled : Filled graph after id content value) (behind : ∀ other ∈ visited, id < other) :
    Fills graph [id] filling contents (after.put id content) where
  sound := sound.put filled (fun _ => List.mem_cons_of_mem _)
    fun _ inside here => (List.mem_cons.1 inside).resolve_left here
  kept other found := isSome_put _ (visits.isSome other found)
  behind other waits := (visits.waiting other waits).imp_right fun inside =>
    ⟨id, List.mem_singleton.2 rfl, behind other inside⟩

theorem exists_fill_list {parts : List (NodeId × Value)}
    (sound : contents.Sound graph (id :: filling))
    (holds : graph.Holds id (.list (parts.map (·.2))))
    (node : graph.node id = .sequence .sequence (parts.map (·.1)))
    (behind : ∀ part ∈ parts, id < part.1) (each : ∀ part ∈ parts, graph.Holds part.1 part.2) :
    ∃ after, contents.fill id = .ok after ∧ Fills graph [id] filling contents after := by
  have held : ∀ id ∈ parts.map (·.1), ∃ value, graph.Holds id value :=
    List.forall_mem_map.2 fun part inside => ⟨_, each part inside⟩
  obtain ⟨middle, visit, sound', visits⟩ := exists_foldlM_visit sound held
  have filled : Filled graph middle id (.list (parts.map (·.1))) (.list (parts.map (·.2))) := {
    holds
    shown := .list fun part inside => ⟨behind part inside, each part inside,
      visits.found _ (List.mem_map_of_mem inside)⟩
    own := nofun }
  refine ⟨_, ?_, fills_put visits sound' filled (List.forall_mem_map.2 behind)⟩
  rw [fill, sound.same, node]
  dsimp only [Node.tag]
  rw [visit]
  rfl

theorem exists_visitFields {entries : List Entry} (sound : contents.Sound graph filling)
    (node : graph.node id = .mapping .mapping (entries.map Entry.pair))
    (keys : ∀ entry ∈ entries, graph.HasKey id entry)
    (each : ∀ entry ∈ entries, graph.Holds entry.value entry.held) :
    ∃ after, contents.visitFields id = .ok (after, (Entry.settled entries).map Entry.pair) ∧
      after.Sound graph filling ∧
      Visits (entries.flatMap fun entry => [entry.key, entry.value]) contents after := by
  obtain ⟨after, visit, sound', visits⟩ := exists_foldlM_visitField [] sound keys each nofun
  have texts : ∀ pair ∈ entries.map Entry.pair, (graph.node pair.1).tag = .text :=
    List.forall_mem_map.2 fun entry inside => by
      rw [Entry.pair, (keys entry inside).node, Node.tag]
  have merged := mergeFrom_eq node texts contents.pairCount
  have pairs : (graph.pairs? id).getD [] = entries.map Entry.pair := by
    rw [Graph.pairs?, node]
    rfl
  have same : { contents with graph } = contents := by rw [← sound.same]
  refine ⟨after, ?_, sound', visits⟩
  rw [visitFields, sound.same, merged]
  change ((graph.pairs? id).getD []).foldlM visitField ({ contents with graph }, []) = _
  rw [pairs, same]
  exact visit

theorem exists_fill_map {entries : List Entry} (sound : contents.Sound graph (id :: filling))
    (holds : graph.Holds id (.map (Value.ofFields (entries.map Entry.field))))
    (node : graph.node id = .mapping .mapping (entries.map Entry.pair))
    (keys : ∀ entry ∈ entries, graph.HasKey id entry)
    (behind : ∀ entry ∈ entries, id < entry.value)
    (each : ∀ entry ∈ entries, graph.Holds entry.value entry.held) :
    ∃ after, contents.fill id = .ok after ∧ Fills graph [id] filling contents after := by
  obtain ⟨middle, visit, sound', visits⟩ := exists_visitFields sound node keys each
  have filled : Filled graph middle id (.map ((Entry.settled entries).map Entry.pair))
      (.map (Value.ofFields (entries.map Entry.field))) := {
    holds
    shown := by
      rw [← Entry.map_field_settled]
      refine .map (Entry.Each.settled fun entry inside => ?_)
      have found := List.forall_mem_flatMap.1 visits.found entry inside
      exact ⟨⟨(keys entry inside).behind, .of_key (keys entry inside),
          found _ List.mem_cons_self⟩,
        behind entry inside, each entry inside,
          found _ (List.mem_cons_of_mem _ List.mem_cons_self)⟩
    own := nofun }
  refine ⟨_, ?_, fills_put visits sound' filled (List.forall_mem_flatMap.2 fun entry inside => ?_)⟩
  · rw [fill, sound.same, node]
    dsimp only [Node.tag]
    rw [visit]
    rfl
  · rw [List.forall_mem_cons, List.forall_mem_singleton]
    exact ⟨(keys entry inside).behind, behind entry inside⟩

/-- A collection under way is filled. -/
theorem exists_fill (sound : contents.Sound graph (id :: filling)) :
    ∃ after, contents.fill id = .ok after ∧ Fills graph [id] filling contents after := by
  have collects := sound.waits id (.inl List.mem_cons_self)
  obtain ⟨value, holds⟩ := collects.holds
  have whole := holds
  cases holds with
  | @scalar _ tag _ _ _ node kind _ =>
      have single : emptyOf? tag = none := by cases tag <;> first | rfl | cases kind
      have collection := collects.collection
      rw [node] at collection
      exact absurd single collection
  | list _ node behind each => exact exists_fill_list sound whole node behind each
  | map _ node keys behind each => exact exists_fill_map sound whole node keys behind each

theorem exists_foldlM_fill {filling : List NodeId} (sound : contents.Sound graph filling) :
    ∃ after, filling.foldlM fill contents = .ok after ∧ Fills graph filling [] contents after := by
  induction filling generalizing contents with
  | nil => exact ⟨contents, rfl, sound, fun _ found => found, fun _ waits => .inl waits⟩
  | cons id rest ih =>
      obtain ⟨middle, first, fills⟩ := exists_fill sound
      obtain ⟨after, others, later⟩ := ih fills.sound
      refine ⟨after, ?_, later.sound, fun other found => later.kept other (fills.kept other found),
        fun other waiting => ?_⟩
      · rw [List.foldlM_cons, first]
        exact others
      · rcases later.behind other waiting with before | ⟨further, inside, less⟩
        · refine (fills.behind other before).imp_right ?_
          rintro ⟨further, inside, less⟩
          exact ⟨further, List.mem_cons.2 (.inl (List.mem_singleton.1 inside)), less⟩
        · exact .inr ⟨further, List.mem_cons_of_mem _ inside, less⟩

/-- Everything that has been read is filled. -/
structure Complete (graph : Graph) (contents : Contents) : Prop where
  size : contents.found.size = graph.size
  filled : ∀ id content, contents.content? id = some content →
    ∃ value, Filled graph contents id content value

theorem Sound.complete (sound : contents.Sound graph []) (none : contents.waiting = []) :
    contents.Complete graph where
  size := sound.size
  filled id content there := by
    rcases sound.read id content there with filled | ⟨_, under | waits⟩
    · exact filled
    · cases under
    · rw [none] at waits
      cases waits

/-- What waits is behind, and there are enough rounds to come to the end of the nodes. -/
theorem exists_fillAll {rounds : Nat} (sound : contents.Sound graph [])
    (enough : ∀ id ∈ contents.waiting, graph.size < id + rounds) :
    ∃ after, fillAll rounds contents = .ok after ∧ after.Complete graph ∧
      ∀ other, (contents.content? other).isSome → (after.content? other).isSome := by
  induction rounds generalizing contents with
  | zero =>
      have none : contents.waiting = [] := by
        refine List.eq_nil_iff_forall_not_mem.2 fun id waits => ?_
        obtain ⟨value, holds⟩ := (sound.waits id (.inr waits)).holds
        exact Nat.lt_asymm holds.known (enough id waits)
      exact ⟨contents, rfl, sound.complete none, fun _ found => found⟩
  | succ rounds ih =>
      rw [fillAll]
      split
      · next none => exact ⟨contents, rfl, sound.complete none, fun _ found => found⟩
      · have start : { contents with waiting := [] }.Sound graph contents.waiting.reverse := {
          same := sound.same
          size := sound.size
          read := fun id content there => by
            rcases sound.read id content there with ⟨value, filled⟩ | ⟨collects, pending⟩
            · exact .inl ⟨value, filled.mono fun _ found => found⟩
            · exact .inr ⟨collects, .inl (List.mem_reverse.2 (pending.resolve_left nofun))⟩
          waits := fun id pending =>
            sound.waits id (.inr (List.mem_reverse.1 (pending.resolve_right nofun))) }
        obtain ⟨middle, filled, fills⟩ := exists_foldlM_fill start
        have further : ∀ id ∈ middle.waiting, graph.size < id + rounds := by
          intro id waiting
          obtain ⟨before, inside, less⟩ := (fills.behind id waiting).resolve_left nofun
          calc graph.size < before + (rounds + 1) := enough before (List.mem_reverse.1 inside)
            _ = before + 1 + rounds := Nat.add_right_comm before rounds 1
            _ ≤ id + rounds := Nat.add_le_add_right less rounds
        obtain ⟨after, filled', complete, kept⟩ := ih fills.sound further
        refine ⟨after, ?_, complete, fun other found => kept other (fills.kept other found)⟩
        rw [filled]
        exact filled'

end Contents

theorem getD_replicate_none {α : Type} (size id : Nat) :
    (Array.replicate size (none : Option α)).getD id none = none := by
  rw [Array.getD_eq_getD_getElem?, Array.getElem?_replicate]
  split <;> rfl

/-- From a node that holds a value, all contents are read. -/
theorem exists_contentsOf {graph : Graph} {root : NodeId} {value : Value}
    (holds : graph.Holds root value) :
    ∃ contents, contentsOf graph root = .ok contents ∧ contents.Complete graph ∧
      (contents.content? root).isSome := by
  have start : Contents.Sound graph []
      { graph, found := Array.replicate graph.size none, pairCount := graph.pairCount } := {
    same := rfl
    size := Array.size_replicate
    read := fun id content there => by
      rw [Contents.content?, getD_replicate_none] at there
      cases there
    waits := nofun }
  obtain ⟨first, visit, sound, visits⟩ := Contents.exists_visit start holds
  have enough : ∀ id ∈ first.waiting, graph.size < id + (graph.size + 1) := fun id _ => by omega
  obtain ⟨after, filled, complete, kept⟩ := Contents.exists_fillAll sound enough
  refine ⟨after, ?_, complete, kept root (visits.found root List.mem_cons_self)⟩
  rw [contentsOf, visit]
  exact filled

end Canopen.Yaml
