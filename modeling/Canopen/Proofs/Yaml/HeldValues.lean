import Canopen.Proofs.Number.Numeral
import Canopen.Proofs.Yaml.HeldContents
import Canopen.Yaml.Value

/-!
# Values of nodes that hold values

The parts of a node are behind it, so going through the nodes once, the last ones first, every value
is assembled from values that are known.
-/

namespace Canopen.Yaml

/-- Whoever knows the parts knows the value. -/
theorem NodeContent.Shows.assemble {part : NodeId → Option Value} {content : NodeContent}
    {value : Value} (shows' : content.Shows (fun id value => part id = some value) value) :
    content.assemble part = some value := by
  cases shows' with
  | scalar => rfl
  | list each =>
      rw [NodeContent.assemble, List.mapM_map]
      exact congrArg (Option.map Value.list) (Number.mapM_eq_some_map each)
  | @map entries each =>
      rw [NodeContent.assemble, List.mapM_map]
      refine congrArg (Option.map Value.map) (Number.mapM_eq_some_map fun entry inside => ?_)
      obtain ⟨key, value⟩ := each entry inside
      simp only [Function.comp_apply, Entry.pair, Entry.field, key, value]
      rfl

namespace Contents

variable {graph : Graph} {contents : Contents} {values : Values} {id start : NodeId}
  {value : Value}

/-- From a node on, the values of all nodes that have been read are known. -/
def Knows (graph : Graph) (contents : Contents) (start : NodeId) (values : Values) : Prop :=
  ∀ id value, start ≤ id → (contents.content? id).isSome → graph.Holds id value →
    values.getD id none = some value

/-- A value that is known stays as it is. -/
theorem getD_assembleBelow {value : Value} (known : values.getD id none = some value)
    (below : Nat) : (contents.assembleBelow below values).getD id none = some value := by
  induction below generalizing values with
  | zero => exact known
  | succ below ih =>
      refine ih ?_
      split
      · exact known
      · next unknown =>
        have different : below ≠ id := by
          rintro rfl
          rw [known] at unknown
          exact unknown rfl
        rw [Array.getD_eq_getD_getElem?, Array.getElem?_setIfInBounds_ne different,
          ← Array.getD_eq_getD_getElem?, known]

/-- The value of a node is assembled from the values behind it. -/
theorem Complete.valueFrom_eq (complete : contents.Complete graph)
    (knows : Knows graph contents (id + 1) values) (found : (contents.content? id).isSome)
    (holds : graph.Holds id value) : contents.valueFrom values id = some value := by
  obtain ⟨content, there⟩ := Option.isSome_iff_exists.1 found
  obtain ⟨other, filled⟩ := complete.filled id content there
  cases holds.unique filled.holds
  rw [valueFrom, there]
  exact (filled.shown.mono fun part value ⟨behind, holds, found⟩ =>
    knows part value behind found holds).assemble

/-- Going through nodes without values makes all of them known. -/
theorem Complete.knows_assembleBelow (complete : contents.Complete graph) {below : Nat}
    (inside : below ≤ values.size) (none : ∀ id < below, values.getD id none = none)
    (knows : Knows graph contents below values) :
    Knows graph contents 0 (contents.assembleBelow below values) := by
  induction below generalizing values with
  | zero => exact knows
  | succ below ih =>
      have unknown : ¬ (values.getD below Option.none).isSome := by
        rw [none below (Nat.lt_succ_self _)]
        exact Bool.false_ne_true
      rw [assembleBelow, if_neg unknown]
      refine ih (by rw [Array.size_setIfInBounds]; omega) (fun id less => ?_)
        fun id value behind found holds => ?_
      · rw [Array.getD_eq_getD_getElem?, Array.getElem?_setIfInBounds_ne (Nat.ne_of_gt less),
          ← Array.getD_eq_getD_getElem?, none id (Nat.lt_succ_of_lt less)]
      · by_cases here : below = id
        · subst here
          rw [Array.getD_eq_getD_getElem?, Array.getElem?_setIfInBounds_self_of_lt inside,
            complete.valueFrom_eq knows found holds]
          rfl
        · rw [Array.getD_eq_getD_getElem?, Array.getElem?_setIfInBounds_ne here,
            ← Array.getD_eq_getD_getElem?]
          exact knows id value (Nat.lt_of_le_of_ne behind here) found holds

/-- What is known stays known. -/
theorem getD_assembleAll (rounds : Nat) (known : values.getD id none = some value) :
    (contents.assembleAll rounds values).getD id none = some value := by
  induction rounds generalizing values with
  | zero => exact known
  | succ rounds ih =>
      rw [assembleAll]
      split
      · exact known
      · exact ih (getD_assembleBelow known _)

theorem mem_of_getD (known : values.getD id none = some value) : some value ∈ values := by
  rw [Array.getD_eq_getD_getElem?] at known
  cases there : values[id]? with
  | none =>
      rw [there] at known
      cases known
  | some other =>
      rw [there] at known
      exact Array.mem_of_getElem? (there.trans (congrArg some known))

/-- When a node has been read, all values become known. -/
theorem Complete.knows_finiteValues (complete : contents.Complete graph)
    (found : (contents.content? id).isSome) (holds : graph.Holds id value) :
    Knows graph contents 0 contents.finiteValues := by
  have size : id < contents.found.size := by
    rw [complete.size]
    exact holds.known
  obtain ⟨rounds, rounds_eq⟩ : ∃ rounds, contents.found.size = rounds + 1 :=
    Nat.exists_eq_add_one_of_ne_zero (Nat.ne_zero_of_lt size)
  have outside : Knows graph contents contents.found.size
      (Array.replicate contents.found.size none) := by
    intro id value behind _ holds
    rw [complete.size] at behind
    exact absurd holds.known (Nat.not_lt.2 behind)
  have first := complete.knows_assembleBelow (Nat.le_of_eq Array.size_replicate.symm)
    (fun id _ => getD_replicate_none _ id) outside
  have more : knownCount (contents.assembleBelow contents.found.size
      (Array.replicate contents.found.size none)) ≠
        knownCount (Array.replicate contents.found.size none) := by
    have nothing : knownCount (Array.replicate contents.found.size none) = 0 := by
      rw [knownCount, Array.countP_replicate]
      rfl
    rw [nothing, ← Nat.pos_iff_ne_zero, knownCount, Array.countP_pos_iff]
    exact ⟨_, mem_of_getD (first id value (Nat.zero_le _) found holds), rfl⟩
  rw [finiteValues, rounds_eq, assembleAll, ← rounds_eq, if_neg more]
  exact fun id value _ found holds =>
    getD_assembleAll rounds (first id value (Nat.zero_le _) found holds)

theorem countP_isSome_le {first : List (Option α)} {second : List (Option β)}
    (each : ∀ i : Nat, (first[i]?.getD none).isSome → (second[i]?.getD none).isSome) :
    first.countP Option.isSome ≤ second.countP Option.isSome := by
  induction first generalizing second with
  | nil => exact Nat.zero_le _
  | cons a rest ih =>
      cases second with
      | nil =>
          have none : ¬ a.isSome := fun some => Bool.false_ne_true (each 0 some)
          rw [List.countP_cons_of_neg none]
          exact ih fun i some => each (i + 1) some
      | cons b later =>
          have behind := ih fun i some => each (i + 1) some
          rw [List.countP_cons, List.countP_cons]
          have here := each 0
          cases a <;> cases b <;> simp at here ⊢ <;> omega

/-- All values are known, so none has to be unfolded. -/
theorem Complete.values_getD (complete : contents.Complete graph)
    (found : (contents.content? id).isSome) (holds : graph.Holds id value) :
    contents.values.getD id none = some value := by
  have knows := complete.knows_finiteValues found holds
  have none_left : contents.foundCount - knownCount contents.finiteValues = 0 := by
    refine Nat.sub_eq_zero_of_le ?_
    rw [foundCount, knownCount, ← Array.countP_toList, ← Array.countP_toList]
    refine countP_isSome_le fun id some => ?_
    rw [Array.getElem?_toList, ← Array.getD_eq_getD_getElem?] at some ⊢
    obtain ⟨content, there⟩ := Option.isSome_iff_exists.1 some
    obtain ⟨value, filled⟩ := complete.filled id content there
    rw [knows id value (Nat.zero_le _) some filled.holds]
    rfl
  rw [values, none_left]
  exact knows id value (Nat.zero_le _) found holds

end Contents

/-- The value of a graph whose root holds one. -/
theorem exists_values {graph : Graph} {root : NodeId} {value : Value}
    (holds : graph.Holds root value) :
    ∃ contents, contentsOf graph root = .ok contents ∧
      contents.values.getD root none = some value := by
  obtain ⟨contents, read, complete, found⟩ := exists_contentsOf holds
  exact ⟨contents, read, complete.values_getD found holds⟩

end Canopen.Yaml
