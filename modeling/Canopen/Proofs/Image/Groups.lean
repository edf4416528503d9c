import Mathlib.Data.List.Induction
import Mathlib.Data.List.Nodup
import Canopen.Image.Basic

/-!
# Storage groups

Groups grow by uses: a name and the members that are put under it.  After any uses there is one group
for each name, in the order of first use, and it holds all members put under its name.
-/

namespace Canopen.Image

/-! ## Names without repetition -/

theorem eraseDups_concat (names : List String) (name : String) :
    (names ++ [name]).eraseDups =
      if name ∈ names then names.eraseDups else names.eraseDups ++ [name] := by
  rw [List.eraseDups_append]
  by_cases known : name ∈ names
  · have gone : [name].removeAll names = [] := by simp [List.removeAll, known]
    rw [gone, if_pos known, List.eraseDups_nil, List.append_nil]
  · have kept : [name].removeAll names = [name] := by simp [List.removeAll, known]
    rw [kept, if_neg known]
    rfl

theorem eraseDups_filter_beq (name : String) (names : List String) :
    names.eraseDups.filter (· == name) = if name ∈ names then [name] else [] := by
  induction names using List.reverseRecOn with
  | nil => rfl
  | append_singleton names last ih =>
      rw [eraseDups_concat]
      by_cases known : last ∈ names
      · rw [if_pos known, ih]
        by_cases same : last = name
        · simp [← same, known]
        · simp [Ne.symm same]
      · rw [if_neg known, List.filter_append, ih]
        by_cases same : last = name
        · simp [← same, known]
        · simp [same, Ne.symm same]

theorem nodup_eraseDups (names : List String) : names.eraseDups.Nodup := by
  induction names using List.reverseRecOn with
  | nil => exact List.nodup_nil
  | append_singleton names last ih =>
      rw [eraseDups_concat]
      split
      · exact ih
      · next fresh =>
        refine List.nodup_append.2 ⟨ih, List.nodup_singleton last, fun name known other same => ?_⟩
        rw [List.mem_singleton.1 same]
        rintro rfl
        exact fresh (List.mem_eraseDups.1 known)

/-- Different names make different things, if nothing is made of two names. -/
theorem nodup_map_of_injective {α β γ : Type} {make : γ → β}
    (injective : Function.Injective make) {name : α → γ} {list : List α}
    (different : (list.map name).Nodup) : (list.map fun item => make (name item)).Nodup := by
  have again := different.map injective
  rwa [List.map_map] at again

/-- Different names still differ behind one front. -/
theorem nodup_map_front {α : Type} {name : α → String} {list : List α} (front : String)
    (different : (list.map name).Nodup) : (list.map fun item => front ++ name item).Nodup :=
  nodup_map_of_injective (fun _ _ => (String.append_right_inj _).1) different

theorem eraseDups_filter (keep : String → Bool) :
    ∀ names : List String, (names.filter keep).eraseDups = names.eraseDups.filter keep
  | [] => rfl
  | name :: rest => by
      have shorter : (rest.filter fun other => !other == name).length < rest.length + 1 :=
        Nat.lt_succ_of_le (List.length_filter_le _ _)
      have others := eraseDups_filter keep (rest.filter fun other => !other == name)
      rw [List.eraseDups_cons]
      by_cases kept : keep name = true
      · rw [List.filter_cons_of_pos kept, List.filter_cons_of_pos kept, List.eraseDups_cons,
          ← others, List.filter_filter, List.filter_filter]
        simp only [Bool.and_comm]
      · have gone : (rest.filter fun other => !other == name).filter keep = rest.filter keep := by
          rw [List.filter_filter]
          refine List.filter_congr fun other _ => ?_
          by_cases same : other = name
          · simp [same, kept]
          · simp [same]
        rw [List.filter_cons_of_neg kept, List.filter_cons_of_neg kept, ← others, gone]
termination_by names => names.length

/-! ## Uses -/

/-- A name and the members that are put under it. -/
abbrev Use := String × List StorageField

/-- The members that uses put under a name, in order. -/
def fieldsUnder (name : String) (uses : List Use) : List StorageField :=
  (uses.filter (·.1 == name)).flatMap (·.2)

/-- The groups that uses make, in the order of first use. -/
def groupsFrom (uses : List Use) : List StorageGroup :=
  (uses.map (·.1)).eraseDups.map fun name => { name, fields := fieldsUnder name uses }

/-- Members put at the end of a group, which is registered if need be. -/
def gather (name : String) (fields : List StorageField) (groups : List StorageGroup) :
    List StorageGroup :=
  appendFields name fields (withGroup name groups)

theorem appendFields_nil (name : String) (groups : List StorageGroup) :
    appendFields name [] groups = groups := by
  unfold appendFields
  conv => rhs; rw [← List.map_id groups]
  refine List.map_congr_left fun group _ => ?_
  split
  · rw [List.append_nil]
    rfl
  · rfl

theorem withGroup_withGroup (name : String) (groups : List StorageGroup) :
    withGroup name (withGroup name groups) = withGroup name groups := by
  by_cases known : groups.any (·.name == name) = true
  · simp only [withGroup, known, ↓reduceIte]
  · simp [withGroup, known]

theorem fieldsUnder_concat (name : String) (uses : List Use) (use : Use) :
    fieldsUnder name (uses ++ [use]) =
      if use.1 = name then fieldsUnder name uses ++ use.2 else fieldsUnder name uses := by
  unfold fieldsUnder
  by_cases same : use.1 = name
  · simp [List.filter_append, same]
  · simp [List.filter_append, same]

/-- Nothing is put under a name that is not used. -/
theorem fieldsUnder_of_not_mem {name : String} {uses : List Use}
    (unused : name ∉ uses.map (·.1)) : fieldsUnder name uses = [] := by
  have none : uses.filter (·.1 == name) = [] := by
    refine List.filter_eq_nil_iff.2 fun use member same => unused ?_
    exact List.mem_map.2 ⟨use, member, eq_of_beq same⟩
  rw [fieldsUnder, none, List.flatMap_nil]

theorem any_groupsFrom (name : String) (uses : List Use) :
    (groupsFrom uses).any (·.name == name) = true ↔ name ∈ uses.map (·.1) := by
  rw [groupsFrom, List.any_map, List.any_eq_true]
  constructor
  · rintro ⟨other, member, same⟩
    exact eq_of_beq same ▸ List.mem_eraseDups.1 member
  · intro used
    exact ⟨name, List.mem_eraseDups.2 used, beq_self_eq_true name⟩

theorem withGroup_groupsFrom (name : String) (uses : List Use) :
    withGroup name (groupsFrom uses) =
      (uses.map (·.1) ++ [name]).eraseDups.map fun name =>
        { name, fields := fieldsUnder name uses } := by
  rw [withGroup, eraseDups_concat]
  by_cases used : name ∈ uses.map (·.1)
  · rw [if_pos ((any_groupsFrom name uses).2 used), if_pos used, groupsFrom]
  · have fresh := (any_groupsFrom name uses).not.2 used
    rw [if_neg fresh, if_neg used, List.map_append, List.map_singleton,
      fieldsUnder_of_not_mem used, groupsFrom]

/-- The groups after one use more. -/
theorem gather_groupsFrom (uses : List Use) (use : Use) :
    gather use.1 use.2 (groupsFrom uses) = groupsFrom (uses ++ [use]) := by
  rw [gather, withGroup_groupsFrom, appendFields, List.map_map, groupsFrom, List.map_append,
    List.map_singleton]
  refine List.map_congr_left fun name _ => ?_
  rw [fieldsUnder_concat]
  by_cases same : use.1 = name
  · simp [same]
  · simp [same, Ne.symm same]

end Canopen.Image
