import Canopen.Proofs.Compile.Run
import Canopen.Proofs.Order
import Canopen.Source.Body

/-!
# Entries are compiled independently

The image of a dictionary is joined from the images of its two parts when it is cut at an index, and
neither the order of the objects nor the disabled ones have any influence on it.
-/

namespace Canopen

namespace Image

/-- The members of a group, none if it is not there. -/
def fieldsOf (image : Image) (name : String) : List StorageField :=
  ((image.group? name).map (·.fields)).getD []

/-- A shortcut to a row that stands behind so many others. -/
def laterShortcut (rows : Nat) (shortcut : Shortcut) : Shortcut :=
  { shortcut with position := rows + shortcut.position }

/-- One image holds what two others hold: lists one after the other, positions moved by the rows
that come before, counters added up, and groups in the order of their first use. -/
structure Joined (low high whole : Image) : Prop where
  objects : whole.objects = low.objects ++ high.objects
  extensions : whole.extensions = low.extensions ++ high.extensions
  rows : whole.rows = low.rows ++ high.rows
  warnings : whole.warnings = low.warnings ++ high.warnings
  shortcuts :
    whole.shortcuts = low.shortcuts ++ high.shortcuts.map (laterShortcut low.rows.length)
  longShortcuts :
    whole.longShortcuts =
      low.longShortcuts ++ high.longShortcuts.map (laterShortcut low.rows.length)
  counters :
    ∀ label count, (label, count) ∈ whole.counters ↔
      0 < count ∧ count = low.countOf label + high.countOf label
  labels : whole.counters.Pairwise (·.1 < ·.1)
  groups :
    whole.groups =
      (low.groups.map fun group =>
        { group with fields := group.fields ++ high.fieldsOf group.name }) ++
      high.groups.filter fun group => group.name ∉ low.groups.map (·.name)

end Image

namespace Compile

variable (lengths : StringLengths)

/-! ## Groups of two lists of entries -/

theorem fieldsIn_append (name : String) (earlier later : List Entry) :
    fieldsIn lengths name (earlier ++ later) =
      fieldsIn lengths name earlier ++ fieldsIn lengths name later := by
  rw [fieldsIn, List.filter_append, List.flatMap_append]
  rfl

/-- The members of a group of an image are those that its entries put there. -/
theorem fieldsOf_imageOf (image : String) (warnings : List String) (entries : List Entry)
    (name : String) :
    (imageOf lengths image warnings entries).fieldsOf name = fieldsIn lengths name entries := by
  unfold Image.fieldsOf Image.group?
  cases found : (imageOf lengths image warnings entries).groups.find? (·.name == name) with
  | none =>
      have unused : name ∉ entries.map (·.storageLocation) := by
        intro used
        have known := (any_groupsOf lengths name entries).2 used
        obtain ⟨group, member, same⟩ := List.any_eq_true.1 known
        exact List.find?_eq_none.1 found group member same
      exact (fieldsIn_of_not_mem lengths unused).symm
  | some group =>
      obtain ⟨other, _, rfl⟩ := List.mem_map.1 (List.mem_of_find?_eq_some found)
      have same := List.find?_some found
      rw [← eq_of_beq same]
      rfl

/-- The groups of two lists of entries: those of the first with the members of both, then those
that only the second one uses. -/
theorem groupsOf_append (earlier later : List Entry) :
    groupsOf lengths (earlier ++ later) =
      ((groupsOf lengths earlier).map fun group =>
        { group with fields := group.fields ++ fieldsIn lengths group.name later }) ++
      (groupsOf lengths later).filter fun group =>
        group.name ∉ (groupsOf lengths earlier).map (·.name) := by
  let isNew (name : String) : Bool := name ∉ (groupsOf lengths earlier).map (·.name)
  have unused {name : String} (new : isNew name = true) :
      name ∉ earlier.map (·.storageLocation) := by
    have absent := of_decide_eq_true new
    rwa [map_name_groupsOf, List.mem_eraseDups] at absent
  have fresh : ((later.map (·.storageLocation)).removeAll
      (earlier.map (·.storageLocation))).eraseDups =
      (later.map (·.storageLocation)).eraseDups.filter isNew := by
    rw [List.removeAll, Image.eraseDups_filter]
    refine List.filter_congr fun name _ => ?_
    rw [List.elem_eq_mem, ← decide_not]
    refine decide_eq_decide.2 (not_congr ?_)
    rw [map_name_groupsOf, List.mem_eraseDups]
  have both := filter_groupsOf lengths isNew later
  rw [groupsOf, List.map_append, List.eraseDups_append, List.map_append, fresh]
  refine congrArg₂ (· ++ ·) ?_ (Eq.trans ?_ both.symm)
  · rw [groupsOf, List.map_map]
    exact List.map_congr_left fun name _ => by simp [fieldsIn_append]
  · refine List.map_congr_left fun name member => ?_
    have absent := unused (List.mem_filter.1 member).2
    rw [fieldsIn_append, fieldsIn_of_not_mem lengths absent, List.nil_append]

/-- Shortcuts to rows that stand behind others are moved by as many positions. -/
theorem mapIdx_append_later (link : Nat → Row → Shortcut) (earlier later : List Row)
    (moved : ∀ count position row,
      link (count + position) row = Image.laterShortcut count (link position row)) :
    (earlier ++ later).mapIdx link =
      earlier.mapIdx link ++ (later.mapIdx link).map (Image.laterShortcut earlier.length) := by
  rw [List.mapIdx_append]
  congr 1
  refine List.ext_getElem? fun position => ?_
  rw [List.getElem?_map, List.getElem?_mapIdx, List.getElem?_mapIdx, Option.map_map]
  congr 1
  funext row
  rw [Nat.add_comm]
  exact moved earlier.length position row

/-- The image of two lists of entries is joined from their images. -/
theorem imageOf_append_joined (name : String) (earlier later : List Entry) :
    Image.Joined (imageOf lengths name [] earlier) (imageOf lengths name [] later)
      (imageOf lengths name [] (earlier ++ later)) where
  objects := List.flatMap_append
  extensions := List.flatMap_append
  rows := List.flatMap_append
  warnings := List.flatMap_append
  shortcuts := by
    simp only [imageOf, List.flatMap_append]
    exact mapIdx_append_later Image.shortcutTo _ _ fun _ _ _ => rfl
  longShortcuts := by
    simp only [imageOf, List.flatMap_append]
    exact mapIdx_append_later Image.longShortcutTo _ _ fun _ _ _ => rfl
  counters label count := by
    rw [(imageOf_tally lengths name [] earlier).countOf_eq,
      (imageOf_tally lengths name [] later).countOf_eq,
      (imageOf_tally lengths name [] (earlier ++ later)).mem_iff, List.flatMap_append,
      List.count_append]
  labels := (imageOf_tally lengths name [] (earlier ++ later)).ascending
  groups := by
    have joined := groupsOf_append lengths earlier later
    simp only [fieldsOf_imageOf]
    exact joined

end Compile

namespace Dictionary

/-- Cutting a dictionary at an index and joining the images of both parts gives its image. -/
theorem compile_joined (dictionary : Dictionary) (lengths : StringLengths) (name : Option String)
    (threshold : Int) :
    Image.Joined ((dictionary.below threshold).compile lengths name)
      ((dictionary.notBelow threshold).compile lengths name) (dictionary.compile lengths name) := by
  rw [compile_eq, compile_eq, compile_eq, dictionary.enabled_cut threshold]
  exact Compile.imageOf_append_joined lengths _ _ _

/-- Dictionaries of one name whose objects differ in their order and in disabled ones only have the
same image, and the same files are generated from it. -/
theorem compile_eq_of_perm {first second : Dictionary} (accepted : first.Accepted)
    (names : first.name = second.name)
    (same : (first.objects.filter fun entry => !entry.disabled).Perm
      (second.objects.filter fun entry => !entry.disabled))
    (lengths : StringLengths) (name : Option String) (warnings : List String)
    (version filename : String) :
    first.compile lengths name warnings = second.compile lengths name warnings ∧
      Source.header version (first.compile lengths name warnings) =
        Source.header version (second.compile lengths name warnings) ∧
      Source.body version filename (first.compile lengths name warnings) =
        Source.body version filename (second.compile lengths name warnings) := by
  have images : first.compile lengths name warnings = second.compile lengths name warnings := by
    rw [compile_eq, compile_eq, enabled_eq_of_perm accepted same]
    unfold imageName
    rw [names]
  exact ⟨images, by rw [images], by rw [images]⟩

/-- A small device, and the same one in another order and with an object that is disabled. -/
theorem compile_eq_of_perm_device :
    Example.device.compile defaultLength none [] =
      compile
        { objects :=
            [{ Example.deviceType with index := 0x2000, disabled := true }, Example.errors,
              Example.identity, Example.deviceType] }
        defaultLength none [] :=
  (compile_eq_of_perm Example.device_accepted rfl (by decide +kernel) defaultLength none []
    "1.0" "OD").1

end Dictionary

end Canopen
