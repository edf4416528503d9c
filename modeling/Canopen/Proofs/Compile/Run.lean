import Canopen.Proofs.Compile.Contribution
import Canopen.Proofs.Counter
import Canopen.Proofs.Image.Groups

/-!
# The image of a list of entries

Compiling goes through the entries one by one and grows eight collections.  The image is given here
in one piece, from the whole list, and is shown to be what the compiler grows.
-/

namespace Canopen

namespace Image

/-- The shortcut by index to a row. -/
def shortcutTo (position : Nat) (row : Row) : Shortcut :=
  ⟨"H" ++ Number.paddedHex 4 row.index, position⟩

/-- The shortcut by name to a row. -/
def longShortcutTo (position : Nat) (row : Row) : Shortcut :=
  ⟨"H" ++ row.name, position⟩

end Image

namespace Compile

variable (lengths : StringLengths)

/-- The members that entries put into a group, in order. -/
def fieldsIn (name : String) (entries : List Entry) : List StorageField :=
  (entries.filter (·.storageLocation == name)).flatMap (fields lengths)

/-- The groups that entries use, in the order of their first use. -/
def groupsOf (entries : List Entry) : List StorageGroup :=
  (entries.map (·.storageLocation)).eraseDups.map fun name =>
    { name, fields := fieldsIn lengths name entries }

/-- The image of a list of entries, behind the warnings collected before. -/
def imageOf (name : String) (warnings : List String) (entries : List Entry) : Image where
  name
  groups := groupsOf lengths entries
  objects := entries.flatMap (descriptors lengths)
  extensions := entries.flatMap (·.extensions)
  rows := entries.flatMap (·.rows)
  shortcuts := (entries.flatMap (·.rows)).mapIdx Image.shortcutTo
  longShortcuts := (entries.flatMap (·.rows)).mapIdx Image.longShortcutTo
  counters := Image.countAll (entries.flatMap (·.labels)) []
  warnings := warnings ++ entries.flatMap (reports lengths)

theorem imageOf_tally (name : String) (warnings : List String) (entries : List Entry) :
    Image.Tally (entries.flatMap (·.labels)) (imageOf lengths name warnings entries).counters :=
  Image.tally_countAll _

/-! ## One entry -/

/-- Everything that one entry adds to an image. -/
theorem entry_eq (image : Image) (entry : Entry) :
    Compile.entry lengths image entry =
      { name := image.name
        groups := Image.gather entry.storageLocation (fields lengths entry) image.groups
        objects := image.objects ++ descriptors lengths entry
        extensions := image.extensions ++ entry.extensions
        rows := image.rows ++ entry.rows
        shortcuts := image.shortcuts ++ entry.rows.map (Image.shortcutTo image.rows.length)
        longShortcuts :=
          image.longShortcuts ++ entry.rows.map (Image.longShortcutTo image.rows.length)
        counters := Image.countAll entry.labels image.counters
        warnings := image.warnings ++ reports lengths entry } := by
  unfold Compile.entry
  cases complete : entry.content.isComplete with
  | false =>
      have skipped := object?_eq_none lengths complete
      have nothing : (content lengths entry).2 = none := skipped
      simp [nothing, Image.warn, Image.register, Image.gather, Image.appendFields_nil, fields,
        descriptors, skipped, Entry.rows, Entry.extensions, Entry.labels, complete, Image.countAll,
        reports]
  | true =>
      obtain ⟨object, found, compiled⟩ := exists_compiled lengths complete
      have kept : (content lengths entry).2 = some object := found
      have total := compiled.subCount
      cases extended : isExtended entry <;> cases counted : entry.countLabel.isEmpty <;>
        simp [kept, add, Image.warn, Image.register, Image.store, Image.addObject, Image.addRow,
          Image.addExtension, Image.count, Image.gather, Image.withGroup_withGroup, fields,
          descriptors, found, Entry.rows, Entry.extensions, Entry.labels, Entry.row,
          Entry.extension, complete, extended, counted, Image.countAll, Image.shortcutTo,
          Image.longShortcutTo, reports, total]

/-! ## Groups -/

/-- What an entry puts under the name of its group. -/
def use (entry : Entry) : Image.Use :=
  (entry.storageLocation, fields lengths entry)

theorem map_use (entries : List Entry) :
    (entries.map (use lengths)).map (·.1) = entries.map (·.storageLocation) := by
  rw [List.map_map]
  rfl

theorem fieldsUnder_map_use (name : String) (entries : List Entry) :
    Image.fieldsUnder name (entries.map (use lengths)) = fieldsIn lengths name entries := by
  rw [Image.fieldsUnder, List.filter_map, List.flatMap_map]
  rfl

theorem groupsFrom_map_use (entries : List Entry) :
    Image.groupsFrom (entries.map (use lengths)) = groupsOf lengths entries := by
  simp only [Image.groupsFrom, map_use, fieldsUnder_map_use]
  rfl

/-- Nothing is put into a group that no entry names. -/
theorem fieldsIn_of_not_mem {name : String} {entries : List Entry}
    (unused : name ∉ entries.map (·.storageLocation)) : fieldsIn lengths name entries = [] := by
  rw [← map_use lengths] at unused
  rw [← fieldsUnder_map_use]
  exact Image.fieldsUnder_of_not_mem unused

theorem any_groupsOf (name : String) (entries : List Entry) :
    (groupsOf lengths entries).any (·.name == name) = true ↔
      name ∈ entries.map (·.storageLocation) := by
  rw [← groupsFrom_map_use, Image.any_groupsFrom, map_use]

theorem map_name_groupsOf (entries : List Entry) :
    (groupsOf lengths entries).map (·.name) = (entries.map (·.storageLocation)).eraseDups := by
  rw [groupsOf, List.map_map]
  exact List.map_id _

theorem filter_groupsOf (keep : String → Bool) (entries : List Entry) :
    (groupsOf lengths entries).filter (fun group => keep group.name) =
      ((entries.map (·.storageLocation)).eraseDups.filter keep).map fun name =>
        { name, fields := fieldsIn lengths name entries } :=
  List.filter_map

/-- All members that an image keeps under the name of a group. -/
theorem flatMap_filter_groupsOf (name : String) (entries : List Entry) :
    ((groupsOf lengths entries).filter (·.name == name)).flatMap (·.fields) =
      fieldsIn lengths name entries := by
  rw [filter_groupsOf lengths (· == name), Image.eraseDups_filter_beq]
  split
  · rw [List.map_singleton, List.flatMap_singleton]
  · next unused =>
    rw [fieldsIn_of_not_mem lengths unused]
    rfl

/-- Gathering the storage of one entry more. -/
theorem gather_groupsOf (entries : List Entry) (entry : Entry) :
    Image.gather entry.storageLocation (fields lengths entry) (groupsOf lengths entries) =
      groupsOf lengths (entries ++ [entry]) := by
  have grown := Image.gather_groupsFrom (entries.map (use lengths)) (use lengths entry)
  rwa [← List.map_singleton, ← List.map_append, groupsFrom_map_use, groupsFrom_map_use] at grown

/-! ## All entries -/

theorem mapIdx_append_rows {β : Type} (rows : List Row) (entry : Entry) (link : Nat → Row → β) :
    (rows ++ entry.rows).mapIdx link = rows.mapIdx link ++ entry.rows.map (link rows.length) := by
  unfold Entry.rows
  split <;> simp

/-- The compiler grows exactly the image of the entries. -/
theorem foldl_entry (name : String) (warnings : List String) (entries : List Entry) :
    entries.foldl (Compile.entry lengths) { name, warnings } =
      imageOf lengths name warnings entries := by
  induction entries using List.reverseRecOn with
  | nil => simp [imageOf, groupsOf, Image.countAll]
  | append_singleton entries entry ih =>
      rw [List.foldl_append, ih, List.foldl_cons, List.foldl_nil, entry_eq]
      simp [imageOf, gather_groupsOf, mapIdx_append_rows, Image.countAll]

end Compile

/-- The name of the image: the one asked for, if it is not empty. -/
def Dictionary.imageName (dictionary : Dictionary) (name : Option String) : String :=
  match name with
  | some name => if name.isEmpty then dictionary.name else name
  | none => dictionary.name

/-- Compiling a dictionary gives the image of its enabled entries. -/
theorem Dictionary.compile_eq (dictionary : Dictionary) (lengths : StringLengths)
    (name : Option String) (warnings : List String) :
    dictionary.compile lengths name warnings =
      Compile.imageOf lengths (dictionary.imageName name) warnings dictionary.enabled :=
  Compile.foldl_entry lengths _ warnings dictionary.enabled

end Canopen
