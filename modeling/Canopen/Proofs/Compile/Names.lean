import Canopen.Proofs.Compile.Links

/-!
# Names in a compiled image

Many names of objects make one identifier, and some make none.  The index in front of it keeps the
names of different objects apart, and the suffix of a number of elements keeps the two members of an
array apart.
-/

namespace Canopen

open CName (IsWord)

namespace Row

/-- The members that stand for a row: its descriptor, and its extension if it has one. -/
def ownMembers (row : Row) : List String :=
  ("o_" ++ row.name) :: if row.extended then ["oE_" ++ row.name] else []

theorem eq_of_mem_ownMembers {row : Row} {member : String} (inside : member ∈ row.ownMembers) :
    member = "o_" ++ row.name ∨ member = "oE_" ++ row.name := by
  unfold ownMembers at inside
  rcases List.mem_cons.1 inside with plain | extended
  · exact .inl plain
  · split at extended
    · exact .inr (List.mem_singleton.1 extended)
    · cases extended

theorem nodup_ownMembers (row : Row) : row.ownMembers.Nodup := by
  unfold ownMembers
  split
  · rw [List.nodup_cons, List.mem_singleton]
    exact ⟨(extended_ne_plain _ _).symm, List.nodup_singleton _⟩
  · exact List.nodup_singleton _

/-- A member shows the name of its row. -/
theorem name_eq_of_mem_ownMembers {first second : Row} {member : String}
    (inside : member ∈ first.ownMembers) (other : member ∈ second.ownMembers) :
    first.name = second.name := by
  rcases eq_of_mem_ownMembers inside with rfl | rfl
  · rcases eq_of_mem_ownMembers other with same | same
    · exact (String.append_right_inj _).1 same
    · exact absurd same.symm (extended_ne_plain _ _)
  · rcases eq_of_mem_ownMembers other with same | same
    · exact absurd same (extended_ne_plain _ _)
    · exact (String.append_right_inj _).1 same

end Row

namespace Image.Linked

variable {image : Image} (linked : image.Linked)

include linked

/-- The structure of all descriptors has the members of the rows, one row after another. -/
theorem objectNames_eq :
    image.objects.flatMap (Source.objectNames image) = image.rows.flatMap Row.ownMembers := by
  -- the names of an object depend on the object by its own name only
  have byName : image.objects.flatMap (Source.objectNames image) =
      (image.objects.map (·.name)).flatMap fun name =>
        ("o_" ++ name) :: ((image.extension? name).map fun _ => "oE_" ++ name).toList := by
    rw [List.flatMap_map]
    rfl
  rw [byName, linked.names, List.flatMap_map]
  refine List.flatMap_congr fun row listed => ?_
  rw [Row.ownMembers, linked.extended row listed]
  cases image.extension? row.name <;> rfl

theorem nodup_ownMembers : (image.rows.flatMap Row.ownMembers).Nodup := by
  rw [List.nodup_flatMap]
  refine ⟨fun row _ => row.nodup_ownMembers, ?_⟩
  have different : image.rows.Pairwise (·.name ≠ ·.name) := List.pairwise_map.1 linked.distinct
  exact different.imp fun other member inside again =>
    other (Row.name_eq_of_mem_ownMembers inside again)

end Image.Linked

/-- No name in the image and in the structures of its source is given twice.  The structures hold
what the rows ask for, so that none of these names is missing. -/
structure Image.NamesDiffer (image : Image) (source : List Source.Construct) : Prop where
  stored : ((image.groups.flatMap (·.fields)).map (·.name)).Nodup
  objects : (image.objects.map (·.name)).Nodup
  members : Source.declaredObjects image.name source = image.rows.flatMap Row.ownMembers
  differentMembers : (Source.declaredObjects image.name source).Nodup
  hooks :
    Source.declaredHooks image.name source =
      (image.rows.filter (·.extended)).map fun row => "xio_" ++ row.name
  differentHooks : (Source.declaredHooks image.name source).Nodup
  shortcuts :
    ((image.shortcuts ++ image.longShortcuts).map fun shortcut =>
      image.name ++ "_ENTRY_" ++ shortcut.name).Nodup

namespace Entry

/-- Equal labels belong to one index. -/
theorem index_eq_of_label_eq {first second : Entry} (same : first.label = second.label) :
    first.index = second.index := by
  have digits := congrArg String.toList same
  rw [label, label, Number.paddedHex, Number.paddedHex, String.toList_ofList,
    String.toList_ofList] at digits
  exact UInt16.toNat_inj.1 (Number.paddedHexChars_injective digits)

/-- A label has four digits, and a symbol goes on behind them. -/
theorem label_ne_symbol (first second : Entry) : first.label ≠ second.symbol := by
  intro same
  have long := congrArg (fun text => text.toList.length) same
  have digits := (Compile.capitalHex_label first).length
  have front := (Compile.capitalHex_label second).length
  have mark : "_".toList.length = 1 := rfl
  simp only [symbol, String.toList_append, List.length_append, digits, front, mark] at long
  omega

end Entry

namespace Compile

variable (lengths : StringLengths)

/-! ## Stored members -/

/-- The members of one object have different names. -/
theorem nodup_map_name_fields (entry : Entry) : ((fields lengths entry).map (·.name)).Nodup := by
  unfold fields
  cases found : object? lengths entry with
  | none => exact List.nodup_nil
  | some object =>
      change (object.fields.map (·.name)).Nodup
      cases compiled_of_object? lengths found with
      | @var datum shape =>
          rw [varObject]
          cases (Encoding.ofDefault datum.dataType datum.default
            (lengths (.object entry))).1.initializer with
          | none => exact List.nodup_nil
          | some value => exact List.nodup_singleton _
      | @array type subEntries count element rest shape parts =>
          have apart := append_sub0_ne entry.member
          rw [arrayObject, arrayFields]
          cases count.encoding.initializer <;> cases element.encoding.isDefined <;> simp [apart]
      | record shape enough =>
          rw [recordObject, recordFields]
          split
          · exact List.nodup_nil
          · exact List.nodup_singleton _

variable {entries : List Entry} (distinct : (entries.map (·.index)).Nodup)

include distinct

/-- Entries that put members of one name into a group are the same. -/
theorem eq_of_mem_fields {first second : Entry} (inside : first ∈ entries)
    (other : second ∈ entries) {name : String}
    (named : name ∈ (fields lengths first).map (·.name))
    (again : name ∈ (fields lengths second).map (·.name)) : first = second := by
  obtain ⟨field, own, rfl⟩ := List.mem_map.1 named
  obtain ⟨twin, foreign, same⟩ := List.mem_map.1 again
  obtain ⟨rest, spelled⟩ := name_of_mem_fields lengths own
  obtain ⟨otherRest, otherSpelled⟩ := name_of_mem_fields lengths foreign
  rw [spelled, otherSpelled] at same
  exact List.inj_on_of_nodup_map distinct inside other (Entry.index_eq_of_member same.symm)

omit distinct in
theorem exists_of_mem_fieldsIn {location name : String}
    (named : name ∈ (fieldsIn lengths location entries).map (·.name)) :
    ∃ entry ∈ entries, entry.storageLocation = location ∧
      name ∈ (fields lengths entry).map (·.name) := by
  rw [fieldsIn, List.map_flatMap] at named
  obtain ⟨entry, chosen, own⟩ := List.mem_flatMap.1 named
  obtain ⟨inside, located⟩ := List.mem_filter.1 chosen
  exact ⟨entry, inside, eq_of_beq located, own⟩

/-- The members of all entries have different names. -/
theorem nodup_map_name_flatMap {chosen : List Entry} (kept : chosen.Sublist entries) :
    ((chosen.flatMap (fields lengths)).map (·.name)).Nodup := by
  rw [List.map_flatMap, List.nodup_flatMap]
  refine ⟨fun entry _ => nodup_map_name_fields lengths entry, ?_⟩
  have once : chosen.Nodup := (List.Nodup.of_map _ distinct).sublist kept
  refine once.imp_of_mem fun inside other different name named again => different ?_
  exact eq_of_mem_fields lengths distinct (kept.subset inside) (kept.subset other) named again

/-- The members of all groups have different names. -/
theorem nodup_map_name_groups :
    (((groupsOf lengths entries).flatMap (·.fields)).map (·.name)).Nodup := by
  have groups : (groupsOf lengths entries).flatMap (·.fields) =
      (entries.map (·.storageLocation)).eraseDups.flatMap fun name =>
        fieldsIn lengths name entries := by
    rw [groupsOf, List.flatMap_map]
  rw [groups, List.map_flatMap, List.nodup_flatMap]
  refine ⟨fun location _ => ?_, ?_⟩
  · exact nodup_map_name_flatMap lengths distinct List.filter_sublist
  · -- a name that two groups share belongs to one entry, which has one location
    refine (Image.nodup_eraseDups _).imp fun different name named again => different ?_
    obtain ⟨first, inside, rfl, own⟩ := exists_of_mem_fieldsIn lengths named
    obtain ⟨second, other, rfl, foreign⟩ := exists_of_mem_fieldsIn lengths again
    rw [eq_of_mem_fields lengths distinct inside other own foreign]

/-! ## Shortcuts -/

omit distinct in
theorem map_name_shortcuts (name : String) (warnings : List String) :
    (imageOf lengths name warnings entries).shortcuts.map (·.name) =
      (completeEntries entries).map fun entry => "H" ++ entry.label := by
  have listed := (imageOf_lists lengths name warnings entries).shortcuts
  rw [listed]
  refine List.ext_getElem? fun position => ?_
  rw [List.getElem?_map, List.getElem?_mapIdx, List.getElem?_map, Option.map_map]
  rfl

omit distinct in
theorem map_name_longShortcuts (name : String) (warnings : List String) :
    (imageOf lengths name warnings entries).longShortcuts.map (·.name) =
      (completeEntries entries).map fun entry => "H" ++ entry.symbol := by
  refine List.ext_getElem? fun position => ?_
  simp only [imageOf, flatMap_rows, List.getElem?_map, List.getElem?_mapIdx, Option.map_map]
  rfl

theorem nodup_labels : ((completeEntries entries).map (·.label)).Nodup := by
  have chosen := completeEntries_sublist entries
  have once := (List.Nodup.of_map _ distinct).sublist chosen
  refine once.map_on fun first inside second other same => ?_
  exact List.inj_on_of_nodup_map distinct (chosen.subset inside) (chosen.subset other)
    (Entry.index_eq_of_label_eq same)

/-- No two shortcuts have one name, whether they go by the index or by the symbol. -/
theorem nodup_map_name_allShortcuts (name : String) (warnings : List String) :
    (((imageOf lengths name warnings entries).shortcuts ++
      (imageOf lengths name warnings entries).longShortcuts).map (·.name)).Nodup := by
  rw [List.map_append, map_name_shortcuts, map_name_longShortcuts, List.nodup_append]
  refine ⟨Image.nodup_map_front "H" (nodup_labels distinct),
    Image.nodup_map_front "H" (nodup_symbols distinct), ?_⟩
  intro short inside long other same
  obtain ⟨first, _, rfl⟩ := List.mem_map.1 inside
  obtain ⟨second, _, rfl⟩ := List.mem_map.1 other
  exact Entry.label_ne_symbol first second ((String.append_right_inj _).1 same)

/-! ## Extensions -/

omit distinct in
theorem isWord_extension {name : String} {warnings : List String} {extension : Extension}
    (known : extension ∈ (imageOf lengths name warnings entries).extensions) :
    IsWord extension.name := by
  have extensions : (imageOf lengths name warnings entries).extensions =
      ((completeEntries entries).filter isExtended).map (·.extension) := flatMap_extensions entries
  rw [extensions] at known
  obtain ⟨entry, _, rfl⟩ := List.mem_map.1 known
  exact entry.isWord_symbol

omit distinct in
/-- Each extended row has one hook, and there are no others. -/
theorem flatMap_hookNames (name : String) (warnings : List String) :
    (imageOf lengths name warnings entries).extensions.flatMap Source.hookNames =
      ((imageOf lengths name warnings entries).rows.filter (·.extended)).map fun row =>
        "xio_" ++ row.name := by
  simp only [imageOf, flatMap_rows, flatMap_extensions, List.filter_map, List.map_map,
    List.flatMap_map]
  exact List.map_eq_flatMap.symm

/-- All names in the image of entries with different indices differ. -/
theorem imageOf_namesDiffer (words : ∀ entry ∈ entries, IsWord entry.storageLocation)
    (version filename name : String) (warnings : List String) :
    let image := imageOf lengths name warnings entries
    image.NamesDiffer (Source.constructs (Source.bodyLines version filename image)) := by
  intro image
  have linked : image.Linked := imageOf_linked lengths distinct words name warnings
  have declared := Source.declaredObjects_source version filename fun descriptor =>
    linked.isWord_object
  have hooks : Source.declaredHooks image.name _ = _ :=
    (Source.declaredHooks_source version filename fun _ => isWord_extension lengths).trans
      (flatMap_hookNames lengths name warnings)
  constructor
  case stored => exact nodup_map_name_groups lengths distinct
  case objects =>
    rw [linked.names]
    exact linked.distinct
  case members => exact declared.trans linked.objectNames_eq
  case differentMembers =>
    rw [declared, linked.objectNames_eq]
    exact linked.nodup_ownMembers
  case hooks => exact hooks
  case differentHooks =>
    rw [hooks]
    exact Image.nodup_map_front "xio_" (linked.distinct.sublist (List.filter_sublist.map _))
  case shortcuts =>
    exact Image.nodup_map_front (name ++ "_ENTRY_")
      (nodup_map_name_allShortcuts lengths distinct name warnings)

end Compile

namespace Example

/-- A document whose objects have no names of their own: two without a word, and one that is named
like the number of elements of the array in front of it. -/
def namesakeDocument : Value :=
  mapping [("objects", .list [
    mapping [("index", .int 0x2000), ("data_type", .int 5), ("default", .int 1),
      ("ext_io", .bool true)],
    mapping [("index", .int 0x2001), ("name", .text "!"), ("data_type", .int 5),
      ("default", .int 2), ("ext_io", .bool true)],
    mapping [("index", .int 0x2002), ("name", .text "ab"), ("object_type", .int 8),
      ("data_type", .int 5), ("sub_entries", .list [
        mapping [("subindex", .int 0), ("data_type", .int 5), ("default", .int 1)],
        mapping [("subindex", .int 1), ("default", .int 3)]])],
    mapping [("index", .int 0x2003), ("name", .text "ab_sub0"), ("data_type", .int 5),
      ("default", .int 4)]])]

def namesakes : Dictionary where
  objects := [
    { index := 0x2000, extIo := true
      content := .var { dataType := some (.known .unsigned8), default := some "1" } },
    { index := 0x2001, name := "!", extIo := true
      content := .var { dataType := some (.known .unsigned8), default := some "2" } },
    { index := 0x2002, name := "ab"
      content := .array (some (.known .unsigned8)) [
        { subindex := 0, datum := { dataType := some (.known .unsigned8), default := some "1" } },
        { subindex := 1, datum := { default := some "3" } }] },
    { index := 0x2003, name := "ab_sub0"
      content := .var { dataType := some (.known .unsigned8), default := some "4" } }]

theorem namesakes_accepted : namesakes.Accepted :=
  ⟨namesakeDocument, by decide +kernel⟩

end Example

namespace Dictionary

/-- In the image of an accepted dictionary no two members, descriptors, hooks or shortcuts have one
name, whatever the objects are called. -/
theorem compile_namesDiffer {dictionary : Dictionary} (accepted : dictionary.Accepted)
    (lengths : StringLengths) (name : Option String) (warnings : List String)
    (version filename : String) :
    let image := dictionary.compile lengths name warnings
    image.NamesDiffer (Source.constructs (Source.bodyLines version filename image)) := by
  intro image
  have compiled : image = Compile.imageOf lengths (dictionary.imageName name) warnings
      dictionary.enabled := compile_eq dictionary lengths name warnings
  have words : ∀ entry ∈ dictionary.enabled, IsWord entry.storageLocation :=
    fun entry enabled => accepted.isWord_storageLocation (mem_enabled.1 enabled).1
  rw [compiled]
  exact Compile.imageOf_namesDiffer lengths accepted.enabled_indices_nodup words version filename _ _

/-- Objects without names and objects with confusing names keep apart. -/
theorem compile_namesDiffer_namesakes :
    Example.namesakes.Accepted ∧
      let image := Example.namesakes.compile defaultLength none []
      let source := Source.constructs (Source.bodyLines Source.currentVersion "OD" image)
      (image.groups.flatMap (·.fields)).map (·.name) =
          ["x2000_", "x2001_", "x2002_ab_sub0", "x2002_ab", "x2003_ab_sub0"] ∧
        Source.declaredObjects "OD" source =
          ["o_2000_", "oE_2000_", "o_2001_", "oE_2001_", "o_2002_ab", "o_2003_ab_sub0"] ∧
        Source.declaredHooks "OD" source = ["xio_2000_", "xio_2001_"] ∧
        image.NamesDiffer source := by
  refine ⟨Example.namesakes_accepted, ?_⟩
  intro image source
  have differ : image.NamesDiffer source := compile_namesDiffer Example.namesakes_accepted
    defaultLength none [] Source.currentVersion "OD"
  refine ⟨by decide, differ.members.trans ?_, differ.hooks.trans ?_, differ⟩
  · decide
  · decide

end Dictionary

end Canopen
