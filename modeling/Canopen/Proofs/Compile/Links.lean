import Canopen.Proofs.Compile.Storage
import Canopen.Proofs.Schema.Locations
import Canopen.Proofs.Source.References

/-!
# Compiled images are linked

Rows, descriptors and extensions are made of the same entries, and the symbol of an entry shows its
index.  An address is put into a descriptor only together with a member in the group that it names.
The files of a compiled dictionary therefore refer to nothing that they do not declare.
-/

namespace Canopen

open CName (IsWord)

namespace Entry

/-- Equal symbols belong to one index. -/
theorem index_eq_of_symbol_eq {first second : Entry} (same : first.symbol = second.symbol) :
    first.index = second.index := by
  have members : first.member ++ "" = second.member ++ "" := by rw [member, member, same]
  exact index_eq_of_member members

end Entry

namespace Compile

variable {lengths : StringLengths} {entry : Entry} {object : CompiledObject}

/-! ## Addresses -/

theorem isDefined_of_initializer {encoding : Encoding} {value : Initializer}
    (stored : encoding.initializer = some value) : encoding.isDefined = true := by
  rw [Encoding.isDefined, stored]
  rfl

theorem arrayFields_ne_nil (name : String) {count element : EncodedPart}
    (elements : List EncodedPart)
    (stored : count.encoding.isDefined = true ∨ element.encoding.isDefined = true) :
    arrayFields name count element elements ≠ [] := by
  unfold arrayFields
  rcases stored with counted | defined
  · obtain ⟨value, same⟩ := Option.isSome_iff_exists.1 counted
    simp [same]
  · simp [defined]

/-- An address names the group of its object, and the object has put something there. -/
theorem Compiled.references (compiled : Compiled lengths entry object) {reference : Reference}
    (inside : reference ∈ object.descriptor.references) :
    reference.group = entry.storageLocation ∧ object.fields ≠ [] := by
  cases compiled with
  | var shape =>
      obtain ⟨value, stored, rfl⟩ := exists_of_referTo (Option.mem_toList.1 inside)
      exact ⟨rfl, by simp [varObject, stored]⟩
  | array shape parts =>
      rcases List.mem_append.1 inside with counted | element
      · obtain ⟨value, stored, rfl⟩ := exists_of_referTo (Option.mem_toList.1 counted)
        exact ⟨rfl, arrayFields_ne_nil _ _ (.inl (isDefined_of_initializer stored))⟩
      · obtain ⟨value, stored, rfl⟩ := exists_of_referTo (Option.mem_toList.1 element)
        exact ⟨rfl, arrayFields_ne_nil _ _ (.inr (isDefined_of_initializer stored))⟩
  | @record subEntries shape enough =>
      obtain ⟨part, among, found⟩ := List.mem_filterMap.1 inside
      obtain ⟨encoded, known, rfl⟩ := List.mem_map.1 among
      obtain ⟨value, stored, rfl⟩ := exists_of_referTo found
      have member : storageField (CName.identifier encoded.sub.name.shown) encoded.encoding value ∈
          (recordParts lengths entry subEntries).filterMap recordMember? :=
        List.mem_filterMap.2 ⟨encoded, known, by rw [recordMember?, stored]; rfl⟩
      refine ⟨rfl, ?_⟩
      rw [recordObject, recordFields]
      split
      · next none =>
        rw [none] at member
        cases member
      · exact List.cons_ne_nil _ _

/-- A group that something is put into is used. -/
theorem exists_usedGroup {name : String} {warnings : List String} {entries : List Entry}
    (inside : entry ∈ entries) (stored : fields lengths entry ≠ []) :
    ∃ group ∈ (imageOf lengths name warnings entries).usedGroups,
      group.name = entry.storageLocation := by
  have filled : fieldsIn lengths entry.storageLocation entries ≠ [] := by
    intro none
    have own : entry ∈ entries.filter (·.storageLocation == entry.storageLocation) :=
      List.mem_filter.2 ⟨inside, beq_self_eq_true _⟩
    exact stored (List.flatMap_eq_nil_iff.1 none entry own)
  have named : entry.storageLocation ∈ (entries.map (·.storageLocation)).eraseDups :=
    List.mem_eraseDups.2 (List.mem_map_of_mem inside)
  refine ⟨_, List.mem_filter.2 ⟨List.mem_map_of_mem named, ?_⟩, rfl⟩
  simpa using filled

/-! ## The whole image -/

section

variable (lengths) {entries : List Entry} (distinct : (entries.map (·.index)).Nodup)

theorem completeEntries_sublist (entries : List Entry) :
    (completeEntries entries).Sublist entries :=
  List.filter_sublist

include distinct

/-- Equal symbols belong to one entry. -/
theorem eq_of_symbol_eq {first second : Entry} (inside : first ∈ completeEntries entries)
    (other : second ∈ completeEntries entries) (same : first.symbol = second.symbol) :
    first = second :=
  List.inj_on_of_nodup_map distinct ((completeEntries_sublist entries).subset inside)
    ((completeEntries_sublist entries).subset other) (Entry.index_eq_of_symbol_eq same)

theorem nodup_symbols : ((completeEntries entries).map (·.symbol)).Nodup := by
  have once := (List.Nodup.of_map _ distinct).sublist (completeEntries_sublist entries)
  exact List.Nodup.map_on (fun _ inside _ other => eq_of_symbol_eq distinct inside other) once

/-- The extension of an object is found by its symbol. -/
theorem isSome_extension? {name : String} {warnings : List String}
    (inside : entry ∈ completeEntries entries) :
    ((imageOf lengths name warnings entries).extension? entry.symbol).isSome = isExtended entry := by
  have extensions : (imageOf lengths name warnings entries).extensions =
      ((completeEntries entries).filter isExtended).map (·.extension) := flatMap_extensions entries
  rw [Image.extension?, extensions, Bool.eq_iff_iff, List.find?_isSome]
  constructor
  · rintro ⟨extension, known, same⟩
    obtain ⟨other, among, rfl⟩ := List.mem_map.1 (List.mem_reverse.1 known)
    obtain ⟨listed, extended⟩ := List.mem_filter.1 among
    exact eq_of_symbol_eq distinct listed inside (eq_of_beq same) ▸ extended
  · intro extended
    have among := List.mem_map_of_mem (f := Entry.extension) (List.mem_filter.2 ⟨inside, extended⟩)
    exact ⟨entry.extension, List.mem_reverse.2 among, beq_self_eq_true _⟩

/-- The image of entries with different indices is linked. -/
theorem imageOf_linked (words : ∀ entry ∈ entries, IsWord entry.storageLocation) (name : String)
    (warnings : List String) : (imageOf lengths name warnings entries).Linked := by
  have rows : (imageOf lengths name warnings entries).rows =
      (completeEntries entries).map (·.row) := flatMap_rows entries
  have names : (imageOf lengths name warnings entries).rows.map (·.name) =
      (completeEntries entries).map (·.symbol) := by
    rw [rows, List.map_map]
    rfl
  have objects := (imageOf_lists lengths name warnings entries).objects
  constructor
  case names =>
    rw [names, ← List.forall₂_eq_eq_eq, List.forall₂_map_left_iff, List.forall₂_map_right_iff]
    exact objects.imp fun _ _ describes => describes.name
  case distinct =>
    rw [names]
    exact nodup_symbols distinct
  case words =>
    rw [rows]
    intro row listed
    obtain ⟨entry, _, rfl⟩ := List.mem_map.1 listed
    exact entry.isWord_symbol
  case extended =>
    rw [rows]
    intro row listed
    obtain ⟨entry, inside, rfl⟩ := List.mem_map.1 listed
    exact (isSome_extension? lengths distinct inside).symm
  case stored =>
    -- whoever has an address has put a member into the group, so the group is not empty
    intro descriptor known reference addressed
    obtain ⟨entry, inside, own⟩ := List.mem_flatMap.1 known
    obtain ⟨object, found, rfl⟩ := Option.map_eq_some_iff.1 (Option.mem_toList.1 own)
    obtain ⟨group, stored⟩ := (compiled_of_object? lengths found).references addressed
    have kept : fields lengths entry ≠ [] := by
      rw [fields, found]
      exact stored
    rw [group]
    exact ⟨words entry inside, exists_usedGroup inside kept⟩

end

end Compile

namespace Dictionary

/-- In the files of an accepted dictionary the rows of the table and the addresses of the
descriptors lead to what the files declare, whatever name is chosen for the dictionary. -/
theorem compile_resolves {dictionary : Dictionary} (accepted : dictionary.Accepted)
    (lengths : StringLengths) (name : Option String) (warnings : List String)
    (version filename : String) :
    let image := dictionary.compile lengths name warnings
    Source.Resolves (dictionary.imageName name) image.rows
      (Source.constructs (Source.headerLines version image))
      (Source.constructs (Source.bodyLines version filename image)) := by
  intro image
  have compiled : image = Compile.imageOf lengths (dictionary.imageName name) warnings
      dictionary.enabled := compile_eq dictionary lengths name warnings
  have words : ∀ entry ∈ dictionary.enabled, IsWord entry.storageLocation :=
    fun entry enabled => accepted.isWord_storageLocation (mem_enabled.1 enabled).1
  have linked := Compile.imageOf_linked lengths accepted.enabled_indices_nodup words
    (dictionary.imageName name) warnings
  rw [compiled]
  exact Source.resolves version filename linked

/-- The three rows of a small device, one of them extended, refer to declared members. -/
theorem compile_resolves_device :
    Example.device.Accepted ∧
      let image := Example.device.compile defaultLength none []
      let source := Source.constructs (Source.bodyLines Source.currentVersion "OD" image)
      Source.listRows "OD" source =
          [("ODT_VAR", "o_1000_deviceType"), ("ODT_EARR", "oE_1003_errors"),
            ("ODT_REC", "o_1018_identity")] ∧
        "oE_1003_errors" ∈ Source.declaredObjects "OD" source ∧
        Source.Resolves "OD" image.rows
          (Source.constructs (Source.headerLines Source.currentVersion image)) source := by
  refine ⟨Example.device_accepted, ?_⟩
  intro image source
  have resolved : Source.Resolves "OD" image.rows _ source :=
    compile_resolves Example.device_accepted defaultLength none [] Source.currentVersion "OD"
  have rows : image.rows.map (fun row => (row.typeTag, row.member)) =
      [("ODT_VAR", "o_1000_deviceType"), ("ODT_EARR", "oE_1003_errors"),
        ("ODT_REC", "o_1018_identity")] := by decide +kernel
  have listed := resolved.listed.trans rows
  have inside : ("ODT_EARR", "oE_1003_errors") ∈ Source.listRows "OD" source := by
    rw [listed]
    exact List.mem_cons_of_mem _ List.mem_cons_self
  exact ⟨listed, (resolved.members _ inside).1, resolved⟩

end Dictionary

end Canopen
