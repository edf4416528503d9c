import Mathlib.Data.List.Forall2
import Canopen.Proofs.Compile.Run
import Canopen.Proofs.Number.Spelling
import Canopen.Proofs.Order

/-!
# The compiled list

The list of an image holds the enabled entries that have enough parts, in ascending order of their
indices.  Descriptors, shortcuts, extensions and counters are in step with it.
-/

namespace Canopen

/-- The row says what the entry is. -/
structure Row.Describes (row : Row) (entry : Entry) : Prop where
  index : row.index = entry.index.toNat
  shape : row.shape = entry.content.shape
  subCount : row.subCount = entry.content.subCount
  label : Number.CapitalHex 4 row.index entry.label.toList
  name : row.name = entry.label ++ "_" ++ CName.identifier entry.name.shown
  extended :
    row.extended = true ↔
      entry.extIo = true ∨ row.index ∈ [0x1003, 0x1012, 0x1014, 0x1200]

/-- The subindices that a descriptor announces, one for each part of a record. -/
def Descriptor.subindices : Descriptor → List Nat
  | var _ _ _ _ => []
  | array _ _ _ _ _ _ _ => []
  | record _ parts => parts.map (·.subindex)

/-- The descriptor belongs to the entry. -/
structure Descriptor.Describes (descriptor : Descriptor) (entry : Entry) : Prop where
  name : descriptor.name = entry.label ++ "_" ++ CName.identifier entry.name.shown
  shape : descriptor.shape = entry.content.shape
  subindices :
    ∀ subEntries, entry.content = .record subEntries →
      descriptor.subindices = subEntries.map (·.subindex.toNat)

/-- The image lists exactly these entries, and everything in it is in step with the list. -/
structure Image.Lists (image : Image) (entries : List Entry) : Prop where
  rows : List.Forall₂ Row.Describes image.rows entries
  objects : List.Forall₂ Descriptor.Describes image.objects entries
  shortcuts :
    image.shortcuts = entries.mapIdx fun position entry => ⟨"H" ++ entry.label, position⟩
  longShortcuts :
    image.longShortcuts = image.rows.mapIdx fun position row => ⟨"H" ++ row.name, position⟩
  lengths :
    image.rows.length = entries.length ∧ image.objects.length = entries.length ∧
      image.shortcuts.length = entries.length ∧ image.longShortcuts.length = entries.length
  extensions :
    image.extensions.map (fun extension => (extension.name, extension.subCount)) =
      (image.rows.filter (·.extended)).map fun row => (row.name, row.subCount)
  counters :
    ∀ label count, (label, count) ∈ image.counters ↔
      label ≠ "" ∧ 0 < count ∧ count = entries.countP (·.countLabel == label)
  labels : image.counters.Pairwise (·.1 < ·.1)

namespace Compile

/-! ## Aligned lists -/

theorem getElem?_of_forall₂ {α β : Type} {relation : α → β → Prop} {first : List α}
    {second : List β} (aligned : List.Forall₂ relation first second) {position : Nat} {item : α}
    (there : first[position]? = some item) :
    ∃ other, second[position]? = some other ∧ relation item other := by
  induction aligned generalizing position with
  | nil => cases there
  | cons related rest ih =>
      cases position with
      | zero =>
          cases there
          exact ⟨_, rfl, related⟩
      | succ position => exact ih there

/-- Lists of which the same is made are in step. -/
theorem forall₂_of_map_eq {α β γ : Type} {make : α → γ} {remake : β → γ} {first : List α}
    {second : List β} (same : first.map make = second.map remake) :
    List.Forall₂ (fun item other => make item = remake other) first second := by
  rwa [← List.forall₂_eq_eq_eq, List.forall₂_map_left_iff, List.forall₂_map_right_iff] at same

/-- What is made of a list is in step with the items that something is made of. -/
theorem forall₂_filterMap {α β : Type} {make : α → Option β} {keep : α → Bool} (list : List α)
    (made : ∀ item, (make item).isSome = keep item) :
    List.Forall₂ (fun item result => make item = some result) (list.filter keep)
      (list.filterMap make) := by
  induction list with
  | nil => exact .nil
  | cons item rest ih =>
      have kept := made item
      cases result : make item with
      | none =>
          rw [result] at kept
          rwa [List.filterMap_cons_none result, List.filter_cons_of_neg (by simp [← kept])]
      | some other =>
          rw [result] at kept
          rw [List.filterMap_cons_some result, List.filter_cons_of_pos kept.symm]
          exact .cons result ih

variable (lengths : StringLengths)

/-! ## Listed entries -/

/-- The entries that have enough parts. -/
def completeEntries (entries : List Entry) : List Entry :=
  entries.filter (·.content.isComplete)

theorem flatMap_if {β : Type} (keep : Entry → Bool) (make : Entry → β) (entries : List Entry) :
    (entries.flatMap fun entry => if keep entry then [make entry] else []) =
      (entries.filter keep).map make := by
  induction entries with
  | nil => rfl
  | cons entry rest ih =>
      rw [List.flatMap_cons, ih]
      cases kept : keep entry <;> simp [kept]

theorem flatMap_rows (entries : List Entry) :
    entries.flatMap (·.rows) = (completeEntries entries).map (·.row) :=
  flatMap_if _ _ entries

theorem flatMap_extensions (entries : List Entry) :
    entries.flatMap (·.extensions) =
      ((completeEntries entries).filter isExtended).map (·.extension) := by
  rw [completeEntries, List.filter_filter]
  simp only [Bool.and_comm (isExtended _)]
  exact flatMap_if _ _ entries

theorem flatMap_labels (entries : List Entry) :
    entries.flatMap (·.labels) =
      ((completeEntries entries).filter fun entry => !entry.countLabel.isEmpty).map
        (·.countLabel) := by
  rw [completeEntries, List.filter_filter]
  simp only [Bool.and_comm (!Script.isEmpty _)]
  exact flatMap_if _ _ entries

/-- Every complete entry has one descriptor, in order. -/
theorem forall₂_descriptors (entries : List Entry) :
    List.Forall₂
      (fun descriptor entry => ∃ object, object? lengths entry = some object ∧
        object.descriptor = descriptor)
      (entries.flatMap (descriptors lengths)) (completeEntries entries) := by
  induction entries with
  | nil => exact .nil
  | cons entry rest ih =>
      unfold completeEntries
      rw [List.flatMap_cons]
      cases complete : entry.content.isComplete with
      | false =>
          have skipped := object?_eq_none lengths complete
          rw [List.filter_cons_of_neg (by simp [complete]), descriptors, skipped]
          exact ih
      | true =>
          obtain ⟨object, found, _⟩ := exists_compiled lengths complete
          rw [List.filter_cons_of_pos (by simp [complete]), descriptors, found]
          exact .cons ⟨object, found, rfl⟩ ih

/-- Row and descriptor at one position belong to one entry. -/
theorem exists_of_row {name : String} {warnings : List String} {entries : List Entry}
    {position : Nat} {row : Row}
    (listed : (imageOf lengths name warnings entries).rows[position]? = some row) :
    ∃ entry ∈ entries, row = entry.row ∧ ∃ object, object? lengths entry = some object ∧
      (imageOf lengths name warnings entries).objects[position]? = some object.descriptor := by
  have rows : (imageOf lengths name warnings entries).rows =
      (completeEntries entries).map (·.row) := flatMap_rows entries
  rw [rows, List.getElem?_map] at listed
  obtain ⟨entry, there, rfl⟩ := Option.map_eq_some_iff.1 listed
  obtain ⟨descriptor, here, object, found, same⟩ :=
    getElem?_of_forall₂ (forall₂_descriptors lengths entries).flip there
  have inside : entry ∈ entries := (List.mem_filter.1 (List.mem_of_getElem? there)).1
  exact ⟨entry, inside, rfl, object, found, same ▸ here⟩

/-! ## Rows and descriptors -/

theorem isExtended_iff (entry : Entry) :
    isExtended entry = true ↔
      entry.extIo = true ∨ entry.index.toNat ∈ [0x1003, 0x1012, 0x1014, 0x1200] := by
  have listed : extensionIndices.contains entry.index = true ↔
      entry.index.toNat ∈ [0x1003, 0x1012, 0x1014, 0x1200] := by
    simp [extensionIndices, ← UInt16.toNat_inj]
  rw [isExtended, Bool.or_eq_true, listed]

theorem capitalHex_label (entry : Entry) :
    Number.CapitalHex 4 entry.index.toNat entry.label.toList := by
  have fits : entry.index.toNat < Nat.pow 16 4 := entry.index.toNat_lt
  rw [Entry.label, Number.paddedHex, String.toList_ofList]
  exact Number.capitalHex_paddedHexChars (by decide) fits

theorem row_describes (entry : Entry) : entry.row.Describes entry where
  index := rfl
  shape := rfl
  subCount := rfl
  label := capitalHex_label entry
  name := rfl
  extended := isExtended_iff entry

theorem Compiled.describes {entry : Entry} {object : CompiledObject}
    (compiled : Compiled lengths entry object) : object.descriptor.Describes entry := by
  cases compiled with
  | var shape =>
      refine ⟨rfl, by rw [shape]; rfl, fun subEntries record => ?_⟩
      rw [shape] at record
      cases record
  | array shape parts =>
      refine ⟨rfl, by rw [shape]; rfl, fun subEntries record => ?_⟩
      rw [shape] at record
      cases record
  | @record subEntries shape enough =>
      refine ⟨rfl, by rw [shape]; rfl, fun others record => ?_⟩
      rw [shape] at record
      cases record
      have parts := map_sub_recordParts lengths entry subEntries
      rw [recordObject, Descriptor.subindices, List.map_map]
      conv => rhs; rw [← parts, List.map_map]
      rfl

/-! ## The whole image -/

theorem count_labels (label : Script) (entries : List Entry) :
    (entries.flatMap (·.labels)).count label =
      if label = "" then 0 else (completeEntries entries).countP (·.countLabel == label) := by
  rw [flatMap_labels, List.count_eq_countP, List.countP_map, List.countP_filter]
  split
  · next empty =>
    subst empty
    refine List.countP_eq_zero.2 fun entry _ => ?_
    simp
  · next named =>
    refine List.countP_congr fun entry _ => ?_
    simp only [Function.comp_apply, Bool.and_eq_true, beq_iff_eq, Bool.not_eq_true',
      Script.isEmpty_eq_false_iff, and_iff_left_iff_imp]
    rintro rfl
    exact named

/-- The image of entries lists those that have enough parts. -/
theorem imageOf_lists (name : String) (warnings : List String) (entries : List Entry) :
    (imageOf lengths name warnings entries).Lists (completeEntries entries) := by
  have rows : (imageOf lengths name warnings entries).rows =
      (completeEntries entries).map (·.row) := flatMap_rows entries
  have objects : List.Forall₂ Descriptor.Describes
      (imageOf lengths name warnings entries).objects (completeEntries entries) := by
    refine (forall₂_descriptors lengths entries).imp ?_
    rintro _ entry ⟨object, found, rfl⟩
    exact (compiled_of_object? lengths found).describes
  refine ⟨?_, objects, ?_, rfl, ⟨?_, objects.length_eq, ?_, ?_⟩, ?_, ?_, ?_⟩
  · rw [rows, List.forall₂_map_left_iff, List.forall₂_same]
    exact fun entry _ => row_describes entry
  · refine List.ext_getElem? fun position => ?_
    simp only [imageOf, flatMap_rows, List.getElem?_mapIdx, List.getElem?_map, Option.map_map]
    rfl
  · rw [rows, List.length_map]
  · simp only [imageOf, flatMap_rows, List.length_mapIdx, List.length_map]
  · simp only [imageOf, flatMap_rows, List.length_mapIdx, List.length_map]
  · simp only [imageOf, flatMap_rows, flatMap_extensions, List.filter_map, List.map_map]
    rfl
  · intro label count
    rw [(imageOf_tally lengths name warnings entries).mem_iff, count_labels]
    split
    · next empty => simp [empty]; omega
    · next named => simp [named]
  · exact (imageOf_tally lengths name warnings entries).ascending

end Compile

namespace Dictionary

/-- The entries that the list of the compiled image holds. -/
def listed (dictionary : Dictionary) : List Entry :=
  Compile.completeEntries dictionary.enabled

theorem mem_listed {dictionary : Dictionary} {entry : Entry} :
    entry ∈ dictionary.listed ↔
      entry ∈ dictionary.objects ∧ entry.disabled = false ∧ entry.content.isComplete = true := by
  rw [listed, Compile.completeEntries, List.mem_filter, mem_enabled, and_assoc]

/-- Compiling an accepted dictionary lists exactly the entries that are enabled and complete, in
strictly ascending order of their indices. -/
theorem compile_lists {dictionary : Dictionary} (accepted : dictionary.Accepted)
    (lengths : StringLengths) (name : Option String) (warnings : List String) :
    dictionary.listed.Pairwise (·.index < ·.index) ∧
      (∀ entry, entry ∈ dictionary.listed ↔
        entry ∈ dictionary.objects ∧ entry.disabled = false ∧
          entry.content.isComplete = true) ∧
      (dictionary.compile lengths name warnings).Lists dictionary.listed := by
  refine ⟨?_, fun entry => mem_listed, ?_⟩
  · exact accepted.enabled_ascending.sublist List.filter_sublist
  · rw [compile_eq]
    exact Compile.imageOf_lists lengths _ warnings dictionary.enabled

theorem compile_lists_device :
    Example.device.listed = [Example.deviceType, Example.errors, Example.identity] ∧
      (Example.device.compile defaultLength none []).Lists Example.device.listed :=
  ⟨by decide +kernel, (compile_lists Example.device_accepted defaultLength none []).2.2⟩

end Dictionary

end Canopen
