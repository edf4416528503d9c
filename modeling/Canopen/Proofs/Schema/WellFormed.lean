import Canopen.Proofs.Schema.RoundTrip

/-!
# Well-formed dictionaries

A dictionary is accepted when its names are identifiers, its types are in the form in which they are
kept, and its indices differ.  The document that describes it is the one that is written of it.
-/

namespace Canopen

/-- The type is read again from the text that is written of it. -/
def TypeKept (type : Option TypeName) : Prop :=
  Schema.readType (Schema.typeValue type) = .ok type

/-- The types in the content of an object are kept. -/
def Content.TypesKept : Content → Prop
  | var datum => TypeKept datum.dataType
  | array type subEntries => TypeKept type ∧ ∀ sub ∈ subEntries, TypeKept sub.datum.dataType
  | record subEntries => ∀ sub ∈ subEntries, TypeKept sub.datum.dataType

structure Entry.WellFormed (entry : Entry) : Prop where
  location : CName.isIdentifier entry.storageLocation.toList = true
  types : entry.content.TypesKept

structure Dictionary.WellFormed (dictionary : Dictionary) : Prop where
  name : CName.isIdentifier dictionary.name.toList = true
  objects : ∀ entry ∈ dictionary.objects, entry.WellFormed
  indices : (dictionary.objects.map (·.index)).Nodup

theorem typeKept_none : TypeKept none :=
  rfl

theorem typeKept_known (type : DataType) : TypeKept (some (.known type)) := by
  rw [TypeKept, Schema.typeValue, Option.map_some, Schema.textOrNull, Value.ofScript_whole,
    Schema.readType_text, TypeName.text, Schema.typeOfText_name]

namespace Schema

theorem readIdentifier_of_isIdentifier {name : String}
    (identifier : CName.isIdentifier name.toList = true) :
    readIdentifier (.text name) = .sound name :=
  if_pos identifier

theorem readDatum_of_writes {fields : Fields} {datum : Datum} (kept : TypeKept datum.dataType)
    (writes : WritesDatum fields datum) : readDatum fields = .sound datum :=
  readDatum_eq_sound_iff.2
    ⟨readField_of_field? writes.type (Checked.ofFault_eq_sound_iff.2 kept),
      readField_of_field? writes.default
        (Checked.ofFault_eq_sound_iff.2 (readDefault_textOrNull datum.default)),
      readField_of_field? writes.access (readAccess_name datum.access),
      readField_of_field? writes.mapping (readMapping_name datum.mapping)⟩

theorem readSubEntry_write {sub : SubEntry} (kept : TypeKept sub.datum.dataType) :
    readSubEntry (writeSubEntry sub) = .sound sub :=
  (readSubEntry_eq_sound_iff rfl).2
    ⟨readField_of_field? rfl (readSubindex_hexText sub.subindex),
      readField_of_field? rfl (readScript_ofScript sub.name),
      readDatum_of_writes kept (writesDatum_subEntry sub), rfl, rfl⟩

theorem readSubEntries_write {fields : Fields} {subEntries : List SubEntry}
    (kept : ∀ sub ∈ subEntries, TypeKept sub.datum.dataType)
    (found : Value.field? "sub_entries" fields = some (.list (subEntries.map writeSubEntry))) :
    readField fields "sub_entries" (.sound []) (readItems readSubEntry) = .sound subEntries :=
  readField_of_field? found
    (all_readAt_map (fun sub inside => readSubEntry_write (kept sub inside)) 0)

theorem writesDatum_entry (index : UInt16) (name : Script) (disabled : Bool) (location : String)
    (extIo : Bool) (label : Script) (datum : Datum) :
    WritesDatum (writtenFields ⟨index, name, disabled, location, extIo, label, .var datum⟩)
      datum :=
  ⟨rfl, rfl, rfl, rfl⟩

theorem readContent_write {entry : Entry} (kept : entry.content.TypesKept) :
    readContent (writtenFields entry) entry.content.shape = .sound entry.content := by
  rcases entry with ⟨index, name, disabled, location, extIo, label, content⟩
  cases content with
  | var datum =>
      have again := readDatum_of_writes kept
        (writesDatum_entry index name disabled location extIo label datum)
      rw [Content.shape, readContent, again]
      rfl
  | array type subEntries =>
      obtain ⟨typed, kept⟩ := kept
      have found : Value.field? "data_type" (writtenFields
          ⟨index, name, disabled, location, extIo, label, .array type subEntries⟩) =
            some (typeValue type) := rfl
      have again : Checked.ofFault (readType (typeValue type)) = .sound type :=
        Checked.ofFault_eq_sound_iff.2 typed
      rw [Content.shape, readContent, readSubEntries_write kept rfl, readField, found,
        Option.elim_some, again]
      rfl
  | record subEntries =>
      rw [Content.shape, readContent, readSubEntries_write kept rfl]
      rfl

theorem readEntry_write {entry : Entry} (wellFormed : entry.WellFormed) :
    readEntry (writeEntry entry) = .sound entry := by
  have written : (writeEntry entry).content = .map (writtenFields entry) := rfl
  rw [readEntry, written]
  simp only [selectShape_written, Checked.andThen, Checked.under_eq_sound_iff]
  exact readFields_eq_sound_iff.2
    ⟨readField_of_field? rfl (readIndex_hexText entry.index),
      readField_of_field? rfl (readScript_ofScript entry.name), readField_of_field? rfl rfl,
      readField_of_field? rfl (readIdentifier_of_isIdentifier wellFormed.location),
      readField_of_field? rfl rfl, readField_of_field? rfl (readScript_ofScript entry.countLabel),
      readContent_write wellFormed.types, unknownKeys_written entry, keysWhole_written entry⟩

theorem read_write {dictionary : Dictionary} (wellFormed : dictionary.WellFormed) :
    read (write dictionary) = .sound dictionary := by
  have fresh : Dictionary.repeatedIndex? [] dictionary.objects = none :=
    (Dictionary.repeatedIndex?_eq_none_iff [] dictionary.objects).2
      ⟨wellFormed.indices, fun _ _ => List.not_mem_nil⟩
  have objects : readItems readEntry (.list (dictionary.objects.map writeEntry)) =
      .sound dictionary.objects :=
    all_readAt_map (fun entry inside => readEntry_write (wellFormed.objects entry inside)) 0
  refine (read_eq_sound_iff rfl).2 ⟨?_, readField_of_field? rfl objects, rfl, ?_, fresh⟩
  · exact readField_of_field? rfl (readIdentifier_of_isIdentifier wellFormed.name)
  · rfl

end Schema

/-- Every well-formed dictionary is described by some document. -/
theorem Dictionary.WellFormed.accepted {dictionary : Dictionary}
    (wellFormed : dictionary.WellFormed) : dictionary.Accepted :=
  ⟨Schema.write dictionary, Schema.read_write wellFormed⟩

end Canopen
