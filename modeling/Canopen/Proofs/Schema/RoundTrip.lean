import Canopen.Document
import Canopen.Proofs.Acceptance
import Canopen.Proofs.Schema.Forms

/-!
# Writing and reading again

A dictionary that was read from a document is written as a document of which the same dictionary is
read.  Each reader of a part is shown to understand what is written of its own results; the readers
of larger parts inherit this from those of their fields.
-/

namespace Canopen.Schema

variable {α : Type}

/-- What the reader makes of any value is written in a way that it reads as the same. -/
def Rereads (read : Value → Checked α) (write : α → Value) : Prop :=
  ∀ value result, read value = .sound result → read (write result) = .sound result

namespace Checked

theorem under_eq_sound_iff {step : Step} {value : Checked α} {result : α} :
    value.under step = sound result ↔ value = sound result := by
  cases value <;> simp [under]

theorem refuseIf_eq_sound_iff {more : List Issue} {value : Checked α} {result : α} :
    value.refuseIf more = sound result ↔ value = sound result ∧ more = [] := by
  cases value <;> cases more <;> simp [refuseIf]

theorem ofFault_eq_sound_iff {value : Except Fault α} {result : α} :
    ofFault value = sound result ↔ value = .ok result := by
  cases value <;> simp [ofFault, problem]

end Checked

/-- No key of the fields holds halves of characters. -/
def KeysWhole (fields : Fields) : Prop :=
  (fields.any fun (key, _) => key matches .halved _) = false

theorem checkKeys_eq_sound_iff {fields : Fields} {checked : Checked α} {result : α} :
    checkKeys fields checked = .sound result ↔ checked = .sound result ∧ KeysWhole fields := by
  unfold checkKeys KeysWhole
  cases fields.any fun (key, _) => key matches .halved _ with
  | true => simp [Checked.problem]
  | false => simp

/-! ## Fields and lists -/

section

variable {read : Value → Checked α} {write : α → Value} {fields : Fields} {name : String}
  {absent : Checked α} {result : α}

theorem readField_of_field? {value : Value} (found : Value.field? name fields = some value)
    (sound : read value = .sound result) :
    readField fields name absent read = .sound result := by
  rw [readField, found, Checked.under_eq_sound_iff]
  exact sound

/-- What a field was read as is read again from what is written of it; so is the value that stands
for a field that is left out. -/
theorem Rereads.field (again : Rereads read write)
    (left : ∀ standard, absent = .sound standard → read (write standard) = .sound standard)
    (done : readField fields name absent read = .sound result) :
    read (write result) = .sound result := by
  rw [readField, Checked.under_eq_sound_iff] at done
  cases found : Value.field? name fields with
  | none =>
      rw [found] at done
      exact left result done
  | some value =>
      rw [found] at done
      exact again value result done

/-- Every item of a list was read from some value. -/
theorem exists_of_all_readAt {position : Nat} {items : List Value} {results : List α}
    (done : Checked.all (readAt read position items) = .sound results) :
    ∀ result ∈ results, ∃ value, read value = .sound result := by
  induction items generalizing position results with
  | nil =>
      cases done
      exact fun _ none => nomatch none
  | cons item rest ih =>
      obtain ⟨_, later, front, behind, rfl⟩ := Checked.apply_eq_sound done
      obtain ⟨_, first, cons, here, rfl⟩ := Checked.apply_eq_sound front
      cases cons
      intro result inside
      rcases List.mem_cons.1 inside with rfl | inside
      · exact ⟨item, Checked.under_eq_sound_iff.1 here⟩
      · exact ih behind result inside

theorem all_readAt_map {results : List α}
    (again : ∀ result ∈ results, read (write result) = .sound result) (position : Nat) :
    Checked.all (readAt read position (results.map write)) = .sound results := by
  induction results generalizing position with
  | nil => rfl
  | cons first rest ih =>
      have here := again first List.mem_cons_self
      have later := ih (fun result inside => again result (List.mem_cons_of_mem _ inside))
        (position + 1)
      rw [List.map_cons, readAt, Checked.all, here, later]
      rfl

theorem exists_of_readItems {value : Value} {results : List α}
    (done : readItems read value = .sound results) :
    ∀ result ∈ results, ∃ item, read item = .sound result := by
  unfold readItems at done
  split at done
  · exact exists_of_all_readAt done
  · cases done

theorem Rereads.items (again : Rereads read write) :
    Rereads (readItems read) fun results => .list (results.map write) := by
  intro value results done
  refine all_readAt_map (fun result inside => ?_) 0
  obtain ⟨item, sound⟩ := exists_of_readItems done result inside
  exact again item result sound

end

/-! ## Readers of single fields -/

theorem rereads_script : Rereads readScript .ofScript :=
  fun _ script _ => readScript_ofScript script

theorem rereads_identifier : Rereads readIdentifier .text :=
  fun _ _ done => readIdentifier_text done

theorem rereads_truth : Rereads readTruth .bool :=
  fun _ _ _ => rfl

theorem rereads_index : Rereads readIndex fun index => hexText 4 index.toNat :=
  fun _ index _ => readIndex_hexText index

theorem rereads_subindex : Rereads readSubindex fun subindex => hexText 2 subindex.toNat :=
  fun _ subindex _ => readSubindex_hexText subindex

theorem rereads_type : Rereads (fun value => Checked.ofFault (readType value)) typeValue :=
  fun _ _ done => Checked.ofFault_eq_sound_iff.2
    (readType_typeValue (Checked.ofFault_eq_sound_iff.1 done))

theorem rereads_default : Rereads (fun value => Checked.ofFault (readDefault value)) textOrNull :=
  fun _ default _ => Checked.ofFault_eq_sound_iff.2 (readDefault_textOrNull default)

theorem rereads_access :
    Rereads readAccess fun access => textOrNull (access.map fun access => .whole access.name) :=
  fun _ access _ => readAccess_name access

theorem rereads_mapping : Rereads readMapping fun mapping => .text mapping.name :=
  fun _ mapping _ => readMapping_name mapping

/-! ## Values -/

theorem readDatum_eq_sound_iff {fields : Fields} {datum : Datum} :
    readDatum fields = .sound datum ↔
      readField fields "data_type" (.sound none) (fun value => Checked.ofFault (readType value)) =
        .sound datum.dataType ∧
      readField fields "default" (.sound none) (fun value => Checked.ofFault (readDefault value)) =
        .sound datum.default ∧
      readField fields "access" (.sound none) readAccess = .sound datum.access ∧
      readField fields "pdo_mapping" (.sound .no) readMapping = .sound datum.mapping := by
  constructor
  · intro done
    obtain ⟨_, mapping, front, mapped, rfl⟩ := Checked.apply_eq_sound done
    obtain ⟨_, access, start, accessed, rfl⟩ := Checked.apply_eq_sound front
    obtain ⟨_, default, first, given, rfl⟩ := Checked.apply_eq_sound start
    obtain ⟨_, type, make, typed, rfl⟩ := Checked.apply_eq_sound first
    cases make
    exact ⟨typed, given, accessed, mapped⟩
  · rintro ⟨typed, given, accessed, mapped⟩
    rw [readDatum, typed, given, accessed, mapped]
    rfl

/-- The fields of a single value are written under their keys. -/
structure WritesDatum (fields : Fields) (datum : Datum) : Prop where
  type : Value.field? "data_type" fields = some (typeValue datum.dataType)
  default : Value.field? "default" fields = some (textOrNull datum.default)
  access :
    Value.field? "access" fields =
      some (textOrNull (datum.access.map fun access => .whole access.name))
  mapping : Value.field? "pdo_mapping" fields = some (.text datum.mapping.name)

theorem readDatum_written {fields written : Fields} {datum : Datum}
    (done : readDatum fields = .sound datum) (writes : WritesDatum written datum) :
    readDatum written = .sound datum := by
  obtain ⟨typed, given, accessed, mapped⟩ := readDatum_eq_sound_iff.1 done
  refine readDatum_eq_sound_iff.2 ⟨?_, ?_, ?_, ?_⟩
  · refine readField_of_field? writes.type (rereads_type.field ?_ typed)
    rintro _ ⟨⟩
    rfl
  · refine readField_of_field? writes.default (rereads_default.field ?_ given)
    rintro _ ⟨⟩
    rfl
  · refine readField_of_field? writes.access (rereads_access.field ?_ accessed)
    rintro _ ⟨⟩
    rfl
  · exact readField_of_field? writes.mapping
      (rereads_mapping.field (fun mapping _ => readMapping_name mapping) mapped)

theorem readSubEntry_eq_sound_iff {value : Value} {fields : Fields} {sub : SubEntry}
    (content : value.content = .map fields) :
    readSubEntry value = .sound sub ↔
      readField fields "subindex" required readSubindex = .sound sub.subindex ∧
      readField fields "name" (.sound (.whole "")) readScript = .sound sub.name ∧
      readDatum fields = .sound sub.datum ∧
      unknownKeys subEntryKeys fields = [] ∧ KeysWhole fields := by
  rw [readSubEntry, content]
  simp only [checkKeys_eq_sound_iff, Checked.refuseIf_eq_sound_iff]
  constructor
  · rintro ⟨⟨all, known⟩, whole⟩
    obtain ⟨_, datum, front, valued, rfl⟩ := Checked.apply_eq_sound all
    obtain ⟨_, name, first, named, rfl⟩ := Checked.apply_eq_sound front
    obtain ⟨_, subindex, make, placed, rfl⟩ := Checked.apply_eq_sound first
    cases make
    exact ⟨placed, named, valued, known, whole⟩
  · rintro ⟨placed, named, valued, known, whole⟩
    rw [placed, named, valued]
    exact ⟨⟨rfl, known⟩, whole⟩

theorem writesDatum_subEntry (sub : SubEntry) :
    WritesDatum (fieldOf "subindex" (hexText 2 sub.subindex.toNat) ::
      fieldOf "name" (.ofScript sub.name) :: datumFields sub.datum) sub.datum := by
  constructor <;> simp [Value.field?, fieldOf, datumFields]

theorem rereads_subEntry : Rereads readSubEntry writeSubEntry := by
  intro value sub done
  cases content : value.content with
  | map fields =>
      obtain ⟨placed, named, valued, _, _⟩ := (readSubEntry_eq_sound_iff content).1 done
      refine (readSubEntry_eq_sound_iff rfl).2 ⟨?_, ?_, ?_, ?_, ?_⟩
      · exact readField_of_field? rfl (rereads_subindex.field (by rintro _ ⟨⟩) placed)
      · exact readField_of_field? rfl (rereads_script.field (fun script _ => readScript_ofScript script) named)
      · exact readDatum_written valued (writesDatum_subEntry sub)
      · rfl
      · rfl
  | _ =>
      rw [readSubEntry, content] at done
      cases done

/-! ## Objects -/

theorem readFields_eq_sound_iff {shape : Shape} {fields : Fields} {entry : Entry} :
    readFields shape fields = .sound entry ↔
      readField fields "index" required readIndex = .sound entry.index ∧
      readField fields "name" (.sound (.whole "")) readScript = .sound entry.name ∧
      readField fields "disabled" (.sound false) readTruth = .sound entry.disabled ∧
      readField fields "storage_location" (.sound "RAM") readIdentifier =
        .sound entry.storageLocation ∧
      readField fields "ext_io" (.sound false) readTruth = .sound entry.extIo ∧
      readField fields "count_label" (.sound (.whole "ALL")) readScript = .sound entry.countLabel ∧
      readContent fields shape = .sound entry.content ∧
      unknownKeys (entryKeys ++ contentKeys shape) fields = [] ∧ KeysWhole fields := by
  simp only [readFields, checkKeys_eq_sound_iff, Checked.refuseIf_eq_sound_iff]
  constructor
  · rintro ⟨⟨all, known⟩, whole⟩
    obtain ⟨_, content, sixth, filled, rfl⟩ := Checked.apply_eq_sound all
    obtain ⟨_, label, fifth, labelled, rfl⟩ := Checked.apply_eq_sound sixth
    obtain ⟨_, extIo, fourth, extended, rfl⟩ := Checked.apply_eq_sound fifth
    obtain ⟨_, location, third, stored, rfl⟩ := Checked.apply_eq_sound fourth
    obtain ⟨_, disabled, second, excluded, rfl⟩ := Checked.apply_eq_sound third
    obtain ⟨_, name, first, named, rfl⟩ := Checked.apply_eq_sound second
    obtain ⟨_, index, make, placed, rfl⟩ := Checked.apply_eq_sound first
    cases make
    exact ⟨placed, named, excluded, stored, extended, labelled, filled, known, whole⟩
  · rintro ⟨placed, named, excluded, stored, extended, labelled, filled, known, whole⟩
    rw [placed, named, excluded, stored, extended, labelled, filled]
    exact ⟨⟨rfl, known⟩, whole⟩

/-- The fields of an object as they are written. -/
def writtenFields (entry : Entry) : Fields :=
  [fieldOf "index" (hexText 4 entry.index.toNat),
    fieldOf "name" (.ofScript entry.name),
    fieldOf "disabled" (.bool entry.disabled),
    fieldOf "storage_location" (.text entry.storageLocation),
    fieldOf "ext_io" (.bool entry.extIo),
    fieldOf "count_label" (.ofScript entry.countLabel),
    fieldOf "object_type" (.text entry.content.shape.name)] ++ contentFields entry.content

/-- Whatever the parts of an object were read as is read again from the list of them. -/
theorem readItems_written {fields written : Fields} {subEntries : List SubEntry}
    (done : readField fields "sub_entries" (.sound []) (readItems readSubEntry) =
      .sound subEntries)
    (found : Value.field? "sub_entries" written =
      some (.list (subEntries.map writeSubEntry))) :
    readField written "sub_entries" (.sound []) (readItems readSubEntry) = .sound subEntries := by
  refine readField_of_field? found (rereads_subEntry.items.field ?_ done)
  rintro _ ⟨⟩
  rfl

theorem readContent_written {shape : Shape} {fields : Fields} {entry : Entry}
    (done : readContent fields shape = .sound entry.content) :
    entry.content.shape = shape ∧
      readContent (writtenFields entry) shape = .sound entry.content := by
  rcases entry with ⟨index, name, disabled, location, extIo, label, content⟩
  cases shape with
  | var =>
      obtain ⟨_, datum, make, valued, rfl⟩ := Checked.apply_eq_sound done
      cases make
      refine ⟨rfl, ?_⟩
      rw [readContent, readDatum_written valued ⟨rfl, rfl, rfl, rfl⟩]
      rfl
  | array =>
      obtain ⟨_, subEntries, front, listed, rfl⟩ := Checked.apply_eq_sound done
      obtain ⟨_, type, make, typed, rfl⟩ := Checked.apply_eq_sound front
      cases make
      refine ⟨rfl, ?_⟩
      have type := rereads_type.field (by rintro _ ⟨⟩; rfl) typed
      rw [readContent, readItems_written listed rfl, readField_of_field? rfl type]
      rfl
  | record =>
      obtain ⟨_, subEntries, make, listed, rfl⟩ := Checked.apply_eq_sound done
      cases make
      refine ⟨rfl, ?_⟩
      rw [readContent, readItems_written listed rfl]
      rfl

theorem selectShape_written (entry : Entry) :
    selectShape (writtenFields entry) = .sound entry.content.shape := by
  have found : Value.field? "object_type" (writtenFields entry) =
      some (.text entry.content.shape.name) := rfl
  rw [selectShape, found]
  simp only [readShape?_name]

theorem unknownKeys_written (entry : Entry) :
    unknownKeys (entryKeys ++ contentKeys entry.content.shape) (writtenFields entry) = [] := by
  unfold writtenFields
  cases entry.content <;> rfl

theorem keysWhole_written (entry : Entry) : KeysWhole (writtenFields entry) := by
  unfold writtenFields
  cases entry.content <;> rfl

theorem rereads_entry : Rereads readEntry writeEntry := by
  intro value entry done
  cases content : value.content with
  | map fields =>
      rw [readEntry, content] at done
      obtain ⟨shape, _, done⟩ := Checked.andThen_eq_sound done
      obtain ⟨placed, named, excluded, stored, extended, labelled, filled, _, _⟩ :=
        readFields_eq_sound_iff.1 (Checked.under_eq_sound_iff.1 done)
      obtain ⟨rfl, again⟩ := readContent_written filled
      have read : readFields entry.content.shape (writtenFields entry) = .sound entry := by
        refine readFields_eq_sound_iff.2
          ⟨?_, ?_, ?_, ?_, ?_, ?_, again, unknownKeys_written entry, keysWhole_written entry⟩
        · exact readField_of_field? rfl (rereads_index.field (by rintro _ ⟨⟩) placed)
        · exact readField_of_field? rfl (rereads_script.field (fun script _ => readScript_ofScript script) named)
        · exact readField_of_field? rfl (rereads_truth.field (fun _ _ => rfl) excluded)
        · refine readField_of_field? rfl (rereads_identifier.field ?_ stored)
          rintro _ ⟨⟩
          rfl
        · exact readField_of_field? rfl (rereads_truth.field (fun _ _ => rfl) extended)
        · exact readField_of_field? rfl (rereads_script.field (fun script _ => readScript_ofScript script) labelled)
      have written : (writeEntry entry).content = .map (writtenFields entry) := rfl
      rw [readEntry, written]
      simp only [selectShape_written, Checked.andThen, Checked.under_eq_sound_iff]
      exact read
  | _ =>
      rw [readEntry, content] at done
      cases done

/-! ## Dictionaries -/

theorem read_eq_sound_iff {value : Value} {fields : Fields} {dictionary : Dictionary}
    (content : value.content = .map fields) :
    read value = .sound dictionary ↔
      readField fields "name" (.sound "OD") readIdentifier = .sound dictionary.name ∧
      readField fields "objects" (.sound []) (readItems readEntry) = .sound dictionary.objects ∧
      unknownKeys ["name", "objects"] fields = [] ∧ KeysWhole fields ∧
      Dictionary.repeatedIndex? [] dictionary.objects = none := by
  rw [read, content]
  constructor
  · intro done
    obtain ⟨_, front, checked⟩ := Checked.andThen_eq_sound done
    obtain ⟨rfl, fresh⟩ := checkIndices_eq_sound checked
    obtain ⟨all, whole⟩ := checkKeys_eq_sound_iff.1 front
    obtain ⟨parts, known⟩ := Checked.refuseIf_eq_sound_iff.1 all
    obtain ⟨_, objects, first, listed, rfl⟩ := Checked.apply_eq_sound parts
    obtain ⟨_, name, make, named, rfl⟩ := Checked.apply_eq_sound first
    cases make
    exact ⟨named, listed, known, whole, fresh⟩
  · rintro ⟨named, listed, known, whole, fresh⟩
    have parts : (((Checked.sound Dictionary.mk).apply (.sound dictionary.name)).apply
        (.sound dictionary.objects)).refuseIf (unknownKeys ["name", "objects"] fields) =
          .sound dictionary :=
      Checked.refuseIf_eq_sound_iff.2 ⟨rfl, known⟩
    simp only [named, listed, checkKeys_eq_sound_iff.2 ⟨parts, whole⟩, Checked.andThen,
      checkIndices, fresh]

theorem rereads_dictionary : Rereads read write := by
  intro value dictionary done
  cases content : value.content with
  | map fields =>
      obtain ⟨named, listed, _, _, fresh⟩ := (read_eq_sound_iff content).1 done
      refine (read_eq_sound_iff rfl).2 ⟨?_, ?_, rfl, ?_, fresh⟩
      · refine readField_of_field? rfl (rereads_identifier.field ?_ named)
        rintro _ ⟨⟩
        rfl
      · refine readField_of_field? rfl (rereads_entry.items.field ?_ listed)
        rintro _ ⟨⟩
        rfl
      · rfl
  | _ =>
      rw [read, content] at done
      cases done

/-- Every object of a written dictionary names its shape. -/
theorem hasUnwritableShape_writeEntry (entry : Entry) :
    hasUnwritableShape (writeEntry entry) = false := by
  have named : Value.field? "object_type" (writtenFields entry) =
      some (.text entry.content.shape.name) := rfl
  have written : (writeEntry entry).content = .map (writtenFields entry) := rfl
  rw [hasUnwritableShape, written]
  simp only [named, Option.any_some, readShape?_name]
  rfl

theorem isUnwritable_write (dictionary : Dictionary) : isUnwritable (write dictionary) = false := by
  have items : (dictionary.objects.map writeEntry).any hasUnwritableShape = false := by
    rw [List.any_map, List.any_eq_false]
    intro entry _
    rw [Function.comp_apply, hasUnwritableShape_writeEntry]
    exact Bool.false_ne_true
  exact items

end Canopen.Schema

namespace Canopen.Document

/-- What is written of a dictionary that was read is read as the same dictionary. -/
theorem check_write {value : Value} {dictionary : Dictionary}
    (accepted : check value = .ok dictionary) :
    check (Schema.write dictionary) = .ok dictionary := by
  have sound : Schema.read value = .sound dictionary := by
    unfold check at accepted
    split at accepted
    · cases accepted
    · split at accepted
      · next read =>
        cases accepted
        exact read
      · cases accepted
  have again := Schema.rereads_dictionary value dictionary sound
  rw [check, Schema.isUnwritable_write, if_neg Bool.false_ne_true, again]

/-- The small device is read again, although its document spells it in other ways. -/
theorem check_write_device :
    check Example.document = .ok Example.device ∧ Schema.write Example.device ≠ Example.document ∧
      check (Schema.write Example.device) = .ok Example.device := by
  have accepted : check Example.document = .ok Example.device := by decide +kernel
  refine ⟨accepted, fun same => ?_, check_write accepted⟩
  have fields := congrArg List.length (Value.map.inj same)
  cases fields

end Canopen.Document
