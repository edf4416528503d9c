import Canopen.Image.Compile

/-!
# What one entry contributes

An entry is listed when it has enough parts, and a listed entry adds one descriptor, one row and at
most one extension.  One equation says everything that an entry adds to an image; all statements
about whole dictionaries start from it.
-/

namespace Canopen

/-- How many parts the row of an object announces. -/
def Content.subCount : Content → Nat
  | .var _ => 1
  | .array _ subEntries => subEntries.length
  | .record subEntries => subEntries.length

/-- A single value always gets a row, other objects need two parts. -/
def Content.isComplete : Content → Bool
  | .var _ => true
  | .array _ subEntries => 2 ≤ subEntries.length
  | .record subEntries => 2 ≤ subEntries.length

/-- The row of an object in the list. -/
def Entry.row (entry : Entry) : Row where
  index := entry.index.toNat
  subCount := entry.content.subCount
  shape := entry.content.shape
  extended := Compile.isExtended entry
  name := entry.symbol

/-- The hooks of an object that is reached through an extension. -/
def Entry.extension (entry : Entry) : Extension where
  name := entry.symbol
  group := entry.storageLocation
  extIo := true
  subCount := entry.content.subCount

namespace Entry

/-- The row of an entry, none if it has too few parts. -/
def rows (entry : Entry) : List Row :=
  if entry.content.isComplete then [entry.row] else []

/-- The extension of an entry, if it has one. -/
def extensions (entry : Entry) : List Extension :=
  if entry.content.isComplete && Compile.isExtended entry then [entry.extension] else []

/-- The label that an entry is counted under; an empty label does not count. -/
def labels (entry : Entry) : List Script :=
  if entry.content.isComplete && !entry.countLabel.isEmpty then [entry.countLabel] else []

end Entry

namespace Compile

variable (lengths : StringLengths)

/-- What is compiled of an entry that has enough parts. -/
def object? (entry : Entry) : Option CompiledObject :=
  (content lengths entry).2

/-- The storage of an entry. -/
def fields (entry : Entry) : List StorageField :=
  ((object? lengths entry).map (·.fields)).getD []

/-- The descriptor of an entry. -/
def descriptors (entry : Entry) : List Descriptor :=
  ((object? lengths entry).map (·.descriptor)).toList

/-- The warnings about an entry. -/
def reports (entry : Entry) : List String :=
  (findings lengths entry).map (Finding.report entry.label)

theorem length_arrayParts (entry : Entry) (type : Option TypeName) (subEntries : List SubEntry) :
    (arrayParts lengths entry type subEntries).length = subEntries.length :=
  List.length_mapIdx

theorem length_recordParts (entry : Entry) (subEntries : List SubEntry) :
    (recordParts lengths entry subEntries).length = subEntries.length :=
  List.length_mapIdx

/-- Parts are encoded in the order of the document. -/
theorem map_sub_recordParts (entry : Entry) (subEntries : List SubEntry) :
    (recordParts lengths entry subEntries).map (·.sub) = subEntries := by
  refine List.ext_getElem? fun position => ?_
  rw [recordParts, List.getElem?_map, List.getElem?_mapIdx, Option.map_map]
  exact congrFun Option.map_id _

/-- Nothing is compiled of an array that is too short. -/
theorem array_of_short (entry : Entry) (type : Option TypeName) {subEntries : List SubEntry}
    (short : subEntries.length < 2) :
    array lengths entry type subEntries = ([.arrayTooShort subEntries.length], none) := by
  have count := length_arrayParts lengths entry type subEntries
  unfold array
  split
  · next first second rest parts =>
    rw [parts] at count
    simp only [List.length_cons] at count
    omega
  · rw [count]

/-- An array of two parts at least begins with the number of its elements and an element. -/
theorem arrayParts_eq_cons (entry : Entry) (type : Option TypeName) {subEntries : List SubEntry}
    (enough : 2 ≤ subEntries.length) :
    ∃ count element rest, arrayParts lengths entry type subEntries = count :: element :: rest := by
  have same := length_arrayParts lengths entry type subEntries
  match parts : arrayParts lengths entry type subEntries with
  | [] =>
      rw [parts, List.length_nil] at same
      omega
  | [_] =>
      rw [parts, List.length_singleton] at same
      omega
  | count :: element :: rest => exact ⟨count, element, rest, rfl⟩

/-- Which object is compiled of an entry, for each of the three shapes. -/
inductive Compiled (entry : Entry) : CompiledObject → Prop where
  | var {datum : Datum} (shape : entry.content = .var datum) :
      Compiled entry (varObject entry datum
        (Encoding.ofDefault datum.dataType datum.default (lengths (.object entry))).1)
  | array {type : Option TypeName} {subEntries : List SubEntry} {count element : EncodedPart}
      {rest : List EncodedPart} (shape : entry.content = .array type subEntries)
      (parts : arrayParts lengths entry type subEntries = count :: element :: rest) :
      Compiled entry (arrayObject entry count element rest)
  | record {subEntries : List SubEntry} (shape : entry.content = .record subEntries)
      (enough : 2 ≤ subEntries.length) :
      Compiled entry (recordObject entry (recordParts lengths entry subEntries))

/-- Nothing is compiled of an entry with too few parts. -/
theorem object?_eq_none {entry : Entry} (short : entry.content.isComplete = false) :
    object? lengths entry = none := by
  unfold object? content
  cases shape : entry.content with
  | var datum =>
      rw [shape] at short
      cases short
  | array type subEntries =>
      rw [shape] at short
      have few : subEntries.length < 2 := Nat.not_le.1 (of_decide_eq_false short)
      exact congrArg Prod.snd (array_of_short lengths entry type few)
  | record subEntries =>
      rw [shape] at short
      have few : subEntries.length < 2 := Nat.not_le.1 (of_decide_eq_false short)
      exact congrArg Prod.snd (if_pos few)

/-- Every complete entry is compiled. -/
theorem exists_compiled {entry : Entry} (complete : entry.content.isComplete = true) :
    ∃ object, object? lengths entry = some object ∧ Compiled lengths entry object := by
  unfold object? content
  cases shape : entry.content with
  | var datum => exact ⟨_, rfl, .var shape⟩
  | array type subEntries =>
      rw [shape] at complete
      obtain ⟨count, element, rest, parts⟩ :=
        arrayParts_eq_cons lengths entry type (of_decide_eq_true complete)
      refine ⟨arrayObject entry count element rest, ?_, .array shape parts⟩
      simp only [array, parts]
  | record subEntries =>
      rw [shape] at complete
      have enough : 2 ≤ subEntries.length := of_decide_eq_true complete
      refine ⟨recordObject entry (recordParts lengths entry subEntries), ?_, .record shape enough⟩
      exact congrArg Prod.snd (if_neg (Nat.not_lt.2 enough))

theorem compiled_of_object? {entry : Entry} {object : CompiledObject}
    (found : object? lengths entry = some object) : Compiled lengths entry object := by
  cases complete : entry.content.isComplete with
  | false =>
      rw [object?_eq_none lengths complete] at found
      cases found
  | true =>
      obtain ⟨other, compiled, done⟩ := exists_compiled lengths complete
      rw [compiled] at found
      cases found
      exact done

/-- A compiled object keeps its members. -/
theorem fields_of_object? {entry : Entry} {object : CompiledObject}
    (found : object? lengths entry = some object) : fields lengths entry = object.fields := by
  rw [fields, found]
  rfl

theorem fields_of_arrayParts {entry : Entry} {type : Option TypeName} {subEntries : List SubEntry}
    {count element : EncodedPart} {rest : List EncodedPart}
    (shape : entry.content = .array type subEntries)
    (parts : arrayParts lengths entry type subEntries = count :: element :: rest) :
    fields lengths entry = (arrayObject entry count element rest).fields := by
  simp only [fields, object?, content, shape, array, parts, Option.map_some, Option.getD_some]

theorem Compiled.subCount {entry : Entry} {object : CompiledObject}
    (compiled : Compiled lengths entry object) : object.subCount = entry.content.subCount := by
  cases compiled with
  | var shape =>
      rw [shape]
      rfl
  | @array type subEntries count element rest shape parts =>
      have same := length_arrayParts lengths entry type subEntries
      rw [parts] at same
      rw [shape]
      exact same
  | @record subEntries shape enough =>
      rw [shape]
      exact length_recordParts lengths entry subEntries

end Compile

end Canopen
