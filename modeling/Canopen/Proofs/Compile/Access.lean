import Canopen.Proofs.Compile.Elements
import Canopen.Proofs.Report

/-!
# Access, mapping and counter labels

Who may reach a value, how it is mapped and what an object is counted under say nothing about how it
is stored.  These labels are erased here from dictionaries and from everything that is compiled of
them, and compiling commutes with the erasure at every stage.
-/

namespace Canopen

/-! ## Erased dictionaries -/

/-- The value without access and mapping. -/
def Datum.bare (datum : Datum) : Datum :=
  { datum with access := none, mapping := .no }

def SubEntry.bare (sub : SubEntry) : SubEntry :=
  { sub with datum := sub.datum.bare }

def Content.bare : Content → Content
  | var datum => .var datum.bare
  | array type subEntries => .array type (subEntries.map SubEntry.bare)
  | record subEntries => .record (subEntries.map SubEntry.bare)

/-- The entry without access and mapping of its values and without its counter label. -/
def Entry.bare (entry : Entry) : Entry :=
  { entry with countLabel := "", content := entry.content.bare }

def Dictionary.bare (dictionary : Dictionary) : Dictionary :=
  { dictionary with objects := dictionary.objects.map Entry.bare }

def Slot.bare : Slot → Slot
  | object entry => .object entry.bare
  | part entry position sub => .part entry.bare position sub.bare

/-- The lengths do not depend on access, mapping and counter labels. -/
def StringLengths.Blind (lengths : StringLengths) : Prop :=
  ∀ first second : Slot, first.bare = second.bare → lengths first = lengths second

theorem Datum.bare_bare (datum : Datum) : datum.bare.bare = datum.bare :=
  rfl

theorem SubEntry.bare_bare (sub : SubEntry) : sub.bare.bare = sub.bare :=
  rfl

theorem Content.bare_bare (content : Content) : content.bare.bare = content.bare := by
  cases content <;> simp [Content.bare, Datum.bare_bare, SubEntry.bare_bare]

theorem Entry.bare_bare (entry : Entry) : entry.bare.bare = entry.bare := by
  simp [Entry.bare, Content.bare_bare]

theorem Slot.bare_bare (slot : Slot) : slot.bare.bare = slot.bare := by
  cases slot <;> simp [Slot.bare, Entry.bare_bare, SubEntry.bare_bare]

theorem StringLengths.Blind.bare {lengths : StringLengths} (blind : lengths.Blind) (slot : Slot) :
    lengths slot.bare = lengths slot :=
  blind _ _ slot.bare_bare

theorem fixedLength_blind (length : Int) : (fixedLength length).Blind :=
  fun _ _ _ => rfl

/-! ## Erased images -/

/-- The flags that do not come from access or mapping. -/
def Attribute.bare (flags : List Attribute) : List Attribute :=
  flags.filter (· = .multibyte)

def RecordPart.bare (part : RecordPart) : RecordPart :=
  { part with attributes := Attribute.bare part.attributes }

namespace Descriptor

def bare : Descriptor → Descriptor
  | var name data flags length => .var name data (Attribute.bare flags) length
  | array name count data countFlags flags length elementType =>
      .array name count data (Attribute.bare countFlags) (Attribute.bare flags) length elementType
  | record name parts => .record name (parts.map RecordPart.bare)

/-- The descriptor without any flags. -/
def withoutFlags : Descriptor → Descriptor
  | var name data _ length => .var name data [] length
  | array name count data _ _ length elementType => .array name count data [] [] length elementType
  | record name parts => .record name (parts.map fun part => { part with attributes := [] })

/-- All flag lists of the descriptor. -/
def flags : Descriptor → List (List Attribute)
  | var _ _ flags _ => [flags]
  | array _ _ _ countFlags flags _ _ => [countFlags, flags]
  | record _ parts => parts.map (·.attributes)

/-- The descriptors agree in all but their flags, and in which flags mark a wide value. -/
structure Alike (first second : Descriptor) : Prop where
  storage : first.withoutFlags = second.withoutFlags
  wide :
    List.Forall₂ (fun flags others => .multibyte ∈ flags ↔ .multibyte ∈ others) first.flags
      second.flags

end Descriptor

/-- The warning is not about the attributes of elements. -/
def Warning.isOther (message : String) : Bool :=
  (split message).2 ≠ "Attributes of elements in ARRAY must be equal!"

/-- The images agree in all that does not come from access, mapping and counter labels. -/
structure Image.Alike (first second : Image) : Prop where
  name : first.name = second.name
  groups : first.groups = second.groups
  extensions : first.extensions = second.extensions
  rows : first.rows = second.rows
  shortcuts : first.shortcuts = second.shortcuts
  longShortcuts : first.longShortcuts = second.longShortcuts
  objects : List.Forall₂ Descriptor.Alike first.objects second.objects
  warnings : first.warnings.filter Warning.isOther = second.warnings.filter Warning.isOther

def Image.bare (image : Image) : Image :=
  { image with
    objects := image.objects.map Descriptor.bare
    counters := []
    warnings := image.warnings.filter Warning.isOther }

theorem Attribute.mem_bare_iff (flags : List Attribute) :
    .multibyte ∈ Attribute.bare flags ↔ .multibyte ∈ flags := by
  simp [Attribute.bare]

theorem Attribute.bare_attributes (access : Option Access) (mapping : Option Mapping)
    (multibyte : Bool) :
    Attribute.bare (attributes access mapping multibyte) = attributes none (some .no) multibyte := by
  cases multibyte <;> rcases access with _ | (_ | _ | _ | _ | _ | _) <;>
    rcases mapping with _ | (_ | _ | _ | _) <;> decide

theorem Attribute.bare_bare (flags : List Attribute) :
    Attribute.bare (Attribute.bare flags) = Attribute.bare flags := by
  simp [Attribute.bare]

namespace Descriptor

theorem bare_bare (descriptor : Descriptor) : descriptor.bare.bare = descriptor.bare := by
  cases descriptor <;> simp [bare, RecordPart.bare, Attribute.bare_bare]

theorem withoutFlags_bare (descriptor : Descriptor) :
    descriptor.bare.withoutFlags = descriptor.withoutFlags := by
  cases descriptor <;> simp [bare, withoutFlags, RecordPart.bare]

theorem flags_bare (descriptor : Descriptor) :
    descriptor.bare.flags = descriptor.flags.map Attribute.bare := by
  cases descriptor <;> simp [bare, flags, RecordPart.bare]

theorem alike_of_bare {first second : Descriptor} (same : first.bare = second.bare) :
    first.Alike second where
  storage := by rw [← withoutFlags_bare first, same, withoutFlags_bare]
  wide := by
    have erased : first.flags.map Attribute.bare = second.flags.map Attribute.bare := by
      rw [← flags_bare, same, flags_bare]
    refine (Compile.forall₂_of_map_eq erased).imp fun flags others same => ?_
    rw [← Attribute.mem_bare_iff, same, Attribute.mem_bare_iff]

end Descriptor

theorem Image.alike_of_bare {first second : Image} (same : first.bare = second.bare) :
    first.Alike second where
  name := congrArg (·.name) same
  groups := congrArg (·.groups) same
  extensions := congrArg (·.extensions) same
  rows := congrArg (·.rows) same
  shortcuts := congrArg (·.shortcuts) same
  longShortcuts := congrArg (·.longShortcuts) same
  objects := by
    have erased : first.objects.map Descriptor.bare = second.objects.map Descriptor.bare :=
      congrArg (·.objects) same
    exact (Compile.forall₂_of_map_eq erased).imp fun _ _ => Descriptor.alike_of_bare
  warnings := congrArg (·.warnings) same

/-! ## Erased findings -/

/-- The finding is not about the attributes of elements. -/
def Finding.isOther (finding : Finding) : Bool :=
  finding ≠ .arrayAttributes

theorem Warning.isOther_report (entry : Entry) (finding : Finding) :
    isOther (finding.report entry.label) = finding.isOther := by
  rw [isOther, split_report, Finding.isOther]
  simp only [ne_eq, Finding.text_eq_iff]

/-! ## Encoded parts -/

/-- The encoded part without access and mapping. -/
def EncodedPart.bare (part : EncodedPart) : EncodedPart :=
  { part with sub := part.sub.bare, attributes := Attribute.bare part.attributes }

def CompiledObject.bare (object : CompiledObject) : CompiledObject :=
  { object with descriptor := object.descriptor.bare }

namespace Compile

section

variable {lengths : StringLengths} (blind : lengths.Blind) (entry : Entry)

include blind

theorem encodePart_bare (position : Nat) (type : Option TypeName) (sub : SubEntry) :
    encodePart lengths entry.bare position type sub.bare =
      (encodePart lengths entry position type sub).bare := by
  have length : lengths (.part entry.bare position sub.bare) = lengths (.part entry position sub) :=
    blind.bare (.part entry position sub)
  have default : sub.bare.datum.default = sub.datum.default := rfl
  simp only [encodePart, EncodedPart.bare, length, default, Attribute.bare_attributes]
  rfl

/-- Parts whose types do not depend on the labels. -/
theorem parts_bare (type : Nat → SubEntry → Option TypeName)
    (same : ∀ position sub, type position sub.bare = type position sub)
    (subEntries : List SubEntry) :
    (subEntries.map SubEntry.bare).mapIdx (fun position sub =>
        encodePart lengths entry.bare position (type position sub) sub) =
      (subEntries.mapIdx fun position sub =>
        encodePart lengths entry position (type position sub) sub).map EncodedPart.bare := by
  refine List.ext_getElem? fun position => ?_
  simp only [List.getElem?_mapIdx, List.getElem?_map, Option.map_map]
  refine congrArg (Option.map · _) (funext fun sub => ?_)
  simp only [Function.comp_apply, same, encodePart_bare blind]

theorem arrayParts_bare (type : Option TypeName) (subEntries : List SubEntry) :
    arrayParts lengths entry.bare type (subEntries.map SubEntry.bare) =
      (arrayParts lengths entry type subEntries).map EncodedPart.bare :=
  parts_bare blind entry (partType type) (fun _ _ => rfl) subEntries

theorem recordParts_bare (subEntries : List SubEntry) :
    recordParts lengths entry.bare (subEntries.map SubEntry.bare) =
      (recordParts lengths entry subEntries).map EncodedPart.bare :=
  parts_bare blind entry (fun _ sub => sub.datum.dataType) (fun _ _ => rfl) subEntries

end

/-! ## Compiled objects -/

theorem varObject_bare (entry : Entry) (datum : Datum) (encoding : Encoding) :
    varObject entry.bare datum.bare encoding = (varObject entry datum encoding).bare := by
  simp only [varObject, CompiledObject.bare, Descriptor.bare, Attribute.bare_attributes]
  rfl

theorem arrayObject_bare (entry : Entry) (count element : EncodedPart) (rest : List EncodedPart) :
    arrayObject entry.bare count.bare element.bare (rest.map EncodedPart.bare) =
      (arrayObject entry count element rest).bare := by
  have texts : (rest.map EncodedPart.bare).map (elementText element.bare) =
      rest.map (elementText element) := by
    rw [List.map_map]
    rfl
  have halved : (rest.map EncodedPart.bare).any (·.encoding.isHalved) =
      rest.any (·.encoding.isHalved) := List.any_map
  simp only [arrayObject, CompiledObject.bare, Descriptor.bare, arrayFields, List.map_cons, texts,
    List.any_cons, halved, List.length_cons, List.length_map]
  rfl

theorem recordObject_bare (entry : Entry) (parts : List EncodedPart) :
    recordObject entry.bare (parts.map EncodedPart.bare) = (recordObject entry parts).bare := by
  have members : (parts.map EncodedPart.bare).filterMap recordMember? =
      parts.filterMap recordMember? := by
    rw [List.filterMap_map]
    rfl
  simp only [recordObject, CompiledObject.bare, Descriptor.bare, recordFields, members,
    List.map_map, List.length_map]
  rfl

/-! ## Findings -/

/-- Without the finding about attributes, differences are found in types and values only. -/
theorem filter_differences (element part : EncodedPart) :
    (differences element part).filter Finding.isOther =
      (if part.encoding.cType ≠ element.encoding.cType ∨
          part.encoding.length ≠ element.encoding.length then [.arrayTypes] else []) ++
        (if part.encoding.isDefined ≠ element.encoding.isDefined then [.arrayValues] else []) := by
  simp only [differences, List.filter_append, apply_ite (List.filter Finding.isOther)]
  simp [Finding.isOther]

theorem filter_arrayFindings (element : EncodedPart) (position : Nat) (part : EncodedPart) :
    (arrayFindings element.bare position part.bare).filter Finding.isOther =
      (arrayFindings element position part).filter Finding.isOther := by
  have same : (differences element.bare part.bare).filter Finding.isOther =
      (differences element part).filter Finding.isOther := by
    rw [filter_differences, filter_differences]
    rfl
  simp only [arrayFindings, List.filter_append, apply_ite (List.filter Finding.isOther), same]
  rfl

theorem filter_arrayFindingsFrom (element : EncodedPart) (position : Nat)
    (parts : List EncodedPart) :
    (arrayFindingsFrom element.bare position (parts.map EncodedPart.bare)).filter
        Finding.isOther =
      (arrayFindingsFrom element position parts).filter Finding.isOther := by
  induction parts generalizing position with
  | nil => rfl
  | cons part rest ih =>
      rw [List.map_cons, arrayFindingsFrom, arrayFindingsFrom, List.filter_append,
        List.filter_append, filter_arrayFindings, ih]

theorem recordFindings_bare (parts : List EncodedPart) :
    recordFindings (parts.map EncodedPart.bare) = recordFindings parts := by
  cases parts with
  | nil => rfl
  | cons first rest =>
      rw [List.map_cons, recordFindings, recordFindings, List.flatMap_map]
      rfl

/-! ## Entries -/

/-- What is found in one content and compiled of it, but for the labels. -/
structure Erased (bare whole : List Finding × Option CompiledObject) : Prop where
  findings : bare.1.filter Finding.isOther = whole.1.filter Finding.isOther
  object : bare.2 = whole.2.map CompiledObject.bare

section

variable {lengths : StringLengths} (blind : lengths.Blind) (entry : Entry)

include blind

theorem var_erased (datum : Datum) :
    Erased (var lengths entry.bare datum.bare) (var lengths entry datum) := by
  have length : lengths (.object entry.bare) = lengths (.object entry) :=
    blind.bare (.object entry)
  have default : datum.bare.default = datum.default := rfl
  have type : datum.bare.dataType = datum.dataType := rfl
  simp only [var, length, default, type, varObject_bare]
  exact ⟨rfl, rfl⟩

theorem array_erased (type : Option TypeName) (subEntries : List SubEntry) :
    Erased (array lengths entry.bare type (subEntries.map SubEntry.bare))
      (array lengths entry type subEntries) := by
  unfold array
  rw [arrayParts_bare blind]
  match arrayParts lengths entry type subEntries with
  | [] => exact ⟨rfl, rfl⟩
  | [_] => exact ⟨rfl, rfl⟩
  | count :: element :: rest =>
      refine ⟨?_, congrArg some (arrayObject_bare entry count element rest)⟩
      have found := filter_arrayFindingsFrom element 0 (count :: element :: rest)
      rw [List.map_cons, List.map_cons] at found ⊢
      rw [filter_reportOnce, filter_reportOnce, found]

theorem record_erased (subEntries : List SubEntry) :
    Erased (record lengths entry.bare (subEntries.map SubEntry.bare))
      (record lengths entry subEntries) := by
  simp only [record, List.length_map, recordParts_bare blind, recordFindings_bare,
    recordObject_bare]
  split <;> exact ⟨rfl, rfl⟩

theorem content_erased : Erased (content lengths entry.bare) (content lengths entry) := by
  unfold content
  have shape : entry.bare.content = entry.content.bare := rfl
  rw [shape]
  cases entry.content with
  | var datum => exact var_erased blind entry datum
  | array type subEntries => exact array_erased blind entry type subEntries
  | record subEntries => exact record_erased blind entry subEntries

theorem fields_bare : fields lengths entry.bare = fields lengths entry := by
  rw [fields, object?, (content_erased blind entry).object, Option.map_map]
  rfl

theorem descriptors_bare :
    descriptors lengths entry.bare = (descriptors lengths entry).map Descriptor.bare := by
  rw [descriptors, object?, (content_erased blind entry).object, Option.map_map, descriptors,
    object?]
  cases (content lengths entry).2 <;> rfl

theorem reports_bare :
    (reports lengths entry.bare).filter Warning.isOther =
      (reports lengths entry).filter Warning.isOther := by
  have kept (entry : Entry) : (reports lengths entry).filter Warning.isOther =
      ((findings lengths entry).filter Finding.isOther).map (Finding.report entry.label) := by
    rw [reports, List.filter_map]
    refine congrArg _ (List.filter_congr fun finding _ => ?_)
    rw [Function.comp_apply, Warning.isOther_report]
  have same : (findings lengths entry.bare).filter Finding.isOther =
      (findings lengths entry).filter Finding.isOther := by
    have extension : lacksExtension entry.bare = lacksExtension entry := rfl
    rw [findings, findings, extension, List.filter_append, List.filter_append,
      (content_erased blind entry).findings]
  have label : entry.bare.label = entry.label := rfl
  rw [kept, kept, same, label]

end

theorem isComplete_bare (entry : Entry) :
    entry.bare.content.isComplete = entry.content.isComplete := by
  rw [Entry.bare]
  cases entry.content <;> simp [Content.bare, Content.isComplete]

theorem row_bare (entry : Entry) : entry.bare.row = entry.row := by
  have parts : entry.bare.content.subCount = entry.content.subCount := by
    rw [Entry.bare]
    cases entry.content <;> simp [Content.bare, Content.subCount]
  have shape : entry.bare.content.shape = entry.content.shape := by
    rw [Entry.bare]
    cases entry.content <;> rfl
  rw [Entry.row, parts, shape]
  rfl

theorem rows_bare (entry : Entry) : entry.bare.rows = entry.rows := by
  rw [Entry.rows, isComplete_bare, row_bare, Entry.rows]

theorem extensions_bare (entry : Entry) : entry.bare.extensions = entry.extensions := by
  have same : entry.bare.extension = entry.extension := by
    have parts : entry.bare.row.subCount = entry.row.subCount := by rw [row_bare]
    have counts : entry.bare.content.subCount = entry.content.subCount := parts
    rw [Entry.extension, counts]
    rfl
  rw [Entry.extensions, isComplete_bare, same]
  rfl

/-! ## Images -/

variable {lengths : StringLengths} (blind : lengths.Blind) (entries : List Entry)

include blind

theorem groupsOf_bare : groupsOf lengths (entries.map Entry.bare) = groupsOf lengths entries := by
  have locations : (entries.map Entry.bare).map (·.storageLocation) =
      entries.map (·.storageLocation) := by
    rw [List.map_map]
    rfl
  have fields (name : String) : fieldsIn lengths name (entries.map Entry.bare) =
      fieldsIn lengths name entries := by
    rw [fieldsIn, List.filter_map, List.flatMap_map]
    simp only [fields_bare blind]
    rfl
  rw [groupsOf, locations]
  simp only [fields]
  rfl

theorem imageOf_bare (name : String) (warnings : List String) :
    (imageOf lengths name warnings (entries.map Entry.bare)).bare =
      (imageOf lengths name warnings entries).bare := by
  have twice : Descriptor.bare ∘ Descriptor.bare = Descriptor.bare :=
    funext Descriptor.bare_bare
  simp only [Image.bare, imageOf, groupsOf_bare blind, List.flatMap_map, rows_bare,
    extensions_bare, descriptors_bare blind, List.map_flatMap, List.filter_append,
    List.filter_flatMap, reports_bare blind, List.map_map, twice]

end Compile

namespace Dictionary

theorem insertByIndex_bare (entry : Entry) (entries : List Entry) :
    insertByIndex entry.bare (entries.map Entry.bare) =
      (insertByIndex entry entries).map Entry.bare := by
  induction entries with
  | nil => rfl
  | cons first rest ih =>
      have index (entry : Entry) : entry.bare.index = entry.index := rfl
      rw [List.map_cons, insertByIndex, insertByIndex, ih, index, index]
      split <;> rfl

theorem sortByIndex_bare (entries : List Entry) :
    sortByIndex (entries.map Entry.bare) = (sortByIndex entries).map Entry.bare := by
  induction entries with
  | nil => rfl
  | cons entry rest ih => rw [List.map_cons, sortByIndex, ih, insertByIndex_bare, sortByIndex]

theorem enabled_bare (dictionary : Dictionary) :
    dictionary.bare.enabled = dictionary.enabled.map Entry.bare := by
  rw [enabled, bare, List.filter_map, sortByIndex_bare]
  rfl

theorem compile_bare (dictionary : Dictionary) {lengths : StringLengths} (blind : lengths.Blind)
    (name : Option String) (warnings : List String) :
    (dictionary.bare.compile lengths name warnings).bare =
      (dictionary.compile lengths name warnings).bare := by
  rw [compile_eq, compile_eq, enabled_bare, Compile.imageOf_bare blind]
  rfl

/-- Dictionaries that differ in access, mapping and counter labels only are stored alike, whatever
lengths are reserved without a look at these labels. -/
theorem compile_alike {first second : Dictionary} (same : first.bare = second.bare)
    {lengths : StringLengths} (blind : lengths.Blind) (name : Option String)
    (warnings : List String) :
    (first.compile lengths name warnings).Alike (second.compile lengths name warnings) := by
  refine Image.alike_of_bare ?_
  rw [← compile_bare first blind, same, compile_bare second blind]

end Dictionary

namespace Example

/-- The array of texts, with an element that is reached in another way. -/
def guardedTexts : Entry where
  index := 0x2001
  name := "B"
  countLabel := "TEXT"
  content := .array (some (.known .visibleString)) [
    { subindex := 0
      datum := { dataType := some (.known .unsigned8), default := some "2", access := some .const } },
    { subindex := 1, datum := { default := some "no", access := some .rw, mapping := .tpdo } },
    { subindex := 2, datum := { default := some "ok" } }]

def guardedMixture : Dictionary where
  objects := [bytes, guardedTexts]

end Example

namespace Dictionary

/-- Two arrays, and the same ones with other labels, of which one is reported. -/
theorem compile_alike_mixture :
    Example.mixture.bare = Example.guardedMixture.bare ∧
      (Example.mixture.compile (fixedLength 1) none []).warnings = [] ∧
      (Example.guardedMixture.compile (fixedLength 1) none []).warnings =
        ["Error in 0x2001: Attributes of elements in ARRAY must be equal!"] ∧
      (Example.mixture.compile (fixedLength 1) none []).Alike
        (Example.guardedMixture.compile (fixedLength 1) none []) := by
  have same : Example.mixture.bare = Example.guardedMixture.bare := by decide
  exact ⟨same, by decide, by decide, compile_alike same (fixedLength_blind 1) none []⟩

end Dictionary

end Canopen
