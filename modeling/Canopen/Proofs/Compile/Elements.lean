import Canopen.Proofs.Compile.Defaults

/-!
# Elements of arrays

The elements of an array are compared with the first one by type, length, definedness and
attributes.  This settles how they are declared, except for single bytes: a number of one byte and a
list of one octet are not told apart.
-/

namespace Canopen

namespace Compile

/-- The parts are encoded as the first element is. -/
structure Uniform (element : EncodedPart) (parts : List EncodedPart) : Prop where
  cType : ∀ part ∈ parts, part.encoding.cType = element.encoding.cType
  length : ∀ part ∈ parts, part.encoding.length = element.encoding.length
  defined : ∀ part ∈ parts, part.encoding.isDefined = element.encoding.isDefined
  attributes : ∀ part ∈ parts, part.attributes = element.attributes
  /-- The array part of the declaration is the same, unless the element is a single byte. -/
  arraySuffix :
    isByte element.encoding = false →
      ∀ part ∈ parts, part.encoding.arraySuffix = element.encoding.arraySuffix
  /-- A single byte is a plain value or a list of one item. -/
  byte :
    isByte element.encoding = true →
      ∀ part ∈ parts, part.encoding.elements = none ∨ part.encoding.elements = some 1

end Compile

/-- The elements of an array are the items of one member, and each of them has the items that its
own encoding declares. -/
structure Image.HoldsElements (image : Image) (entry : Entry) (element : EncodedPart)
    (parts : List EncodedPart) (values : List Initializer) : Prop where
  member :
    image.membersNamed entry.storageLocation entry.member =
      [{ cType := (element.encoding.cType.map CType.name).getD ""
         name := entry.member
         array := "[" ++ Number.decimal parts.length ++ "]" ++ element.encoding.arraySuffix
         initializer := "\x7b" ++ ", ".intercalate (values.map Initializer.text) ++ "\x7d"
         halved := values.any Initializer.isHalved }]
  values :
    List.Forall₂ (fun part value => part.encoding.initializer = some value) parts values
  items :
    ∀ part ∈ parts, ∀ value, part.encoding.initializer = some value →
      value.items? = part.encoding.elements

namespace Compile

variable {lengths : StringLengths} {entry : Entry} {type : Option TypeName}
  {subEntries : List SubEntry} {count element : EncodedPart} {rest : List EncodedPart}

/-! ## Encoded parts -/

theorem form_of_mem {part : EncodedPart} (among : part ∈ arrayParts lengths entry type subEntries) :
    part.encoding.Form := by
  obtain ⟨position, bound, rfl⟩ := List.mem_mapIdx.1 among
  exact Encoding.form_ofDefault _ _ _

/-- The attributes of a part show whether its value is wider than a byte. -/
theorem multibyte_eq {first second : EncodedPart}
    (among : first ∈ arrayParts lengths entry type subEntries)
    (other : second ∈ arrayParts lengths entry type subEntries)
    (same : first.attributes = second.attributes) :
    first.encoding.multibyte = second.encoding.multibyte := by
  have marked {part : EncodedPart} (inside : part ∈ arrayParts lengths entry type subEntries) :
      .multibyte ∈ part.attributes ↔ part.encoding.multibyte = true := by
    obtain ⟨position, bound, rfl⟩ := List.mem_mapIdx.1 inside
    exact multibyte_mem_attributes _ _ _
  rw [Bool.eq_iff_iff, ← marked among, ← marked other, same]

theorem arraySuffix_congr {first second : Encoding} (same : first.elements = second.elements) :
    first.arraySuffix = second.arraySuffix := by
  unfold Encoding.arraySuffix
  rw [same]

theorem isByte_iff (encoding : Encoding) :
    isByte encoding = true ↔ encoding.cType = some .uint8 ∧ encoding.length = 1 := by
  simp [isByte]

/-! ## Elements without findings -/

/-- The elements of an array without findings are encoded as the first one is. -/
theorem uniform_of_silent
    (parts : arrayParts lengths entry type subEntries = count :: element :: rest)
    (silent : arrayFindingsFrom element 0 (count :: element :: rest) = []) :
    Uniform element (element :: rest) := by
  have among {part : EncodedPart} (inside : part ∈ element :: rest) :
      part ∈ arrayParts lengths entry type subEntries :=
    parts ▸ List.mem_cons_of_mem _ inside
  -- the first element agrees with itself, and the later ones are compared with it
  have agrees : ∀ part ∈ element :: rest, part.encoding.cType = element.encoding.cType ∧
      part.encoding.length = element.encoding.length ∧
      part.encoding.isDefined = element.encoding.isDefined ∧
      part.attributes = element.attributes := by
    intro part inside
    rcases List.mem_cons.1 inside with rfl | later
    · exact ⟨rfl, rfl, rfl, rfl⟩
    · obtain ⟨position, there⟩ := List.mem_iff_getElem?.1 later
      have stands : (count :: element :: rest)[position + 2]? = some part := there
      exact agrees_of_silent (by omega) (arrayFindings_eq_nil silent stands)
  have first := among List.mem_cons_self
  refine ⟨fun part inside => (agrees part inside).1, fun part inside => (agrees part inside).2.1,
    fun part inside => (agrees part inside).2.2.1, fun part inside => (agrees part inside).2.2.2,
    fun larger part inside => ?_, fun byte part inside => ?_⟩
  · obtain ⟨cType, length, _, attributes⟩ := agrees part inside
    have multibyte := multibyte_eq (among inside) first attributes
    have other : ¬ (element.encoding.cType = some .uint8 ∧ element.encoding.length = 1) := by
      rw [← isByte_iff, larger]
      exact Bool.false_ne_true
    exact arraySuffix_congr
      ((form_of_mem (among inside)).elements_eq (form_of_mem first) cType length multibyte other)
  · obtain ⟨cType, length, _, _⟩ := agrees part inside
    obtain ⟨typed, one⟩ := (isByte_iff _).1 byte
    exact (form_of_mem (among inside)).elements_of_byte (cType.trans typed) (length.trans one)

variable {name : String} {warnings : List String} {entries : List Entry}
  (distinct : (entries.map (·.index)).Nodup) (inside : entry ∈ entries)

include distinct inside

/-- The values of the elements are the items of one member. -/
theorem holdsElements
    (parts : arrayParts lengths entry type subEntries = count :: element :: rest)
    (kept : fields lengths entry = (arrayObject entry count element rest).fields)
    (uniform : Uniform element (element :: rest)) (defined : element.encoding.isDefined = true) :
    (imageOf lengths name warnings entries).HoldsElements entry element (element :: rest)
      ((element :: rest).filterMap (·.encoding.initializer)) := by
  have all : (element :: rest).filter (·.encoding.isDefined) = element :: rest :=
    List.filter_eq_self.2 fun part among => (uniform.defined part among).trans defined
  have stored : List.Forall₂
      (fun (part : EncodedPart) value => part.encoding.initializer = some value)
      ((element :: rest).filter (·.encoding.isDefined))
      ((element :: rest).filterMap (·.encoding.initializer)) :=
    forall₂_filterMap (element :: rest) fun part => rfl
  rw [all] at stored
  have texts : ((element :: rest).filterMap (·.encoding.initializer)).map Initializer.text =
      (element :: rest).map (elementText element) := by
    rw [← List.forall₂_eq_eq_eq, List.forall₂_map_left_iff, List.forall₂_map_right_iff]
    refine stored.flip.imp fun value part made => ?_
    rw [elementText, made]
  have halved : ((element :: rest).filterMap (·.encoding.initializer)).any Initializer.isHalved =
      (element :: rest).any (·.encoding.isHalved) := List.any_filterMap
  refine ⟨?_, stored, fun part among value made => ?_⟩
  · rw [membersNamed_imageOf distinct inside String.append_empty.symm, kept, texts, halved]
    exact filter_arrayFields_elements entry.member count (element :: rest) defined
  · exact (form_of_mem (parts ▸ List.mem_cons_of_mem _ among)).items?_eq made

/-- The elements of an array that no warning names. -/
theorem exists_elements_of_silent (shape : entry.content = .array type subEntries)
    (enough : 2 ≤ subEntries.length)
    (silent : ¬ (imageOf lengths name warnings entries).Warns warnings.length entry) :
    ∃ count element rest, arrayParts lengths entry type subEntries = count :: element :: rest ∧
      Uniform element (element :: rest) ∧
      (element.encoding.isDefined = true → ∃ values,
        (imageOf lengths name warnings entries).HoldsElements entry element (element :: rest)
          values) := by
  obtain ⟨count, element, rest, parts⟩ := arrayParts_eq_cons lengths entry type enough
  obtain ⟨_, nothing⟩ := List.append_eq_nil_iff.1 (findings_eq_nil inside silent)
  have kept := fields_of_arrayParts lengths shape parts
  simp only [content, shape, array, parts] at nothing
  have uniform := uniform_of_silent parts (eq_nil_of_reportOnce nothing)
  exact ⟨count, element, rest, parts, uniform,
    fun defined => ⟨_, holdsElements distinct inside parts kept uniform defined⟩⟩

end Compile

namespace Example

/-- A document with two arrays: one of texts, and one that mixes a number and an octet string. -/
def mixtureDocument : Value :=
  mapping [("objects", .list [
    mapping [("index", .int 0x2000), ("name", .text "A"), ("object_type", .int 8),
      ("sub_entries", .list [
        mapping [("subindex", .int 0), ("data_type", .int 5), ("default", .int 2)],
        mapping [("subindex", .int 1), ("data_type", .int 5), ("default", .int 5)],
        mapping [("subindex", .int 2), ("data_type", .int 10), ("default", .text "06")]])],
    mapping [("index", .int 0x2001), ("name", .text "B"), ("object_type", .int 8),
      ("data_type", .int 9), ("sub_entries", .list [
        mapping [("subindex", .int 0), ("data_type", .int 5), ("default", .int 2)],
        mapping [("subindex", .int 1), ("default", .text "no")],
        mapping [("subindex", .int 2), ("default", .text "ok")]])]])]

def bytes : Entry where
  index := 0x2000
  name := "A"
  content := .array none [
    { subindex := 0, datum := { dataType := some (.known .unsigned8), default := some "2" } },
    { subindex := 1, datum := { dataType := some (.known .unsigned8), default := some "5" } },
    { subindex := 2, datum := { dataType := some (.known .octetString), default := some "06" } }]

def textParts : List SubEntry := [
  { subindex := 0, datum := { dataType := some (.known .unsigned8), default := some "2" } },
  { subindex := 1, datum := { default := some "no" } },
  { subindex := 2, datum := { default := some "ok" } }]

def texts : Entry where
  index := 0x2001
  name := "B"
  content := .array (some (.known .visibleString)) textParts

def mixture : Dictionary where
  objects := [bytes, texts]

theorem mixture_accepted : mixture.Accepted :=
  ⟨mixtureDocument, by decide +kernel⟩

theorem not_warns_mixture (entry : Entry) :
    ¬ (mixture.compile (fixedLength 1) none []).Warns 0 entry := by
  have warnings : (mixture.compile (fixedLength 1) none []).warnings = [] := by decide
  rintro ⟨text, among⟩
  rw [warnings] at among
  cases among

end Example

namespace Dictionary

/-- The elements of an array of an accepted dictionary that no warning names have one type, length
and attributes, and all of them are stored or none.  They are declared and initialized alike unless
they are single bytes, which can be plain values and lists of one item. -/
theorem compile_uniform {dictionary : Dictionary} (accepted : dictionary.Accepted)
    (lengths : StringLengths) (name : Option String) (warnings : List String) {entry : Entry}
    (enabled : entry ∈ dictionary.enabled) {type : Option TypeName} {subEntries : List SubEntry}
    (shape : entry.content = .array type subEntries) (enough : 2 ≤ subEntries.length)
    (silent : ¬ (dictionary.compile lengths name warnings).Warns warnings.length entry) :
    ∃ count element rest,
      Compile.arrayParts lengths entry type subEntries = count :: element :: rest ∧
        Compile.Uniform element (element :: rest) ∧
        (element.encoding.isDefined = true → ∃ values,
          (dictionary.compile lengths name warnings).HoldsElements entry element (element :: rest)
            values) := by
  rw [compile_eq] at silent ⊢
  exact Compile.exists_elements_of_silent accepted.enabled_indices_nodup enabled shape enough silent

/-- Two texts of one length are declared and initialized alike. -/
theorem compile_uniform_texts :
    Example.mixture.Accepted ∧
      ∃ count element rest,
        Compile.arrayParts (fixedLength 1) Example.texts (some (.known .visibleString))
            Example.textParts = count :: element :: rest ∧
          Compile.isByte element.encoding = false ∧ element.encoding.arraySuffix = "[2]" ∧
          (∀ part ∈ element :: rest, part.encoding.arraySuffix = "[2]") ∧
          ∃ values, (Example.mixture.compile (fixedLength 1) none []).HoldsElements Example.texts
            element (element :: rest) values := by
  have enabled : Example.texts ∈ Example.mixture.enabled := by decide
  obtain ⟨count, element, rest, parts, uniform, holds⟩ := compile_uniform Example.mixture_accepted
    (fixedLength 1) none [] enabled rfl (by decide) (Example.not_warns_mixture Example.texts)
  have first : (Compile.arrayParts (fixedLength 1) Example.texts (some (.known .visibleString))
      Example.textParts)[1]?.map (·.encoding) =
        some (Encoding.array .char 2 (.characters [110, 111])) := by decide
  have encoded : element.encoding = Encoding.array .char 2 (.characters [110, 111]) := by
    rw [parts] at first
    exact Option.some.inj first
  have larger : Compile.isByte element.encoding = false := by
    rw [encoded]
    decide
  have suffix : element.encoding.arraySuffix = "[2]" := by
    rw [encoded]
    decide
  refine ⟨Example.mixture_accepted, count, element, rest, parts, larger, suffix, ?_, ?_⟩
  · exact fun part among => (uniform.arraySuffix larger part among).trans suffix
  · refine holds ?_
    rw [encoded]
    rfl

/-- Without a warning an array of bytes can hold a number and a list of one octet. -/
theorem elements_not_uniform :
    Example.mixture.Accepted ∧ Example.bytes ∈ Example.mixture.enabled ∧
      let image := Example.mixture.compile (fixedLength 1) none []
      ¬ image.Warns 0 Example.bytes ∧
        (Compile.arrayParts (fixedLength 1) Example.bytes none
          Example.bytes.content.subEntries).map (·.encoding.arraySuffix) = ["", "", "[1]"] ∧
        (image.membersNamed "RAM" "x2000_a").map (fun field =>
          (field.cType, field.array, field.initializer)) =
            [("uint8_t", "[2]", "\x7b0x05, \x7b0x06\x7d\x7d")] :=
  ⟨Example.mixture_accepted, by decide, Example.not_warns_mixture Example.bytes,
    by decide, by decide⟩

end Dictionary

end Canopen
