import Canopen.Proofs.Source.Members

/-!
# Descriptors between braces

The structure of all descriptors declares one member for each object and one more for each extended
object.  The initializer designates the same members in the same order.
-/

namespace Canopen.Source

theorem Declares.line {level : Nat} {line : String} {later : List Declarator} {lines : List String}
    (type name array : String)
    (spelled : line = indent level ++ type ++ " " ++ name ++ array ++ ";")
    (behind : Declares level later lines) :
    Declares level (.value type name array :: later) (line :: lines) :=
  spelled ▸ .value type name array behind

variable {level : Nat} {heading text : String} {inner later : List Designator}
  {lines : List String}

theorem append_heading (level : Nat) {name : String} (spelled : heading = "." ++ name ++ " = ") :
    indent level ++ "." ++ name ++ " = " = indent level ++ heading := by
  simp only [spelled, String.append_assoc]

theorem Designates.more (name : String) (spelled : heading = "." ++ name ++ " = ")
    {next : Designator} (behind : Designates level (next :: later) lines) :
    Designates level (.value name text :: next :: later)
      ((indent level ++ heading ++ text ++ ",") :: lines) := by
  have whole := Designates.value name text behind
  rwa [append_heading level spelled] at whole

theorem Designates.last (name : String) (spelled : heading = "." ++ name ++ " = ") :
    Designates level [.value name text] [indent level ++ heading ++ text] := by
  have alone := Designates.value name text (.nil level)
  rwa [append_comma_nil, append_heading level spelled] at alone

/-- A block of its own: what stands between the braces, and nothing behind them. -/
theorem Designates.block {opening : String} (name : String)
    (spelled : opening = indent level ++ "." ++ name ++ " = " ++ openBrace)
    (inside : Designates (level + 1) inner lines) :
    Designates level [.braces name inner] (opening :: lines ++ [indent level ++ closeBrace]) := by
  have whole := Designates.braces name inside (.nil level)
  rw [append_comma_nil] at whole
  rw [spelled]
  exact whole

/-- An extension that is found belongs to the image and has the name. -/
theorem mem_of_extension? {image : Image} {name : String} {extension : Extension}
    (found : image.extension? name = some extension) :
    extension ∈ image.extensions ∧ extension.name = name := by
  have same := List.find?_some found
  exact ⟨List.mem_reverse.1 (List.mem_of_find?_eq_some found), eq_of_beq same⟩

/-- The members that stand for an object: its descriptor, and its extension if it has one. -/
def objectNames (image : Image) (descriptor : Descriptor) : List String :=
  ("o_" ++ descriptor.name) ::
    ((image.extension? descriptor.name).map fun _ => "oE_" ++ descriptor.name).toList

/-! ## Declarations -/

/-- The declaration of a descriptor. -/
def descriptorDeclarator : Descriptor → Declarator
  | .var name _ _ _ => .value "OD_obj_var_t" ("o_" ++ name) ""
  | .array name _ _ _ _ _ _ => .value "OD_obj_array_t" ("o_" ++ name) ""
  | .record name parts =>
      .value "OD_obj_record_t" ("o_" ++ name) ("[" ++ Number.decimal parts.length ++ "]")

/-- The declarations of an object: its descriptor, and its extension if it has one. -/
def objectDeclarators (image : Image) (descriptor : Descriptor) : List Declarator :=
  descriptorDeclarator descriptor ::
    ((image.extension? descriptor.name).map fun _ =>
      .value "OD_obj_extended_t" ("oE_" ++ descriptor.name) "").toList

theorem name_objectDeclarators (image : Image) (descriptor : Descriptor) :
    (objectDeclarators image descriptor).map Declarator.name = objectNames image descriptor := by
  have own : (descriptorDeclarator descriptor).name = "o_" ++ descriptor.name := by
    cases descriptor <;> rfl
  unfold objectDeclarators objectNames
  cases image.extension? descriptor.name with
  | none => exact congrArg (· :: []) own
  | some extension => exact congrArg (· :: ["oE_" ++ descriptor.name]) own

theorem declares_descriptorMember (descriptor : Descriptor) :
    Declares 1 [descriptorDeclarator descriptor] [descriptorMember descriptor] := by
  cases descriptor with
  | var name data attributes length =>
      refine .line "OD_obj_var_t" _ "" ?_ (.nil 1)
      simp [← String.toList_inj, descriptorMember]
  | array name count data countAttributes attributes length elementType =>
      refine .line "OD_obj_array_t" _ "" ?_ (.nil 1)
      simp [← String.toList_inj, descriptorMember]
  | record name parts =>
      refine .line "OD_obj_record_t" _ ("[" ++ Number.decimal parts.length ++ "]") ?_ (.nil 1)
      simp [← String.toList_inj, descriptorMember]

theorem declares_objectMembers (image : Image) (descriptor : Descriptor) :
    Declares 1 (objectDeclarators image descriptor) (objectMembers image descriptor) := by
  have plain := declares_descriptorMember descriptor
  unfold objectMembers objectDeclarators
  cases image.extension? descriptor.name with
  | none => exact plain
  | some extension =>
      refine plain.append (.line "OD_obj_extended_t" _ "" ?_ (.nil 1))
      simp [← String.toList_inj]

theorem declares_flatMap {α : Type} {level : Nat} {lines : α → List String}
    {declarators : α → List Declarator} (list : List α)
    (each : ∀ item, Declares level (declarators item) (lines item)) :
    Declares level (list.flatMap declarators) (list.flatMap lines) := by
  induction list with
  | nil => exact .nil level
  | cons item later ih => exact (each item).append ih

/-! ## Designators -/

/-- What is designated in the descriptor of a part of a record. -/
def partDesignator (dictionary : String) (part : RecordPart) : Designator :=
  .element
    [.value "data" (pointer dictionary part.data),
      .value "subIndex" (Number.decimal part.subindex),
      .value "attribute" (Attribute.expression part.attributes),
      .value "dataLength" (Number.decimal part.length)]

/-- The size of the elements of an array; it is zero where they have no type. -/
def elementSize : Option String → String
  | some type => if type.isEmpty then "0" else "sizeof(" ++ type ++ ")"
  | none => "0"

/-- What is designated in a descriptor. -/
def innerDesignators (dictionary : String) : Descriptor → List Designator
  | .var _ data attributes length =>
      [.value "data" (pointer dictionary data),
        .value "attribute" (Attribute.expression attributes),
        .value "dataLength" (Number.decimal length)]
  | .array _ count data countAttributes attributes length elementType =>
      [.value "data0" (pointer dictionary count), .value "data" (pointer dictionary data),
        .value "attribute0" (Attribute.expression countAttributes),
        .value "attribute" (Attribute.expression attributes),
        .value "dataElementLength" (Number.decimal length),
        .value "dataElementSizeof" (elementSize elementType)]
  | .record _ parts => parts.map (partDesignator dictionary)

/-- What is designated in an extended descriptor. -/
def extensionDesignators (dictionary : String) (extension : Extension) : List Designator :=
  [.value "extIO"
      (if extension.extIo then "&" ++ dictionary ++ "Exts.xio_" ++ extension.name else "NULL"),
    .value "flagsPDO"
      (if extension.flagsPdo then "&" ++ dictionary ++ "Exts.flp_" ++ extension.name ++ "[0]"
      else "NULL"),
    .value "odObjectOriginal" ("&" ++ dictionary ++ "Objs.o_" ++ extension.name)]

theorem designates_recordPartLines (dictionary : String) (part : RecordPart) :
    Designates 2 [partDesignator dictionary part] (recordPartLines dictionary part) := by
  have inside : Designates 3 _
      [indent 3 ++ ".data = " ++ pointer dictionary part.data ++ ",",
        indent 3 ++ ".subIndex = " ++ Number.decimal part.subindex ++ ",",
        indent 3 ++ ".attribute = " ++ Attribute.expression part.attributes ++ ",",
        indent 3 ++ ".dataLength = " ++ Number.decimal part.length] :=
    .more "data" rfl (.more "subIndex" rfl (.more "attribute" rfl (.last "dataLength" rfl)))
  have whole := Designates.element inside (.nil 2)
  rwa [append_comma_nil] at whole

theorem designates_descriptorLines (dictionary : String) (descriptor : Descriptor) :
    Designates 2 (innerDesignators dictionary descriptor)
      (descriptorLines dictionary descriptor) := by
  cases descriptor with
  | var name data attributes length =>
      exact .more "data" rfl (.more "attribute" rfl (.last "dataLength" rfl))
  | array name count data countAttributes attributes length elementType =>
      exact .more "data0" rfl (.more "data" rfl (.more "attribute0" rfl (.more "attribute" rfl
        (.more "dataElementLength" rfl (.last "dataElementSizeof" rfl)))))
  | record name parts =>
      exact designates_joinBlocks fun part _ => designates_recordPartLines dictionary part

theorem designates_descriptorValue (dictionary : String) (descriptor : Descriptor) :
    Designates 1 [.braces ("o_" ++ descriptor.name) (innerDesignators dictionary descriptor)]
      (descriptorValue dictionary descriptor) := by
  refine .block _ ?_ (designates_descriptorLines dictionary descriptor)
  simp [← String.toList_inj]

theorem designates_extensionValue (dictionary : String) (extension : Extension) :
    Designates 1 [.braces ("oE_" ++ extension.name) (extensionDesignators dictionary extension)]
      (extensionValue dictionary extension) := by
  have original : indent 2 ++ ".odObjectOriginal = &" ++ dictionary ++ "Objs.o_" ++ extension.name =
      indent 2 ++ ".odObjectOriginal = " ++ ("&" ++ dictionary ++ "Objs.o_" ++ extension.name) := by
    simp [← String.toList_inj]
  unfold extensionValue
  rw [original]
  refine .block _ ?_ (.more "extIO" rfl (.more "flagsPDO" rfl (.last "odObjectOriginal" rfl)))
  simp [← String.toList_inj]

/-- The blocks of an object in the initializer, each with what is designated in it. -/
def objectBlocks (image : Image) (descriptor : Descriptor) : List (Designator × List String) :=
  (.braces ("o_" ++ descriptor.name) (innerDesignators image.name descriptor),
      descriptorValue image.name descriptor) ::
    ((image.extension? descriptor.name).map fun extension =>
      (.braces ("oE_" ++ descriptor.name) (extensionDesignators image.name extension),
        extensionValue image.name extension)).toList

/-- What is designated for an object: its descriptor, and its extension if it has one. -/
def objectDesignators (image : Image) (descriptor : Descriptor) : List Designator :=
  .braces ("o_" ++ descriptor.name) (innerDesignators image.name descriptor) ::
    ((image.extension? descriptor.name).map fun extension =>
      .braces ("oE_" ++ descriptor.name) (extensionDesignators image.name extension)).toList

theorem map_snd_objectBlocks (image : Image) (descriptor : Descriptor) :
    (objectBlocks image descriptor).map (·.2) = objectValues image descriptor := by
  unfold objectBlocks objectValues
  cases image.extension? descriptor.name <;> rfl

theorem map_fst_objectBlocks (image : Image) (descriptor : Descriptor) :
    (objectBlocks image descriptor).map (·.1) = objectDesignators image descriptor := by
  unfold objectBlocks objectDesignators
  cases image.extension? descriptor.name <;> rfl

theorem designates_of_mem_objectBlocks {image : Image} {descriptor : Descriptor}
    {block : Designator × List String} (inside : block ∈ objectBlocks image descriptor) :
    Designates 1 [block.1] block.2 := by
  rcases List.mem_cons.1 inside with rfl | extended
  · exact designates_descriptorValue image.name descriptor
  · obtain ⟨extension, found, rfl⟩ := Option.map_eq_some_iff.1 (Option.mem_toList.1 extended)
    rw [← (mem_of_extension? found).2]
    exact designates_extensionValue image.name extension

theorem designates_objectValues (image : Image) :
    Designates 1 (image.objects.flatMap (objectDesignators image))
      (joinBlocks (image.objects.flatMap (objectValues image))) := by
  have lines : image.objects.flatMap (objectValues image) =
      (image.objects.flatMap (objectBlocks image)).map (·.2) := by
    rw [List.map_flatMap]
    simp only [map_snd_objectBlocks]
  have designators : image.objects.flatMap (objectDesignators image) =
      (image.objects.flatMap (objectBlocks image)).map (·.1) := by
    rw [List.map_flatMap]
    simp only [map_fst_objectBlocks]
  rw [lines, designators]
  refine designates_joinBlocks fun block inside => ?_
  obtain ⟨descriptor, _, own⟩ := List.mem_flatMap.1 inside
  exact designates_of_mem_objectBlocks own

/-- At the depth of the declarations the initializer designates what is declared. -/
theorem name?_objectDesignators (image : Image) (descriptor : Descriptor) :
    (objectDesignators image descriptor).map Designator.name? =
      (objectNames image descriptor).map some := by
  unfold objectDesignators objectNames
  cases image.extension? descriptor.name <;> rfl

end Canopen.Source
