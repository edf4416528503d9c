import Canopen.Proofs.Image.Links
import Canopen.Proofs.Source.Files
import Canopen.Proofs.Source.Words

/-!
# What an initializer assigns

The initializer of the descriptors is read line by line: a line that begins with a point names a
member and assigns something to it.  The lines of all descriptors are read here as one list of
assignments.
-/

namespace Canopen.Source

open CName (IsWord)

/-- A line of an initializer that names the member it is about. -/
structure Assignment where
  depth : Nat
  member : String
  value : String
deriving DecidableEq, Repr

/-- What a line assigns, with the comma if there is one. -/
def assignment? (line : String) : Option Assignment :=
  match line.toList.dropWhile (· = ' ') with
  | '.' :: text =>
      (Warning.after? " = ".toList (text.dropWhile (· ≠ ' '))).map fun value =>
        { depth := (line.length - (text.length + 1)) / 4
          member := String.ofList (text.takeWhile (· ≠ ' '))
          value := String.ofList value }
  | _ => none

theorem length_indent (level : Nat) : (indent level).toList.length = 4 * level := by
  rw [indent, String.toList_ofList, List.length_replicate]

theorem assignment?_line (level : Nat) {member value line : String} (plain : ' ' ∉ member.toList)
    (spelled : line = indent level ++ "." ++ member ++ " = " ++ value) :
    assignment? line = some ⟨level, member, value⟩ := by
  have text : line.toList =
      (indent level).toList ++ '.' :: (member.toList ++ ' ' :: ('=' :: ' ' :: value.toList)) := by
    simp [spelled, String.toList_append]
  have kept : ∀ c ∈ member.toList, decide (c ≠ ' ') = true := by
    intro c inside
    refine decide_eq_true ?_
    rintro rfl
    exact plain inside
  have name : (member.toList ++ ' ' :: ('=' :: ' ' :: value.toList)).takeWhile (· ≠ ' ') =
      member.toList := by
    rw [List.takeWhile_append_of_pos kept, List.takeWhile_cons_of_neg (by simp), List.append_nil]
  have behind : (member.toList ++ ' ' :: ('=' :: ' ' :: value.toList)).dropWhile (· ≠ ' ') =
      " = ".toList ++ value.toList := by
    rw [List.dropWhile_append_of_pos kept, List.dropWhile_cons_of_neg (by simp)]
    rfl
  have depth : (line.length - ((member.toList ++ ' ' :: ('=' :: ' ' :: value.toList)).length + 1)) / 4 =
      level := by
    have long := congrArg List.length text
    rw [String.length_toList, List.length_append, length_indent, List.length_cons] at long
    omega
  rw [assignment?, text, dropWhile_indent level (by decide)]
  simp only [name, behind, depth, (Warning.after?_eq_some_iff).2 rfl, Option.map_some,
    String.ofList_toList]

theorem assignment?_other (level : Nat) {c : Char} {rest : List Char} {text : String}
    (spelled : text.toList = c :: rest) (blank : c ≠ ' ') (dot : c ≠ '.') :
    assignment? (indent level ++ text) = none := by
  rw [assignment?, String.toList_append, spelled, dropWhile_indent level blank]
  split
  · next same => exact absurd (List.cons.inj same).1 dot
  · rfl

/-! ## Joined blocks -/

theorem withComma_concat (lines : List String) (last : String) :
    withComma (lines ++ [last]) = lines ++ [last ++ ","] :=
  withComma_append (List.cons_ne_nil _ _) lines

/-- Joining blocks changes no reading that takes the last lines of blocks without their commas. -/
theorem filterMap_joinBlocks {α : Type} {read : String → Option α} {blocks : List (List String)}
    (ends : ∀ block ∈ blocks, ∃ lines last, block = lines ++ [last] ∧ read (last ++ ",") = read last) :
    (joinBlocks blocks).filterMap read = blocks.flatMap (·.filterMap read) := by
  match blocks with
  | [] => rfl
  | [block] => rw [joinBlocks, List.flatMap_singleton]
  | block :: second :: rest =>
      obtain ⟨lines, last, rfl, same⟩ := ends block List.mem_cons_self
      have later := filterMap_joinBlocks fun other inside =>
        ends other (List.mem_cons_of_mem _ inside)
      have own : [last ++ ","].filterMap read = [last].filterMap read := by
        rw [List.filterMap_cons, List.filterMap_cons, same]
      rw [joinBlocks, withComma_concat, List.filterMap_append, List.filterMap_append, own,
        ← List.filterMap_append, later]
      · rfl
      · exact fun none => nomatch none

/-! ## Lines of a descriptor -/

/-- What lines assign, one after another. -/
def assignments (lines : List String) : List Assignment :=
  lines.filterMap assignment?

theorem assignments_append (first second : List String) :
    assignments (first ++ second) = assignments first ++ assignments second :=
  List.filterMap_append

theorem assignments_cons_none {line : String} (none : assignment? line = none) (later : List String) :
    assignments (line :: later) = assignments later :=
  List.filterMap_cons_none none

theorem assignments_line (level : Nat) (heading member value : String) (later : List String)
    (plain : ' ' ∉ member.toList) (spelled : heading = "." ++ member ++ " = ") :
    assignments ((indent level ++ heading ++ value) :: later) =
      ⟨level, member, value⟩ :: assignments later := by
  refine List.filterMap_cons_some (assignment?_line level plain ?_)
  simp only [spelled, String.append_assoc]

theorem assignments_more (level : Nat) (heading member value : String) (later : List String)
    (plain : ' ' ∉ member.toList) (spelled : heading = "." ++ member ++ " = ") :
    assignments ((indent level ++ heading ++ value ++ ",") :: later) =
      ⟨level, member, value ++ ","⟩ :: assignments later := by
  rw [String.append_assoc]
  exact assignments_line level heading member (value ++ ",") later plain spelled

theorem assignment?_openBrace (level : Nat) : assignment? (indent level ++ openBrace) = none :=
  assignment?_other level (c := '\x7b') rfl (by decide) (by decide)

theorem assignment?_closeBrace (level : Nat) : assignment? (indent level ++ closeBrace) = none :=
  assignment?_other level (c := '\x7d') rfl (by decide) (by decide)

theorem assignment?_closeBrace_comma (level : Nat) :
    assignment? (indent level ++ closeBrace ++ ",") = none := by
  rw [String.append_assoc]
  exact assignment?_other level (c := '\x7d') rfl (by decide) (by decide)

/-- Joined blocks assign what each of them assigns. -/
theorem assignments_joinBlocks {blocks : List (List String)}
    (closed : ∀ block ∈ blocks, ∃ lines level, block = lines ++ [indent level ++ closeBrace]) :
    assignments (joinBlocks blocks) = blocks.flatMap assignments := by
  -- the last line of a block is a brace, which assigns nothing, with or without a comma
  refine filterMap_joinBlocks fun block inside => ?_
  obtain ⟨lines, level, rfl⟩ := closed block inside
  exact ⟨lines, _, rfl, by rw [assignment?_closeBrace, assignment?_closeBrace_comma]⟩

variable (dictionary : String)

/-- What is assigned in the descriptor of a part of a record. -/
def partAssignments (part : RecordPart) : List Assignment :=
  [⟨3, "data", pointer dictionary part.data ++ ","⟩,
    ⟨3, "subIndex", Number.decimal part.subindex ++ ","⟩,
    ⟨3, "attribute", Attribute.expression part.attributes ++ ","⟩,
    ⟨3, "dataLength", Number.decimal part.length⟩]

theorem assignments_recordPartLines (part : RecordPart) :
    assignments (recordPartLines dictionary part) = partAssignments dictionary part := by
  unfold recordPartLines partAssignments
  rw [assignments_cons_none (assignment?_openBrace 2),
    assignments_more 3 ".data = " "data" _ _ (by decide) rfl,
    assignments_more 3 ".subIndex = " "subIndex" _ _ (by decide) rfl,
    assignments_more 3 ".attribute = " "attribute" _ _ (by decide) rfl,
    assignments_line 3 ".dataLength = " "dataLength" _ _ (by decide) rfl,
    assignments_cons_none (assignment?_closeBrace 2)]
  rfl

/-- What is assigned between the braces of a descriptor. -/
def innerAssignments : Descriptor → List Assignment
  | .var _ data attributes length =>
      [⟨2, "data", pointer dictionary data ++ ","⟩,
        ⟨2, "attribute", Attribute.expression attributes ++ ","⟩,
        ⟨2, "dataLength", Number.decimal length⟩]
  | .array _ count data countAttributes attributes length elementType =>
      [⟨2, "data0", pointer dictionary count ++ ","⟩,
        ⟨2, "data", pointer dictionary data ++ ","⟩,
        ⟨2, "attribute0", Attribute.expression countAttributes ++ ","⟩,
        ⟨2, "attribute", Attribute.expression attributes ++ ","⟩,
        ⟨2, "dataElementLength", Number.decimal length ++ ","⟩,
        ⟨2, "dataElementSizeof",
          match elementType with
          | some type => if type.isEmpty then "0" else "sizeof(" ++ type ++ ")"
          | none => "0"⟩]
  | .record _ parts => parts.flatMap (partAssignments dictionary)

theorem assignments_descriptorLines (descriptor : Descriptor) :
    assignments (descriptorLines dictionary descriptor) = innerAssignments dictionary descriptor := by
  cases descriptor with
  | var name data attributes length =>
      unfold descriptorLines innerAssignments
      rw [assignments_more 2 ".data = " "data" _ _ (by decide) rfl,
        assignments_more 2 ".attribute = " "attribute" _ _ (by decide) rfl,
        assignments_line 2 ".dataLength = " "dataLength" _ _ (by decide) rfl]
      rfl
  | array name count data countAttributes attributes length elementType =>
      unfold descriptorLines innerAssignments
      rw [assignments_more 2 ".data0 = " "data0" _ _ (by decide) rfl,
        assignments_more 2 ".data = " "data" _ _ (by decide) rfl,
        assignments_more 2 ".attribute0 = " "attribute0" _ _ (by decide) rfl,
        assignments_more 2 ".attribute = " "attribute" _ _ (by decide) rfl,
        assignments_more 2 ".dataElementLength = " "dataElementLength" _ _ (by decide) rfl,
        assignments_line 2 ".dataElementSizeof = " "dataElementSizeof" _ _ (by decide) rfl]
      rfl
  | record name parts =>
      unfold descriptorLines innerAssignments
      rw [assignments_joinBlocks, List.flatMap_map]
      · simp only [assignments_recordPartLines]
      · intro block inside
        obtain ⟨part, _, rfl⟩ := List.mem_map.1 inside
        exact ⟨(recordPartLines dictionary part).dropLast, 2, rfl⟩

/-- What is assigned for a descriptor. -/
def descriptorAssignments (descriptor : Descriptor) : List Assignment :=
  ⟨1, "o_" ++ descriptor.name, openBrace⟩ :: innerAssignments dictionary descriptor

theorem assignments_descriptorValue {descriptor : Descriptor} (word : IsWord descriptor.name) :
    assignments (descriptorValue dictionary descriptor) =
      descriptorAssignments dictionary descriptor := by
  have plain : ' ' ∉ ("o_" ++ descriptor.name).toList := by
    simpa [String.toList_append] using word.not_mem (c := ' ') (by decide)
  have opening : assignment? (indent 1 ++ ".o_" ++ descriptor.name ++ " = " ++ openBrace) =
      some ⟨1, "o_" ++ descriptor.name, openBrace⟩ := by
    refine assignment?_line 1 plain ?_
    simp [← String.toList_inj]
  have closing : assignments [indent 1 ++ closeBrace] = [] :=
    assignments_cons_none (assignment?_closeBrace 1) []
  rw [descriptorValue, List.cons_append, assignments, List.filterMap_cons_some opening,
    ← assignments, assignments_append, assignments_descriptorLines, closing, List.append_nil]
  rfl

/-- What is assigned for an extension. -/
def extensionAssignments (extension : Extension) : List Assignment :=
  [⟨1, "oE_" ++ extension.name, openBrace⟩,
    ⟨2, "extIO",
      (if extension.extIo then "&" ++ dictionary ++ "Exts.xio_" ++ extension.name else "NULL") ++ ","⟩,
    ⟨2, "flagsPDO",
      (if extension.flagsPdo then "&" ++ dictionary ++ "Exts.flp_" ++ extension.name ++ "[0]"
        else "NULL") ++ ","⟩,
    ⟨2, "odObjectOriginal", "&" ++ dictionary ++ "Objs.o_" ++ extension.name⟩]

theorem assignments_extensionValue {extension : Extension} (word : IsWord extension.name) :
    assignments (extensionValue dictionary extension) = extensionAssignments dictionary extension := by
  have plain : ' ' ∉ ("oE_" ++ extension.name).toList := by
    simpa [String.toList_append] using word.not_mem (c := ' ') (by decide)
  have opening : assignment? (indent 1 ++ ".oE_" ++ extension.name ++ " = " ++ openBrace) =
      some ⟨1, "oE_" ++ extension.name, openBrace⟩ := by
    refine assignment?_line 1 plain ?_
    simp [← String.toList_inj]
  have original : indent 2 ++ ".odObjectOriginal = &" ++ dictionary ++ "Objs.o_" ++ extension.name =
      indent 2 ++ ".odObjectOriginal = " ++ ("&" ++ dictionary ++ "Objs.o_" ++ extension.name) := by
    simp [← String.toList_inj]
  unfold extensionValue extensionAssignments
  rw [assignments, List.filterMap_cons_some opening, ← assignments,
    assignments_more 2 ".extIO = " "extIO" _ _ (by decide) rfl,
    assignments_more 2 ".flagsPDO = " "flagsPDO" _ _ (by decide) rfl, original,
    assignments_line 2 ".odObjectOriginal = " "odObjectOriginal" _ _ (by decide) rfl,
    assignments_cons_none (assignment?_closeBrace 1)]
  rfl

/-- What is assigned for an object and for its extension. -/
def objectAssignments (image : Image) (descriptor : Descriptor) : List Assignment :=
  descriptorAssignments image.name descriptor ++
    (image.extension? descriptor.name).toList.flatMap (extensionAssignments image.name)

/-- What the initializer of all descriptors assigns. -/
theorem assignments_objects {image : Image}
    (words : ∀ descriptor ∈ image.objects, IsWord descriptor.name) :
    assignments (joinBlocks (image.objects.flatMap (objectValues image))) =
      image.objects.flatMap (objectAssignments image) := by
  rw [assignments_joinBlocks, List.flatMap_assoc]
  · refine List.flatMap_congr fun descriptor inside => ?_
    have word := words descriptor inside
    unfold objectValues objectAssignments
    rw [List.flatMap_cons, assignments_descriptorValue image.name word]
    cases found : image.extension? descriptor.name with
    | none => rfl
    | some extension =>
        rw [← (mem_of_extension? found).2] at word
        simp [assignments_extensionValue image.name word]
  · intro block inside
    obtain ⟨descriptor, _, own⟩ := List.mem_flatMap.1 inside
    rcases List.mem_cons.1 own with rfl | extended
    · exact ⟨_, 1, rfl⟩
    · obtain ⟨extension, _, rfl⟩ := Option.map_eq_some_iff.1 (Option.mem_toList.1 extended)
      exact ⟨(extensionValue image.name extension).dropLast, 1, rfl⟩

/-! ## Assignments of addresses -/

theorem append_ne {front text : String} (other : ¬ front.toList <+: text.toList) (rest : String) :
    front ++ rest ≠ text := by
  rintro rfl
  exact other ⟨rest.toList, (String.toList_append ..).symm⟩

/-- The members that no address is assigned to. -/
def plainMembers : List String :=
  ["attribute", "attribute0", "dataLength", "dataElementLength", "dataElementSizeof", "subIndex",
    "flagsPDO"]

/-- What is assigned for an object and for its extension: a member and its value. -/
inductive Assigns (image : Image) (descriptor : Descriptor) : String → String → Prop where
  | object (value : String) : Assigns image descriptor ("o_" ++ descriptor.name) value
  | extended (value : String) : Assigns image descriptor ("oE_" ++ descriptor.name) value
  | plain {member : String} (value : String) (known : member ∈ plainMembers) :
      Assigns image descriptor member value
  | data {member : String} (reference : Option Reference)
      (known : member = "data" ∨ member = "data0")
      (own : ∀ address, reference = some address → address ∈ descriptor.references) :
      Assigns image descriptor member (pointer image.name reference ++ ",")
  | noHook : Assigns image descriptor "extIO" "NULL,"
  | hook {extension : Extension} (known : extension ∈ image.extensions)
      (named : extension.name = descriptor.name) (external : extension.extIo = true) :
      Assigns image descriptor "extIO" ("&" ++ image.name ++ "Exts.xio_" ++ descriptor.name ++ ",")
  | original :
      Assigns image descriptor "odObjectOriginal"
        ("&" ++ image.name ++ "Objs.o_" ++ descriptor.name)

variable {image : Image} {descriptor : Descriptor}

theorem assigns_of_mem_innerAssignments {assignment : Assignment}
    (inside : assignment ∈ innerAssignments image.name descriptor) :
    Assigns image descriptor assignment.member assignment.value := by
  cases descriptor with
  | var name data attributes length =>
      simp only [innerAssignments, List.mem_cons, List.not_mem_nil, or_false] at inside
      rcases inside with rfl | rfl | rfl
      · exact .data data (.inl rfl) fun address found => by simp [Descriptor.references, found]
      all_goals exact .plain _ (by simp [plainMembers])
  | array name count data countAttributes attributes length elementType =>
      simp only [innerAssignments, List.mem_cons, List.not_mem_nil, or_false] at inside
      rcases inside with rfl | rfl | rfl | rfl | rfl | rfl
      · exact .data count (.inr rfl) fun address found => by simp [Descriptor.references, found]
      · exact .data data (.inl rfl) fun address found => by simp [Descriptor.references, found]
      all_goals exact .plain _ (by simp [plainMembers])
  | record name parts =>
      obtain ⟨part, among, inside⟩ := List.mem_flatMap.1 inside
      simp only [partAssignments, List.mem_cons, List.not_mem_nil, or_false] at inside
      rcases inside with rfl | rfl | rfl | rfl
      · refine .data part.data (.inl rfl) fun address found => ?_
        exact List.mem_filterMap.2 ⟨part, among, found⟩
      all_goals exact .plain _ (by simp [plainMembers])

theorem assigns_of_mem_extensionAssignments {extension : Extension} {assignment : Assignment}
    (known : extension ∈ image.extensions) (named : extension.name = descriptor.name)
    (inside : assignment ∈ extensionAssignments image.name extension) :
    Assigns image descriptor assignment.member assignment.value := by
  simp only [extensionAssignments, named, List.mem_cons, List.not_mem_nil, or_false] at inside
  rcases inside with rfl | rfl | rfl | rfl
  · exact .extended _
  · cases external : extension.extIo with
    | false => exact .noHook
    | true => exact .hook known named external
  · exact .plain _ (by simp [plainMembers])
  · exact .original

theorem assigns_of_mem {assignment : Assignment}
    (inside : assignment ∈ objectAssignments image descriptor) :
    Assigns image descriptor assignment.member assignment.value := by
  rcases List.mem_append.1 inside with own | extended
  · rcases List.mem_cons.1 own with rfl | inner
    · exact .object _
    · exact assigns_of_mem_innerAssignments inner
  · obtain ⟨extension, found, inner⟩ := List.mem_flatMap.1 extended
    obtain ⟨known, named⟩ := mem_of_extension? (Option.mem_toList.1 found)
    exact assigns_of_mem_extensionAssignments known named inner

namespace Assigns

variable {member value : String} (assigns : Assigns image descriptor member value)

include assigns

theorem value_of_original (original : member = "odObjectOriginal") :
    value = "&" ++ image.name ++ "Objs.o_" ++ descriptor.name := by
  cases assigns with
  | object => exact absurd original (append_ne (by decide) _)
  | extended => exact absurd original (append_ne (by decide) _)
  | plain _ known =>
      subst original
      exact absurd known (by decide)
  | data _ known => rcases known with rfl | rfl <;> exact absurd original (by decide)
  | noHook => exact absurd original (by decide)
  | hook => exact absurd original (by decide)
  | original => rfl

theorem value_of_hook (hook : member = "extIO") :
    value = "NULL," ∨
      ∃ extension ∈ image.extensions, extension.name = descriptor.name ∧ extension.extIo = true ∧
        value = "&" ++ image.name ++ "Exts.xio_" ++ descriptor.name ++ "," := by
  cases assigns with
  | object => exact absurd hook (append_ne (by decide) _)
  | extended => exact absurd hook (append_ne (by decide) _)
  | plain _ known =>
      subst hook
      exact absurd known (by decide)
  | data _ known => rcases known with rfl | rfl <;> exact absurd hook (by decide)
  | noHook => exact .inl rfl
  | hook known named external => exact .inr ⟨_, known, named, external, rfl⟩
  | original => exact absurd hook (by decide)

theorem value_of_data (data : member = "data" ∨ member = "data0") :
    value = "NULL," ∨
      ∃ reference ∈ descriptor.references, value = reference.expression image.name ++ "," := by
  cases assigns with
  | object => rcases data with same | same <;> exact absurd same (append_ne (by decide) _)
  | extended => rcases data with same | same <;> exact absurd same (append_ne (by decide) _)
  | plain _ known => rcases data with rfl | rfl <;> exact absurd known (by decide)
  | data reference _ own =>
      cases reference with
      | none => exact .inl rfl
      | some reference => exact .inr ⟨reference, own reference rfl, rfl⟩
  | noHook => exact absurd data (by decide)
  | hook => exact absurd data (by decide)
  | original => exact absurd data (by decide)

end Assigns

/-! ## Lines that assign nothing -/

theorem assignment?_starts (level : Nat) (c : Char) (front : String) {line : String}
    (starts : front.toList.head? = some c) (blank : c ≠ ' ') (dot : c ≠ '.')
    (spelled : (indent level).toList ++ front.toList <+: line.toList) : assignment? line = none := by
  obtain ⟨later, chars⟩ := List.head?_eq_some_iff.1 starts
  obtain ⟨rest, whole⟩ := spelled
  have text : line = indent level ++ String.ofList (c :: (later ++ rest)) := by
    rw [← String.toList_inj, ← whole, chars]
    simp [String.toList_append]
  rw [text]
  exact assignment?_other level String.toList_ofList blank dot

theorem assignment?_extensionMember {extension : Extension} {line : String}
    (inside : line ∈ extensionMembers extension) : assignment? line = none := by
  rcases List.mem_append.1 inside with hook | flags
  · split at hook
    · rw [List.mem_singleton.1 hook]
      refine assignment?_starts 1 'O' "OD_extensionIO_t xio_" rfl (by decide) (by decide) ?_
      simp [String.toList_append]
    · cases hook
  · split at flags
    · rw [List.mem_singleton.1 flags]
      refine assignment?_starts 1 'O' "OD_flagsPDO_t flp_" rfl (by decide) (by decide) ?_
      simp [String.toList_append]
    · cases flags

theorem assignment?_descriptorMember (descriptor : Descriptor) :
    assignment? (descriptorMember descriptor) = none := by
  cases descriptor with
  | var name data attributes length =>
      refine assignment?_starts 1 'O' "OD_obj_var_t o_" rfl (by decide) (by decide) ?_
      simp [descriptorMember, String.toList_append]
  | array name count data countAttributes attributes length elementType =>
      refine assignment?_starts 1 'O' "OD_obj_array_t o_" rfl (by decide) (by decide) ?_
      simp [descriptorMember, String.toList_append]
  | record name parts =>
      refine assignment?_starts 1 'O' "OD_obj_record_t o_" rfl (by decide) (by decide) ?_
      simp [descriptorMember, String.toList_append]

theorem assignment?_objectMember {descriptor : Descriptor} {line : String}
    (inside : line ∈ objectMembers image descriptor) : assignment? line = none := by
  rcases List.mem_cons.1 inside with rfl | extended
  · exact assignment?_descriptorMember descriptor
  · obtain ⟨extension, _, rfl⟩ := Option.map_eq_some_iff.1 (Option.mem_toList.1 extended)
    refine assignment?_starts 1 'O' "OD_obj_extended_t oE_" rfl (by decide) (by decide) ?_
    simp [String.toList_append]

theorem assignment?_rowLine (dictionary : String) (row : Row) :
    assignment? (rowLine dictionary row) = none := by
  refine assignment?_starts 1 '\x7b' openBrace rfl (by decide) (by decide) ?_
  simp [rowLine, String.toList_append]

theorem assignment?_listItems {opening closing line : String} {inner : List String}
    (known : .braces opening inner closing ∈ listItems image) (inside : line ∈ inner) :
    assignment? line = none := by
  simp only [listItems, List.mem_cons, Construct.braces.injEq, reduceCtorEq, List.not_mem_nil,
    or_false, false_or] at known
  rcases known with ⟨_, rfl, _⟩ | ⟨_, rfl, _⟩
  · rcases List.mem_append.1 inside with row | last
    · obtain ⟨entry, _, rfl⟩ := List.mem_map.1 row
      exact assignment?_rowLine image.name entry
    · rw [List.mem_singleton.1 last]
      refine assignment?_starts 1 '\x7b' openBrace rfl (by decide) (by decide) ?_
      simp [String.toList_append]
  · simp only [List.mem_cons, List.not_mem_nil, or_false] at inside
    rcases inside with rfl | rfl
    · refine assignment?_starts 1 '(' "(sizeof(" rfl (by decide) (by decide) ?_
      simp [String.toList_append]
    · refine assignment?_starts 1 '&' "&" rfl (by decide) (by decide) ?_
      simp [String.toList_append]

end Canopen.Source
