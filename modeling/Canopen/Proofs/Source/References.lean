import Canopen.Proofs.Source.Assignments
import Canopen.Proofs.Source.Table

/-!
# References between the generated files

Each name in the files is written by a loop of its own: the rows of the table, the descriptors, the
extensions and the groups that have members.  A reader who follows a reference from its place of use
has to find the declaration.
-/

namespace Canopen.Source

open CName (IsWord)

/-! ## What the files declare and refer to -/

/-- The members that the structure of all descriptors declares. -/
def declaredObjects (name : String) (source : List Construct) : List String :=
  (linesUnder (name ++ "Objs_t") (objectTypes source)).filterMap declared?

/-- What the initializer of all descriptors assigns. -/
def objectValuesOf (name : String) (source : List Construct) : List Assignment :=
  assignments
    (linesUnder ("static const " ++ name ++ "Objs_t " ++ name ++ "Objs") (objectDefinitions source))

/-- The members that the initializer of all descriptors initializes. -/
def initializedObjects (name : String) (source : List Construct) : List String :=
  ((objectValuesOf name source).filter (·.depth == 1)).map (·.member)

/-- The members of the extensions that a source declares. -/
def declaredHooks (name : String) (source : List Construct) : List String :=
  (linesUnder (name ++ "Exts_t")
    ((part "IO extensions and flagsPDO (configurable by application)" source).filterMap
      Construct.type?)).filterMap declared?

/-- The members that stand for an extension. -/
def hookNames (extension : Extension) : List String :=
  (if extension.extIo then ["xio_" ++ extension.name] else []) ++
    (if extension.flagsPdo then ["flp_" ++ extension.name] else [])

/-- The header has a type and a variable for the group, and the source has its definition. -/
structure HasGroup (name group : String) (header source : List Construct) : Prop where
  type : name ++ "_" ++ group ++ "_t" ∈ (groupTypes header).map (·.1)
  announced : name ++ "_" ++ group ++ "_t " ++ name ++ "_" ++ group ∈ groupExterns header
  definition :
    name ++ "_" ++ group ++ "_t " ++ name ++ "_" ++ group ∈ (groupDefinitions source).map (·.1)

/-- The source has a variable for the members of the extensions, and this one is among them. -/
structure HasHook (name member : String) (source : List Construct) : Prop where
  declared : member ∈ declaredHooks name source
  stored :
    .line ("static " ++ name ++ "Exts_t " ++ name ++ "Exts = \x7b0\x7d;") ∈
      part "IO extensions and flagsPDO (configurable by application)" source

/-- Whatever the files refer to is declared in them.  Designators stand between the braces of two kinds
of initializers only: the values of a group, which are texts of the document, and the initializer of
the descriptors, which holds all addresses. -/
structure Resolves (name : String) (rows : List Row) (header source : List Construct) : Prop where
  designators :
    ∀ opening inner closing, .braces opening inner closing ∈ source → ∀ line ∈ inner,
      ∀ assignment, assignment? line = some assignment →
        (∃ definition ∈ groupDefinitions source, line ∈ definition.2) ∨
          assignment ∈ objectValuesOf name source
  listed : listRows name source = rows.map fun row => (row.typeTag, row.member)
  members :
    ∀ row ∈ listRows name source,
      row.2 ∈ declaredObjects name source ∧ row.2 ∈ initializedObjects name source
  extended :
    ∀ row ∈ listRows name source,
      (∃ rest, row.2 = "oE_" ++ rest) ↔ row.1 ∈ ["ODT_EVAR", "ODT_EARR", "ODT_EREC"]
  once :
    ∀ rest, "oE_" ++ rest ∈ declaredObjects name source →
      ((listRows name source).map (·.2)).count ("oE_" ++ rest) = 1
  originals :
    ∀ assignment ∈ objectValuesOf name source, assignment.member = "odObjectOriginal" →
      ∃ rest, wordBehind? ("&" ++ name ++ "Objs.") assignment.value = some ("o_" ++ rest) ∧
        "o_" ++ rest ∈ declaredObjects name source
  hooks :
    ∀ assignment ∈ objectValuesOf name source, assignment.member = "extIO" →
      assignment.value = "NULL," ∨
        ∃ rest, wordBehind? ("&" ++ name ++ "Exts.") assignment.value = some ("xio_" ++ rest) ∧
          HasHook name ("xio_" ++ rest) source
  data :
    ∀ assignment ∈ objectValuesOf name source,
      assignment.member = "data" ∨ assignment.member = "data0" →
        assignment.value = "NULL," ∨
          ∃ group, wordBehind? ("&" ++ name ++ "_") assignment.value = some group ∧
            HasGroup name group header source

/-! ## Declarations -/

theorem endsWord_semicolon : EndsWord ";".toList :=
  endsWord_cons (c := ';') (by decide) []

theorem declared?_descriptorMember {descriptor : Descriptor} (word : IsWord descriptor.name) :
    declared? (descriptorMember descriptor) = some ("o_" ++ descriptor.name) := by
  have named : IsWord ("o_" ++ descriptor.name) := (CName.isWord_of_all rfl).append word
  cases descriptor with
  | var name data attributes length =>
      refine declared?_line 1 "OD_obj_var_t" (CName.isWord_of_all rfl) (by decide) named
        endsWord_semicolon ?_
      simp [← String.toList_inj, descriptorMember, Descriptor.name]
  | array name count data countAttributes attributes length elementType =>
      refine declared?_line 1 "OD_obj_array_t" (CName.isWord_of_all rfl) (by decide) named
        endsWord_semicolon ?_
      simp [← String.toList_inj, descriptorMember, Descriptor.name]
  | record name parts =>
      have bracket : EndsWord ("[" ++ Number.decimal parts.length ++ "];").toList := by
        rw [String.toList_append, String.toList_append]
        exact endsWord_cons (c := '[') (by decide) _
      refine declared?_line 1 "OD_obj_record_t" (CName.isWord_of_all rfl) (by decide) named
        bracket ?_
      simp [← String.toList_inj, descriptorMember, Descriptor.name]

theorem declared?_extended {name : String} (word : IsWord name) :
    declared? (indent 1 ++ "OD_obj_extended_t oE_" ++ name ++ ";") = some ("oE_" ++ name) := by
  refine declared?_line 1 "OD_obj_extended_t" (CName.isWord_of_all rfl) (by decide)
    ((CName.isWord_of_all rfl).append word) endsWord_semicolon ?_
  simp [← String.toList_inj]

theorem declared?_hook {name : String} (word : IsWord name) :
    declared? (indent 1 ++ "OD_extensionIO_t xio_" ++ name ++ ";") = some ("xio_" ++ name) := by
  refine declared?_line 1 "OD_extensionIO_t" (CName.isWord_of_all rfl) (by decide)
    ((CName.isWord_of_all rfl).append word) endsWord_semicolon ?_
  simp [← String.toList_inj]

theorem declared?_flags (count : Nat) {name : String} (word : IsWord name) :
    declared? (indent 1 ++ "OD_flagsPDO_t flp_" ++ name ++ "[" ++ Number.decimal count ++ "];") =
      some ("flp_" ++ name) := by
  have bracket : EndsWord ("[" ++ Number.decimal count ++ "];").toList := by
    rw [String.toList_append, String.toList_append]
    exact endsWord_cons (c := '[') (by decide) _
  refine declared?_line 1 "OD_flagsPDO_t" (CName.isWord_of_all rfl) (by decide)
    ((CName.isWord_of_all rfl).append word) bracket ?_
  simp [← String.toList_inj]

theorem filterMap_extensionMembers {extension : Extension} (word : IsWord extension.name) :
    (extensionMembers extension).filterMap declared? = hookNames extension := by
  have hook := List.filterMap_cons_some (declared?_hook word) (l := [])
  have flags := List.filterMap_cons_some (declared?_flags extension.subCount word) (l := [])
  unfold extensionMembers hookNames
  rw [List.filterMap_append]
  cases extension.extIo <;> cases extension.flagsPdo <;> simp [hook, flags]

theorem filterMap_objectMembers (image : Image) {descriptor : Descriptor}
    (word : IsWord descriptor.name) :
    (objectMembers image descriptor).filterMap declared? = objectNames image descriptor := by
  unfold objectMembers objectNames
  rw [List.filterMap_cons_some (declared?_descriptorMember word)]
  cases image.extension? descriptor.name with
  | none => rfl
  | some extension =>
      have extended := List.filterMap_cons_some (declared?_extended word) (l := [])
      rw [Option.map_some, Option.toList_some, extended]
      rfl

theorem filter_objectAssignments (image : Image) (descriptor : Descriptor) :
    ((objectAssignments image descriptor).filter (·.depth == 1)).map (·.member) =
      objectNames image descriptor := by
  have deeper : (innerAssignments image.name descriptor).filter (·.depth == 1) = [] := by
    cases descriptor with
    | var => rfl
    | array => rfl
    | record name parts =>
        rw [innerAssignments, List.filter_flatMap]
        exact List.flatMap_eq_nil_iff.2 fun _ _ => rfl
  unfold objectAssignments descriptorAssignments objectNames
  cases found : image.extension? descriptor.name with
  | none => simp [deeper]
  | some extension => simp [deeper, extensionAssignments, (mem_of_extension? found).2]

section

variable (version filename : String) {image : Image}
  (words : ∀ descriptor ∈ image.objects, IsWord descriptor.name)

include words

/-- The declared members are those of the objects, one after another. -/
theorem declaredObjects_source :
    declaredObjects image.name (constructs (bodyLines version filename image)) =
      image.objects.flatMap (objectNames image) := by
  have members : (image.objects.flatMap (objectMembers image)).filterMap declared? =
      image.objects.flatMap (objectNames image) := by
    rw [List.filterMap_flatMap]
    exact List.flatMap_congr fun descriptor inside =>
      filterMap_objectMembers image (words descriptor inside)
  rcases objects_source version filename image with ⟨none, types, _⟩ | ⟨types, _⟩
  · rw [declaredObjects, types, none]
    rfl
  · rw [declaredObjects, types, linesUnder_singleton, members]

theorem objectValuesOf_source :
    objectValuesOf image.name (constructs (bodyLines version filename image)) =
      image.objects.flatMap (objectAssignments image) := by
  rcases objects_source version filename image with ⟨none, _, definitions⟩ | ⟨_, definitions⟩
  · rw [objectValuesOf, definitions, none]
    rfl
  · rw [objectValuesOf, definitions, linesUnder_singleton, assignments_objects words]

/-- The initialized members are the declared ones. -/
theorem initializedObjects_source :
    initializedObjects image.name (constructs (bodyLines version filename image)) =
      image.objects.flatMap (objectNames image) := by
  rw [initializedObjects, objectValuesOf_source version filename words, List.filter_flatMap,
    List.map_flatMap]
  simp only [filter_objectAssignments]

end

/-! ## Groups and hooks -/

variable {image : Image}

/-- Header and source have every group with members. -/
theorem hasGroup_of_mem (version filename : String) {group : StorageGroup}
    (used : group ∈ image.usedGroups) :
    HasGroup image.name group.name (constructs (headerLines version image))
      (constructs (bodyLines version filename image)) where
  type := by
    rw [groupTypes_header, List.map_map]
    exact List.mem_map_of_mem used
  announced := by
    rw [groupExterns_header]
    exact List.mem_append_left _ (List.mem_map_of_mem used)
  definition := by
    rw [groupDefinitions_source, List.map_map]
    exact List.mem_map_of_mem used

/-- The structure of all extensions is found whether there are any or not. -/
theorem hookLines_source (version filename : String) (image : Image) :
    linesUnder (image.name ++ "Exts_t")
        ((part "IO extensions and flagsPDO (configurable by application)"
          (constructs (bodyLines version filename image))).filterMap Construct.type?) =
      image.extensions.flatMap extensionMembers := by
  have closing : closeBrace ++ " " ++ image.name ++ "Exts_t;" =
      "\x7d " ++ (image.name ++ "Exts_t") ++ ";" := by
    simp [← String.toList_inj, closeBrace]
  have type := Construct.type?_braces (image.extensions.flatMap extensionMembers) closing
  rw [part_extensions, filterMap_nonblank rfl, extensionParts]
  split
  · next none =>
    rw [List.isEmpty_iff.1 none]
    rfl
  · rw [List.flatMap_singleton, List.filterMap_cons_some type, List.filterMap_cons_none rfl,
      List.filterMap_cons_none rfl, List.filterMap_nil, linesUnder_singleton]

/-- The declared hooks are those of the extensions, one after another. -/
theorem declaredHooks_source (version filename : String)
    (words : ∀ extension ∈ image.extensions, IsWord extension.name) :
    declaredHooks image.name (constructs (bodyLines version filename image)) =
      image.extensions.flatMap hookNames := by
  rw [declaredHooks, hookLines_source, List.filterMap_flatMap]
  exact List.flatMap_congr fun extension inside =>
    filterMap_extensionMembers (words extension inside)

/-- The source has the hook of every extension that asks for one. -/
theorem hasHook_of_mem (version filename : String) {extension : Extension}
    (known : extension ∈ image.extensions) (external : extension.extIo = true)
    (word : IsWord extension.name) :
    HasHook image.name ("xio_" ++ extension.name) (constructs (bodyLines version filename image)) := by
  have line : indent 1 ++ "OD_extensionIO_t xio_" ++ extension.name ++ ";" ∈
      image.extensions.flatMap extensionMembers := by
    refine List.mem_flatMap.2 ⟨extension, known, List.mem_append_left _ ?_⟩
    rw [if_pos external]
    exact List.mem_singleton_self _
  refine ⟨?_, ?_⟩
  · rw [declaredHooks, hookLines_source]
    exact List.mem_filterMap.2 ⟨_, line, declared?_hook word⟩
  · -- the line of the variable is not one of the blank lines that a part leaves out
    have some : image.extensions.isEmpty = false := List.isEmpty_eq_false_iff_exists_mem.2 ⟨_, known⟩
    have spelled : "static " ++ image.name ++ "Exts_t " ++ image.name ++ "Exts = \x7b0\x7d;" =
        "static " ++ image.name ++ "Exts_t " ++ image.name ++ "Exts = " ++ openBrace ++ "0" ++
          closeBrace ++ ";" := by
      simp [← String.toList_inj, openBrace, closeBrace]
    rw [part_extensions, extensionParts, some, if_neg Bool.false_ne_true, List.flatMap_singleton,
      spelled]
    refine List.mem_filter.2 ⟨by simp, decide_eq_true fun same => ?_⟩
    have text := congrArg String.toList (Construct.line.inj same)
    simp [String.toList_append] at text

/-! ## Where designators stand -/

/-- The parts that a construct between braces can belong to. -/
theorem exists_part_of_braces {version filename opening closing : String} {inner : List String}
    (known : .braces opening inner closing ∈ constructs (bodyLines version filename image)) :
    ∃ part ∈ bodyParts image, .braces opening inner closing ∈ part.2 := by
  rw [constructs_bodyLines] at known
  rcases List.mem_append.1 known with front | inside
  · simp [bodyFront] at front
  · obtain ⟨part, among, inside⟩ := List.mem_flatMap.1 inside
    simp only [List.mem_cons, heading, reduceCtorEq, false_or] at inside
    exact ⟨part, among, inside⟩

/-- A designator stands in the values of a group or in the initializer of the descriptors. -/
theorem designators_source (version filename : String)
    (words : ∀ descriptor ∈ image.objects, IsWord descriptor.name) {opening closing line : String}
    {inner : List String} {assignment : Assignment}
    (known : .braces opening inner closing ∈ constructs (bodyLines version filename image))
    (inside : line ∈ inner) (assigns : assignment? line = some assignment) :
    (∃ definition ∈ groupDefinitions (constructs (bodyLines version filename image)),
        line ∈ definition.2) ∨
      assignment ∈ objectValuesOf image.name (constructs (bodyLines version filename image)) := by
  have silent {result : Prop} (none : assignment? line = none) : result := by
    rw [none] at assigns
    cases assigns
  obtain ⟨part, among, own⟩ := exists_part_of_braces known
  rcases List.mem_cons.1 among with rfl | among
  · obtain ⟨group, used, own⟩ := List.mem_flatMap.1 own
    simp only [groupValueItems, List.mem_cons, Construct.braces.injEq, reduceCtorEq,
      List.not_mem_nil, or_false] at own
    obtain ⟨_, rfl, _⟩ := own
    refine .inl ⟨(groupVariable image.name group, _), ?_, inside⟩
    rw [groupDefinitions_source]
    exact List.mem_map_of_mem used
  rcases List.mem_append.1 among with extensions | among
  · unfold extensionParts at extensions
    split at extensions
    · cases extensions
    · rw [List.mem_singleton.1 extensions] at own
      simp only [List.mem_cons, Construct.braces.injEq, reduceCtorEq, List.not_mem_nil,
        or_false] at own
      obtain ⟨_, rfl, _⟩ := own
      obtain ⟨extension, _, member⟩ := List.mem_flatMap.1 inside
      exact silent (assignment?_extensionMember member)
  rcases List.mem_append.1 among with objects | table
  · unfold objectParts at objects
    split at objects
    · cases objects
    · rw [List.mem_singleton.1 objects] at own
      simp only [List.mem_cons, Construct.braces.injEq, reduceCtorEq, List.not_mem_nil,
        or_false, false_or] at own
      rcases own with ⟨_, rfl, _⟩ | ⟨_, rfl, _⟩
      · obtain ⟨descriptor, _, member⟩ := List.mem_flatMap.1 inside
        exact silent (assignment?_objectMember member)
      · rw [objectValuesOf_source version filename words, ← assignments_objects words]
        exact .inr (List.mem_filterMap.2 ⟨line, inside, assigns⟩)
  · rw [List.mem_singleton.1 table] at own
    exact silent (assignment?_listItems own inside)

/-! ## Linked images -/

section

variable (version filename : String) (linked : image.Linked)

include linked

theorem member_mem_objectNames {row : Row} (inside : row ∈ image.rows) :
    row.member ∈ image.objects.flatMap (objectNames image) := by
  obtain ⟨descriptor, among, named⟩ := linked.exists_object inside
  refine List.mem_flatMap.2 ⟨descriptor, among, ?_⟩
  have extended := linked.extended row inside
  unfold Row.member objectNames
  rw [extended, ← named]
  cases image.extension? descriptor.name with
  | none => exact List.mem_cons_self
  | some extension => exact List.mem_cons_of_mem _ (List.mem_singleton_self _)

/-- Every extended member belongs to an extended row. -/
theorem exists_row_of_extended {rest : String}
    (declared : "oE_" ++ rest ∈ image.objects.flatMap (objectNames image)) :
    ∃ row ∈ image.rows, row.member = "oE_" ++ rest := by
  obtain ⟨descriptor, among, inside⟩ := List.mem_flatMap.1 declared
  obtain ⟨row, listed, named⟩ := linked.exists_row among
  refine ⟨row, listed, ?_⟩
  rcases List.mem_cons.1 inside with plain | extended
  · exact absurd plain (extended_ne_plain _ _)
  · obtain ⟨extension, found, same⟩ := Option.map_eq_some_iff.1 (Option.mem_toList.1 extended)
    have marked := linked.extended row listed
    rw [named, found] at marked
    rw [Row.member, marked, Option.isSome_some, if_pos rfl, named]
    exact same

/-- In the files of a linked image every reference is resolved. -/
theorem resolves :
    Resolves image.name image.rows (constructs (headerLines version image))
      (constructs (bodyLines version filename image)) := by
  have words : ∀ descriptor ∈ image.objects, IsWord descriptor.name :=
    fun descriptor => linked.isWord_object
  have listed := listRows_source version filename image linked.words
  have declared := declaredObjects_source version filename words
  have assigned := objectValuesOf_source version filename words
  constructor
  case designators =>
    intro opening inner closing known line inside assignment assigns
    exact designators_source version filename words known inside assigns
  case listed => exact listed
  case members =>
    intro reference inside
    rw [listed] at inside
    obtain ⟨row, among, rfl⟩ := List.mem_map.1 inside
    rw [declared, initializedObjects_source version filename words]
    exact ⟨member_mem_objectNames linked among, member_mem_objectNames linked among⟩
  case extended =>
    intro reference inside
    rw [listed] at inside
    obtain ⟨row, _, rfl⟩ := List.mem_map.1 inside
    exact row.member_eq_extended_iff.trans row.typeTag_mem_extended_iff.symm
  case once =>
    -- a member that some extended row refers to is counted once, as the members of rows differ
    intro rest known
    rw [declared] at known
    obtain ⟨row, among, same⟩ := exists_row_of_extended linked known
    rw [listed, List.map_map]
    refine List.count_eq_one_of_mem linked.nodup_members ?_
    exact same ▸ List.mem_map_of_mem among
  case originals =>
    intro assignment inside original
    rw [assigned] at inside
    obtain ⟨descriptor, among, own⟩ := List.mem_flatMap.1 inside
    have value := (assigns_of_mem own).value_of_original original
    refine ⟨descriptor.name, ?_, ?_⟩
    · have named : IsWord ("o_" ++ descriptor.name) :=
        (CName.isWord_of_all rfl).append (words descriptor among)
      have ends : EndsWord "".toList := endsWord_nil
      refine wordBehind?_of_eq named ends ?_
      simp [← String.toList_inj, value]
    · rw [declared]
      exact List.mem_flatMap.2 ⟨descriptor, among, List.mem_cons_self⟩
  case hooks =>
    intro assignment inside hook
    rw [assigned] at inside
    obtain ⟨descriptor, among, own⟩ := List.mem_flatMap.1 inside
    have word := words descriptor among
    rcases (assigns_of_mem own).value_of_hook hook with none | ⟨extension, known, named, external, value⟩
    · exact .inl none
    · refine .inr ⟨descriptor.name, ?_, ?_⟩
      · have comma : EndsWord ",".toList := endsWord_cons (c := ',') (by decide) []
        refine wordBehind?_of_eq ((CName.isWord_of_all rfl).append word) comma ?_
        simp [← String.toList_inj, value]
      · rw [← named] at word ⊢
        exact hasHook_of_mem version filename known external word
  case data =>
    intro assignment inside data
    rw [assigned] at inside
    obtain ⟨descriptor, among, own⟩ := List.mem_flatMap.1 inside
    rcases (assigns_of_mem own).value_of_data data with none | ⟨reference, known, value⟩
    · exact .inl none
    · obtain ⟨word, group, used, same⟩ := linked.stored descriptor among reference known
      refine .inr ⟨reference.group, ?_, ?_⟩
      · have point : EndsWord ("." ++ reference.member ++ ",").toList := by
          rw [String.toList_append, String.toList_append]
          exact endsWord_cons (c := '.') (by decide) _
        refine wordBehind?_of_eq word point ?_
        simp [← String.toList_inj, value, Reference.expression]
      · rw [← same]
        exact hasGroup_of_mem version filename used

end

end Canopen.Source
