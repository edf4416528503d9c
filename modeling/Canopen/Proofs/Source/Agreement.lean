import Mathlib.Data.List.Forall2
import Canopen.Proofs.Image.Operations
import Canopen.Proofs.Source.Files

/-!
# Declarations and initializers go together

The header declares the storage groups and the source defines them; both are generated by walks of
their own over the members, and the descriptors are declared and initialized in two interleaved
loops.  Whatever has been done to an image, the two sides name the same groups and members in the
same order.
-/

namespace Canopen.Source

/-! ## What the files declare and define -/

/-- What stands between two texts. -/
def between? (front back text : String) : Option String :=
  let inner := String.ofList
    ((text.toList.drop front.length).take (text.length - front.length - back.length))
  if front ++ inner ++ back = text then some inner else none

theorem between?_append (front inner back : String) :
    between? front back (front ++ inner ++ back) = some inner := by
  have kept : String.ofList (((front ++ inner ++ back).toList.drop front.length).take
      ((front ++ inner ++ back).length - front.length - back.length)) = inner := by
    have long : (front ++ inner ++ back).length - front.length - back.length = inner.length := by
      simp only [String.length_append]
      omega
    rw [long, String.toList_append, String.toList_append, List.append_assoc,
      List.drop_left' String.length_toList, List.take_left' String.length_toList,
      String.ofList_toList]
  rw [between?, kept, if_pos rfl]

namespace Construct

/-- The name of a structure type, with the lines that declare its members. -/
def type? : Construct → Option (String × List String)
  | .braces opening inner closing =>
      if opening = "typedef struct \x7b" then (between? "\x7d " ";" closing).map (·, inner) else none
  | _ => none

/-- What an extern declaration announces. -/
def announced? : Construct → Option String
  | .line text => between? "extern " ";" text
  | _ => none

/-- What is defined with an initializer, with the lines of the initializer. -/
def definition? : Construct → Option (String × List String)
  | .braces opening inner closing =>
      if closing = "\x7d;" then (between? "" " = \x7b" opening).map (·, inner) else none
  | _ => none

theorem type?_braces {closing name : String} (inner : List String)
    (spelled : closing = "\x7d " ++ name ++ ";") :
    type? (.braces ("typedef struct " ++ openBrace) inner closing) = some (name, inner) := by
  have opening : "typedef struct " ++ openBrace = "typedef struct \x7b" := rfl
  rw [type?, if_pos opening, spelled, between?_append, Option.map_some]

theorem announced?_line {line text : String} (spelled : line = "extern " ++ text ++ ";") :
    announced? (.line line) = some text := by
  rw [announced?, spelled, between?_append]

theorem announced?_blank : announced? (.line "") = none := by
  decide

theorem definition?_braces {opening name : String} (inner : List String)
    (spelled : opening = name ++ " = \x7b") :
    definition? (.braces opening inner (closeBrace ++ ";")) = some (name, inner) := by
  have closing : closeBrace ++ ";" = "\x7d;" := rfl
  have found := between?_append "" name " = \x7b"
  rw [String.empty_append, ← spelled] at found
  rw [definition?, if_pos closing, found, Option.map_some]

/-- A type is no definition. -/
theorem definition?_type (opening text : String) (inner : List String) :
    definition? (.braces opening inner ("\x7d " ++ text)) = none := by
  have other : "\x7d " ++ text ≠ "\x7d;" := by
    intro same
    have second := congrArg (fun line => line.toList[1]?) same
    simp [String.toList_append] at second
  rw [definition?, if_neg other]

end Construct

/-- The types of the groups in a header. -/
def groupTypes (header : List Construct) : List (String × List String) :=
  (part "OD data declaration of all groups" header).filterMap Construct.type?

/-- What a header announces. -/
def groupExterns (header : List Construct) : List String :=
  (part "OD data declaration of all groups" header).filterMap Construct.announced?

/-- The groups that a source defines. -/
def groupDefinitions (source : List Construct) : List (String × List String) :=
  (part "OD data initialization of all groups" source).filterMap Construct.definition?

/-- The type of the descriptors in a source, if it has any. -/
def objectTypes (source : List Construct) : List (String × List String) :=
  (part "All OD objects (const)" source).filterMap Construct.type?

/-- The descriptors that a source defines, if it has any. -/
def objectDefinitions (source : List Construct) : List (String × List String) :=
  (part "All OD objects (const)" source).filterMap Construct.definition?

/-- Header and source name the same groups in the same order.  Every group is declared and
initialized by the trees of its members, which name the same members at the same depths, and the
structure of all descriptors declares the members that its initializer designates. -/
structure Agree (image : Image) (groups : List StorageGroup) (header source : List Construct) :
    Prop where
  types :
    (groupTypes header).map (·.1) =
      groups.map fun group => image.name ++ "_" ++ group.name ++ "_t"
  externs :
    groupExterns header =
      (groups.map fun group =>
        image.name ++ "_" ++ group.name ++ "_t " ++ image.name ++ "_" ++ group.name) ++
        ["const OD_t " ++ image.name]
  definitions :
    (groupDefinitions source).map (·.1) =
      groups.map fun group =>
        image.name ++ "_" ++ group.name ++ "_t " ++ image.name ++ "_" ++ group.name
  declared :
    List.Forall₂ (fun type group => Declares 1 (declarators group.fields) type.2)
      (groupTypes header) groups
  initialized :
    List.Forall₂ (fun definition group => Designates 1 (designators group.fields) definition.2)
      (groupDefinitions source) groups
  names :
    ∀ group ∈ groups,
      Declarator.namesOf 1 (declarators group.fields) =
        Designator.namesOf 1 (designators group.fields)
  descriptors :
    image.objects = [] ∧ objectTypes source = [] ∧ objectDefinitions source = [] ∨
      ∃ members values,
        objectTypes source = [(image.name ++ "Objs_t", members)] ∧
        objectDefinitions source =
          [("static const " ++ image.name ++ "Objs_t " ++ image.name ++ "Objs", values)] ∧
        Declares 1 (image.objects.flatMap (objectDeclarators image)) members ∧
        Designates 1 (image.objects.flatMap (objectDesignators image)) values ∧
        (image.objects.flatMap (objectDesignators image)).map Designator.name? =
          (image.objects.flatMap (objectDeclarators image)).map fun declarator =>
            some declarator.name

/-! ## Parts of the two files -/

section

variable (version filename : String) (image : Image)

theorem filterMap_nonblank {α : Type} {read : Construct → Option α} (blank : read (.line "") = none)
    (items : List Construct) : (items.filter (· ≠ .line "")).filterMap read = items.filterMap read := by
  rw [List.filterMap_filter]
  congr 1
  funext construct
  by_cases same : construct = .line ""
  · simp [same, blank]
  · simp [same]

/-- What each item contributes to a reading, where it contributes exactly one result. -/
theorem filterMap_flatMap_single {α β γ : Type} {items : α → List β} {read : β → Option γ}
    {result : α → γ} (list : List α) (own : ∀ item, (items item).filterMap read = [result item]) :
    (list.flatMap items).filterMap read = list.map result := by
  rw [List.filterMap_flatMap, List.map_eq_flatMap]
  simp only [own]

theorem filterMap_map_single {α β γ : Type} {make : α → β} {read : β → Option γ} {result : α → γ}
    {list : List α} (own : ∀ item ∈ list, read (make item) = some (result item)) :
    (list.map make).filterMap read = list.map result := by
  induction list with
  | nil => rfl
  | cons item later ih =>
      rw [List.map_cons, List.filterMap_cons_some (own item List.mem_cons_self), List.map_cons,
        ih fun other inside => own other (List.mem_cons_of_mem item inside)]

theorem part_declarations :
    part "OD data declaration of all groups" (constructs (headerLines version image)) =
      (declarationItems image).filter (· ≠ .line "") := by
  have found : (headerParts image).filter (·.1 == "OD data declaration of all groups") =
      [("OD data declaration of all groups", declarationItems image)] := rfl
  rw [part_header, found, List.flatMap_singleton]

theorem groupTypes_header :
    groupTypes (constructs (headerLines version image)) =
      image.usedGroups.map fun group =>
        (image.name ++ "_" ++ group.name ++ "_t", declarations 1 group.fields) := by
  have own (group : StorageGroup) : (groupTypeItems image group).filterMap Construct.type? =
      [(image.name ++ "_" ++ group.name ++ "_t", declarations 1 group.fields)] := by
    have closing : closeBrace ++ " " ++ image.name ++ "_" ++ group.name ++ "_t;" =
        "\x7d " ++ (image.name ++ "_" ++ group.name ++ "_t") ++ ";" := by
      simp [← String.toList_inj, closeBrace]
    rw [groupTypeItems, List.filterMap_cons_some (Construct.type?_braces _ closing)]
    rfl
  have lines : ((image.usedGroups.map fun group =>
      Construct.line ("extern " ++ groupVariable image.name group ++ ";")) ++
        [Construct.line ("extern const OD_t " ++ image.name ++ ";")]).filterMap Construct.type? =
          [] := by
    rw [List.filterMap_append, List.filterMap_map, List.append_eq_nil_iff]
    exact ⟨List.filterMap_eq_nil_iff.2 fun _ _ => rfl, rfl⟩
  rw [groupTypes, part_declarations, filterMap_nonblank rfl, declarationItems,
    List.filterMap_append, filterMap_flatMap_single _ own, lines, List.append_nil]

theorem groupExterns_header :
    groupExterns (constructs (headerLines version image)) =
      image.usedGroups.map (groupVariable image.name) ++ ["const OD_t " ++ image.name] := by
  have types : (image.usedGroups.flatMap (groupTypeItems image)).filterMap Construct.announced? = [] := by
    rw [List.filterMap_flatMap]
    refine List.flatMap_eq_nil_iff.2 fun group _ => ?_
    rw [groupTypeItems, List.filterMap_cons_none rfl,
      List.filterMap_cons_none Construct.announced?_blank, List.filterMap_nil]
  have externs : (image.usedGroups.map fun group =>
      Construct.line ("extern " ++ groupVariable image.name group ++ ";")).filterMap
        Construct.announced? = image.usedGroups.map (groupVariable image.name) := by
    have each (group : StorageGroup) :
        Construct.announced? (.line ("extern " ++ groupVariable image.name group ++ ";")) =
          some (groupVariable image.name group) :=
      Construct.announced?_line rfl
    exact filterMap_map_single fun group _ => each group
  have handle : Construct.announced? (.line ("extern const OD_t " ++ image.name ++ ";")) =
      some ("const OD_t " ++ image.name) := by
    refine Construct.announced?_line ?_
    simp [← String.toList_inj]
  rw [groupExterns, part_declarations, filterMap_nonblank Construct.announced?_blank,
    declarationItems, List.filterMap_append, types, List.nil_append, List.filterMap_append, externs,
    List.filterMap_cons_some handle, List.filterMap_nil]

theorem groupDefinitions_source :
    groupDefinitions (constructs (bodyLines version filename image)) =
      image.usedGroups.map fun group =>
        (groupVariable image.name group, joinBlocks (initializations 1 group.fields)) := by
  have own (group : StorageGroup) :
      (groupValueItems image group).filterMap Construct.definition? =
        [(groupVariable image.name group, joinBlocks (initializations 1 group.fields))] := by
    have opening : groupVariable image.name group ++ " = " ++ openBrace =
        groupVariable image.name group ++ " = \x7b" := by
      rw [String.append_assoc]
      rfl
    rw [groupValueItems, List.filterMap_cons_some (Construct.definition?_braces _ opening)]
    rfl
  rw [groupDefinitions, part_groupValues, filterMap_nonblank rfl, filterMap_flatMap_single _ own]

theorem objects_source :
    image.objects = [] ∧ objectTypes (constructs (bodyLines version filename image)) = [] ∧
        objectDefinitions (constructs (bodyLines version filename image)) = [] ∨
      objectTypes (constructs (bodyLines version filename image)) =
          [(image.name ++ "Objs_t", image.objects.flatMap (objectMembers image))] ∧
        objectDefinitions (constructs (bodyLines version filename image)) =
          [("static const " ++ image.name ++ "Objs_t " ++ image.name ++ "Objs",
            joinBlocks (image.objects.flatMap (objectValues image)))] := by
  unfold objectTypes objectDefinitions
  rw [part_objects, filterMap_nonblank rfl, filterMap_nonblank rfl, objectParts]
  cases objects : image.objects with
  | nil => exact .inl ⟨rfl, rfl, rfl⟩
  | cons first rest =>
      have closing : closeBrace ++ " " ++ image.name ++ "Objs_t;" =
          "\x7d " ++ (image.name ++ "Objs_t") ++ ";" := by
        simp [← String.toList_inj, closeBrace]
      have opening : "static const " ++ image.name ++ "Objs_t " ++ image.name ++ "Objs = " ++
          openBrace = "static const " ++ image.name ++ "Objs_t " ++ image.name ++ "Objs" ++
            " = \x7b" := by
        simp [← String.toList_inj, openBrace]
      have type := Construct.type?_braces ((first :: rest).flatMap (objectMembers image)) closing
      have definition := Construct.definition?_braces
        (joinBlocks ((first :: rest).flatMap (objectValues image))) opening
      have other := Construct.definition?_type ("typedef struct " ++ openBrace)
        (image.name ++ "Objs_t" ++ ";") ((first :: rest).flatMap (objectMembers image))
      rw [← String.append_assoc, ← closing] at other
      rw [if_neg (by simp), List.flatMap_singleton]
      refine .inr ⟨?_, ?_⟩
      · rw [List.filterMap_cons_some type]
        rfl
      · rw [List.filterMap_cons_none other, List.filterMap_cons_none rfl,
          List.filterMap_cons_some definition]
        rfl

/-- The initializer of all descriptors designates what their structure declares. -/
theorem name?_objects :
    (image.objects.flatMap (objectDesignators image)).map Designator.name? =
      (image.objects.flatMap (objectDeclarators image)).map fun declarator =>
        some declarator.name := by
  rw [List.map_flatMap, List.map_flatMap]
  refine List.flatMap_congr fun descriptor _ => ?_
  rw [name?_objectDesignators, ← name_objectDeclarators, List.map_map]
  rfl

/-- Header and source of any image agree. -/
theorem agree :
    Agree image image.usedGroups (constructs (headerLines version image))
      (constructs (bodyLines version filename image)) where
  types := by
    rw [groupTypes_header, List.map_map]
    rfl
  externs := groupExterns_header version image
  definitions := by
    rw [groupDefinitions_source, List.map_map]
    rfl
  declared := by
    rw [groupTypes_header, List.forall₂_map_left_iff, List.forall₂_same]
    exact fun group _ => declares_declarations 1 group.fields
  initialized := by
    rw [groupDefinitions_source, List.forall₂_map_left_iff, List.forall₂_same]
    exact fun group _ => designates_initializations 1 group.fields
  names group _ := namesOf_declarators 1 group.fields
  descriptors := by
    rcases objects_source version filename image with none | ⟨types, definitions⟩
    · exact .inl none
    · exact .inr ⟨_, _, types, definitions, declares_objects image,
        designates_objectValues image, name?_objects image⟩

end

end Canopen.Source

namespace Canopen.Image

open Source

/-- Whatever is done to an image, its header and its source agree: both name the groups that have
been given members, in the order of first use, and both name the same members in the same order. -/
theorem session_agree (name version filename : String) (operations : List Operation) :
    let image := session name operations
    image.name = name ∧
      Agree image
        ((groupsFrom (operations.filterMap Operation.use?)).filter fun group =>
          !group.fields.isEmpty)
        (constructs (headerLines version image))
        (constructs (bodyLines version filename image)) := by
  intro image
  have whole := agree version filename image
  rw [usedGroups, session_groups] at whole
  exact ⟨session_name name operations, whole⟩

end Canopen.Image
