import Canopen.Proofs.Number.Spelling
import Canopen.Proofs.Source.Descriptors

/-!
# The two files as they are read

Header and source are taken apart into their parts.  Every later statement about a generated file
looks only at what stands in one of these parts.
-/

namespace Canopen.Source

variable (version filename : String) (image : Image)

/-! ## Plain lines -/

theorem isPlain_decimal (n : Nat) : IsPlain (Number.decimal n) := by
  have some : Number.decimalChars n ≠ [] := Nat.toDigits_ne_nil
  have ends := List.getLast?_eq_some_getLast some
  have digit := Number.isDigit_of_mem_decimalChars (List.getLast_mem some)
  refine ⟨(Number.decimalChars n).getLast some, ?_, ?_, ?_⟩
  · rw [Number.decimal, String.toList_ofList, ends]
  · intro same
    rw [same] at digit
    cases digit
  · intro same
    rw [same] at digit
    cases digit

theorem isPlain_semicolon : IsPlain ";" :=
  ⟨';', rfl, by decide, by decide⟩

/-- The comment that begins a file, between its rules. -/
def bannerText (warning : String) : List String :=
  [indent 1 ++ "CANopen Object Dictionary definition for CANopenNode V4", "",
    indent 2 ++ "This file was automatically generated by yaml-to-od v" ++ version, "",
    indent 1 ++ warning]

theorem reads_banner (warning : String) :
    Reads (banner version warning) [.comment (bannerText version warning), .line ""] := by
  have comment : Reads (("/" ++ rule) :: bannerText version warning ++ [rule ++ "/"])
      [.comment (bannerText version warning)] := by
    refine reads_comment fun line inside => ?_
    have blank : "" ≠ rule ++ "/" := by decide
    have titled (level : Nat) (text : String) : indent (level + 1) ++ text ≠ rule ++ "/" :=
      (isIndented_indent level text).ne_ruled
    simp only [bannerText, List.mem_cons, List.not_mem_nil, or_false, String.append_assoc]
      at inside
    rcases inside with rfl | rfl | rfl | rfl | rfl
    · exact titled 0 _
    · exact blank
    · exact titled 1 _
    · exact blank
    · exact titled 0 _
  exact comment.append reads_blank

/-! ## The header -/

/-- The type of a group as it is read. -/
def groupTypeItems (group : StorageGroup) : List Construct :=
  [.braces ("typedef struct " ++ openBrace) (declarations 1 group.fields)
      (closeBrace ++ " " ++ image.name ++ "_" ++ group.name ++ "_t;"),
    .line ""]

theorem reads_groupType (group : StorageGroup) :
    Reads (groupType image.name group) (groupTypeItems image group) := by
  have indented := (declares_declarations 1 group.fields).isIndented (Nat.le_refl 1)
  have closed : closes (closeBrace ++ " " ++ image.name ++ "_" ++ group.name ++ "_t;") = true := by
    simp only [String.append_assoc, closes_closeBrace_append]
  have both := (reads_braces (opens_append_openBrace "typedef struct ") indented closed).append
    reads_blank
  rwa [List.append_assoc] at both

/-- The part of the header that declares the groups. -/
def declarationItems : List Construct :=
  image.usedGroups.flatMap (groupTypeItems image) ++
    ((image.usedGroups.map fun group => .line ("extern " ++ groupVariable image.name group ++ ";")) ++
      [.line ("extern const OD_t " ++ image.name ++ ";")])

theorem reads_declarations :
    Reads
      (image.usedGroups.flatMap (groupType image.name) ++
        ((image.usedGroups.map fun group => "extern " ++ groupVariable image.name group ++ ";") ++
          ["extern const OD_t " ++ image.name ++ ";"]))
      (declarationItems image) := by
  have types := reads_flatMap image.usedGroups fun group _ => reads_groupType image group
  have externs := reads_lines image.usedGroups fun group _ =>
    isPlain_semicolon.append ("extern " ++ groupVariable image.name group)
  have handle := reads_line (isPlain_semicolon.append ("extern const OD_t " ++ image.name))
  exact types.append (externs.append handle)

theorem reads_shortcuts (list : List Shortcut) :
    Reads (list.map (shortcutLine image.name))
      (list.map fun shortcut => .line (shortcutLine image.name shortcut)) := by
  have bracket : IsPlain "]" := ⟨']', rfl, by decide, by decide⟩
  exact reads_lines list fun shortcut _ => bracket.append _

/-- The parts of the header. -/
def headerParts : List (String × List Construct) :=
  [("Counters of OD objects",
      image.counters.map fun counter => .line (counterLine image.name counter)),
    ("OD data declaration of all groups", declarationItems image),
    ("Object dictionary entries - shortcuts",
      image.shortcuts.map fun shortcut => .line (shortcutLine image.name shortcut)),
    ("Object dictionary entries - shortcuts with names",
      (image.longShortcuts.map fun shortcut => .line (shortcutLine image.name shortcut)) ++
        [.line "", .line ("#endif /* " ++ image.name ++ "_H */"), .line ""])]

/-- What stands before the parts of the header. -/
def headerFront : List Construct :=
  [.comment (bannerText version "DON'T EDIT THIS FILE MANUALLY !!!!"), .line "",
    .line ("#ifndef " ++ image.name ++ "_H"), .line ("#define " ++ image.name ++ "_H")]

/-- The header, part by part. -/
theorem constructs_headerLines :
    constructs (headerLines version image) =
      headerFront version image ++ sectioned (headerParts image) := by
  have guard : IsPlain "_H" := ⟨'H', rfl, by decide, by decide⟩
  have front := (reads_banner version "DON'T EDIT THIS FILE MANUALLY !!!!").append
    ((reads_line (guard.append ("#ifndef " ++ image.name))).append
      (reads_line (guard.append ("#define " ++ image.name))))
  have counters : Reads (image.counters.map (counterLine image.name))
      (image.counters.map fun counter => .line (counterLine image.name counter)) :=
    reads_lines image.counters fun counter _ => (isPlain_decimal counter.2).append _
  have slash : IsPlain "_H */" := ⟨'/', rfl, by decide, by decide⟩
  have ending := reads_blank.append
    ((reads_line (slash.append ("#endif /* " ++ image.name))).append reads_blank)
  have whole := front.append
    (reads_part "Counters of OD objects" counters
      (reads_part "OD data declaration of all groups" (reads_declarations image)
        (reads_part "Object dictionary entries - shortcuts" (reads_shortcuts image image.shortcuts)
          (reads_part "Object dictionary entries - shortcuts with names"
            ((reads_shortcuts image image.longShortcuts).append ending) reads_noParts))))
  have lines := whole.constructs_eq
  simp only [headerLines, List.append_assoc, List.append_nil] at lines ⊢
  exact lines

/-! ## The source -/

/-- The initializer of a group as it is read. -/
def groupValueItems (group : StorageGroup) : List Construct :=
  [.braces (groupVariable image.name group ++ " = " ++ openBrace)
      (joinBlocks (initializations 1 group.fields)) (closeBrace ++ ";"),
    .line ""]

theorem closes_semicolon : closes (closeBrace ++ ";") = true :=
  closes_closeBrace_append ";"

theorem reads_groupValue (group : StorageGroup) :
    Reads (groupValue image.name group) (groupValueItems image group) := by
  have indented := (designates_initializations 1 group.fields).isIndented (Nat.le_refl 1)
  have opened := opens_append_openBrace (groupVariable image.name group ++ " = ")
  have both := (reads_braces opened indented closes_semicolon).append reads_blank
  rwa [List.append_assoc] at both

/-- The part of the source that holds the members of the extensions, if there are any. -/
def extensionParts : List (String × List Construct) :=
  if image.extensions.isEmpty then []
  else
    [("IO extensions and flagsPDO (configurable by application)",
      [.braces ("typedef struct " ++ openBrace) (image.extensions.flatMap extensionMembers)
          (closeBrace ++ " " ++ image.name ++ "Exts_t;"),
        .line "",
        .line ("static " ++ image.name ++ "Exts_t " ++ image.name ++ "Exts = " ++ openBrace ++ "0" ++
          closeBrace ++ ";")])]

theorem isIndented_extensionMembers (extension : Extension) :
    ∀ line ∈ extensionMembers extension, IsIndented line := by
  intro line inside
  rcases List.mem_append.1 inside with hook | flags
  · split at hook
    · rw [List.mem_singleton.1 hook]
      simp only [String.append_assoc, isIndented_indent]
    · cases hook
  · split at flags
    · rw [List.mem_singleton.1 flags]
      simp only [String.append_assoc, isIndented_indent]
    · cases flags

theorem reads_extensionLines {later : List (String × List Construct)} {lines : List String}
    (behind : Reads lines (sectioned later)) :
    Reads (extensionLines image.name image.extensions ++ lines)
      (sectioned (extensionParts image ++ later)) := by
  unfold extensionLines extensionParts
  cases image.extensions.isEmpty with
  | true => exact behind
  | false =>
      have indented : ∀ line ∈ image.extensions.flatMap extensionMembers, IsIndented line := by
        intro line inside
        obtain ⟨extension, _, own⟩ := List.mem_flatMap.1 inside
        exact isIndented_extensionMembers extension line own
      have closed : closes (closeBrace ++ " " ++ image.name ++ "Exts_t;") = true := by
        simp only [String.append_assoc, closes_closeBrace_append]
      have members := reads_braces (opens_append_openBrace "typedef struct ") indented closed
      have stored := reads_line (isPlain_semicolon.append ("static " ++ image.name ++ "Exts_t " ++
        image.name ++ "Exts = " ++ openBrace ++ "0" ++ closeBrace))
      have whole := reads_part "IO extensions and flagsPDO (configurable by application)"
        (members.append (reads_blank.append stored)) behind
      simpa only [if_neg Bool.false_ne_true, List.append_assoc, List.cons_append, List.nil_append]
        using whole

/-- The part of the source that holds the descriptors, if there are any. -/
def objectParts : List (String × List Construct) :=
  if image.objects.isEmpty then []
  else
    [("All OD objects (const)",
      [.braces ("typedef struct " ++ openBrace) (image.objects.flatMap (objectMembers image))
          (closeBrace ++ " " ++ image.name ++ "Objs_t;"),
        .line "",
        .braces ("static const " ++ image.name ++ "Objs_t " ++ image.name ++ "Objs = " ++ openBrace)
          (joinBlocks (image.objects.flatMap (objectValues image))) (closeBrace ++ ";")])]

theorem declares_objects :
    Declares 1 (image.objects.flatMap (objectDeclarators image))
      (image.objects.flatMap (objectMembers image)) :=
  declares_flatMap image.objects (declares_objectMembers image)

theorem reads_objectLines {later : List (String × List Construct)} {lines : List String}
    (behind : Reads lines (sectioned later)) :
    Reads (objectLines image ++ lines) (sectioned (objectParts image ++ later)) := by
  unfold objectLines objectParts
  cases image.objects.isEmpty with
  | true => exact behind
  | false =>
      have declared := (declares_objects image).isIndented (Nat.le_refl 1)
      have designated := (designates_objectValues image).isIndented (Nat.le_refl 1)
      have closed : closes (closeBrace ++ " " ++ image.name ++ "Objs_t;") = true := by
        simp only [String.append_assoc, closes_closeBrace_append]
      have members := reads_braces (opens_append_openBrace "typedef struct ") declared closed
      have values := reads_braces (opens_append_openBrace ("static const " ++ image.name ++
        "Objs_t " ++ image.name ++ "Objs = ")) designated closes_semicolon
      have whole := reads_part "All OD objects (const)"
        (members.append (reads_blank.append values)) behind
      simpa only [if_neg Bool.false_ne_true, List.append_assoc, List.cons_append, List.nil_append]
        using whole

/-- The part of the source that holds the list. -/
def listItems : List Construct :=
  [.braces ("static const OD_entry_t " ++ image.name ++ "List[] = " ++ openBrace)
      (image.rows.map (rowLine image.name) ++
        [indent 1 ++ openBrace ++ "0x0000, 0x00, 0, NULL" ++ closeBrace])
      (closeBrace ++ ";"),
    .line "",
    .braces ("const OD_t " ++ image.name ++ " = " ++ openBrace)
      [indent 1 ++ "(sizeof(" ++ image.name ++ "List) / sizeof(" ++ image.name ++ "List[0])) - 1,",
        indent 1 ++ "&" ++ image.name ++ "List[0]"]
      (closeBrace ++ ";"),
    .line ""]

theorem reads_listLines :
    Reads (listLines image) (sectioned [("Object dictionary", listItems image)]) := by
  have rows : ∀ line ∈ image.rows.map (rowLine image.name) ++
      [indent 1 ++ openBrace ++ "0x0000, 0x00, 0, NULL" ++ closeBrace], IsIndented line := by
    intro line inside
    rcases List.mem_append.1 inside with row | last
    · obtain ⟨row, _, rfl⟩ := List.mem_map.1 row
      simp only [rowLine, String.append_assoc, isIndented_indent]
    · rw [List.mem_singleton.1 last]
      simp only [String.append_assoc, isIndented_indent]
  have handle : ∀ line ∈
      [indent 1 ++ "(sizeof(" ++ image.name ++ "List) / sizeof(" ++ image.name ++ "List[0])) - 1,",
        indent 1 ++ "&" ++ image.name ++ "List[0]"], IsIndented line := by
    intro line inside
    simp only [List.mem_cons, List.not_mem_nil, or_false, String.append_assoc] at inside
    rcases inside with rfl | rfl
    · exact isIndented_indent 0 _
    · exact isIndented_indent 0 _
  have list := reads_braces
    (opens_append_openBrace ("static const OD_entry_t " ++ image.name ++ "List[] = ")) rows
    closes_semicolon
  have object := reads_braces (opens_append_openBrace ("const OD_t " ++ image.name ++ " = ")) handle
    closes_semicolon
  have whole := reads_part "Object dictionary"
    (list.append (reads_blank.append (object.append reads_blank))) reads_noParts
  simpa only [listLines, listItems, List.append_assoc, List.cons_append, List.nil_append, List.append_nil]
    using whole

/-- The parts of the source. -/
def bodyParts : List (String × List Construct) :=
  ("OD data initialization of all groups", image.usedGroups.flatMap (groupValueItems image)) ::
    (extensionParts image ++ (objectParts image ++ [("Object dictionary", listItems image)]))

/-- What stands before the parts of the source. -/
def bodyFront : List Construct :=
  [.comment (bannerText version
      "DON'T EDIT THIS FILE MANUALLY, UNLESS YOU KNOW WHAT YOU ARE DOING !!!!"),
    .line "", .line "#define OD_DEFINITION", .line "#include \"301/CO_ODinterface.h\"",
    .line ("#include \"" ++ filename ++ ".h\"")]

/-- The source, part by part. -/
theorem constructs_bodyLines :
    constructs (bodyLines version filename image) =
      bodyFront version filename ++ sectioned (bodyParts image) := by
  have definition : IsPlain "#define OD_DEFINITION" := ⟨'N', rfl, by decide, by decide⟩
  have interface : IsPlain "#include \"301/CO_ODinterface.h\"" := ⟨'\"', rfl, by decide, by decide⟩
  have quote : IsPlain ".h\"" := ⟨'\"', rfl, by decide, by decide⟩
  have front := (reads_banner version
      "DON'T EDIT THIS FILE MANUALLY, UNLESS YOU KNOW WHAT YOU ARE DOING !!!!").append
    ((reads_line definition).append ((reads_line interface).append
      (reads_line (quote.append ("#include \"" ++ filename)))))
  have values := reads_flatMap image.usedGroups fun group _ => reads_groupValue image group
  have whole := front.append
    (reads_part "OD data initialization of all groups" values
      (reads_extensionLines image (reads_objectLines image (reads_listLines image))))
  have lines := whole.constructs_eq
  simp only [bodyLines, List.append_assoc] at lines ⊢
  exact lines

/-! ## Finding a part -/

theorem noComments_headerParts : NoComments (headerParts image) := by
  have lines {α : Type} (list : List α) (text : α → String) :
      (list.map fun item => Construct.line (text item)).all (!·.isComment) = true := by
    simp only [List.all_map, List.all_eq_true]
    exact fun _ _ => rfl
  intro item inside
  simp only [headerParts, List.mem_cons, List.not_mem_nil, or_false] at inside
  rcases inside with rfl | rfl | rfl | rfl
  · exact lines _ _
  · rw [declarationItems, List.all_append, List.all_append, lines, List.all_flatMap]
    simp [groupTypeItems]
  · exact lines _ _
  · rw [List.all_append, lines]
    rfl

theorem noComments_bodyParts : NoComments (bodyParts image) := by
  intro item inside
  rcases List.mem_cons.1 inside with rfl | inside
  · rw [List.all_flatMap]
    simp [groupValueItems]
  rcases List.mem_append.1 inside with inside | inside
  · unfold extensionParts at inside
    split at inside
    · cases inside
    · rw [List.mem_singleton.1 inside]
      rfl
  rcases List.mem_append.1 inside with inside | inside
  · unfold objectParts at inside
    split at inside
    · cases inside
    · rw [List.mem_singleton.1 inside]
      rfl
  · rw [List.mem_singleton.1 inside]
    rfl

/-- A part of the header stands under its heading. -/
theorem part_header (title : String) :
    part title (constructs (headerLines version image)) =
      (((headerParts image).filter (·.1 == title)).flatMap (·.2)).filter (· ≠ .line "") := by
  have fresh : heading title ∉ headerFront version image := by
    simp [heading, headerFront, bannerText]
  have distinct : ((headerParts image).map (·.1)).Nodup := by
    have titles : (headerParts image).map (·.1) =
        ["Counters of OD objects", "OD data declaration of all groups",
          "Object dictionary entries - shortcuts",
          "Object dictionary entries - shortcuts with names"] := rfl
    rw [titles]
    decide
  rw [constructs_headerLines, part_sectioned fresh distinct (noComments_headerParts image)]

/-- A part of the source stands under its heading. -/
theorem part_source (title : String) :
    part title (constructs (bodyLines version filename image)) =
      (((bodyParts image).filter (·.1 == title)).flatMap (·.2)).filter (· ≠ .line "") := by
  have fresh : heading title ∉ bodyFront version filename := by
    simp [heading, bodyFront, bannerText]
  have distinct : ((bodyParts image).map (·.1)).Nodup := by
    unfold bodyParts extensionParts objectParts
    cases image.extensions.isEmpty <;> cases image.objects.isEmpty <;> simp
  rw [constructs_bodyLines, part_sectioned fresh distinct (noComments_bodyParts image)]

/-! ## The parts of the source -/

/-- Which parts there are depends on whether there are extensions and objects. -/
theorem filter_bodyParts :
    (bodyParts image).filter (·.1 == "OD data initialization of all groups") =
        [("OD data initialization of all groups",
          image.usedGroups.flatMap (groupValueItems image))] ∧
      (bodyParts image).filter
          (·.1 == "IO extensions and flagsPDO (configurable by application)") =
        extensionParts image ∧
      (bodyParts image).filter (·.1 == "All OD objects (const)") = objectParts image ∧
      (bodyParts image).filter (·.1 == "Object dictionary") =
        [("Object dictionary", listItems image)] := by
  unfold bodyParts extensionParts objectParts
  cases image.extensions.isEmpty <;> cases image.objects.isEmpty <;> exact ⟨rfl, rfl, rfl, rfl⟩

theorem part_groupValues :
    part "OD data initialization of all groups" (constructs (bodyLines version filename image)) =
      (image.usedGroups.flatMap (groupValueItems image)).filter (· ≠ .line "") := by
  rw [part_source, (filter_bodyParts image).1, List.flatMap_singleton]

theorem part_extensions :
    part "IO extensions and flagsPDO (configurable by application)"
        (constructs (bodyLines version filename image)) =
      ((extensionParts image).flatMap (·.2)).filter (· ≠ .line "") := by
  rw [part_source, (filter_bodyParts image).2.1]

theorem part_objects :
    part "All OD objects (const)" (constructs (bodyLines version filename image)) =
      ((objectParts image).flatMap (·.2)).filter (· ≠ .line "") := by
  rw [part_source, (filter_bodyParts image).2.2.1]

theorem part_table :
    part "Object dictionary" (constructs (bodyLines version filename image)) =
      (listItems image).filter (· ≠ .line "") := by
  rw [part_source, (filter_bodyParts image).2.2.2, List.flatMap_singleton]

end Canopen.Source
