import Canopen.Source.Header

/-!
# The source file

The values of the storage groups, the hooks of the extensions, the descriptors of all objects and
the list that points to them.
-/

namespace Canopen.Source

/-- The initializer of a storage group. -/
def groupValue (dictionary : String) (group : StorageGroup) : List String :=
  (groupVariable dictionary group ++ " = " ++ openBrace) ::
    joinBlocks (initializations 1 group.fields) ++ [closeBrace ++ ";", ""]

/-- The members that an extension needs at run time. -/
def extensionMembers (extension : Extension) : List String :=
  (if extension.extIo then [indent 1 ++ "OD_extensionIO_t xio_" ++ extension.name ++ ";"] else []) ++
    (if extension.flagsPdo then
      [indent 1 ++ "OD_flagsPDO_t flp_" ++ extension.name ++ "[" ++
        Number.decimal extension.subCount ++ "];"]
    else [])

/-- The part of the file that holds the members of all extensions. -/
def extensionLines (dictionary : String) (extensions : List Extension) : List String :=
  if extensions.isEmpty then []
  else
    sectionLines "IO extensions and flagsPDO (configurable by application)" ++
      ["typedef struct " ++ openBrace] ++ extensions.flatMap extensionMembers ++
      [closeBrace ++ " " ++ dictionary ++ "Exts_t;", "",
        "static " ++ dictionary ++ "Exts_t " ++ dictionary ++ "Exts = " ++ openBrace ++ "0" ++
          closeBrace ++ ";"]

/-- An address, or none. -/
def pointer (dictionary : String) (reference : Option Reference) : String :=
  match reference with
  | some reference => reference.expression dictionary
  | none => "NULL"

/-- The declaration of a descriptor. -/
def descriptorMember : Descriptor → String
  | .var name _ _ _ => indent 1 ++ "OD_obj_var_t o_" ++ name ++ ";"
  | .array name _ _ _ _ _ _ => indent 1 ++ "OD_obj_array_t o_" ++ name ++ ";"
  | .record name parts =>
      indent 1 ++ "OD_obj_record_t o_" ++ name ++ "[" ++ Number.decimal parts.length ++ "];"

/-- The descriptor of a part of a record. -/
def recordPartLines (dictionary : String) (part : RecordPart) : List String :=
  [indent 2 ++ openBrace,
    indent 3 ++ ".data = " ++ pointer dictionary part.data ++ ",",
    indent 3 ++ ".subIndex = " ++ Number.decimal part.subindex ++ ",",
    indent 3 ++ ".attribute = " ++ Attribute.expression part.attributes ++ ",",
    indent 3 ++ ".dataLength = " ++ Number.decimal part.length,
    indent 2 ++ closeBrace]

/-- What stands between the braces of a descriptor. -/
def descriptorLines (dictionary : String) : Descriptor → List String
  | .var _ data attributes length =>
      [indent 2 ++ ".data = " ++ pointer dictionary data ++ ",",
        indent 2 ++ ".attribute = " ++ Attribute.expression attributes ++ ",",
        indent 2 ++ ".dataLength = " ++ Number.decimal length]
  | .array _ count data countAttributes attributes length elementType =>
      let size :=
        match elementType with
        | some type => if type.isEmpty then "0" else "sizeof(" ++ type ++ ")"
        | none => "0"
      [indent 2 ++ ".data0 = " ++ pointer dictionary count ++ ",",
        indent 2 ++ ".data = " ++ pointer dictionary data ++ ",",
        indent 2 ++ ".attribute0 = " ++ Attribute.expression countAttributes ++ ",",
        indent 2 ++ ".attribute = " ++ Attribute.expression attributes ++ ",",
        indent 2 ++ ".dataElementLength = " ++ Number.decimal length ++ ",",
        indent 2 ++ ".dataElementSizeof = " ++ size]
  | .record _ parts => joinBlocks (parts.map (recordPartLines dictionary))

/-- The initializer of a descriptor. -/
def descriptorValue (dictionary : String) (descriptor : Descriptor) : List String :=
  (indent 1 ++ ".o_" ++ descriptor.name ++ " = " ++ openBrace) ::
    descriptorLines dictionary descriptor ++ [indent 1 ++ closeBrace]

/-- The initializer of an extended descriptor. -/
def extensionValue (dictionary : String) (extension : Extension) : List String :=
  let hook :=
    if extension.extIo then "&" ++ dictionary ++ "Exts.xio_" ++ extension.name else "NULL"
  let flags :=
    if extension.flagsPdo then "&" ++ dictionary ++ "Exts.flp_" ++ extension.name ++ "[0]"
    else "NULL"
  [indent 1 ++ ".oE_" ++ extension.name ++ " = " ++ openBrace,
    indent 2 ++ ".extIO = " ++ hook ++ ",",
    indent 2 ++ ".flagsPDO = " ++ flags ++ ",",
    indent 2 ++ ".odObjectOriginal = &" ++ dictionary ++ "Objs.o_" ++ extension.name,
    indent 1 ++ closeBrace]

/-- The declarations of an object and of its extension. -/
def objectMembers (image : Image) (descriptor : Descriptor) : List String :=
  descriptorMember descriptor ::
    ((image.extension? descriptor.name).map fun _ =>
      indent 1 ++ "OD_obj_extended_t oE_" ++ descriptor.name ++ ";").toList

/-- The initializers of an object and of its extension. -/
def objectValues (image : Image) (descriptor : Descriptor) : List (List String) :=
  descriptorValue image.name descriptor ::
    ((image.extension? descriptor.name).map (extensionValue image.name)).toList

/-- The part of the file that holds the descriptors. -/
def objectLines (image : Image) : List String :=
  if image.objects.isEmpty then []
  else
    sectionLines "All OD objects (const)" ++ ["typedef struct " ++ openBrace] ++
      image.objects.flatMap (objectMembers image) ++
      [closeBrace ++ " " ++ image.name ++ "Objs_t;", "",
        "static const " ++ image.name ++ "Objs_t " ++ image.name ++ "Objs = " ++ openBrace] ++
      joinBlocks (image.objects.flatMap (objectValues image)) ++ [closeBrace ++ ";"]

/-- A row of the list. -/
def rowLine (dictionary : String) (row : Row) : String :=
  indent 1 ++ openBrace ++ "0x" ++ Number.paddedHex 4 row.index ++ ", 0x" ++
    Number.paddedHex 2 row.subCount ++ ", " ++ row.typeTag ++ ", &" ++ dictionary ++ "Objs." ++
    (if row.extended then "oE" else "o") ++ "_" ++ row.name ++ closeBrace ++ ","

/-- The part of the file that holds the list; its last row ends it. -/
def listLines (image : Image) : List String :=
  let name := image.name
  sectionLines "Object dictionary" ++
    ["static const OD_entry_t " ++ name ++ "List[] = " ++ openBrace] ++
    image.rows.map (rowLine name) ++
    [indent 1 ++ openBrace ++ "0x0000, 0x00, 0, NULL" ++ closeBrace,
      closeBrace ++ ";",
      "",
      "const OD_t " ++ name ++ " = " ++ openBrace,
      indent 1 ++ "(sizeof(" ++ name ++ "List) / sizeof(" ++ name ++ "List[0])) - 1,",
      indent 1 ++ "&" ++ name ++ "List[0]",
      closeBrace ++ ";",
      ""]

/-- The lines of the source file. -/
def bodyLines (version filename : String) (image : Image) : List String :=
  banner version "DON'T EDIT THIS FILE MANUALLY, UNLESS YOU KNOW WHAT YOU ARE DOING !!!!" ++
    ["#define OD_DEFINITION",
      "#include \"301/CO_ODinterface.h\"",
      "#include \"" ++ filename ++ ".h\""] ++
    sectionLines "OD data initialization of all groups" ++
    image.usedGroups.flatMap (groupValue image.name) ++
    extensionLines image.name image.extensions ++
    objectLines image ++
    listLines image

/-- The text of the source file. -/
def body (version filename : String) (image : Image) : String :=
  "\n".intercalate (bodyLines version filename image)

end Canopen.Source
