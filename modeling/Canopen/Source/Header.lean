import Canopen.Image.Basic
import Canopen.Source.Block

/-!
# The header file

Counters, the types and declarations of the storage groups, and the shortcuts to the rows of the
list.
-/

namespace Canopen.Source

/-- The version of the generator that is written into the files. -/
def currentVersion : String := "0.1.0"

def counterLine (dictionary : String) (counter : Script × Nat) : String :=
  "#define " ++ dictionary ++ "_CNT_" ++ counter.1.shown ++ " " ++ Number.decimal counter.2

/-- The type of a storage group. -/
def groupType (dictionary : String) (group : StorageGroup) : List String :=
  ("typedef struct " ++ openBrace) :: declarations 1 group.fields ++
    [closeBrace ++ " " ++ dictionary ++ "_" ++ group.name ++ "_t;", ""]

/-- The type and the name of the variable of a storage group. -/
def groupVariable (dictionary : String) (group : StorageGroup) : String :=
  dictionary ++ "_" ++ group.name ++ "_t " ++ dictionary ++ "_" ++ group.name

def shortcutLine (dictionary : String) (shortcut : Shortcut) : String :=
  "#define " ++ dictionary ++ "_ENTRY_" ++ shortcut.name ++ " &" ++ dictionary ++ ".list[" ++
    Number.decimal shortcut.position ++ "]"

/-- The lines of the header file. -/
def headerLines (version : String) (image : Image) : List String :=
  let name := image.name
  banner version "DON'T EDIT THIS FILE MANUALLY !!!!" ++
    ["#ifndef " ++ name ++ "_H", "#define " ++ name ++ "_H"] ++
    sectionLines "Counters of OD objects" ++
    image.counters.map (counterLine name) ++
    sectionLines "OD data declaration of all groups" ++
    image.usedGroups.flatMap (groupType name) ++
    (image.usedGroups.map fun group => "extern " ++ groupVariable name group ++ ";") ++
    ["extern const OD_t " ++ name ++ ";"] ++
    sectionLines "Object dictionary entries - shortcuts" ++
    image.shortcuts.map (shortcutLine name) ++
    sectionLines "Object dictionary entries - shortcuts with names" ++
    image.longShortcuts.map (shortcutLine name) ++
    ["", "#endif /* " ++ name ++ "_H */", ""]

/-- The text of the header file. -/
def header (version : String) (image : Image) : String :=
  "\n".intercalate (headerLines version image)

end Canopen.Source
