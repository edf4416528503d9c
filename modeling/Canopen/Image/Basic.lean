import Canopen.Image.Storage
import Canopen.Number.Positional

/-!
# Images

A compiled object dictionary grows piece by piece.  Groups keep the order of their first use, rows
and their shortcuts stay in step, and counters are kept in the order of their labels.
-/

namespace Canopen

structure Image where
  name : String := "OD"
  groups : List StorageGroup := []
  objects : List Descriptor := []
  extensions : List Extension := []
  rows : List Row := []
  shortcuts : List Shortcut := []
  longShortcuts : List Shortcut := []
  counters : List (Script × Nat) := []
  warnings : List String := []
deriving Repr

namespace Image

/-- The group of the given name. -/
def group? (image : Image) (name : String) : Option StorageGroup :=
  image.groups.find? (·.name == name)

/-- The groups with one more, unless its name is there. -/
def withGroup (name : String) (groups : List StorageGroup) : List StorageGroup :=
  if groups.any (·.name == name) then groups else groups ++ [{ name := name }]

/-- Members put at the end of the group of the given name. -/
def appendFields (name : String) (fields : List StorageField) (groups : List StorageGroup) :
    List StorageGroup :=
  groups.map fun group =>
    if group.name = name then { group with fields := group.fields ++ fields } else group

/-- Register a group. -/
def register (image : Image) (name : String) : Image :=
  { image with groups := withGroup name image.groups }

/-- Put members into a group. -/
def store (image : Image) (name : String) (fields : List StorageField) : Image :=
  { image with groups := appendFields name fields (withGroup name image.groups) }

/-- How many members a group has. -/
def fieldCount (image : Image) (name : String) : Nat :=
  ((image.group? name).map (·.fields.length)).getD 0

def addObject (image : Image) (object : Descriptor) : Image :=
  { image with objects := image.objects ++ [object] }

def addExtension (image : Image) (extension : Extension) : Image :=
  { image with extensions := image.extensions ++ [extension] }

/-- A row at the end of the list, with a shortcut by its index and one by its name. -/
def addRow (image : Image) (row : Row) : Image :=
  let position := image.rows.length
  { image with
    rows := image.rows ++ [row]
    shortcuts := image.shortcuts ++ [⟨"H" ++ Number.paddedHex 4 row.index, position⟩]
    longShortcuts := image.longShortcuts ++ [⟨"H" ++ row.name, position⟩] }

/-- One more under a label, in the order of the labels. -/
def increment (label : Script) : List (Script × Nat) → List (Script × Nat)
  | [] => [(label, 1)]
  | (first, total) :: rest =>
      if label = first then (first, total + 1) :: rest
      else if label < first then (label, 1) :: (first, total) :: rest
      else (first, total) :: increment label rest

/-- Count an object under a label; the empty label is not counted. -/
def count (image : Image) (label : Script) : Image :=
  if label.isEmpty then image else { image with counters := increment label image.counters }

def warn (image : Image) (messages : List String) : Image :=
  { image with warnings := image.warnings ++ messages }

/-- The first row with an index. -/
def row? (image : Image) (index : Nat) : Option Row :=
  image.rows.find? (·.index == index)

/-- The groups that have members. -/
def usedGroups (image : Image) : List StorageGroup :=
  image.groups.filter fun group => !group.fields.isEmpty

/-- There are labels with halves of characters. -/
def hasHalvedLabels (image : Image) : Bool :=
  image.counters.any (·.1.isHalved)

/-- There are stored values with halves of characters. -/
def hasHalvedValues (image : Image) : Bool :=
  image.usedGroups.any fun group => StorageField.areHalved group.fields

/-- The last extension of an object. -/
def extension? (image : Image) (name : String) : Option Extension :=
  image.extensions.reverse.find? (·.name == name)

end Image

end Canopen
