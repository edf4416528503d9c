import Canopen.Access
import Canopen.DataType
import Canopen.Script

/-!
# Object dictionaries

The document of a device: its objects, each with an index, a place of storage and one of three
shapes.
-/

namespace Canopen

/-- The shape of an object. -/
inductive Shape where
  | var
  | array
  | record
deriving DecidableEq, Repr

namespace Shape

def all : List Shape := [var, array, record]

def name : Shape → String
  | var => "VAR"
  | array => "ARRAY"
  | record => "RECORD"

def ofName? (text : String) : Option Shape :=
  all.find? (·.name == text)

theorem ofName?_name (shape : Shape) : ofName? shape.name = some shape := by
  cases shape <;> decide

/-- The shape in the tag of a list row. -/
def tag : Shape → String
  | var => "VAR"
  | array => "ARR"
  | record => "REC"

end Shape

/-- A single value: its type, its default and who may reach it. -/
structure Datum where
  dataType : Option TypeName := none
  default : Option Script := none
  access : Option Access := none
  mapping : Mapping := .no
deriving DecidableEq, Repr

/-- One part of an array or record. -/
structure SubEntry where
  subindex : UInt8
  name : Script := ""
  datum : Datum := {}
deriving DecidableEq, Repr

/-- What an object holds. -/
inductive Content where
  | var (datum : Datum)
  /-- The type given here holds for every part but the first. -/
  | array (dataType : Option TypeName) (subEntries : List SubEntry)
  | record (subEntries : List SubEntry)
deriving DecidableEq, Repr

def Content.shape : Content → Shape
  | var _ => .var
  | array _ _ => .array
  | record _ => .record

def Content.subEntries : Content → List SubEntry
  | var _ => []
  | array _ subEntries => subEntries
  | record subEntries => subEntries

/-- An object of the dictionary. -/
structure Entry where
  index : UInt16
  name : Script := ""
  disabled : Bool := false
  storageLocation : String := "RAM"
  extIo : Bool := false
  countLabel : Script := "ALL"
  content : Content
deriving DecidableEq, Repr

structure Dictionary where
  name : String := "OD"
  objects : List Entry := []
deriving DecidableEq, Repr

namespace Dictionary

/-- An entry put before the first one whose index is not smaller. -/
def insertByIndex (entry : Entry) : List Entry → List Entry
  | [] => [entry]
  | first :: rest =>
      if entry.index ≤ first.index then entry :: first :: rest
      else first :: insertByIndex entry rest

/-- Entries in ascending order of their indices; equal indices keep their order. -/
def sortByIndex : List Entry → List Entry
  | [] => []
  | entry :: rest => insertByIndex entry (sortByIndex rest)

/-- The entries that take part in generation, in ascending order of their indices. -/
def enabled (dictionary : Dictionary) : List Entry :=
  sortByIndex (dictionary.objects.filter fun entry => !entry.disabled)

theorem insertByIndex_perm (entry : Entry) (entries : List Entry) :
    (insertByIndex entry entries).Perm (entry :: entries) := by
  induction entries with
  | nil => exact .refl _
  | cons first rest ih =>
      unfold insertByIndex
      split
      · exact .refl _
      · exact (ih.cons first).trans (.swap entry first rest)

theorem sortByIndex_perm (entries : List Entry) : (sortByIndex entries).Perm entries := by
  induction entries with
  | nil => exact .refl _
  | cons entry rest ih => exact (insertByIndex_perm entry _).trans (ih.cons entry)

/-- Exactly the entries that are not disabled take part. -/
theorem mem_enabled {dictionary : Dictionary} {entry : Entry} :
    entry ∈ dictionary.enabled ↔ entry ∈ dictionary.objects ∧ entry.disabled = false := by
  rw [enabled, (sortByIndex_perm _).mem_iff, List.mem_filter]
  simp

/-- The first index that an earlier entry has already. -/
def repeatedIndex? (seen : List UInt16) : List Entry → Option UInt16
  | [] => none
  | entry :: rest =>
      if entry.index ∈ seen then some entry.index
      else repeatedIndex? (entry.index :: seen) rest

end Dictionary

end Canopen
