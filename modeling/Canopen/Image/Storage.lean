import Canopen.Access
import Canopen.Dictionary

/-!
# Storage and descriptors

The pieces of a compiled object dictionary: members of the storage groups, descriptors of the
objects that point into them, and the rows of the list.
-/

namespace Canopen

/-- The address of a stored value: a member of a storage group. -/
structure Reference where
  group : String
  member : String
deriving DecidableEq, Repr

/-- The address as an expression. -/
def Reference.expression (reference : Reference) (dictionary : String) : String :=
  "&" ++ dictionary ++ "_" ++ reference.group ++ "." ++ reference.member

/-- A member of a storage group; one with members of its own is a structure. -/
structure StorageField where
  cType : String
  name : String
  array : String := ""
  initializer : String := ""
  /-- The initializer has halves of characters, each shown by a character in its place. -/
  halved : Bool := false
  members : List StorageField := []
deriving Repr, Inhabited

mutual

/-- Something that is stored is initialized with halves of characters. -/
def StorageField.isHalved : StorageField → Bool
  | ⟨_, _, _, _, halved, []⟩ => halved
  | ⟨_, _, _, _, _, member :: members⟩ => member.isHalved || areHalved members

def StorageField.areHalved : List StorageField → Bool
  | [] => false
  | field :: rest => field.isHalved || areHalved rest

end

/-- The members that are stored in one place. -/
structure StorageGroup where
  name : String
  fields : List StorageField := []
deriving Repr

/-- The descriptor of one part of a record. -/
structure RecordPart where
  data : Option Reference
  subindex : Nat
  attributes : List Attribute
  length : Nat
deriving DecidableEq, Repr

/-- The descriptor of an object. -/
inductive Descriptor where
  | var (name : String) (data : Option Reference) (attributes : List Attribute) (length : Nat)
  | array (name : String) (count data : Option Reference)
      (countAttributes attributes : List Attribute) (length : Nat) (elementType : Option String)
  | record (name : String) (parts : List RecordPart)
deriving DecidableEq, Repr

namespace Descriptor

def name : Descriptor → String
  | var name _ _ _ => name
  | array name _ _ _ _ _ _ => name
  | record name _ => name

def shape : Descriptor → Shape
  | var _ _ _ _ => .var
  | array _ _ _ _ _ _ _ => .array
  | record _ _ => .record

end Descriptor

/-- The descriptor of an object that is reached through an extension. -/
structure Extension where
  name : String
  group : String
  extIo : Bool
  flagsPdo : Bool := false
  subCount : Nat := 1
deriving DecidableEq, Repr

/-- A row of the list. -/
structure Row where
  index : Nat
  subCount : Nat
  shape : Shape
  extended : Bool
  name : String
deriving DecidableEq, Repr

/-- The type of a row, with a mark for extended objects. -/
def Row.typeTag (row : Row) : String :=
  "ODT_" ++ (if row.extended then "E" else "") ++ row.shape.tag

/-- A name for a position in the list. -/
structure Shortcut where
  name : String
  position : Nat
deriving DecidableEq, Repr

end Canopen
