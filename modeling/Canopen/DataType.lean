/-!
# Data types

The static data types of a CANopen device, their names and the object dictionary indices that
define them.  A type name that is not one of these is kept as it is written.
-/

namespace Canopen

inductive DataType where
  | boolean
  | integer8
  | integer16
  | integer32
  | unsigned8
  | unsigned16
  | unsigned32
  | real32
  | visibleString
  | octetString
  | unicodeString
  | timeOfDay
  | timeDifference
  | domain
  | integer24
  | real64
  | integer40
  | integer48
  | integer56
  | integer64
  | unsigned24
  | unsigned40
  | unsigned48
  | unsigned56
  | unsigned64
deriving DecidableEq, Repr

namespace DataType

def all : List DataType :=
  [boolean, integer8, integer16, integer32, unsigned8, unsigned16, unsigned32, real32,
    visibleString, octetString, unicodeString, timeOfDay, timeDifference, domain, integer24,
    real64, integer40, integer48, integer56, integer64, unsigned24, unsigned40, unsigned48,
    unsigned56, unsigned64]

theorem mem_all (type : DataType) : type ∈ all := by
  cases type <;> decide

def name : DataType → String
  | boolean => "BOOLEAN"
  | integer8 => "INTEGER8"
  | integer16 => "INTEGER16"
  | integer32 => "INTEGER32"
  | unsigned8 => "UNSIGNED8"
  | unsigned16 => "UNSIGNED16"
  | unsigned32 => "UNSIGNED32"
  | real32 => "REAL32"
  | visibleString => "VISIBLE_STRING"
  | octetString => "OCTET_STRING"
  | unicodeString => "UNICODE_STRING"
  | timeOfDay => "TIME_OF_DAY"
  | timeDifference => "TIME_DIFFERENCE"
  | domain => "DOMAIN"
  | integer24 => "INTEGER24"
  | real64 => "REAL64"
  | integer40 => "INTEGER40"
  | integer48 => "INTEGER48"
  | integer56 => "INTEGER56"
  | integer64 => "INTEGER64"
  | unsigned24 => "UNSIGNED24"
  | unsigned40 => "UNSIGNED40"
  | unsigned48 => "UNSIGNED48"
  | unsigned56 => "UNSIGNED56"
  | unsigned64 => "UNSIGNED64"

/-- The index of the object that defines the type. -/
def code : DataType → Nat
  | boolean => 0x01
  | integer8 => 0x02
  | integer16 => 0x03
  | integer32 => 0x04
  | unsigned8 => 0x05
  | unsigned16 => 0x06
  | unsigned32 => 0x07
  | real32 => 0x08
  | visibleString => 0x09
  | octetString => 0x0A
  | unicodeString => 0x0B
  | timeOfDay => 0x0C
  | timeDifference => 0x0D
  | domain => 0x0F
  | integer24 => 0x10
  | real64 => 0x11
  | integer40 => 0x12
  | integer48 => 0x13
  | integer56 => 0x14
  | integer64 => 0x15
  | unsigned24 => 0x16
  | unsigned40 => 0x18
  | unsigned48 => 0x19
  | unsigned56 => 0x1A
  | unsigned64 => 0x1B

def ofName? (text : String) : Option DataType :=
  all.find? (·.name == text)

theorem ofName?_name (type : DataType) : ofName? type.name = some type := by
  cases type <;> decide

def ofCode? (code : Int) : Option DataType :=
  all.find? fun type => (type.code : Int) == code

theorem ofCode?_code (type : DataType) : ofCode? type.code = some type := by
  cases type <;> decide

/-- How the values of a type are laid out. -/
inductive Family where
  | boolean
  | signed (bytes : Nat)
  | unsigned (bytes : Nat)
  | real (bytes : Nat)
  /-- Whole numbers whose width no scalar type of the target has. -/
  | octetNumber (bytes : Nat) (signed : Bool)
  | visibleText
  | octets
  | unicodeText
  | domain
deriving DecidableEq, Repr

def family : DataType → Family
  | .boolean => .boolean
  | integer8 => .signed 1
  | integer16 => .signed 2
  | integer32 => .signed 4
  | integer64 => .signed 8
  | unsigned8 => .unsigned 1
  | unsigned16 => .unsigned 2
  | unsigned32 => .unsigned 4
  | unsigned64 => .unsigned 8
  | real32 => .real 4
  | real64 => .real 8
  | integer24 => .octetNumber 3 true
  | integer40 => .octetNumber 5 true
  | integer48 => .octetNumber 6 true
  | integer56 => .octetNumber 7 true
  | unsigned24 => .octetNumber 3 false
  | unsigned40 => .octetNumber 5 false
  | unsigned48 => .octetNumber 6 false
  | unsigned56 => .octetNumber 7 false
  | timeOfDay => .octetNumber 6 false
  | timeDifference => .octetNumber 6 false
  | visibleString => .visibleText
  | octetString => .octets
  | unicodeString => .unicodeText
  | .domain => .domain

/-- Values are text or a run of octets, so blanks belong to them. -/
def isString (type : DataType) : Bool :=
  match type.family with
  | .visibleText | .octets | .unicodeText => true
  | _ => false

end DataType

/-- The type that a document names, known or not. -/
inductive TypeName where
  | known (type : DataType)
  | unknown (text : String)
deriving DecidableEq, Repr

namespace TypeName

/-- A name is known only when it is spelled exactly. -/
def ofText (text : String) : TypeName :=
  match DataType.ofName? text with
  | some type => .known type
  | none => .unknown text

def text : TypeName → String
  | .known type => type.name
  | .unknown text => text

end TypeName

/-- The name shown for a type that may be missing. -/
def shownType : Option TypeName → String
  | some name => name.text
  | none => "None"

end Canopen
