import Canopen.Dictionary
import Canopen.Schema.Fault
import Canopen.Text.Case
import Canopen.Text.Utf8

/-!
# Fields of a document

Indices, types and classifications may be spelled in several ways; each reader here brings one kind
of field into its one form.
-/

namespace Canopen.Schema

/-- A text starts with the mark of a hexadecimal number. -/
def isHexadecimal : List Char → Bool
  | '0' :: mark :: _ => mark = 'x' || mark = 'X'
  | _ => false

/-- A whole number written as a text. -/
def integerOfText (text : String) : Except Fault Int :=
  let trimmed := Text.trimChars text.toList
  let hexadecimal := isHexadecimal trimmed
  match Number.numeral (if hexadecimal then 16 else 10) trimmed with
  | .ok value => .ok value
  | .error _ => .error (.badNumeral hexadecimal (String.ofList trimmed))

/-- A whole number, given as such or as a text. -/
def readInteger : Value → Except Fault Int
  | .bool value => .error (.truthNotInteger value)
  | .int value => .ok value
  | .text text => integerOfText text
  | .halved halves => integerOfText (Value.halvesShown halves)
  | value =>
      match value.shown? with
      | some shown => .error (.notInteger value.kindName shown)
      | none => .error .tooLongToWrite

/-- A whole number without sign that fits into so many bits. -/
def readUnsigned (bits : Nat) (value : Value) : Except Fault Nat := do
  let number ← readInteger value
  if 0 ≤ number ∧ number < Nat.pow 2 bits then .ok number.toNat
  else if Number.isTooLong number then .error .tooLongToWrite
  else .error (.outOfRange bits number)

/-- The text of a default value. -/
def readDefault : Value → Except Fault (Option Script)
  | .null => .ok none
  | .text text => .ok (some text)
  | .halved halves => .ok (some (.halved halves))
  | .bool true => .ok (some "true")
  | .bool false => .ok (some "false")
  | .int value =>
      if Number.isTooLong value then .error .tooLongToWrite
      else .ok (some (Number.decimal value))
  | .float value => .ok (some value.text)
  | value => .error (.notScalar value.kindName)

/-- Abbreviations and names of the shapes. -/
def shapeOfName? (text : String) : Option Shape :=
  match Text.capitals (Text.trim text) with
  | "VAR" => some .var
  | "ARRAY" => some .array
  | "ARR" => some .array
  | "RECORD" => some .record
  | "REC" => some .record
  | _ => none

/-- The shape with a given object code. -/
def shapeOfCode? : Int → Option Shape
  | 7 => some .var
  | 8 => some .array
  | 9 => some .record
  | _ => none

/-- The shape that a value names, by name, abbreviation or object code. -/
def readShape? : Value → Option Shape
  | .text text =>
      match shapeOfName? text with
      | some shape => some shape
      | none => (integerOfText text).toOption.bind shapeOfCode?
  | .int value => shapeOfCode? value
  | _ => none

/-- The data type that a text names, by name or code; any other text is kept without the blanks
around it. -/
def typeOfText (text : String) : TypeName :=
  let trimmed := Text.trim text
  match DataType.ofName? (Text.capitals trimmed) with
  | some type => .known type
  | none =>
      match (integerOfText trimmed).toOption.bind DataType.ofCode? with
      | some type => .known type
      | none => .unknown trimmed

/-- The data type that a value names; a value of any kind is taken by its text. -/
def readType : Value → Except Fault (Option TypeName)
  | .null => .ok none
  | .bool value => .ok (some (.unknown (Value.bool value).shown))
  | .int value =>
      match DataType.ofCode? value with
      | some type => .ok (some (.known type))
      | none => .ok (some (.unknown ("0x" ++ Number.signedHex 4 value)))
  | .halved halves => .ok (some (typeOfText halves.shown))
  | value =>
      match value.shown? with
      | some shown => .ok (some (typeOfText shown))
      | none => .error .tooLongToWrite

/-- A text without the blanks around it, in small letters. -/
def plainWord (text : String) : String :=
  Text.lower (Text.trim text)

/-- The text that octets spell. -/
def spelledText? (octets : List UInt8) : Option String :=
  (Text.decodeUtf8 octets).toOption

/-- The access that a value names; octets have to spell the name itself. -/
def readAccess? : Value → Option Access
  | .text text => Access.ofName? (plainWord text)
  | .bytes octets => (spelledText? octets).bind Access.ofName?
  | _ => none

/-- The mapping that a value names; truth values stand for optional mapping and for none, and octets
have to spell the name itself. -/
def readMapping? : Value → Option Mapping
  | .bool true => some .optional
  | .bool false => some .no
  | .text text => Mapping.all.find? fun mapping => Text.lower mapping.name == plainWord text
  | .bytes octets => (spelledText? octets).bind Mapping.ofName?
  | _ => none

end Canopen.Schema
