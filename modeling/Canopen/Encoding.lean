import Canopen.DataType
import Canopen.Finding
import Canopen.Initializer
import Canopen.Literal
import Canopen.Script
import Canopen.Text.Case

/-!
# Encoding of default values

A data type, the text of a default value and the number of elements to reserve give the C type, the
length and the initializer of the stored value.  Encoding never fails: what cannot be converted is
reported and nothing is stored.
-/

namespace Canopen

/-- How a value is stored. -/
structure Encoding where
  cType : Option CType := none
  /-- Set when the value is stored in an array of so many elements. -/
  elements : Option Nat := none
  multibyte : Bool := false
  length : Nat := 0
  initializer : Option Initializer := none
deriving DecidableEq, Repr

namespace Encoding

def isDefined (encoding : Encoding) : Bool :=
  encoding.initializer.isSome

/-- What is stored has halves of characters. -/
def isHalved (encoding : Encoding) : Bool :=
  encoding.initializer.any Initializer.isHalved

/-- The array part of the declaration. -/
def arraySuffix (encoding : Encoding) : String :=
  match encoding.elements with
  | some count => "[" ++ Number.decimal count ++ "]"
  | none => ""

/-- What follows the name to address the first element. -/
def firstSuffix (encoding : Encoding) : String :=
  if encoding.elements.isSome then "[0]" else ""

end Encoding

namespace Default

/-- The text holds the placeholder for the number of the node. -/
def holdsNodeId : List Char → Bool
  | '$' :: 'N' :: 'O' :: 'D' :: 'E' :: 'I' :: 'D' :: _ => true
  | [] => false
  | _ :: rest => holdsNodeId rest

/-- The text without the placeholder for the number of the node. -/
def dropNodeId : List Char → List Char
  | '$' :: 'N' :: 'O' :: 'D' :: 'E' :: 'I' :: 'D' :: rest => dropNodeId rest
  | [] => []
  | c :: rest => c :: dropNodeId rest

/-- A number relative to the number of the node is its offset, zero when there is none. -/
def offset (text : List Char) : List Char :=
  if holdsNodeId text then
    match Text.trimChars ((dropNodeId text).filter (· ≠ '+')) with
    | [] => ['0']
    | rest => rest
  else text

/-- The written value and its base, `none` when nothing is defined. -/
structure Written where
  text : List Char
  base : Base
  /-- There are halves of characters in the text, which nothing drops. -/
  halved : Bool := false
deriving DecidableEq, Repr

/-- What is defined by a default text; blanks belong to the value of a string type only. -/
def written (isString : Bool) (default : Option Script) : Option Written :=
  match (default.getD "").shown.toList with
  | [] => none
  | text =>
      if isString then some ⟨text, .decimal, (default.getD "").isHalved⟩
      else
        match Text.trimChars text with
        | [] => none
        | trimmed =>
            let (digits, base) := Literal.detectBase (offset trimmed)
            some ⟨digits, base, (default.getD "").isHalved⟩

/-- The text shown when the value cannot be converted. -/
def shown (isString : Bool) (default : Option Script) : List Char :=
  match written isString default with
  | some value => value.text
  | none => []

end Default

namespace Encoding

/-- The C type of a signed number of so many bytes. -/
def signedType : Nat → CType
  | 1 => .int8
  | 2 => .int16
  | 4 => .int32
  | _ => .int64

/-- The C type of an unsigned number of so many bytes. -/
def unsignedType : Nat → CType
  | 1 => .uint8
  | 2 => .uint16
  | 4 => .uint32
  | _ => .uint64

/-- The C type of a floating number of so many bytes. -/
def realType : Nat → CType
  | 4 => .float32
  | _ => .float64

/-- A stored number of so many bytes. -/
def scalar (type : CType) (bytes : Nat) (value : Initializer) : Encoding :=
  { cType := some type, multibyte := 1 < bytes, length := bytes, initializer := some value }

/-- A number of so many bytes that is not stored. -/
def emptyScalar (bytes : Nat) : Encoding :=
  { multibyte := 1 < bytes, length := bytes }

/-- A number of so many bytes whose value could not be converted. -/
def failedScalar (type : CType) (bytes : Nat) : Encoding :=
  { cType := some type, multibyte := 1 < bytes, length := bytes }

/-- A stored array. -/
def array (type : CType) (count : Nat) (value : Initializer) : Encoding :=
  { cType := some type, elements := some count, length := count * type.size,
    initializer := some value }

/-- Zeros behind the values, up to the reserved number of elements. -/
def reserve (elements : Int) (values : List Nat) : List Nat :=
  values ++ List.replicate (elements - values.length).toNat 0

/-- The code of a character in ASCII, a question mark for any other character. -/
def asciiCode (c : Char) : Nat :=
  if c.toNat < 0x80 then c.toNat else '?'.toNat

/-- The units of a character in UTF-16. -/
def utf16Units (c : Char) : List Nat :=
  if c.toNat < 0x10000 then [c.toNat]
  else [0xD800 + (c.toNat - 0x10000) / 0x400, 0xDC00 + (c.toNat - 0x10000) % 0x400]

/-- The bytes of a number, least significant first. -/
def littleEndian : Nat → Nat → List Nat
  | 0, _ => []
  | bytes + 1, n => n % 0x100 :: littleEndian bytes (n / 0x100)

/-- Why a value is not stored. -/
inductive Failure where
  | conversion
  | overflow
deriving DecidableEq, Repr

/-- A literal that has no value of its type. -/
def converted {α : Type} : Except LiteralError α → Except Failure α
  | .ok value => .ok value
  | .error _ => .error .conversion

/-- The octets named by a text. -/
def octetValues (text : List Char) : Except Failure (List Nat) :=
  (Text.words text).mapM fun word =>
    let (digits, base) := Literal.detectBase word
    converted (Literal.unsigned base 8 digits)

/-- A number stored as single octets; it is read with the widest range and then has to fit. -/
def octetNumber (bytes : Nat) (signed : Bool) (value : Default.Written) :
    Except Failure Encoding := do
  let number ←
    if signed then converted (Literal.signed value.base 64 value.text)
    else converted ((Literal.unsigned value.base 64 value.text).map Int.ofNat)
  if number < 0 ∨ Nat.pow 2 (bytes * 8) ≤ number then .error .overflow
  else .ok (array .uint8 bytes (.numbers 2 (littleEndian bytes number.toNat)))

/-- The stored form of a value of a known type. -/
def ofFamily (elements : Int) (value : Option Default.Written) :
    DataType.Family → Except Failure Encoding
  | .boolean =>
      match value with
      | none => .ok (emptyScalar 1)
      | some value =>
          let isFalse := Text.lower (String.ofList value.text) = "false" ∨ value.text = ['0']
          .ok (scalar .bool 1 (.truth (!isFalse)))
  | .signed bytes =>
      match value with
      | none => .ok (emptyScalar bytes)
      | some value => do
          let number ← converted (Literal.signed value.base (bytes * 8) value.text)
          .ok (scalar (signedType bytes) bytes (.signed number))
  | .unsigned bytes =>
      match value with
      | none => .ok (emptyScalar bytes)
      | some value => do
          let number ← converted (Literal.unsigned value.base (bytes * 8) value.text)
          .ok (scalar (unsignedType bytes) bytes (.unsigned (bytes * 2) number))
  | .real bytes =>
      match value with
      | none => .ok (emptyScalar bytes)
      | some value => .ok (scalar (realType bytes) bytes (.real value.text value.halved))
  | .octetNumber bytes signed =>
      match value with
      | none => .ok { length := bytes }
      | some value => octetNumber bytes signed value
  | .domain => .ok {}
  | .visibleText =>
      match value with
      | none =>
          if elements ≤ 0 then .ok {}
          else
            let codes := reserve elements []
            .ok (array .char codes.length (.characters codes))
      | some value =>
          let codes := reserve elements (value.text.map asciiCode)
          .ok (array .char codes.length (.characters codes))
  | .octets =>
      match Text.trimChars (value.elim [] (·.text)) with
      | [] =>
          if elements ≤ 0 then .ok {}
          else
            let octets := reserve elements []
            .ok (array .uint8 octets.length (.numbers 2 octets))
      | text => do
          let octets := reserve elements (← octetValues text)
          .ok (array .uint8 octets.length (.numbers 2 octets))
  | .unicodeText =>
      match value with
      | none =>
          if elements ≤ 0 then .ok {}
          else
            let units := reserve elements []
            .ok (array .uint16 units.length (.numbers 4 units))
      | some value =>
          if value.halved then .error .conversion
          else
            let units := reserve elements (value.text.flatMap utf16Units)
            .ok (array .uint16 units.length (.numbers 4 units))

/-- What remains of a value that could not be converted: its type is known, its value is not. -/
def failed : DataType.Family → Encoding
  | .signed bytes => failedScalar (signedType bytes) bytes
  | .unsigned bytes => failedScalar (unsignedType bytes) bytes
  | .octetNumber bytes _ => { length := bytes }
  | _ => {}

/-- The stored form of a default value and what was found wrong with it. -/
def ofDefault (type : Option TypeName) (default : Option Script) (elements : Int) :
    Encoding × Option Finding :=
  match type with
  | some (.known known) =>
      let shown := String.ofList (Default.shown known.isString default)
      match ofFamily elements (Default.written known.isString default) known.family with
      | .ok encoding => (encoding, none)
      | .error .conversion => (failed known.family, some (.conversion shown known.name))
      | .error .overflow => (failed known.family, some (.overflow shown known.name))
  | unknown => ({}, some (.unknownType (shownType unknown)))

end Encoding

end Canopen
