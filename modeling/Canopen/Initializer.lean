import Canopen.Number.Positional

/-!
# Initializers

What a stored value is initialized with, before and after it is printed as C.
-/

namespace Canopen

/-- The C types that stored values have. -/
inductive CType where
  | bool
  | char
  | int8
  | int16
  | int32
  | int64
  | uint8
  | uint16
  | uint32
  | uint64
  | float32
  | float64
deriving DecidableEq, Repr

namespace CType

def name : CType → String
  | bool => "bool_t"
  | char => "char"
  | int8 => "int8_t"
  | int16 => "int16_t"
  | int32 => "int32_t"
  | int64 => "int64_t"
  | uint8 => "uint8_t"
  | uint16 => "uint16_t"
  | uint32 => "uint32_t"
  | uint64 => "uint64_t"
  | float32 => "float32_t"
  | float64 => "float64_t"

/-- The size of one value in bytes. -/
def size : CType → Nat
  | bool | char | int8 | uint8 => 1
  | int16 | uint16 => 2
  | int32 | uint32 | float32 => 4
  | int64 | uint64 | float64 => 8

end CType

/-- The value that a stored item starts with. -/
inductive Initializer where
  | truth (value : Bool)
  | signed (value : Int)
  | unsigned (digits : Nat) (value : Nat)
  /-- A floating constant, kept as it is written, and whether that has halves of characters. -/
  | real (text : List Char) (halved : Bool := false)
  | characters (codes : List Nat)
  | numbers (digits : Nat) (values : List Nat)
deriving DecidableEq, Repr

namespace Initializer

/-- A character with the given code as C writes it between apostrophes. -/
def escapedChar (code : Int) : String :=
  match code with
  | 0x00 => "\\0"
  | 0x07 => "\\a"
  | 0x08 => "\\b"
  | 0x09 => "\\t"
  | 0x0A => "\\n"
  | 0x0B => "\\v"
  | 0x0C => "\\f"
  | 0x0D => "\\r"
  | 0x22 => "\\\""
  | 0x27 => "\\'"
  | 0x5C => "\\\\"
  | code =>
      if code < 0x20 ∨ 0x7F ≤ code then "\\x" ++ Number.signedHex 2 code
      else (Char.ofNat code.toNat).toString

/-- A hexadecimal constant of a fixed width. -/
def hexConstant (digits value : Nat) : String :=
  "0x" ++ Number.paddedHex digits value

/-- Items between braces. -/
def braced (items : List String) : String :=
  "\x7b" ++ ", ".intercalate items ++ "\x7d"

/-- The initializer as C writes it. -/
def text : Initializer → String
  | truth true => "true"
  | truth false => "false"
  | signed value => Number.decimal value
  | unsigned digits value => hexConstant digits value
  | real written _ => String.ofList written
  | characters codes => braced (codes.map fun code => "'" ++ escapedChar (code : Nat) ++ "'")
  | numbers digits values => braced (values.map (hexConstant digits))

/-- The initializer has halves of characters. -/
def isHalved : Initializer → Bool
  | real _ halved => halved
  | _ => false

end Initializer

end Canopen
