import Canopen.Number.Numeral
import Canopen.Text.Quoted

/-!
# Integer literals

Default values are written the way C writes integers: `0x` marks hexadecimal, a leading zero marks
octal, and anything else is decimal and may carry a sign.  Hexadecimal and octal literals are bit
patterns of the full width.
-/

namespace Canopen

inductive Base where
  | octal
  | decimal
  | hexadecimal
deriving DecidableEq, Repr

namespace Base

def radix : Base → Nat
  | octal => 8
  | decimal => 10
  | hexadecimal => 16

def ofRadix? : Int → Option Base
  | 8 => some octal
  | 10 => some decimal
  | 16 => some hexadecimal
  | _ => none

end Base

/-- Why a literal has no value of the wanted width. -/
inductive LiteralError where
  | malformed (base : Base) (text : List Char)
  | tooLong (digits : Nat)
  | outOfSigned (text : List Char) (bits : Nat)
  | outOfUnsigned (text : List Char) (bits : Nat)
deriving DecidableEq, Repr

/-- The words for a decimal number that is too long to be read. -/
def tooLongToRead (digits : Nat) : String :=
  "Exceeds the limit (" ++ Number.decimal Number.longestDecimal ++
    " digits) for integer string conversion: value has " ++ Number.decimal digits ++
    " digits; use sys.set_int_max_str_digits() to increase the limit"

namespace LiteralError

def message : LiteralError → String
  | malformed base text =>
      "Invalid base " ++ Number.decimal base.radix ++ " integer: " ++
        String.ofList (Text.quotedChars text)
  | tooLong digits => tooLongToRead digits
  | outOfSigned text bits =>
      "Value " ++ String.ofList text ++ " out of int" ++ Number.decimal bits ++ " range"
  | outOfUnsigned text bits =>
      "Value " ++ String.ofList text ++ " out of uint" ++ Number.decimal bits ++ " range"

end LiteralError

namespace Literal

/-- The value of an ASCII digit, letters of either case above nine. -/
def asciiDigit? (c : Char) : Option Nat :=
  if '0' ≤ c ∧ c ≤ '9' then some (c.toNat - '0'.toNat) else Text.letterDigit? c

/-- The value of an ASCII digit of the base. -/
def digit? (base : Base) (c : Char) : Option Nat :=
  match asciiDigit? c with
  | some value => if value < base.radix then some value else none
  | none => none

theorem digit?_lt {base : Base} {c : Char} {value : Nat} (digit : digit? base c = some value) :
    value < base.radix := by
  unfold digit? at digit
  split at digit
  · split at digit
    · next small =>
      cases digit
      exact small
    · cases digit
  · cases digit

/-- A suffix letter of a hexadecimal constant in C. -/
def isSuffixLetter (c : Char) : Bool :=
  c = 'U' || c = 'u' || c = 'L' || c = 'l'

/-- A literal starts as a hexadecimal constant does. -/
def looksHexadecimal : List Char → Bool
  | '0' :: mark :: c :: _ =>
      (mark = 'x' || mark = 'X') && ((digit? .hexadecimal c).isSome || isSuffixLetter c)
  | _ => false

/-- A literal starts as an octal constant does. -/
def looksOctal : List Char → Bool
  | '0' :: c :: _ => (digit? .octal c).isSome
  | _ => false

/-- The base of a literal; the suffix letters of a hexadecimal constant are dropped. -/
def detectBase (text : List Char) : List Char × Base :=
  if looksHexadecimal text then (text.filter (!isSuffixLetter ·), .hexadecimal)
  else if looksOctal text then (text, .octal)
  else (text, .decimal)

/-- The digits of a literal without sign or mark. -/
def magnitude (base : Base) (text digits : List Char) : Except LiteralError Nat :=
  match digits.mapM (digit? base) with
  | none => .error (.malformed base text)
  | some [] => .error (.malformed base text)
  | some values =>
      if base = .decimal ∧ Number.longestDecimal < values.length then
        .error (.tooLong values.length)
      else .ok (Number.ofDigitValues base.radix values)

/-- The value of a literal in its base. -/
def integer (base : Base) (text : List Char) : Except LiteralError Int :=
  match base, text with
  | .decimal, '-' :: digits => (magnitude base text digits).map fun n => -(n : Int)
  | .decimal, '+' :: digits => (magnitude base text digits).map Int.ofNat
  | .hexadecimal, '0' :: 'x' :: digits => (magnitude base text digits).map Int.ofNat
  | .hexadecimal, '0' :: 'X' :: digits => (magnitude base text digits).map Int.ofNat
  | _, digits => (magnitude base text digits).map Int.ofNat

/-- A signed number of the width: decimal literals carry their sign, the others are two's
complement patterns. -/
def signed (base : Base) (bits : Nat) (text : List Char) : Except LiteralError Int := do
  let number ← integer base text
  if base = .decimal then
    if -(Nat.pow 2 (bits - 1) : Int) ≤ number ∧ number < Nat.pow 2 (bits - 1) then .ok number
    else .error (.outOfSigned text bits)
  else if number ≥ Nat.pow 2 bits then .error (.outOfSigned text bits)
  else if number ≥ Nat.pow 2 (bits - 1) then .ok (number - Nat.pow 2 bits)
  else .ok number

/-- An unsigned number of the width. -/
def unsigned (base : Base) (bits : Nat) (text : List Char) : Except LiteralError Nat := do
  let number ← integer base text
  if 0 ≤ number ∧ number < Nat.pow 2 bits then .ok number.toNat
  else .error (.outOfUnsigned text bits)

end Literal

end Canopen
