import Canopen.Number.Positional
import Canopen.Text.Blank
import Canopen.Text.Digit

/-!
# Whole numbers as people write them

A sign, single underscores between digits and the digits of any script are allowed.  The base is
given by the reader, who may also allow the base's own mark (`0x`, `0o`, `0b`) in front.
-/

namespace Canopen.Number

/-- Why a text is not a whole number. -/
inductive NumeralFault where
  | malformed
  | tooLong (digits : Nat)
deriving DecidableEq, Repr

/-- The values of the digits, where single underscores may stand between them. -/
def digitValues (base : Nat) : List Char → Option (List Nat)
  | [] => none
  | [c] => (Text.digitIn? base c).map ([·])
  | c :: '_' :: rest => do
      let value ← Text.digitIn? base c
      let later ← digitValues base rest
      return value :: later
  | c :: rest => do
      let value ← Text.digitIn? base c
      let later ← digitValues base rest
      return value :: later

/-- The number whose digits are given, most significant first. -/
def ofDigitValues (base : Nat) (values : List Nat) : Nat :=
  values.foldl (fun total value => total * base + value) 0

/-- The letters that mark a base. -/
def baseMarks (base : Nat) : List Char :=
  match base with
  | 2 => ['b', 'B']
  | 8 => ['o', 'O']
  | 16 => ['x', 'X']
  | _ => []

/-- Drop a zero and the mark of the base, with one underscore after it. -/
def dropBaseMark (base : Nat) : List Char → List Char
  | nought :: mark :: rest =>
      if Text.decimalDigit? nought = some 0 ∧ mark ∈ baseMarks base then
        match rest with
        | '_' :: digits => digits
        | digits => digits
      else nought :: mark :: rest
  | digits => digits

/-- Bases whose digits are groups of bits. -/
def isBinaryBase (base : Nat) : Bool :=
  [2, 4, 8, 16, 32].contains base

/-- A digit of the base, or an underscore. -/
def isDigitOrUnderscore (base : Nat) (c : Char) : Bool :=
  c = '_' || (Text.digitIn? base c).isSome

/-- A number without sign.  Too many digits are refused before what follows them is looked at. -/
def unsignedNumeral (base : Nat) (text : List Char) : Except NumeralFault Nat :=
  let body := dropBaseMark base text
  let digits := body.takeWhile (isDigitOrUnderscore base)
  match digitValues base digits with
  | none => .error .malformed
  | some values =>
      if !isBinaryBase base && longestDecimal < values.length then .error (.tooLong values.length)
      else if digits.length < body.length then .error .malformed
      else .ok (ofDigitValues base values)

/-- A number with an optional sign, blanks around it allowed. -/
def numeral (base : Nat) (text : List Char) : Except NumeralFault Int :=
  match Text.trimBy Text.isNumberBlank text with
  | '-' :: digits => (unsignedNumeral base digits).map fun n => -(n : Int)
  | '+' :: digits => (unsignedNumeral base digits).map Int.ofNat
  | digits => (unsignedNumeral base digits).map Int.ofNat

end Canopen.Number
