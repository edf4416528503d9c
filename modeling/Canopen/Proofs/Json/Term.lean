import Canopen.Json.Lexeme
import Canopen.Yaml.Scalar
import Canopen.Yaml.Tag

/-!
# JSON on one line

A JSON text on one line is a term, which keeps how everything is spelled: the parts of every number
and the way every character of a string is written.  Items are separated by a comma and a space, and a
colon and a space stand between a key and its value.
-/

namespace Canopen.Json

open Yaml (natOfDigits)

/-! ## Numbers -/

/-- A power of ten behind a number. -/
structure Power where
  /-- The letter in front is a capital. -/
  capital : Bool
  /-- The sign, a minus when true; it need not be written. -/
  sign : Option Bool
  digits : List Char
  filled : digits ≠ []
  decimal : ∀ c ∈ digits, c.isDigit = true

/-- A number, with a fraction unless that has no digits. -/
structure Numeral where
  negative : Bool
  whole : List Char
  fraction : List Char
  power : Option Power
  spelled : isWholeNumber whole = true
  decimal : ∀ c ∈ fraction, c.isDigit = true

namespace Power

def signText : Option Bool → List Char
  | none => []
  | some true => ['-']
  | some false => ['+']

def text (power : Power) : List Char :=
  (if power.capital then 'E' else 'e') :: signText power.sign ++ power.digits

def value (power : Power) : Int :=
  if power.sign = some true then -natOfDigits power.digits else natOfDigits power.digits

end Power

namespace Numeral

def fractionText : List Char → List Char
  | [] => []
  | digits => '.' :: digits

/-- What follows the digits in front of the point. -/
def behind (number : Numeral) : List Char :=
  fractionText number.fraction ++ (number.power.elim [] Power.text)

/-- The number without its sign. -/
def unsigned (number : Numeral) : List Char :=
  number.whole ++ number.behind

def text (number : Numeral) : List Char :=
  if number.negative then '-' :: number.unsigned else number.unsigned

/-- The number has neither a fraction nor a power of ten. -/
def IsInteger (number : Numeral) : Prop :=
  number.fraction = [] ∧ number.power = none

instance (number : Numeral) : Decidable number.IsInteger :=
  decidable_of_iff (number.fraction = [] ∧ number.power.isNone) (by simp [IsInteger])

def integer (number : Numeral) : Int :=
  if number.negative then -natOfDigits number.whole else natOfDigits number.whole

/-- The floating number nearest to what is spelled. -/
def float (number : Numeral) : Number.Binary64 :=
  .ofDecimal number.negative (natOfDigits (number.whole ++ number.fraction))
    (number.power.elim 0 Power.value - number.fraction.length)

def value (number : Numeral) : Value :=
  if number.IsInteger then .int number.integer else .float number.float

/-- The number is spelled as YAML spells numbers: as an integer that is not too long, or with a
fraction and with a sign in the power of ten. -/
inductive Portable (number : Numeral) : Prop where
  | integer (integer : number.IsInteger) (short : number.whole.length ≤ Number.longestDecimal)
  | fraction (fraction : number.fraction ≠ [])
      (signed : ∀ power, number.power = some power → power.sign ≠ none)

end Numeral

/-! ## Words -/

/-- A scalar that is no string. -/
inductive Word where
  | null
  | truth (value : Bool)
  | number (numeral : Numeral)

namespace Word

def text : Word → List Char
  | .null => "null".toList
  | .truth true => "true".toList
  | .truth false => "false".toList
  | .number numeral => numeral.text

def value : Word → Value
  | .null => .null
  | .truth value => .bool value
  | .number numeral => numeral.value

/-- YAML reads the same. -/
def Portable : Word → Prop
  | .number numeral => numeral.Portable
  | _ => True

end Word

/-! ## Strings -/

/-- A hexadecimal digit and its value. -/
structure HexDigit where
  char : Char
  value : Nat
  spelled : Literal.digit? .hexadecimal char = some value

/-- A character that may stand in a string as it is. -/
def standsRaw (c : Char) : Bool :=
  0x20 ≤ c.toNat && c ≠ '"' && c ≠ '\\'

/-- A character of a string, as it is written. -/
inductive Piece where
  | raw (c : Char) (stands : standsRaw c = true)
  /-- A letter behind a backslash, and the character that it stands for. -/
  | escape (letter c : Char) (stands : escaped? letter = some c)
  | code (a b c d : HexDigit)

namespace Piece

/-- The code that four digits spell. -/
def codeOf (a b c d : HexDigit) : Nat :=
  ((a.value * 16 + b.value) * 16 + c.value) * 16 + d.value

def text : Piece → List Char
  | raw c _ => [c]
  | escape letter _ _ => ['\\', letter]
  | code a b c d => ['\\', 'u', a.char, b.char, c.char, d.char]

/-- The character that is meant, unless the code is that of half a character. -/
def char : Piece → Char
  | raw c _ => c
  | escape _ c _ => c
  | code a b c d => Char.ofNat (codeOf a b c d)

/-- YAML reads the same: the character is one that a text may hold and that ends no line, and a code
is that of a whole character. -/
def Portable : Piece → Prop
  | raw c _ => Yaml.isAllowed c = true ∧ Yaml.isBreak c = false
  | escape _ _ _ => True
  | code a b c d => isHalf (codeOf a b c d) = false

end Piece

/-- The pieces of a string. -/
abbrev Pieces := List Piece

namespace Pieces

/-- The string between its quotes. -/
def quoted (pieces : Pieces) : List Char :=
  '"' :: pieces.flatMap Piece.text ++ ['"']

def string (pieces : Pieces) : String :=
  String.ofList (pieces.map Piece.char)

def Portable (pieces : Pieces) : Prop :=
  ∀ piece ∈ pieces, piece.Portable

end Pieces

/-! ## Terms -/

/-- A value as it is written. -/
inductive Term where
  | word (scalar : Word)
  | string (pieces : Pieces)
  | list (items : List Term)
  | map (fields : List (Pieces × Term))

namespace Term

mutual

def text : Term → List Char
  | .word scalar => scalar.text
  | .string pieces => pieces.quoted
  | .list [] => ['[', ']']
  | .list (item :: rest) => '[' :: (item.text ++ textBehindItem rest)
  | .map [] => ['\x7b', '\x7d']
  | .map ((key, value) :: rest) =>
      '\x7b' :: (key.quoted ++ ':' :: ' ' :: (value.text ++ textBehindField rest))

/-- What follows an item in front of the given ones. -/
def textBehindItem : List Term → List Char
  | [] => [']']
  | item :: rest => ',' :: ' ' :: (item.text ++ textBehindItem rest)

/-- What follows a field in front of the given ones. -/
def textBehindField : List (Pieces × Term) → List Char
  | [] => ['\x7d']
  | (key, value) :: rest =>
      ',' :: ' ' :: (key.quoted ++ ':' :: ' ' :: (value.text ++ textBehindField rest))

end

mutual

def value : Term → Value
  | .word scalar => scalar.value
  | .string pieces => .text pieces.string
  | .list items => .list (values items)
  | .map fields => .map (Value.ofFields (fieldValues fields))

def values : List Term → List Value
  | [] => []
  | item :: rest => item.value :: values rest

def fieldValues : List (Pieces × Term) → List (Value × Value)
  | [] => []
  | (key, value) :: rest => (.text key.string, value.value) :: fieldValues rest

end

/-- The longest written key that YAML reads. -/
def longestKey : Nat := 1024

/-- YAML reads the same, and collections stand inside each other up to so many levels. -/
inductive Portable : Nat → Term → Prop where
  | word {levels : Nat} {scalar : Word} (portable : scalar.Portable) :
      Portable levels (.word scalar)
  | string {levels : Nat} {pieces : Pieces} (portable : pieces.Portable) :
      Portable levels (.string pieces)
  | list {levels : Nat} {items : List Term} (portable : ∀ item ∈ items, Portable levels item) :
      Portable (levels + 1) (.list items)
  | map {levels : Nat} {fields : List (Pieces × Term)}
      (keys : ∀ field ∈ fields, field.1.Portable ∧ field.1.quoted.length ≤ longestKey)
      (values : ∀ field ∈ fields, Portable levels field.2) : Portable (levels + 1) (.map fields)

end Term

end Canopen.Json
