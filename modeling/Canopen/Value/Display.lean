import Canopen.Number.Shortest
import Canopen.Text.Quoted
import Canopen.Value.Basic

/-!
# Values as text

The words that messages use for a value, and the name of its kind.
-/

namespace Canopen.Value

/-- The name of the kind of a value. -/
def kindName : Value → String
  | null => "NoneType"
  | bool _ => "bool"
  | int _ => "int"
  | float _ => "float"
  | text _ => "str"
  | halved _ => "str"
  | bytes _ => "bytes"
  | date _ => "date"
  | moment _ => "datetime"
  | list _ => "list"
  | set _ => "set"
  | pair _ _ => "tuple"
  | map _ => "dict"
  | named _ content => kindName content

/-- An octet as it stands in quotes. -/
def quotedOctet (quote : Char) (octet : UInt8) : List Char :=
  let c := Char.ofNat octet.toNat
  if c.toNat < 0x7F then Text.quotedChar quote c
  else '\\' :: 'x' :: Number.smallHexChars 2 c.toNat

/-- Octets in quotes. -/
def quotedOctets (octets : List UInt8) : String :=
  let quote := Text.quoteFor (octets.map fun octet => Char.ofNat octet.toNat)
  String.ofList ('b' :: quote :: octets.flatMap (quotedOctet quote) ++ [quote])

/-- What stands for a collection inside itself. -/
def ellipsis : Value → String
  | map _ => "\x7b...\x7d"
  | set _ => "set(...)"
  | _ => "[...]"

mutual

/-- A value inside the collections of the given numbers: texts are quoted. -/
def inspectIn (around : List Nat) : Value → String
  | null => "None"
  | bool true => "True"
  | bool false => "False"
  | int value => Number.decimal value
  | float value => value.text
  | text value => Text.quoted value
  | halved halves => Text.quotedHalves halves
  | bytes octets => quotedOctets octets
  | date value => value.inspect
  | moment value => value.inspect
  | list items => "[" ++ ", ".intercalate (inspectItems around items) ++ "]"
  | set [] => "set()"
  | set (item :: items) =>
      "\x7b" ++ ", ".intercalate (inspectIn around item :: inspectItems around items) ++ "\x7d"
  | pair first second => "(" ++ inspectIn around first ++ ", " ++ inspectIn around second ++ ")"
  | map fields => "\x7b" ++ ", ".intercalate (inspectFields around fields) ++ "\x7d"
  | named number content =>
      if around.contains number then ellipsis content else inspectIn (number :: around) content

def inspectItems (around : List Nat) : List Value → List String
  | [] => []
  | item :: items => inspectIn around item :: inspectItems around items

def inspectFields (around : List Nat) : List (Value × Value) → List String
  | [] => []
  | (key, value) :: fields =>
      (inspectIn around key ++ ": " ++ inspectIn around value) :: inspectFields around fields

end

/-- A value as it stands inside a collection: texts are quoted. -/
def inspect (value : Value) : String :=
  inspectIn [] value

/-- A text with halves of characters when it is written as octets: half a character takes three, none
of which spells anything. -/
def halvesShown (halves : Halves) : String :=
  String.ofList (halves.codes.flatMap fun code =>
    List.replicate (if isHalf code then 3 else 1) (Halves.shownChar code))

/-- A value on its own: a text is itself, a date is written by its numbers. -/
def shown : Value → String
  | text value => value
  | halved halves => halvesShown halves
  | date value => value.text
  | moment value => value.text
  | value => value.inspect

mutual

/-- Some number in a value inside the collections of the given numbers is too long to be written. -/
def holdsTooLongIn (around : List Nat) : Value → Bool
  | int value => Number.isTooLong value
  | list items => itemsHoldTooLong around items
  | set items => itemsHoldTooLong around items
  | pair first second => holdsTooLongIn around first || holdsTooLongIn around second
  | map fields => fieldsHoldTooLong around fields
  | named number content =>
      !around.contains number && holdsTooLongIn (number :: around) content
  | _ => false

def itemsHoldTooLong (around : List Nat) : List Value → Bool
  | [] => false
  | item :: items => holdsTooLongIn around item || itemsHoldTooLong around items

def fieldsHoldTooLong (around : List Nat) : List (Value × Value) → Bool
  | [] => false
  | (key, value) :: fields =>
      holdsTooLongIn around key || holdsTooLongIn around value || fieldsHoldTooLong around fields

end

/-- Some number in the value is too long to be written. -/
def holdsTooLong (value : Value) : Bool :=
  holdsTooLongIn [] value

/-- The words for a number that is too long to be written. -/
def tooLongToWrite : String :=
  "Exceeds the limit (" ++ Number.decimal Number.longestDecimal ++
    " digits) for integer string conversion; use sys.set_int_max_str_digits() to increase the limit"

/-- The value as text, unless a number in it is too long to be written. -/
def shown? (value : Value) : Option String :=
  if value.holdsTooLong then none else some value.shown

end Canopen.Value
