import Canopen.Number.Numeral
import Canopen.Value.Display

/-!
# Faults of a single field

Why the value of a field is refused although its kind is right or is not looked at.
-/

namespace Canopen.Schema

inductive Fault where
  | truthNotInteger (value : Bool)
  | notInteger (kind shown : String)
  | badNumeral (hexadecimal : Bool) (text : String)
  | outOfRange (bits : Nat) (value : Int)
  | notScalar (kind : String)
  | tooLongToWrite
  | repeatedIndex (index : Nat)
deriving DecidableEq, Repr

namespace Fault

def message : Fault → String
  | truthNotInteger value => "Cannot parse boolean as integer: " ++ (Value.bool value).shown
  | notInteger kind shown => "Cannot parse " ++ kind ++ " as integer: " ++ shown
  | badNumeral true text => "Invalid hex string: " ++ text
  | badNumeral false text => "Invalid integer string: " ++ text
  | outOfRange bits value =>
      "Value " ++ Number.decimal value ++ " out of uint" ++ Number.decimal bits ++ " range (0-" ++
        Number.decimal (Nat.pow 2 bits - 1) ++ ")"
  | notScalar kind => "Default value must be a scalar, got " ++ kind
  | tooLongToWrite => Value.tooLongToWrite
  | repeatedIndex index => "Duplicate object index 0x" ++ Number.paddedHex 4 index

end Fault

end Canopen.Schema
