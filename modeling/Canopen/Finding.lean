import Canopen.Number.Positional

/-!
# Findings

What the compiler reports about an object.  A report names the object by its index and then says
what was found.
-/

namespace Canopen

inductive Finding where
  | conversion (value type : String)
  | overflow (value type : String)
  | unknownType (type : String)
  | extensionMissing
  | arrayTooShort (count : Nat)
  | arrayOrder
  | arrayCountType (type : String)
  | arrayTypes
  | arrayValues
  | arrayAttributes
  | recordTooShort (count : Nat)
  | recordCountType (type : String)
deriving DecidableEq, Repr

namespace Finding

def text : Finding → String
  | conversion value type => "Error converting default value " ++ value ++ " to type " ++ type
  | overflow value type => "Overflow error in default value " ++ value ++ " of type " ++ type
  | unknownType type => "Unknown dataType: " ++ type
  | extensionMissing => "extIO must be enabled for this object!"
  | arrayTooShort count =>
      "ARRAY must have minimum two sub entries, not " ++ Number.decimal count ++ "!"
  | arrayOrder => "SubIndexes in ARRAY must be in sequence!"
  | arrayCountType type => "Data type in ARRAY in subIndex 0 must be UNSIGNED8, not " ++ type ++ "!"
  | arrayTypes => "Data type of elements in ARRAY must be equal!"
  | arrayValues =>
      "Default value must be defined on all ARRAY elements " ++
        "or must be undefined on all ARRAY elements!"
  | arrayAttributes => "Attributes of elements in ARRAY must be equal!"
  | recordTooShort count =>
      "RECORD must have minimum two sub entries, not " ++ Number.decimal count ++ "!"
  | recordCountType type =>
      "Data type in RECORD, first sub-entry, subIndex 0 must be UNSIGNED8, not " ++ type ++ "!"

/-- The report of a finding about the object with the given label. -/
def report (label : String) (finding : Finding) : String :=
  "Error in 0x" ++ label ++ ": " ++ finding.text

end Finding

end Canopen
