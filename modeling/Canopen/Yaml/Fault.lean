import Canopen.Calendar
import Canopen.Literal
import Canopen.Value.Display

/-!
# Faults of a YAML text

A text may break the rules of the language, or a scalar in it may have a form that promises a value
which does not exist.
-/

namespace Canopen.Yaml

/-- A node that has no value, or none that can be used where it stands; most often a scalar. -/
inductive ScalarFault where
  | calendar (error : CalendarError)
  | integer (base : Nat) (text : String)
  | integerTooLong (digits : Nat)
  | float (text : String)
  /-- The weight of a part in sixtieths is beyond all floating numbers. -/
  | weightTooLarge
  | truth (text : String)
  | emptyNumber
  | notMoment
  /-- A mapping stands where the text of a moment is looked at. -/
  | momentNotText
  | noSuchCharacter
  /-- The code of a character has more bits than a code may have. -/
  | codeTooLarge
  /-- The default value of a mapping leads back to the mapping. -/
  | endlessDefault
  /-- Collections are nested too deep. -/
  | tooDeep
  /-- A number is too long to be written where its text is needed. -/
  | unwritable
deriving DecidableEq, Repr

namespace ScalarFault

/-- How much of a text that is no whole number is shown, its quotes included. -/
def shownLength : Nat := 200

def message : ScalarFault → String
  | calendar error => error.message
  | integer base text =>
      "invalid literal for int() with base " ++ Number.decimal base ++ ": " ++
        String.ofList ((Text.quoted text).toList.take shownLength)
  | integerTooLong digits => tooLongToRead digits
  | float text => "could not convert string to float: " ++ Text.quoted text
  | weightTooLarge => "int too large to convert to float"
  | truth text => Text.quoted text
  | emptyNumber => "string index out of range"
  | notMoment => "'NoneType' object has no attribute 'groupdict'"
  | momentNotText => "expected string or bytes-like object, got 'list'"
  | noSuchCharacter => "chr() arg not in range(0x110000)"
  | codeTooLarge => "Python int too large to convert to C int"
  | endlessDefault => "maximum recursion depth exceeded"
  | tooDeep => "maximum recursion depth exceeded"
  | unwritable => Value.tooLongToWrite

end ScalarFault

/-- Why a text has no value. -/
inductive Fault where
  | malformed (reason : String)
  | scalar (fault : ScalarFault)
deriving DecidableEq, Repr

/-- A result, or why there is none. -/
abbrev Result (α : Type) := Except Fault α

/-- The rules of the language are broken. -/
def broken {α : Type} (reason : String) : Result α :=
  .error (.malformed reason)

end Canopen.Yaml
