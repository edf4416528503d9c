import Canopen.Calendar
import Canopen.Number.Binary64
import Canopen.Script

/-!
# Document values

What a document is made of before it is checked against the schema.  A mapping keeps its keys in
the order in which they first appear, and a later value for the same key replaces the earlier one.
A collection that contains itself has a number by which it is known where it comes again.
-/

namespace Canopen

inductive Value where
  | null
  | bool (value : Bool)
  | int (value : Int)
  | float (value : Number.Binary64)
  | text (value : String)
  /-- A text with halves of characters. -/
  | halved (halves : Halves)
  | bytes (octets : List UInt8)
  | date (value : Date)
  | moment (value : Moment)
  | list (items : List Value)
  | set (items : List Value)
  | pair (first second : Value)
  | map (fields : List (Value × Value))
  /-- A list, set or mapping from which the collection of the same number can be reached. -/
  | named (number : Nat) (content : Value)
deriving Repr, Inhabited

namespace Value

/-- The value of a text. -/
def ofScript : Script → Value
  | Script.whole value => text value
  | Script.halved value => halved value

@[simp]
theorem ofScript_whole (value : String) : ofScript (.whole value) = text value :=
  rfl

@[simp]
theorem ofScript_halved (value : Halves) : ofScript (.halved value) = halved value :=
  rfl

/-- The value without its number. -/
def content : Value → Value
  | named _ content => content
  | value => value

/-- The number that a value counts as when it is compared with other numbers. -/
def asInt? : Value → Option Int
  | bool true => some 1
  | bool false => some 0
  | int value => some value
  | float value => value.toInt?
  | _ => none

/-- Two keys that a mapping cannot tell apart: equal scalars, where numbers and truth values are
compared as numbers. -/
def sameKey (left right : Value) : Bool :=
  match left.asInt?, right.asInt? with
  | some n, some m => n = m
  | some _, none => false
  | none, some _ => false
  | none, none =>
      match left, right with
      | null, null => true
      | float x, float y => x.same y
      | text a, text b => a = b
      | halved a, halved b => a = b
      | bytes a, bytes b => a = b
      | date a, date b => a = b
      | moment a, moment b => a.same b
      | _, _ => false

/-- The fields with one more; the value of a key that is already there is replaced in place. -/
def putField (key value : Value) : List (Value × Value) → List (Value × Value)
  | [] => [(key, value)]
  | (present, old) :: rest =>
      if key.sameKey present then (present, value) :: rest
      else (present, old) :: putField key value rest

/-- Fields in the order in which their keys first appear, each with its last value. -/
def ofFields (fields : List (Value × Value)) : List (Value × Value) :=
  fields.foldl (fun present field => putField field.1 field.2 present) []

/-- The value under a text key. -/
def field? (name : String) : List (Value × Value) → Option Value
  | [] => none
  | (text key, value) :: rest => if key = name then some value else field? name rest
  | _ :: rest => field? name rest

end Value

end Canopen
