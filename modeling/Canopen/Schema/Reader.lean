import Canopen.CName
import Canopen.Schema.Checked
import Canopen.Schema.Field
import Canopen.Text.Utf8

/-!
# Reading an object dictionary

A document value is checked field by field, in the order in which the fields are declared; after
them come the fields that are not known.  Equal indices are looked for when all else is right.
-/

namespace Canopen.Schema

/-- A text; octets are taken as the text that they spell. -/
def readScript : Value → Checked Script
  | .text text => .sound text
  | .halved halves => .sound (.halved halves)
  | .bytes octets =>
      match Text.decodeUtf8 octets with
      | .ok text => .sound text
      | .error _ => Checked.problem .notUnicode
  | _ => Checked.problem .notText

/-- A text of whole characters. -/
def readText (value : Value) : Checked String :=
  (readScript value).andThen fun
    | .whole text => .sound text
    | .halved _ => Checked.problem .notUnicode

/-- A text that is a C identifier. -/
def readIdentifier (value : Value) : Checked String :=
  (readText value).andThen fun text =>
    if CName.isIdentifier text.toList then .sound text else Checked.problem .notIdentifier

/-- The truth value that a word stands for. -/
def truthOfWord? (word : String) : Option Bool :=
  match String.ofList (word.toList.map Char.toLower) with
  | "1" | "t" | "true" | "y" | "yes" | "on" => some true
  | "0" | "f" | "false" | "n" | "no" | "off" => some false
  | _ => none

/-- The number has a sign and 63 bits. -/
def isWord (number : Int) : Bool :=
  -(Nat.pow 2 63 : Int) ≤ number && number < Nat.pow 2 63

/-- The truth value that a number stands for; a number too large for a word is no such thing. -/
def truthOfNumber (number : Int) : Checked Bool :=
  if number = 0 then .sound false
  else if number = 1 then .sound true
  else if isWord number then Checked.problem .unreadableTruth
  else Checked.problem .notTruth

/-- A truth value, given as such, by a word, or as one or zero. -/
def readTruth (value : Value) : Checked Bool :=
  match value with
  | .bool truth => .sound truth
  | .int number => truthOfNumber number
  | .float number =>
      match number.toInt? with
      | some whole => truthOfNumber whole
      | none => Checked.problem .notTruth
  | .text _ | .bytes _ =>
      match (readText value).toOption.bind truthOfWord? with
      | some truth => .sound truth
      | none => Checked.problem .unreadableTruth
  | .halved _ => Checked.problem .notUnicode
  | _ => Checked.problem .notTruth

/-- The access of a value; null leaves it open. -/
def readAccess (value : Value) : Checked (Option Access) :=
  match value with
  | .null => .sound none
  | .halved _ => Checked.problem .notUnicode
  | value =>
      match readAccess? value with
      | some access => .sound (some access)
      | none => Checked.problem .notAccess

/-- The mapping of a value. -/
def readMapping (value : Value) : Checked Mapping :=
  match value with
  | .halved _ => Checked.problem .notUnicode
  | value =>
      match readMapping? value with
      | some mapping => .sound mapping
      | none => Checked.problem .notMapping

def readIndex (value : Value) : Checked UInt16 :=
  Checked.ofFault ((readUnsigned 16 value).map UInt16.ofNat)

def readSubindex (value : Value) : Checked UInt8 :=
  Checked.ofFault ((readUnsigned 8 value).map UInt8.ofNat)

/-- The items of a list. -/
def items? (value : Value) : Option (List Value) :=
  match value.content with
  | .list items => some items
  | .set items => some items
  | .pair first second => some [first, second]
  | _ => none

/-- Checked items with their positions. -/
def readAt {α : Type} (read : Value → Checked α) (position : Nat) :
    List Value → List (Checked α)
  | [] => []
  | item :: rest => (read item).under (.position position) :: readAt read (position + 1) rest

/-- Every item of a list, checked. -/
def readItems {α : Type} (read : Value → Checked α) (value : Value) : Checked (List α) :=
  match items? value with
  | some items => Checked.all (readAt read 0 items)
  | none => Checked.problem .notList

/-- The fields of a mapping. -/
abbrev Fields := List (Value × Value)

/-- A field that may be left out. -/
def readField {α : Type} (fields : Fields) (name : String) (absent : Checked α)
    (read : Value → Checked α) : Checked α :=
  ((Value.field? name fields).elim absent read).under (.key name)

/-- The words for a key that is too long to be written. -/
def unprintableInteger : String := "<unprintable int object>"

/-- The step to a key that is not a text: a number of 64 bits is a position. -/
def stepOfKey (key : Value) : Step :=
  match key with
  | .bool true => .position 1
  | .bool false => .position 0
  | .int value =>
      if isWord value then .position value
      else if Number.isTooLong value then .key unprintableInteger
      else .key key.inspect
  | _ => .key key.inspect

/-- Issues of the keys that are none of the known ones. -/
def unknownKeys (known : List String) (fields : Fields) : List Issue :=
  fields.filterMap fun (key, _) =>
    match key with
    | .text name => if name ∈ known then none else some ⟨[.key name], .unknownField⟩
    | key => some ⟨[stepOfKey key], .keyNotText⟩

/-- A key with halves of characters stops the check of its fields. -/
def checkKeys {α : Type} (fields : Fields) (checked : Checked α) : Checked α :=
  if fields.any fun (key, _) => key matches .halved _ then Checked.problem .notUnicode else checked

/-- A field that must be there. -/
def required {α : Type} : Checked α :=
  Checked.problem .missing

def datumKeys : List String := ["data_type", "default", "access", "pdo_mapping"]

/-- The fields of a single value. -/
def readDatum (fields : Fields) : Checked Datum :=
  Checked.sound Datum.mk
    |>.apply (readField fields "data_type" (.sound none) fun value => Checked.ofFault (readType value))
    |>.apply (readField fields "default" (.sound none) fun value => Checked.ofFault (readDefault value))
    |>.apply (readField fields "access" (.sound none) readAccess)
    |>.apply (readField fields "pdo_mapping" (.sound .no) readMapping)

def subEntryKeys : List String := ["subindex", "name"] ++ datumKeys

def readSubEntry (value : Value) : Checked SubEntry :=
  match value.content with
  | .map fields =>
      Checked.sound SubEntry.mk
        |>.apply (readField fields "subindex" required readSubindex)
        |>.apply (readField fields "name" (.sound "") readScript)
        |>.apply (readDatum fields)
        |>.refuseIf (unknownKeys subEntryKeys fields)
        |> checkKeys fields
  | _ => Checked.problem (.notModel "SubEntry")

def entryKeys : List String :=
  ["index", "name", "disabled", "storage_location", "ext_io", "count_label", "object_type"]

/-- The keys that the fields of a shape have. -/
def contentKeys : Shape → List String
  | .var => datumKeys
  | .array => ["data_type", "sub_entries"]
  | .record => ["sub_entries"]

/-- The fields that only one shape has. -/
def readContent (fields : Fields) : Shape → Checked Content
  | .var => (Checked.sound Content.var).apply (readDatum fields)
  | .array =>
      Checked.sound Content.array
        |>.apply (readField fields "data_type" (.sound none) fun value => Checked.ofFault (readType value))
        |>.apply (readField fields "sub_entries" (.sound []) (readItems readSubEntry))
  | .record =>
      Checked.sound Content.record
        |>.apply (readField fields "sub_entries" (.sound []) (readItems readSubEntry))

/-- The fields of an object of a given shape. -/
def readFields (shape : Shape) (fields : Fields) : Checked Entry :=
  Checked.sound Entry.mk
    |>.apply (readField fields "index" required readIndex)
    |>.apply (readField fields "name" (.sound "") readScript)
    |>.apply (readField fields "disabled" (.sound false) readTruth)
    |>.apply (readField fields "storage_location" (.sound "RAM") readIdentifier)
    |>.apply (readField fields "ext_io" (.sound false) readTruth)
    |>.apply (readField fields "count_label" (.sound "ALL") readScript)
    |>.apply (readContent fields shape)
    |>.refuseIf (unknownKeys (entryKeys ++ contentKeys shape) fields)
    |> checkKeys fields

/-- The shape that the fields of an object select; an object without one is a single value. -/
def selectShape (fields : Fields) : Checked Shape :=
  match Value.field? "object_type" fields with
  | none => .sound .var
  | some value =>
      match readShape? value, value with
      | some shape, _ => .sound shape
      | none, .null => Checked.problem .shapeMissing
      | none, value => Checked.problem (.unknownShape value.shown)

def readEntry (value : Value) : Checked Entry :=
  match value.content with
  | .map fields =>
      (selectShape fields).andThen fun shape => (readFields shape fields).under (.shape shape)
  | _ => Checked.problem .shapeMissing

/-- An object names no shape, but a number that is too long to be written. -/
def hasUnwritableShape (entry : Value) : Bool :=
  match entry.content with
  | .map fields =>
      (Value.field? "object_type" fields).any fun value =>
        (readShape? value).isNone && value.holdsTooLong
  | _ => false

/-- Some object stops the check, because its shape cannot even be named in an issue. -/
def isUnwritable (value : Value) : Bool :=
  match value.content with
  | .map fields =>
      ((Value.field? "objects" fields).bind items?).any fun items => items.any hasUnwritableShape
  | _ => false

/-- No index is given twice. -/
def checkIndices (dictionary : Dictionary) : Checked Dictionary :=
  match Dictionary.repeatedIndex? [] dictionary.objects with
  | some index => Checked.problem (.refused (.repeatedIndex index.toNat))
  | none => .sound dictionary

/-- The object dictionary that a document value describes. -/
def read (value : Value) : Checked Dictionary :=
  match value.content with
  | .map fields =>
      Checked.andThen
        (Checked.sound Dictionary.mk
          |>.apply (readField fields "name" (.sound "OD") readIdentifier)
          |>.apply (readField fields "objects" (.sound []) (readItems readEntry))
          |>.refuseIf (unknownKeys ["name", "objects"] fields)
          |> checkKeys fields)
        checkIndices
  | _ => Checked.problem (.notModel "ObjectDictionary")

end Canopen.Schema
