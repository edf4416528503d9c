import Canopen.Dictionary
import Canopen.Number.Positional
import Canopen.Value.Basic

/-!
# Writing an object dictionary

The document value of an object dictionary, with every field in its one form: indices in
hexadecimal, classifications by their names, and null for what is not set.
-/

namespace Canopen.Schema

def textOrNull : Option Script → Value
  | some text => .ofScript text
  | none => .null

/-- A field under a text key. -/
def fieldOf (name : String) (value : Value) : Value × Value :=
  (.text name, value)

def hexText (digits : Nat) (n : Nat) : Value :=
  .text ("0x" ++ Number.paddedHex digits n)

def typeValue (type : Option TypeName) : Value :=
  textOrNull (type.map fun name => .whole name.text)

def datumFields (datum : Datum) : List (Value × Value) :=
  [fieldOf "data_type" (typeValue datum.dataType),
    fieldOf "default" (textOrNull datum.default),
    fieldOf "access" (textOrNull (datum.access.map fun access => .whole access.name)),
    fieldOf "pdo_mapping" (.text datum.mapping.name)]

def writeSubEntry (sub : SubEntry) : Value :=
  .map (fieldOf "subindex" (hexText 2 sub.subindex.toNat) :: fieldOf "name" (.ofScript sub.name) ::
    datumFields sub.datum)

def contentFields : Content → List (Value × Value)
  | .var datum => datumFields datum
  | .array type subEntries =>
      [fieldOf "data_type" (typeValue type),
        fieldOf "sub_entries" (.list (subEntries.map writeSubEntry))]
  | .record subEntries => [fieldOf "sub_entries" (.list (subEntries.map writeSubEntry))]

def writeEntry (entry : Entry) : Value :=
  .map
    ([fieldOf "index" (hexText 4 entry.index.toNat),
      fieldOf "name" (.ofScript entry.name),
      fieldOf "disabled" (.bool entry.disabled),
      fieldOf "storage_location" (.text entry.storageLocation),
      fieldOf "ext_io" (.bool entry.extIo),
      fieldOf "count_label" (.ofScript entry.countLabel),
      fieldOf "object_type" (.text entry.content.shape.name)] ++ contentFields entry.content)

/-- The document value of an object dictionary. -/
def write (dictionary : Dictionary) : Value :=
  .map [fieldOf "name" (.text dictionary.name),
    fieldOf "objects" (.list (dictionary.objects.map writeEntry))]

end Canopen.Schema
