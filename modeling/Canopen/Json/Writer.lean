import Canopen.Number.Shortest
import Canopen.Value.Display

/-!
# Writing JSON

Values as JSON on a single line.  Kinds of values that JSON lacks are written as texts.
-/

namespace Canopen.Json

/-- A character inside a JSON string. -/
def escapedChar (c : Char) : List Char :=
  if c = '"' then ['\\', '"']
  else if c = '\\' then ['\\', '\\']
  else if c.toNat < 0x20 then '\\' :: 'u' :: Number.smallHexChars 4 c.toNat
  else [c]

/-- A JSON string. -/
def string (text : String) : String :=
  String.ofList ('"' :: text.toList.flatMap escapedChar ++ ['"'])

/-- A JSON string with halves of characters, which are written by their codes. -/
def halvedString (halves : Halves) : String :=
  String.ofList ('"' :: halves.codes.flatMap (fun code =>
    if isHalf code then '\\' :: 'u' :: Number.smallHexChars 4 code
    else escapedChar (Char.ofNat code)) ++ ['"'])

mutual

/-- A value as JSON. -/
def write : Value → String
  | .null => "null"
  | .bool true => "true"
  | .bool false => "false"
  | .int value => Number.decimal value
  | .float value => value.text
  | .text value => string value
  | .halved halves => halvedString halves
  | .list items => "[" ++ ", ".intercalate (writeItems items) ++ "]"
  | .map fields => "\x7b" ++ ", ".intercalate (writeFields fields) ++ "\x7d"
  | value => string value.shown

def writeItems : List Value → List String
  | [] => []
  | item :: items => write item :: writeItems items

def writeFields : List (Value × Value) → List String
  | [] => []
  | (key, value) :: fields => (string key.shown ++ ": " ++ write value) :: writeFields fields

end

end Canopen.Json
