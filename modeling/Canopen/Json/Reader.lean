import Canopen.Json.Lexeme

/-!
# Reading JSON

Lexemes are put together into a value.  The open lists and mappings form a stack, and each lexeme is
consumed in one step.
-/

namespace Canopen.Json

/-- A list or mapping that is still open, its contents latest first. -/
inductive Frame where
  | list (items : List Value)
  | map (fields : List (Value × Value))
  /-- A mapping whose next value belongs to the key. -/
  | field (fields : List (Value × Value)) (key : Value)

/-- What may come next. -/
inductive Expected where
  | value
  | valueOrClose
  | key
  | keyOrClose
  | colon
  | commaOrClose
  | nothing
deriving DecidableEq

structure Reader where
  frames : List Frame := []
  expected : Expected := .value
  result : Option Value := none

namespace Reader

/-- A complete value goes into the innermost open collection. -/
def deliver (reader : Reader) (value : Value) : Option Reader :=
  match reader.frames with
  | [] => some { reader with expected := .nothing, result := some value }
  | .list items :: outer =>
      some { reader with frames := .list (value :: items) :: outer, expected := .commaOrClose }
  | .field fields key :: outer =>
      some { reader with frames := .map ((key, value) :: fields) :: outer, expected := .commaOrClose }
  | .map _ :: _ => none

def takesValue (expected : Expected) : Bool :=
  expected = .value || expected = .valueOrClose

def step (reader : Reader) : Lexeme → Option Reader
  | .openList =>
      if takesValue reader.expected then
        some { reader with frames := .list [] :: reader.frames, expected := .valueOrClose }
      else none
  | .openMap =>
      if takesValue reader.expected then
        some { reader with frames := .map [] :: reader.frames, expected := .keyOrClose }
      else none
  | .closeList =>
      match reader.frames with
      | .list items :: outer =>
          if reader.expected = .valueOrClose ∨ reader.expected = .commaOrClose then
            deliver { reader with frames := outer } (.list items.reverse)
          else none
      | _ => none
  | .closeMap =>
      match reader.frames with
      | .map fields :: outer =>
          if reader.expected = .keyOrClose ∨ reader.expected = .commaOrClose then
            deliver { reader with frames := outer } (.map (Value.ofFields fields.reverse))
          else none
      | _ => none
  | .comma =>
      if reader.expected = .commaOrClose then
        match reader.frames with
        | .list _ :: _ => some { reader with expected := .value }
        | .map _ :: _ => some { reader with expected := .key }
        | _ => none
      else none
  | .colon =>
      if reader.expected = .colon then some { reader with expected := .value } else none
  | .scalar value =>
      if takesValue reader.expected then reader.deliver value
      else if reader.expected = .key ∨ reader.expected = .keyOrClose then
        match reader.frames, value with
        | .map fields :: outer, .text _ =>
            some { reader with frames := .field fields value :: outer, expected := .colon }
        | _, _ => none
      else none

end Reader

/-- The value that a JSON text spells. -/
def read? (text : List Char) : Option Value := do
  let marks ← lexemes text
  let reader ← marks.foldlM Reader.step {}
  reader.result

end Canopen.Json
