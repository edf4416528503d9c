import Canopen.Number.Numeral
import Canopen.Number.Shortest
import Canopen.Text.Blank
import Canopen.Text.Case
import Canopen.Yaml.Tag

/-!
# Values of scalars

A scalar gets its value by its tag: truth values go by words, numbers by their digits, and octets are
written in base sixty-four.
-/

namespace Canopen.Yaml

/-- Characters without the underscores that group digits. -/
def dropGaps (text : List Char) : List Char :=
  text.filter (· ≠ '_')

/-- A number in a base. -/
def intIn (base : Nat) (text : List Char) : Result Int :=
  match Number.numeral base text with
  | .ok value => .ok value
  | .error .malformed => .error (.scalar (.integer base (String.ofList text)))
  | .error (.tooLong digits) => .error (.scalar (.integerTooLong digits))

/-- Numbers between colons, most significant first, each worth sixty of the next. -/
def sixtieths {α : Type} (add : α → α → α) (scale : Nat → α → α) (zero : α) (parts : List α) : α :=
  (parts.reverse.foldl (fun (state : α × Nat) part =>
    (add state.1 (scale state.2 part), state.2 * 60)) (zero, 1)).1

/-- The parts of a text between colons. -/
def colonParts (text : List Char) : List (List Char) :=
  Text.pieces (· = ':') text

/-- A text without its sign, and whether the sign is a minus. -/
def splitSign : List Char → Bool × List Char
  | '-' :: rest => (true, rest)
  | '+' :: rest => (false, rest)
  | rest => (false, rest)

/-- A whole number: binary, octal, hexadecimal, in sixtieths or decimal. -/
def intValue (text : List Char) : Result Int :=
  let (negative, digits) := splitSign (dropGaps text)
  let apply (value : Int) : Int := if negative then -value else value
  match digits with
  | [] => .error (.scalar .emptyNumber)
  | ['0'] => .ok 0
  | '0' :: 'b' :: digits => (intIn 2 digits).map apply
  | '0' :: 'x' :: digits => (intIn 16 digits).map apply
  | '0' :: _ => (intIn 8 digits).map apply
  | digits =>
      if digits.contains ':' then
        ((colonParts digits).mapM (intIn 10)).map fun parts =>
          apply (sixtieths (· + ·) (fun scale part => part * scale) 0 parts)
      else (intIn 10 digits).map apply

def floatIn (text : List Char) : Result Number.Binary64 :=
  match Number.Binary64.ofText? text with
  | some value => .ok value
  | none => .error (.scalar (.float (String.ofList text)))

/-- The characters of a floating number without its sign, and whether the sign is a minus; capitals
do not matter. -/
def floatDigits (text : List Char) : Bool × List Char :=
  splitSign (Text.lower (String.ofList (dropGaps text))).toList

/-- The word for the number that is undefined. -/
def undefinedWord : List Char := ".nan".toList

/-- A number in sixtieths, unless the weight of its first part is beyond all floating numbers. -/
def floatOfSixtieths (parts : List Number.Binary64) : Result Number.Binary64 :=
  match Number.Binary64.ofInt (Nat.pow 60 (parts.length - 1)) with
  | .finite _ _ _ =>
      .ok (sixtieths Number.Binary64.add (fun scale part => part.multiply (.ofInt scale))
        (.zero false) parts)
  | _ => .error (.scalar .weightTooLarge)

/-- A floating number: infinite, undefined, in sixtieths or decimal. -/
def floatValue (text : List Char) : Result Number.Binary64 :=
  let (negative, digits) := floatDigits text
  let apply (value : Number.Binary64) : Number.Binary64 := if negative then value.negate else value
  if (dropGaps text).isEmpty then .error (.scalar .emptyNumber)
  else if digits = ".inf".toList then .ok (apply (.infinite false))
  else if digits = undefinedWord then .ok .undefined
  else if digits.contains ':' then do
    let parts ← (colonParts digits).mapM floatIn
    return apply (← floatOfSixtieths parts)
  else (floatIn digits).map apply

def boolValue (text : String) : Result Bool :=
  match Text.lower text with
  | "yes" | "true" | "on" => .ok true
  | "no" | "false" | "off" => .ok false
  | word => .error (.scalar (.truth word))

/-- Six digits of a fraction of a second. -/
def microseconds (fraction : List Char) : Nat :=
  natOfDigits ((fraction ++ List.replicate 6 '0').take 6)

def ofCalendar {α : Type} : Except CalendarError α → Result α
  | .ok value => .ok value
  | .error error => .error (.scalar (.calendar error))

/-- A date, or a date and a time of day. -/
def momentValue (text : List Char) : Result Value :=
  match momentForm? (dropFinalFeed text) with
  | none => .error (.scalar .notMoment)
  | some form => do
      let date := Date.of (natOfDigits form.year) (natOfDigits form.month) (natOfDigits form.day)
      match form.time with
      | none => return .date (← ofCalendar date)
      | some (hour, minute, second, fraction) =>
          let offset ← ofCalendar (form.offset.mapM Moment.checkOffset)
          let moment ← ofCalendar (date.bind fun date =>
            Moment.of date (natOfDigits hour) (natOfDigits minute) (natOfDigits second)
              (microseconds fraction) offset)
          return .moment moment

/-- The value of a digit of base sixty-four. -/
def sixBits? (c : Char) : Option Nat :=
  if 'A' ≤ c ∧ c ≤ 'Z' then some (c.toNat - 'A'.toNat)
  else if 'a' ≤ c ∧ c ≤ 'z' then some (c.toNat - 'a'.toNat + 26)
  else if '0' ≤ c ∧ c ≤ '9' then some (c.toNat - '0'.toNat + 52)
  else if c = '+' then some 62
  else if c = '/' then some 63
  else none

/-- Octets of groups of four digits; other characters are passed over, and padding ends the text. -/
def octetsFrom (group : List Nat) (padding : Nat) : List Char → Option (List UInt8)
  | [] => if group.isEmpty then some [] else none
  | c :: rest =>
      if c = '=' then
        match group with
        | [_, _] =>
            if 1 ≤ padding then some [] else octetsFrom group (padding + 1) rest
        | [_, _, _] => some []
        | _ => octetsFrom group padding rest
      else
        match sixBits? c, group with
        | none, _ => octetsFrom group padding rest
        | some d, [a] =>
            (octetsFrom [a, d] 0 rest).map (UInt8.ofNat (a * 4 + d / 16) :: ·)
        | some d, [a, b] =>
            (octetsFrom [a, b, d] 0 rest).map (UInt8.ofNat (b % 16 * 16 + d / 4) :: ·)
        | some d, [_, _, c] =>
            (octetsFrom [] 0 rest).map (UInt8.ofNat (c % 4 * 64 + d) :: ·)
        | some d, _ => octetsFrom [d] 0 rest

/-- Octets written in base sixty-four. -/
def binaryValue (text : List Char) : Result Value :=
  if text.all (·.toNat < 0x80) then
    match octetsFrom [] 0 text with
    | some octets => .ok (.bytes octets)
    | none => broken "failed to decode base64 data"
  else broken "failed to convert base64 data into ascii"

/-- The tag is one that scalars get their values by. -/
def isScalarTag : Tag → Bool
  | .null | .bool | .int | .float | .moment | .text | .halved _ | .binary => true
  | _ => false

/-- The value of a scalar. -/
def scalarValue (tag : Tag) (text : String) : Result Value :=
  match tag with
  | .null => .ok .null
  | .bool => (boolValue text).map .bool
  | .int => (intValue text.toList).map .int
  | .float => (floatValue text.toList).map .float
  | .moment => momentValue text.toList
  | .text => .ok (.text text)
  | .halved halves => .ok (.halved halves)
  | .binary => binaryValue text.toList
  | _ => broken "could not determine a constructor for the tag"

end Canopen.Yaml
