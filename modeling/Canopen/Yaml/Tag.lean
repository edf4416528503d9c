import Canopen.Value.Basic
import Canopen.Yaml.Fault

/-!
# Tags

The tag of a node says what kind of value it has.  A plain scalar without a tag gets one by its
form, and any other scalar is text.
-/

namespace Canopen.Yaml

inductive Tag where
  | null
  | bool
  | int
  | float
  | moment
  | text
  /-- Text with halves of characters. -/
  | halved (halves : Halves)
  | binary
  | merge
  | default
  | sequence
  | mapping
  | set
  | orderedMap
  | pairs
  | other
deriving DecidableEq, Repr

namespace Tag

/-- What the tags of the standard start with. -/
def standard : String := "tag:yaml.org,2002:"

def names : List (String × Tag) :=
  [("null", null), ("bool", bool), ("int", int), ("float", float), ("timestamp", moment),
    ("str", text), ("binary", binary), ("merge", merge), ("value", default), ("seq", sequence),
    ("map", mapping), ("set", set), ("omap", orderedMap), ("pairs", pairs)]

def ofUri (uri : String) : Tag :=
  match names.find? fun entry => standard ++ entry.1 == uri with
  | some entry => entry.2
  | none => other

end Tag

/-! ## Forms of plain scalars -/

def dropSign : List Char → List Char
  | '+' :: rest => rest
  | '-' :: rest => rest
  | rest => rest

def isDigitOrGap (c : Char) : Bool :=
  c.isDigit || c = '_'

/-- A digit and then digits and underscores. -/
def startsWithDigit : List Char → Bool
  | c :: _ => c.isDigit
  | [] => false

/-- What follows one or more numbers below sixty, each after a colon. -/
def dropSixtieths : List Char → Option (List Char)
  | ':' :: tens :: ones :: rest =>
      if '0' ≤ tens ∧ tens ≤ '5' ∧ ones.isDigit then
        match rest with
        | ':' :: _ => dropSixtieths rest
        | _ => some rest
      else if tens.isDigit then
        match ones with
        | ':' => dropSixtieths (ones :: rest)
        | _ => some (ones :: rest)
      else none
  | [':', ones] => if ones.isDigit then some [] else none
  | _ => none

/-- Nothing, or a signed power of ten. -/
def isPowerOrEnd : List Char → Bool
  | [] => true
  | mark :: sign :: digits =>
      (mark = 'e' || mark = 'E') && (sign = '+' || sign = '-') && !digits.isEmpty &&
        digits.all Char.isDigit
  | _ => false

def isFloatForm (text : List Char) : Bool :=
  let body := dropSign text
  let behind := body.dropWhile isDigitOrGap
  (startsWithDigit body &&
    (match behind with
      | '.' :: fraction => isPowerOrEnd (fraction.dropWhile isDigitOrGap)
      | _ =>
          match dropSixtieths behind with
          | some ('.' :: fraction) => fraction.all isDigitOrGap
          | _ => false)) ||
    (match text with
      | '.' :: fraction =>
          startsWithDigit fraction && isPowerOrEnd (fraction.dropWhile isDigitOrGap)
      | _ => false) ||
    [".inf", ".Inf", ".INF"].contains (String.ofList body) ||
    [".nan", ".NaN", ".NAN"].contains (String.ofList text)

/-- One or more characters of a kind. -/
def isRunOf (kind : Char → Bool) (text : List Char) : Bool :=
  !text.isEmpty && text.all kind

def isIntForm (text : List Char) : Bool :=
  match dropSign text with
  | ['0'] => true
  | '0' :: 'b' :: digits => isRunOf (fun c => c = '0' || c = '1' || c = '_') digits
  | '0' :: 'x' :: digits => isRunOf (fun c => (Literal.digit? .hexadecimal c).isSome || c = '_') digits
  | '0' :: digits => isRunOf (fun c => (Literal.digit? .octal c).isSome || c = '_') digits
  | body =>
      startsWithDigit body &&
        (match body.dropWhile isDigitOrGap with
          | [] => true
          | behind => dropSixtieths behind == some [])

/-- The parts of a date with an optional time of day. -/
structure MomentForm where
  year : List Char
  month : List Char
  day : List Char
  time : Option (List Char × List Char × List Char × List Char)
  /-- The offset from universal time in minutes. -/
  offset : Option Int

/-- Digits, at least and at most so many. -/
def takeDigits (least most : Nat) (text : List Char) : Option (List Char × List Char) :=
  let digits := (text.take most).takeWhile Char.isDigit
  if digits.length < least then none else some (digits, text.drop digits.length)

def takeChar (c : Char) : List Char → Option (List Char)
  | first :: rest => if first = c then some rest else none
  | [] => none

def natOfDigits (digits : List Char) : Nat :=
  digits.foldl (fun total c => total * 10 + (c.toNat - '0'.toNat)) 0

/-- An offset from universal time at the end of a text, blanks before it allowed. -/
def momentOffset? (text : List Char) : Option (Option Int) :=
  match text.dropWhile (fun c => c = ' ' || c = '\t') with
  | [] => if text.isEmpty then some none else none
  | ['Z'] => some (some 0)
  | sign :: rest => do
      if sign ≠ '+' ∧ sign ≠ '-' then none
      else
        let (hours, rest) ← takeDigits 1 2 rest
        let minutes ←
          match rest with
          | [] => some []
          | rest => do
              let (minutes, rest) ← takeDigits 2 2 (← takeChar ':' rest)
              if rest.isEmpty then some minutes else none
        let total : Int := natOfDigits hours * 60 + natOfDigits minutes
        some (some (if sign = '-' then -total else total))

/-- The time of day behind a date. -/
def momentTime? (form : MomentForm) (text : List Char) : Option MomentForm := do
  let (hour, rest) ← takeDigits 1 2 text
  let (minute, rest) ← takeDigits 2 2 (← takeChar ':' rest)
  let (second, rest) ← takeDigits 2 2 (← takeChar ':' rest)
  let (fraction, rest) :=
    match rest with
    | '.' :: rest => (rest.takeWhile Char.isDigit, rest.dropWhile Char.isDigit)
    | rest => ([], rest)
  let offset ← momentOffset? rest
  return { form with time := some (hour, minute, second, fraction), offset }

/-- A date, alone or with a time of day. -/
def momentForm? (text : List Char) : Option MomentForm := do
  let (year, rest) ← takeDigits 4 4 text
  let (month, rest) ← takeDigits 1 2 (← takeChar '-' rest)
  let (day, rest) ← takeDigits 1 2 (← takeChar '-' rest)
  let form : MomentForm := ⟨year, month, day, none, none⟩
  match rest with
  | [] => return form
  | first :: later =>
      if first = 'T' ∨ first = 't' then momentTime? form later
      else if first = ' ' ∨ first = '\t' then
        momentTime? form (later.dropWhile fun c => c = ' ' || c = '\t')
      else none

/-- A scalar is read as a date alone only when month and day have two digits. -/
def isMomentForm (text : List Char) : Bool :=
  match momentForm? text with
  | none => false
  | some form => form.time.isSome || (form.month.length == 2 && form.day.length == 2)

def boolWords : List String :=
  ["yes", "Yes", "YES", "no", "No", "NO", "true", "True", "TRUE", "false", "False", "FALSE", "on",
    "On", "ON", "off", "Off", "OFF"]

def nullWords : List String := ["", "~", "null", "Null", "NULL"]

/-- A text without the line feed at its end; one line feed does not keep a text from its form. -/
def dropFinalFeed (text : List Char) : List Char :=
  if text.getLast? = some '\n' then text.dropLast else text

/-- Marks of the language, which are no values. -/
def reservedMarks : List String := ["!", "&", "*"]

/-- The tag of a plain scalar by its form. -/
def Tag.ofPlain (text : String) : Tag :=
  let form := dropFinalFeed text.toList
  let word := String.ofList form
  if text = "\n" then .text
  else if boolWords.contains word then .bool
  else if isFloatForm form then .float
  else if isIntForm form then .int
  else if word = "<<" then .merge
  else if nullWords.contains word then .null
  else if isMomentForm form then .moment
  else if word = "=" then .default
  else if reservedMarks.contains word then .other
  else .text

end Canopen.Yaml
