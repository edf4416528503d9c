import Canopen.Text.Digit
import Canopen.Value.Basic
import Canopen.Yaml.Fault
import Canopen.Yaml.Place
import Canopen.Yaml.Token

/-!
# Scalars in a YAML text

Plain and quoted scalars may go over several lines: a single line end between two lines becomes a
space, and empty lines are kept as line ends.
-/

namespace Canopen.Yaml

/-- What lies between two stretches of a scalar, latest first. -/
inductive Gap where
  | none
  | blanks (read : List Char)
  /-- Line ends; the first one is absent when it has been escaped. -/
  | lines (first : Option Char) (more : List Char)

namespace Gap

/-- What the gap contributes to the scalar. -/
def text : Gap → List Char
  | none => []
  | blanks read => read.reverse
  | lines (some '\n') [] => [' ']
  | lines (some '\n') more => more.reverse
  | lines (some first) more => first :: more.reverse
  | lines Option.none more => more.reverse

/-- One blank more; blanks at the start of a line do not count. -/
def addBlank (c : Char) : Gap → Gap
  | none => blanks [c]
  | blanks read => blanks (c :: read)
  | lines first more => lines first more

/-- One line end more; the blanks before the first one do not count. -/
def addBreak (c : Char) : Gap → Gap
  | lines first more => lines first (c :: more)
  | _ => lines (some c) []

def isNone : Gap → Bool
  | none => true
  | _ => false

def isLines : Gap → Bool
  | lines _ _ => true
  | _ => false

end Gap

/-- The characters read so far and the text of a gap, latest first. -/
def pushGap (gap : Gap) (read : List Char) : List Char :=
  gap.text.reverse ++ read

/-- The two separators stand for themselves, any other line end for a line feed. -/
def breakText (c : Char) : Char :=
  if c = '\u2028' ∨ c = '\u2029' then c else '\n'

/-- The carriage return of a line end that has a line feed as well. -/
def isFirstOfTwo (c : Char) (rest : List Place) : Bool :=
  c = '\r' && peek rest = '\n'

/-- What is left behind spaces, a comment and a line end, with nothing else on the line. -/
def dropRestOfLine (rest : List Place) : Result (List Place) :=
  let rest := dropSpaces rest
  let rest := if peek rest = '#' then rest.dropWhile (!isBreakOrEnd ·.char) else rest
  if isBreakOrEnd (peek rest) then
    match takeBreak? rest with
    | some (_, rest) => .ok rest
    | none => .ok rest
  else broken "expected a comment or a line break"

inductive Quote where
  | single
  | double
deriving DecidableEq

/-- Where the reader of a quoted scalar stands. -/
inductive QuotedMode where
  | text (gap : Gap)
  | escape
  /-- Within a code: digits to come and the value so far. -/
  | code (digits value : Nat)

/-- The character that a letter stands for after a backslash. -/
def escaped? : Char → Option Char
  | '0' => some '\x00'
  | 'a' => some '\x07'
  | 'b' => some '\x08'
  | 't' => some '\x09'
  | '\t' => some '\x09'
  | 'n' => some '\x0a'
  | 'v' => some '\x0b'
  | 'f' => some '\x0c'
  | 'r' => some '\x0d'
  | 'e' => some '\x1b'
  | ' ' => some ' '
  | '"' => some '"'
  | '\\' => some '\\'
  | '/' => some '/'
  | 'N' => some '\x85'
  | '_' => some '\xa0'
  | 'L' => some '\u2028'
  | 'P' => some '\u2029'
  | _ => none

/-- How many digits of a code follow a letter. -/
def codeDigits? : Char → Option Nat
  | 'x' => some 2
  | 'u' => some 4
  | 'U' => some 8
  | _ => none

/-- The value of an ASCII hexadecimal digit. -/
def hexDigit? (c : Char) : Option Nat :=
  Literal.digit? .hexadecimal c

/-- The character with a given code, as it is shown; codes have 31 bits, and most of them no
character. -/
def charOfCode (code : Nat) : Result Char :=
  if 0x80000000 ≤ code then .error (.scalar .codeTooLarge)
  else if 0x110000 ≤ code then .error (.scalar .noSuchCharacter)
  else .ok (Halves.shownChar code)

/-- What has been read of a quoted scalar: its characters, latest first, and the codes of the halves
among them, each with its position. -/
structure QuotedText where
  read : List Char := []
  halves : List (Nat × Nat) := []

namespace QuotedText

def push (text : QuotedText) (c : Char) : QuotedText :=
  { text with read := c :: text.read }

/-- The character of a code comes next. -/
def pushCode (text : QuotedText) (code : Nat) : Result QuotedText := do
  let c ← charOfCode code
  return {
    read := c :: text.read
    halves := if isHalf code then (text.read.length, code) :: text.halves else text.halves }

def pushGap (text : QuotedText) (gap : Gap) : QuotedText :=
  { text with read := Yaml.pushGap gap text.read }

/-- The codes of all characters. -/
def codes (text : QuotedText) : List Nat :=
  text.read.reverse.mapIdx fun position c => (text.halves.lookup position).getD c.toNat

/-- How the scalar is written. -/
def style (text : QuotedText) : Style :=
  if half : text.codes.any isHalf = true then .halved ⟨text.codes, half⟩ else .quoted

/-- The scalar that ends here. -/
def token (text : QuotedText) : Token :=
  .scalar text.style (String.ofList text.read.reverse)

end QuotedText

/-- A quoted scalar and what follows it. -/
def quotedFrom (quote : Quote) (text : QuotedText) :
    QuotedMode → List Place → Result (Token × List Place)
  | _, [] => broken "found unexpected end of stream"
  | .escape, place :: rest =>
      let c := place.char
      if isFirstOfTwo c rest then quotedFrom quote text .escape rest
      else if isBreak c then
        if atSeparator rest then broken "found unexpected document separator"
        else quotedFrom quote text (.text (.lines none [])) rest
      else
        match escaped? c, codeDigits? c with
        | some c, _ => quotedFrom quote (text.push c) (.text .none) rest
        | none, some digits => quotedFrom quote text (.code digits 0) rest
        | none, none => broken "found unknown escape character"
  | .code digits value, place :: rest =>
      match hexDigit? place.char with
      | none => broken "expected escape sequence of hexadecimal numbers"
      | some digit =>
          let value := value * 16 + digit
          if digits ≤ 1 then
            match text.pushCode value with
            | .ok text => quotedFrom quote text (.text .none) rest
            | .error fault => .error fault
          else quotedFrom quote text (.code (digits - 1) value) rest
  | .text gap, place :: rest =>
      let c := place.char
      if c = endChar then broken "found unexpected end of stream"
      else if c = ' ' ∨ c = '\t' then quotedFrom quote text (.text (gap.addBlank c)) rest
      else if isFirstOfTwo c rest then quotedFrom quote text (.text gap) rest
      else if isBreak c then
        if atSeparator rest then broken "found unexpected document separator"
        else quotedFrom quote text (.text (gap.addBreak (breakText c))) rest
      else
        let text := text.pushGap gap
        match quote, c, rest with
        | .single, '\'', next :: later =>
            if next.char = '\'' then quotedFrom quote (text.push '\'') (.text .none) later
            else .ok (text.token, next :: later)
        | .double, '"', rest => .ok (text.token, rest)
        | .double, '\\', rest => quotedFrom quote text .escape rest
        | _, c, rest => quotedFrom quote (text.push c) (.text .none) rest

/-- A quoted scalar from its opening quote on. -/
def quotedScalar (quote : Quote) (rest : List Place) : Result (Token × List Place) :=
  quotedFrom quote {} (.text .none) (rest.drop 1)

/-- A plain scalar that has been read. -/
structure PlainScalar where
  text : String
  /-- A line end has been passed behind the scalar. -/
  passedBreak : Bool
  rest : List Place

/-- Characters that end a plain scalar within brackets. -/
def isFlowMark (c : Char) : Bool :=
  c = ',' || c = '?' || c = '[' || c = ']' || c = '{' || c = '}'

/-- Characters that make a value mark of the colon before them. -/
def followsValueMark (inFlow : Bool) (c : Char) : Bool :=
  isBlankOrEnd c ||
    (inFlow && (c = ',' || c = '[' || c = ']' || c = '{' || c = '}'))

/-- A plain scalar ends before this character. -/
def endsPlain (inFlow : Bool) (indent : Int) (gap : Gap) (place : Place) (rest : List Place) :
    Bool :=
  place.char = endChar || place.char = '\t' ||
    (place.char = ':' && followsValueMark inFlow (peek rest)) ||
    (inFlow && isFlowMark place.char) ||
    (!gap.isNone && (place.char = '#' || (!inFlow && (place.column : Int) < indent)))

/-- A plain scalar; its further lines are indented at least so far. -/
def plainFrom (inFlow : Bool) (indent : Int) (read : List Char) (gap : Gap) :
    List Place → PlainScalar
  | [] => ⟨String.ofList read.reverse, gap.isLines, []⟩
  | place :: rest =>
      let c := place.char
      if c = ' ' then plainFrom inFlow indent read (gap.addBlank c) rest
      else if isFirstOfTwo c rest then plainFrom inFlow indent read gap rest
      else if isBreak c then
        if atSeparator rest then ⟨String.ofList read.reverse, true, rest⟩
        else plainFrom inFlow indent read (gap.addBreak (breakText c)) rest
      else if endsPlain inFlow indent gap place rest then
        ⟨String.ofList read.reverse, gap.isLines, place :: rest⟩
      else plainFrom inFlow indent (c :: pushGap gap read) .none rest

/-- A plain scalar. -/
def plainScalar (inFlow : Bool) (indent : Int) (rest : List Place) : PlainScalar :=
  plainFrom inFlow indent [] .none rest

end Canopen.Yaml
