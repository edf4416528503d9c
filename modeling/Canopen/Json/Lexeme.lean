import Canopen.Number.Shortest
import Canopen.Text.Digit
import Canopen.Value.Basic

/-!
# Lexemes of JSON

The text is read one character at a time; a word is a run of characters that is neither blank, nor
punctuation, nor part of a string.
-/

namespace Canopen.Json

inductive Lexeme where
  | openList
  | closeList
  | openMap
  | closeMap
  | comma
  | colon
  | scalar (value : Value)
deriving Repr

/-- A string under way: its characters, latest first, and the first half of a character that is
given by two codes. -/
structure Under where
  read : List Char := []
  half : Option Nat := none

/-- The characters read; half a character is none. -/
def Under.settled (under : Under) : List Char :=
  if under.half.isSome then '\uFFFD' :: under.read else under.read

def Under.push (under : Under) (c : Char) : Under :=
  { read := c :: under.settled }

/-- One more code: the second half completes the first. -/
def Under.pushCode (under : Under) (code : Nat) : Under :=
  match under.half with
  | some half =>
      if 0xDC00 ≤ code ∧ code < 0xE000 then
        { read := Char.ofNat (0x10000 + (half - 0xD800) * 0x400 + (code - 0xDC00)) :: under.read }
      else if 0xD800 ≤ code ∧ code < 0xDC00 then
        { read := under.settled, half := some code }
      else under.push (Char.ofNat code)
  | none =>
      if 0xD800 ≤ code ∧ code < 0xDC00 then { under with half := some code }
      else if 0xDC00 ≤ code ∧ code < 0xE000 then under.push '\uFFFD'
      else under.push (Char.ofNat code)

/-- Where the reader stands. -/
inductive Position where
  | between
  | word (read : List Char)
  | string (under : Under)
  | escape (under : Under)
  /-- Within a code: digits to come and the value so far. -/
  | code (under : Under) (digits value : Nat)

/-- The character that a letter stands for after a backslash. -/
def escaped? : Char → Option Char
  | '"' => some '"'
  | '\\' => some '\\'
  | '/' => some '/'
  | 'b' => some '\x08'
  | 'f' => some '\x0c'
  | 'n' => some '\n'
  | 'r' => some '\r'
  | 't' => some '\t'
  | _ => none

def punctuation? : Char → Option Lexeme
  | '[' => some .openList
  | ']' => some .closeList
  | '{' => some .openMap
  | '}' => some .closeMap
  | ',' => some .comma
  | ':' => some .colon
  | _ => none

def isSpace (c : Char) : Bool :=
  c = ' ' || c = '\t' || c = '\n' || c = '\r'

/-- Digits without a needless zero in front. -/
def isWholeNumber : List Char → Bool
  | ['0'] => true
  | '0' :: _ => false
  | digits => !digits.isEmpty && digits.all Char.isDigit

/-- The scalar that a word spells. -/
def scalar? (word : List Char) : Option Value :=
  if word = "null".toList then some .null
  else if word = "true".toList then some (.bool true)
  else if word = "false".toList then some (.bool false)
  else
    let (negative, digits) :=
      match word with
      | '-' :: digits => (true, digits)
      | digits => (false, digits)
    if isWholeNumber digits then
      let value := digits.foldl (fun total c => total * 10 + (c.toNat - '0'.toNat)) 0
      some (.int (if negative then -(value : Int) else value))
    else if isWholeNumber (digits.takeWhile Char.isDigit) then
      (Number.Binary64.ofText? word).map .float
    else none

/-- The lexemes of a text, from a position on. -/
def lexemesFrom : Position → List Char → Option (List Lexeme)
  | .between, [] => some []
  | .word read, [] => (scalar? read.reverse).map fun value => [.scalar value]
  | .string _, [] => none
  | .escape _, [] => none
  | .code _ _ _, [] => none
  | .between, c :: rest =>
      if isSpace c then lexemesFrom .between rest
      else if c = '"' then lexemesFrom (.string {}) rest
      else
        match punctuation? c with
        | some mark => (lexemesFrom .between rest).map (mark :: ·)
        | none => lexemesFrom (.word [c]) rest
  | .word read, c :: rest =>
      match punctuation? c with
      | some mark => do
          let value ← scalar? read.reverse
          let later ← lexemesFrom .between rest
          return .scalar value :: mark :: later
      | none =>
          if isSpace c then do
            let value ← scalar? read.reverse
            let later ← lexemesFrom .between rest
            return .scalar value :: later
          else lexemesFrom (.word (c :: read)) rest
  | .string under, c :: rest =>
      if c = '"' then
        (lexemesFrom .between rest).map fun later =>
          .scalar (.text (String.ofList under.settled.reverse)) :: later
      else if c = '\\' then lexemesFrom (.escape under) rest
      else if c.toNat < 0x20 then none
      else lexemesFrom (.string (under.push c)) rest
  | .escape under, c :: rest =>
      if c = 'u' then lexemesFrom (.code under 4 0) rest
      else
        match escaped? c with
        | some c => lexemesFrom (.string (under.push c)) rest
        | none => none
  | .code under digits value, c :: rest =>
      match Text.digitIn? 16 c with
      | none => none
      | some digit =>
          let value := value * 16 + digit
          if digits ≤ 1 then lexemesFrom (.string (under.pushCode value)) rest
          else lexemesFrom (.code under (digits - 1) value) rest

/-- The lexemes of a text. -/
def lexemes (text : List Char) : Option (List Lexeme) :=
  lexemesFrom .between text

end Canopen.Json
