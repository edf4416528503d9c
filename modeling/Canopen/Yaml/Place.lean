/-!
# Places in a text

Every character of a text goes with its place: how many characters stand before it, its line and its
column.  A null character, which no text may hold, stands for the end.
-/

namespace Canopen.Yaml

structure Place where
  char : Char
  index : Nat
  line : Nat
  column : Nat
deriving DecidableEq, Repr

/-- The character that stands for the end. -/
def endChar : Char := '\x00'

/-- A character that a text may hold: controls other than tab and line ends are ruled out. -/
def isAllowed (c : Char) : Bool :=
  let code := c.toNat
  code == 0x09 || code == 0x0A || code == 0x0D || (0x20 ≤ code && code ≤ 0x7E) || code == 0x85 ||
    (0xA0 ≤ code && code ≤ 0xD7FF) || (0xE000 ≤ code && code ≤ 0xFFFD) || 0x10000 ≤ code

/-- A line end; a carriage return and a line feed are one line end together. -/
def isBreak (c : Char) : Bool :=
  c = '\n' || c = '\r' || c = '\x85' || c = '\u2028' || c = '\u2029'

def isBreakOrEnd (c : Char) : Bool :=
  c = endChar || isBreak c

def isSpaceOrEnd (c : Char) : Bool :=
  c = ' ' || isBreakOrEnd c

def isBlankOrEnd (c : Char) : Bool :=
  c = '\t' || isSpaceOrEnd c

/-- The mark that may stand at the start of a text; it takes no column. -/
def byteOrderMark : Char := '\uFEFF'

/-- The characters of a text with their places, from a given place on. -/
def placesFrom (index line column : Nat) : List Char → List Place
  | [] => [⟨endChar, index, line, column⟩]
  | c :: rest =>
      let place : Place := ⟨c, index, line, column⟩
      if isBreak c && !(c = '\r' && rest.head? = some '\n') then
        place :: placesFrom (index + 1) (line + 1) 0 rest
      else if c = byteOrderMark then place :: placesFrom (index + 1) line column rest
      else place :: placesFrom (index + 1) line (column + 1) rest

/-- The characters of a text with their places. -/
def places (text : List Char) : List Place :=
  placesFrom 0 0 0 text

theorem map_char_placesFrom (index line column : Nat) (text : List Char) :
    (placesFrom index line column text).map Place.char = text ++ [endChar] := by
  induction text generalizing index line column with
  | nil => rfl
  | cons c rest ih =>
      unfold placesFrom
      dsimp only
      split
      · simp [ih]
      · split <;> simp [ih]

/-- The character so many places ahead. -/
def peekAt (ahead : Nat) (rest : List Place) : Char :=
  match rest[ahead]? with
  | some place => place.char
  | none => endChar

/-- The next character. -/
def peek (rest : List Place) : Char :=
  peekAt 0 rest

/-- The place of the next character. -/
def here (rest : List Place) : Place :=
  rest.headD ⟨endChar, 0, 0, 0⟩

/-- The characters at the given places. -/
def spelled (read : List Place) : String :=
  String.ofList (read.map Place.char)

/-- Drop one line end; all line ends but the two separators count as a line feed. -/
def takeBreak? : List Place → Option (Char × List Place)
  | first :: second :: rest =>
      if first.char = '\r' ∧ second.char = '\n' then some ('\n', rest)
      else if first.char = '\u2028' ∨ first.char = '\u2029' then some (first.char, second :: rest)
      else if isBreak first.char then some ('\n', second :: rest)
      else none
  | _ => none

/-- What is left behind spaces. -/
def dropSpaces (rest : List Place) : List Place :=
  rest.dropWhile (·.char = ' ')

/-- Three hyphens or three points alone at the start of a line separate documents. -/
def atSeparator (rest : List Place) : Bool :=
  match rest with
  | a :: b :: c :: d :: _ =>
      a.column = 0 && isBlankOrEnd d.char &&
        ((a.char = '-' && b.char = '-' && c.char = '-') ||
          (a.char = '.' && b.char = '.' && c.char = '.'))
  | _ => false

end Canopen.Yaml
