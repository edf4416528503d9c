import Canopen.Yaml.Scalar

/-!
# Block scalars

A block scalar is made of the lines that are indented as far as its first one.  It is either kept
line by line or folded, and its header says what becomes of the line ends behind the last line.
-/

namespace Canopen.Yaml

/-- What becomes of the line ends behind the last line. -/
inductive Chomping where
  | clip
  | strip
  | keep
deriving DecidableEq

/-- The header of a block scalar. -/
structure BlockHeader where
  chomping : Chomping := .clip
  indentation : Option Nat := none

def chomping? : Char → Option Chomping
  | '+' => some .keep
  | '-' => some .strip
  | _ => none

/-- An indentation of one to nine columns, if the next character is a digit. -/
def takeIndentation (rest : List Place) : Result (Option Nat × List Place) :=
  let c := peek rest
  if '0' ≤ c ∧ c ≤ '9' then
    if c = '0' then broken "expected indentation indicator in the range 1-9, but found 0"
    else .ok (some (c.toNat - '0'.toNat), rest.drop 1)
  else .ok (none, rest)

/-- The marks of a header, in either order. -/
def takeHeader (rest : List Place) : Result (BlockHeader × List Place) := do
  match chomping? (peek rest) with
  | some chomping =>
      let (indentation, rest) ← takeIndentation (rest.drop 1)
      return ({ chomping, indentation }, rest)
  | none =>
      let (indentation, rest) ← takeIndentation rest
      match indentation, chomping? (peek rest) with
      | some columns, some chomping =>
          return ({ chomping, indentation := some columns }, rest.drop 1)
      | indentation, _ => return ({ indentation }, rest)

/-- The column behind the deepest space in front of the first line. -/
def deepestColumn (rest : List Place) : Nat :=
  (rest.takeWhile fun place => place.char = ' ' || isBreak place.char).foldl
    (fun deepest place => if place.char = ' ' then max deepest (place.column + 1) else deepest) 0

/-- The lines read so far, latest first. -/
structure BlockText where
  read : List Char := []
  /-- The line end of the last line. -/
  ending : List Char := []
  /-- Empty lines behind the last line. -/
  breaks : List Char := []
  /-- Set when there is a line: it starts with something other than a blank. -/
  lastIsText : Option Bool := none

namespace BlockText

/-- A new line starts with the given character: what goes before it. -/
def join (folded : Bool) (text : BlockText) (c : Char) : List Char :=
  let between :=
    match text.lastIsText with
    | none => []
    | some lastIsText =>
        if folded ∧ text.ending = ['\n'] ∧ lastIsText ∧ c ≠ ' ' ∧ c ≠ '\t' then
          if text.breaks.isEmpty then [' '] else []
        else text.ending
  text.breaks ++ between ++ text.read

/-- The scalar when no line follows. -/
def finish (chomping : Chomping) (text : BlockText) : String :=
  let read :=
    match chomping with
    | .strip => text.read
    | .clip => text.ending ++ text.read
    | .keep => text.breaks ++ text.ending ++ text.read
  String.ofList read.reverse

end BlockText

/-- The lines of a block scalar from a character on, which is inside a line or before one. -/
def blockFrom (folded : Bool) (chomping : Chomping) (indent : Nat) (inLine : Bool)
    (text : BlockText) : List Place → String × List Place
  | [] => (text.finish chomping, [])
  | place :: rest =>
      let c := place.char
      if isFirstOfTwo c rest then blockFrom folded chomping indent inLine text rest
      else if inLine then
        if c = endChar then (text.finish chomping, place :: rest)
        else if isBreak c then
          blockFrom folded chomping indent false { text with ending := [breakText c], breaks := [] }
            rest
        else blockFrom folded chomping indent true { text with read := c :: text.read } rest
      else if c = ' ' ∧ place.column < indent then
        blockFrom folded chomping indent false text rest
      else if isBreak c then
        blockFrom folded chomping indent false { text with breaks := breakText c :: text.breaks } rest
      else if c ≠ endChar ∧ place.column = indent then
        blockFrom folded chomping indent true
          { read := c :: text.join folded c
            lastIsText := some (c ≠ ' ' && c ≠ '\t') } rest
      else (text.finish chomping, place :: rest)

/-- A block scalar from its mark on, inside a collection that is indented so far. -/
def blockScalar (folded : Bool) (outer : Int) (rest : List Place) : Result (String × List Place) := do
  let (header, rest) ← takeHeader (rest.drop 1)
  if !isSpaceOrEnd (peek rest) then
    broken "expected chomping or indentation indicators"
  else
    let rest ← dropRestOfLine rest
    let least := (max 1 (outer + 1)).toNat
    let indent :=
      match header.indentation with
      | some columns => least + columns - 1
      | none => max least (deepestColumn rest)
    return blockFrom folded header.chomping indent false {} rest

end Canopen.Yaml
