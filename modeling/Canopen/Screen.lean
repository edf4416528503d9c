import Canopen.Text.Blank

/-!
# Screens

What is shown on a terminal, as lines of words.  Frames and empty lines carry no words and are left
out.
-/

namespace Canopen

/-- The lines that are shown. -/
abbrev Screen := List String

namespace Screen

/-- Lines and corners of frames. -/
def isFrame (c : Char) : Bool :=
  0x2500 ≤ c.toNat && c.toNat ≤ 0x257F

/-- Characters that move the cursor or ring the bell, and are never shown. -/
def isControl (c : Char) : Bool :=
  c.toNat = 7 || c.toNat = 8 || c.toNat = 11 || c.toNat = 12 || c.toNat = 13

/-- The words of a line, with one blank between two of them. -/
def line (text : List Char) : String :=
  let shown := (text.filter (!isControl ·)).map fun c => if isFrame c then ' ' else c
  " ".intercalate ((Text.words shown).map String.ofList)

/-- The lines of a text that have words. -/
def lines (text : String) : Screen :=
  ((Text.pieces (· == '\n') text.toList).map line).filter (!·.isEmpty)

/-- The lines of cells that stand side by side. -/
def beside (cells : List (List (List Char))) : List (List Char) :=
  let height := (cells.map List.length).foldl max 0
  (List.range height).map fun position =>
    [' '].intercalate (cells.map fun cell => cell.getD position [])

/-- A row of a table. -/
def row (cells : List String) : Screen :=
  ((beside (cells.map fun cell => Text.pieces (· == '\n') cell.toList)).map line).filter
    (!·.isEmpty)

/-- A text cut to a width; where something is cut off, an ellipsis says so. -/
def fit (width : Nat) (text : String) : String :=
  if text.length ≤ width then text
  else String.ofList (text.toList.take (width - 1)) ++ "…"

end Screen

end Canopen
