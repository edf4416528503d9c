import Canopen.Number.Positional
import Canopen.Script
import Canopen.Text.Printable

/-!
# Quoted text

A text in quotes, as it is shown inside messages: the quote is an apostrophe unless the text holds
apostrophes and no quotation mark, and whatever has no printed form is escaped.
-/

namespace Canopen.Text

/-- The character that encloses the quoted text. -/
def quoteFor (text : List Char) : Char :=
  if text.contains '\'' && !text.contains '"' then '"' else '\''

/-- A character as it stands between the quotes. -/
def quotedChar (quote c : Char) : List Char :=
  if c = quote || c = '\\' then ['\\', c]
  else if c = '\n' then ['\\', 'n']
  else if c = '\r' then ['\\', 'r']
  else if c = '\t' then ['\\', 't']
  else if isPrintable c then [c]
  else if c.toNat < 0x100 then '\\' :: 'x' :: Number.smallHexChars 2 c.toNat
  else if c.toNat < 0x10000 then '\\' :: 'u' :: Number.smallHexChars 4 c.toNat
  else '\\' :: 'U' :: Number.smallHexChars 8 c.toNat

/-- The text between quotes. -/
def quotedChars (text : List Char) : List Char :=
  let quote := quoteFor text
  quote :: text.flatMap (quotedChar quote) ++ [quote]

/-- The text between quotes. -/
def quoted (text : String) : String :=
  String.ofList (quotedChars text.toList)

/-- The character of a code as it stands between the quotes; half a character has no printed form. -/
def quotedCode (quote : Char) (code : Nat) : List Char :=
  if isHalf code then '\\' :: 'u' :: Number.smallHexChars 4 code
  else quotedChar quote (Char.ofNat code)

/-- A text with halves of characters between quotes. -/
def quotedHalves (halves : Halves) : String :=
  let quote := quoteFor halves.shown.toList
  String.ofList (quote :: halves.codes.flatMap (quotedCode quote) ++ [quote])

end Canopen.Text
