import Canopen.Text.Utf8
import Canopen.Yaml.Scalar
import Canopen.Yaml.Token

/-!
# Names in a YAML text

Anchors and aliases, tags and directives.
-/

namespace Canopen.Yaml

/-- A character of the name of an anchor, a handle or a directive. -/
def isNameChar (c : Char) : Bool :=
  c.isAlphanum || c = '-' || c = '_'

/-- The longest name and what follows it. -/
def takeName (rest : List Place) : String × List Place :=
  (spelled (rest.takeWhile (isNameChar ·.char)), rest.dropWhile (isNameChar ·.char))

/-- Characters that may follow an anchor or an alias. -/
def followsAnchor (c : Char) : Bool :=
  isBlankOrEnd c || c = '?' || c = ':' || c = ',' || c = ']' || c = '}' || c = '%' || c = '@' ||
    c = '\x60'

/-- The name of an anchor or an alias, from its mark on. -/
def anchorName (rest : List Place) : Result (String × List Place) :=
  let (name, rest) := takeName (rest.drop 1)
  if name.isEmpty then broken "expected alphabetic or numeric character"
  else if followsAnchor (peek rest) then .ok (name, rest)
  else broken "expected alphabetic or numeric character"

/-- A character of a tag. -/
def isTagChar (c : Char) : Bool :=
  isNameChar c ||
    [';', '/', '?', ':', '@', '&', '=', '+', '$', ',', '.', '!', '~', '*', '\'', '(', ')', '[', ']',
      '%'].contains c

/-- The octets of a tag; a percent sign gives one by two digits. -/
def tagOctets : List Char → Result (List UInt8)
  | [] => .ok []
  | '%' :: high :: low :: rest =>
      match hexDigit? high, hexDigit? low with
      | some high, some low => (tagOctets rest).map (UInt8.ofNat (high * 16 + low) :: ·)
      | _, _ => broken "expected URI escape sequence of 2 hexadecimal numbers"
  | '%' :: _ => broken "expected URI escape sequence of 2 hexadecimal numbers"
  | c :: rest => (tagOctets rest).map (UInt8.ofNat c.toNat :: ·)

/-- The longest run of tag characters, decoded. -/
def takeTagText (rest : List Place) : Result (String × List Place) := do
  let read := (rest.takeWhile (isTagChar ·.char)).map Place.char
  if read.isEmpty then broken "expected URI"
  else
    match Text.decodeUtf8 (← tagOctets read) with
    | .ok text => return (text, rest.dropWhile (isTagChar ·.char))
    | .error _ => broken "URI is not Unicode"

/-- A handle of tags: an exclamation mark, or a name between two of them. -/
def takeHandle (rest : List Place) : Result (String × List Place) :=
  if peek rest ≠ '!' then broken "expected '!'"
  else if peekAt 1 rest = ' ' then .ok ("!", rest.drop 1)
  else
    let (name, after) := takeName (rest.drop 1)
    if peek after = '!' then .ok ("!" ++ name ++ "!", after.drop 1)
    else broken "expected '!'"

/-- An exclamation mark stands in the characters up to a space or the end of the line. -/
def hasHandle (rest : List Place) : Bool :=
  (rest.takeWhile (!isSpaceOrEnd ·.char)).any (·.char = '!')

/-- A tag, from its mark on. -/
def takeTag (rest : List Place) : Result (Token × List Place) := do
  let next := peekAt 1 rest
  let (token, rest) ←
    if next = '<' then do
      let (suffix, rest) ← takeTagText (rest.drop 2)
      if peek rest = '>' then .ok (Token.tag none suffix, rest.drop 1)
      else broken "expected '>'"
    else if isBlankOrEnd next then .ok (Token.tag none "!", rest.drop 1)
    else if hasHandle (rest.drop 1) then do
      let (handle, rest) ← takeHandle rest
      let (suffix, rest) ← takeTagText rest
      .ok (Token.tag (some handle) suffix, rest)
    else do
      let (suffix, rest) ← takeTagText (rest.drop 1)
      .ok (Token.tag (some "!") suffix, rest)
  if isSpaceOrEnd (peek rest) then .ok (token, rest) else broken "expected ' '"

/-- A number of a version. -/
def takeNumber (rest : List Place) : Result (Nat × List Place) :=
  let digits := (rest.takeWhile (·.char.isDigit)).map Place.char
  if digits.isEmpty then broken "expected a digit"
  else if Number.longestDecimal < digits.length then
    .error (.scalar (.integerTooLong digits.length))
  else
    .ok (digits.foldl (fun total c => total * 10 + (c.toNat - '0'.toNat)) 0,
      rest.dropWhile (·.char.isDigit))

/-- The version behind the name of its directive. -/
def takeVersion (rest : List Place) : Result (Token × List Place) := do
  let (major, rest) ← takeNumber (dropSpaces rest)
  if peek rest ≠ '.' then broken "expected a digit or '.'"
  else
    let (_, rest) ← takeNumber (rest.drop 1)
    if isSpaceOrEnd (peek rest) then .ok (.versionDirective major, rest)
    else broken "expected a digit or ' '"

/-- The handle and its meaning behind the name of their directive. -/
def takeTagDirective (rest : List Place) : Result (Token × List Place) := do
  let (handle, rest) ← takeHandle (dropSpaces rest)
  if peek rest ≠ ' ' then broken "expected ' '"
  else
    let (start, rest) ← takeTagText (dropSpaces rest)
    if isSpaceOrEnd (peek rest) then .ok (.tagDirective handle start, rest)
    else broken "expected ' '"

/-- A directive, from its mark on. -/
def takeDirective (rest : List Place) : Result (Token × List Place) := do
  let (name, rest) := takeName (rest.drop 1)
  if name.isEmpty then broken "expected alphabetic or numeric character"
  else if !isSpaceOrEnd (peek rest) then broken "expected alphabetic or numeric character"
  else
    let (token, rest) ←
      match name with
      | "YAML" => takeVersion rest
      | "TAG" => takeTagDirective rest
      | _ => .ok (Token.otherDirective, rest.dropWhile (!isBreakOrEnd ·.char))
    return (token, ← dropRestOfLine rest)

end Canopen.Yaml
