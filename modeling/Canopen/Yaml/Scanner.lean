import Canopen.Yaml.Block
import Canopen.Yaml.Name

/-!
# From text to tokens

The scanner keeps the indentation of the open block collections and, for every open bracket, the
place where a key may have started.  A colon turns that place into a key, which has to lie on the
line of its colon and not far before it.  A token waits as long as it may still turn out to start a
key, so that of a text with a fault the tokens in front of the fault are known.
-/

namespace Canopen.Yaml

/-- A place where a key may have started. -/
structure Candidate where
  /-- How many tokens had been read before. -/
  number : Nat
  /-- Nothing but a key may stand there. -/
  required : Bool
  place : Place

structure Scanner where
  rest : List Place
  /-- How many tokens have been given out. -/
  given : Nat := 0
  /-- The tokens that wait, in order. -/
  waiting : List Token := []
  /-- The text has been read to its end. -/
  done : Bool := false
  /-- The column of the innermost block collection, below zero outside of all. -/
  indent : Int := -1
  /-- The columns of the collections around it. -/
  outer : List Int := []
  /-- One for every open bracket, and one for the text outside of brackets. -/
  candidates : List (Option Candidate) := [none]
  keyAllowed : Bool := true

namespace Scanner

def inFlow (scanner : Scanner) : Bool :=
  1 < scanner.candidates.length

def column (scanner : Scanner) : Int :=
  (here scanner.rest).column

/-- How many tokens have been read. -/
def count (scanner : Scanner) : Nat :=
  scanner.given + scanner.waiting.length

def emit (scanner : Scanner) (token : Token) : Scanner :=
  { scanner with waiting := scanner.waiting ++ [token] }

/-- A token put behind so many others. -/
def emitAt (scanner : Scanner) (number : Nat) (token : Token) : Scanner :=
  { scanner with waiting := scanner.waiting.insertIdx (number - scanner.given) token }

def advance (scanner : Scanner) (count : Nat) : Scanner :=
  { scanner with rest := scanner.rest.drop count }

/-- Skip spaces, comments and line ends; a key may start on a new line outside of brackets. -/
def skipFrom (inFlow : Bool) (inComment keyAllowed : Bool) : List Place → Bool × List Place
  | [] => (keyAllowed, [])
  | place :: rest =>
      let c := place.char
      if c = ' ' ∧ !inComment then skipFrom inFlow false keyAllowed rest
      else if isBreak c then
        if isFirstOfTwo c rest then skipFrom inFlow inComment keyAllowed rest
        else skipFrom inFlow false (keyAllowed || !inFlow) rest
      else if c = endChar then (keyAllowed, place :: rest)
      else if inComment ∨ c = '#' then skipFrom inFlow true keyAllowed rest
      else (keyAllowed, place :: rest)

/-- The mark that may stand at the very start is passed over. -/
def skipMark (rest : List Place) : List Place :=
  match rest with
  | place :: later => if place.index = 0 ∧ place.char = byteOrderMark then later else rest
  | [] => []

def skip (scanner : Scanner) : Scanner :=
  let (keyAllowed, rest) := skipFrom scanner.inFlow false scanner.keyAllowed (skipMark scanner.rest)
  { scanner with keyAllowed, rest }

/-- A key lies on one line and is not long. -/
def isStale (now : Place) (candidate : Candidate) : Bool :=
  candidate.place.line ≠ now.line || 1024 < now.index - candidate.place.index

def keyNotFound {α : Type} : Result α :=
  broken "could not find expected ':'"

/-- Forget the candidates that can no longer be keys. -/
def dropStale (scanner : Scanner) : Result Scanner :=
  let now := here scanner.rest
  if scanner.candidates.any fun candidate =>
      candidate.any fun candidate => isStale now candidate && candidate.required then
    keyNotFound
  else
    .ok { scanner with
      candidates := scanner.candidates.map (·.filter fun candidate => !isStale now candidate) }

/-- Forget the candidate of the innermost bracket. -/
def dropCandidate (scanner : Scanner) : Result Scanner :=
  match scanner.candidates with
  | some candidate :: around =>
      if candidate.required then keyNotFound
      else .ok { scanner with candidates := none :: around }
  | _ => .ok scanner

/-- A key may start here. -/
def saveCandidate (scanner : Scanner) : Result Scanner :=
  if scanner.keyAllowed then do
    let required := !scanner.inFlow && scanner.indent == scanner.column
    let scanner ← scanner.dropCandidate
    let candidate : Candidate := ⟨scanner.count, required, here scanner.rest⟩
    return { scanner with candidates := some candidate :: scanner.candidates.drop 1 }
  else .ok scanner

/-- How many collections are indented further than a column, and the columns that are left. -/
def unwindFrom (column : Int) (ended : Nat) (indent : Int) : List Int → Nat × Int × List Int
  | [] => (ended, indent, [])
  | around :: outer =>
      if column < indent then unwindFrom column (ended + 1) around outer
      else (ended, indent, around :: outer)

/-- End the block collections that are indented further than a column. -/
def unwind (scanner : Scanner) (column : Int) : Scanner :=
  if scanner.inFlow then scanner
  else
    let (ended, indent, outer) := unwindFrom column 0 scanner.indent scanner.outer
    { scanner with waiting := scanner.waiting ++ List.replicate ended .blockEnd, indent, outer }

/-- A block collection that is indented further starts in front of the tokens after a number. -/
def indentAt (scanner : Scanner) (column : Int) (number : Nat) (token : Token) : Scanner :=
  if scanner.indent < column then
    { scanner.emitAt number token with
      indent := column, outer := scanner.indent :: scanner.outer }
  else scanner

/-- A block collection that is indented further starts here. -/
def indentHere (scanner : Scanner) (token : Token) : Scanner :=
  scanner.indentAt scanner.column scanner.count token

def allowKey (scanner : Scanner) (keyAllowed : Bool) : Scanner :=
  { scanner with keyAllowed }

/-- The end of the text ends every block collection. -/
def readEnd (scanner : Scanner) : Result Scanner := do
  let scanner ← (scanner.unwind (-1)).dropCandidate
  return { scanner.emit .streamEnd with done := true }

def readDirective (scanner : Scanner) : Result Scanner := do
  let scanner ← (scanner.unwind (-1)).dropCandidate
  let (token, rest) ← takeDirective scanner.rest
  return { scanner.emit token with rest, keyAllowed := false }

def readSeparator (scanner : Scanner) (token : Token) : Result Scanner := do
  let scanner ← (scanner.unwind (-1)).dropCandidate
  return ((scanner.emit token).advance 3).allowKey false

def openBracket (scanner : Scanner) (token : Token) : Result Scanner := do
  let scanner ← scanner.saveCandidate
  let opened := { scanner with candidates := none :: scanner.candidates }
  return ((opened.emit token).advance 1).allowKey true

def closeBracket (scanner : Scanner) (token : Token) : Result Scanner :=
  if !scanner.inFlow then broken "found a closing bracket that is not open"
  else do
    let scanner ← scanner.dropCandidate
    let closed := { scanner with candidates := scanner.candidates.drop 1 }
    return ((closed.emit token).advance 1).allowKey false

def readComma (scanner : Scanner) : Result Scanner := do
  let scanner ← scanner.dropCandidate
  return ((scanner.emit .flowEntry).advance 1).allowKey true

def readHyphen (scanner : Scanner) : Result Scanner :=
  if !scanner.inFlow && !scanner.keyAllowed then
    broken "sequence entries are not allowed here"
  else do
    let scanner := if scanner.inFlow then scanner else scanner.indentHere .blockSequenceStart
    let scanner ← scanner.dropCandidate
    return ((scanner.emit .blockEntry).advance 1).allowKey true

def readKey (scanner : Scanner) : Result Scanner :=
  if !scanner.inFlow && !scanner.keyAllowed then broken "mapping keys are not allowed here"
  else do
    let scanner := if scanner.inFlow then scanner else scanner.indentHere .blockMappingStart
    let scanner ← scanner.dropCandidate
    return ((scanner.emit .key).advance 1).allowKey (!scanner.inFlow)

/-- A colon makes a key of the candidate; without one, the key is empty or has its own mark. -/
def readColon (scanner : Scanner) : Result Scanner :=
  match scanner.candidates with
  | some candidate :: around =>
      let scanner := { scanner with candidates := none :: around }
      let scanner := scanner.emitAt candidate.number .key
      let scanner :=
        if scanner.inFlow then scanner
        else scanner.indentAt candidate.place.column candidate.number .blockMappingStart
      .ok (((scanner.emit .value).advance 1).allowKey false)
  | _ =>
      if !scanner.inFlow && !scanner.keyAllowed then broken "mapping values are not allowed here"
      else
        let scanner := if scanner.inFlow then scanner else scanner.indentHere .blockMappingStart
        .ok (((scanner.emit .value).advance 1).allowKey (!scanner.inFlow))

/-- A token that may be a key or start one. -/
def readNode (scanner : Scanner) (take : List Place → Result (Token × List Place)) :
    Result Scanner := do
  let scanner ← scanner.saveCandidate
  let (token, rest) ← take scanner.rest
  return { scanner.emit token with rest, keyAllowed := false }

def readBlockScalar (scanner : Scanner) (folded : Bool) : Result Scanner := do
  let scanner ← scanner.dropCandidate
  let (text, rest) ← blockScalar folded scanner.indent scanner.rest
  return { scanner.emit (.scalar .quoted text) with rest, keyAllowed := true }

def readPlain (scanner : Scanner) : Result Scanner := do
  let scanner ← scanner.saveCandidate
  let scalar := plainScalar scanner.inFlow (scanner.indent + 1) scanner.rest
  return { scanner.emit (.scalar .plain scalar.text) with
    rest := scalar.rest, keyAllowed := scalar.passedBreak }

/-- Characters that have a meaning of their own at the start of a token. -/
def isMark (c : Char) : Bool :=
  ['-', '?', ':', ',', '[', ']', '{', '}', '#', '&', '*', '!', '|', '>', '\'', '"', '%', '@',
    '\x60'].contains c

/-- A plain scalar may start here. -/
def startsPlain (inFlow : Bool) (rest : List Place) : Bool :=
  let c := peek rest
  !(isBlankOrEnd c || isMark c) ||
    (!isBlankOrEnd (peekAt 1 rest) && (c = '-' || (!inFlow && (c = '?' || c = ':'))))

/-- Read the next token. -/
def readToken (scanner : Scanner) : Result Scanner := do
  let scanner := (← scanner.skip.dropStale)
  let scanner := scanner.unwind scanner.column
  let c := peek scanner.rest
  let followedByBlank := isBlankOrEnd (peekAt 1 scanner.rest)
  if c = endChar then scanner.readEnd
  else if c = '%' ∧ scanner.column = 0 then scanner.readDirective
  else if c = '-' ∧ atSeparator scanner.rest then scanner.readSeparator .documentStart
  else if c = '.' ∧ atSeparator scanner.rest then scanner.readSeparator .documentEnd
  else if c = '[' then scanner.openBracket .flowSequenceStart
  else if c = '{' then scanner.openBracket .flowMappingStart
  else if c = ']' then scanner.closeBracket .flowSequenceEnd
  else if c = '}' then scanner.closeBracket .flowMappingEnd
  else if c = ',' then scanner.readComma
  else if c = '-' ∧ followedByBlank then scanner.readHyphen
  else if c = '?' ∧ (scanner.inFlow ∨ followedByBlank) then scanner.readKey
  else if c = ':' ∧ (scanner.inFlow ∨ followedByBlank) then scanner.readColon
  else if c = '*' then
    scanner.readNode fun rest => (anchorName rest).map fun (name, rest) => (.alias name, rest)
  else if c = '&' then
    scanner.readNode fun rest => (anchorName rest).map fun (name, rest) => (.anchor name, rest)
  else if c = '!' then scanner.readNode takeTag
  else if c = '|' ∧ !scanner.inFlow then scanner.readBlockScalar false
  else if c = '>' ∧ !scanner.inFlow then scanner.readBlockScalar true
  else if c = '\'' then scanner.readNode (quotedScalar .single)
  else if c = '"' then scanner.readNode (quotedScalar .double)
  else if startsPlain scanner.inFlow scanner.rest then scanner.readPlain
  else broken "found a character that cannot start any token"

/-- How many of the waiting tokens can no longer turn out to start a key. -/
def settled (scanner : Scanner) : Nat :=
  scanner.candidates.foldl
    (fun least candidate =>
      match candidate with
      | some candidate => min least (candidate.number - scanner.given)
      | none => least)
    scanner.waiting.length

/-- Read the next token, and forget what can no longer be a key behind it. -/
def readOn (scanner : Scanner) : Result Scanner := do
  let scanner ← scanner.readToken
  if scanner.done then return scanner else scanner.dropStale

/-- Give out the tokens that wait no longer. -/
def give (scanner : Scanner) : List Token × Scanner :=
  let settled := if scanner.done then scanner.waiting.length else scanner.settled
  (scanner.waiting.take settled,
    { scanner with
      given := scanner.given + settled
      waiting := scanner.waiting.drop settled })

/-- No token is lost when tokens are given out. -/
theorem give_append (scanner : Scanner) :
    scanner.give.1 ++ scanner.give.2.waiting = scanner.waiting := by
  simp [give]

/-- Read tokens, at most so many times, up to the end of the text; those given out so far are
latest first. -/
def run (read : List Token) : Nat → Scanner → List Token × Option Fault
  | 0, _ => (read.reverse, some (.malformed "the text does not end"))
  | steps + 1, scanner =>
      match scanner.readOn with
      | .error fault => (read.reverse, some fault)
      | .ok scanner =>
          let (given, scanner) := scanner.give
          if scanner.done then ((given.reverse ++ read).reverse, none)
          else run (given.reverse ++ read) steps scanner

end Scanner

/-- The tokens of a text up to its end or up to a fault.  Every token but the last takes at least
one character. -/
def tokens (text : List Char) : List Token × Option Fault :=
  if text.all isAllowed then Scanner.run [] (text.length + 1) { rest := places text }
  else ([], some (.malformed "special characters are not allowed"))

end Canopen.Yaml
