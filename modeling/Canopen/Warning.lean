import Canopen.Finding
import Canopen.Literal

/-!
# Collected warnings

Warnings are kept in the order in which they are reported.  A report about an object can be taken
apart again into the index of the object and what was found.
-/

namespace Canopen.Warning

/-- A warning with its category. -/
def tagged (message : String) : String :=
  "[BUILD] " ++ message

/-- All warnings, one on a line. -/
def issueText (messages : List String) : String :=
  "\n".intercalate (messages.map ("WARNING: " ++ ·))

/-- The words for warnings that are treated as errors. -/
def failure (messages : List String) : String :=
  "Validation failed: " ++ Number.decimal messages.length ++ " warning(s)"

/-- The messages, unless strictness turns them into a failure. -/
def strictly (strict : Bool) (messages : List String) : Except (List String) (List String) :=
  if strict && !messages.isEmpty then .error messages else .ok messages

/-- What follows a word at the start of a text. -/
def after? (word text : List Char) : Option (List Char) :=
  if word.isPrefixOf text then some (text.drop word.length) else none

theorem after?_eq_some_iff {word text rest : List Char} :
    after? word text = some rest ↔ text = word ++ rest := by
  unfold after?
  split
  · next starts =>
    obtain ⟨found, rfl⟩ := List.isPrefixOf_iff_prefix.1 starts
    simp
  · next absent =>
    simp only [reduceCtorEq, false_iff]
    rintro rfl
    exact absent (List.isPrefixOf_iff_prefix.2 ⟨rest, rfl⟩)

def isHexDigit (c : Char) : Bool :=
  (Literal.digit? .hexadecimal c).isSome

/-- The index and the finding of a report about an object. -/
def parts? (message : List Char) : Option (List Char × List Char) := do
  let rest ← after? "Error in 0x".toList message
  let digits := rest.takeWhile isHexDigit
  let finding ← after? [':', ' '] (rest.dropWhile isHexDigit)
  if digits.isEmpty then none else some ('0' :: 'x' :: digits, finding)

/-- The object that a warning is about and what is left of the message. -/
def split (message : String) : String × String :=
  match parts? message.toList with
  | some (index, finding) => (String.ofList index, String.ofList finding)
  | none => ("general", message)

end Canopen.Warning
