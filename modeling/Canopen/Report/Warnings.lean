import Canopen.Files.Path
import Canopen.Screen
import Canopen.Warning

/-!
# Reports of warnings

Warnings are shown one after the other, as a tree by object, or as a table.
-/

namespace Canopen.Report

/-- How warnings are shown. -/
inductive Format where
  | text
  | table
  | tree
deriving DecidableEq, Repr

namespace Format

def all : List Format := [text, table, tree]

def name : Format → String
  | text => "text"
  | table => "table"
  | tree => "tree"

def ofName? (text : String) : Option Format :=
  all.find? (·.name == text)

theorem ofName?_name (format : Format) : ofName? format.name = some format := by
  cases format <;> decide

end Format

def count (messages : List String) : String :=
  Number.decimal messages.length

/-- A finding under its label and the object below it. -/
def warningText (label message : String) : Screen :=
  let (object, finding) := Warning.split message
  Screen.lines (label ++ " " ++ finding) ++ Screen.lines ("at " ++ object)

/-- All warnings, one after the other. -/
def text (messages : List String) (source : Option Path := none) (asErrors : Bool := false) :
    Screen :=
  if messages.isEmpty then Screen.lines "✓ Validation passed"
  else
    Screen.lines (if asErrors then "Validation Failed" else "Build Warnings") ++
      (source.toList.flatMap fun path => Screen.lines ("File: " ++ path.text)) ++
      Screen.lines ("Warnings: " ++ count messages) ++
      messages.flatMap (warningText (if asErrors then "ERROR" else "WARNING")) ++
      Screen.lines (count messages ++ " warning(s)")

/-- A finding put behind the others of its object; the objects are in the order of their names. -/
def addFinding (object finding : String) :
    List (String × List String) → List (String × List String)
  | [] => [(object, [finding])]
  | (first, findings) :: rest =>
      if object = first then (first, findings ++ [finding]) :: rest
      else if object < first then (object, [finding]) :: (first, findings) :: rest
      else (first, findings) :: addFinding object finding rest

/-- The findings of every object. -/
def byObject (messages : List String) : List (String × List String) :=
  messages.foldl (fun objects message =>
    let (object, finding) := Warning.split message
    addFinding object finding objects) []

/-- The objects in order, each with its findings. -/
def tree (messages : List String) : Screen :=
  Screen.lines "Build Warnings" ++
    (byObject messages).flatMap fun (object, findings) =>
      Screen.lines (object ++ " (" ++ count findings ++ " warnings)") ++
        findings.flatMap Screen.lines

/-- The rows of a table, numbered from a position on. -/
def numberedRows (cells : String → List String) (position : Nat) : List String → Screen
  | [] => []
  | message :: rest =>
      Screen.row (Number.decimal position :: cells message) ++
        numberedRows cells (position + 1) rest

/-- The object and the finding; an object that is too wide is cut. -/
def warningCells (message : String) : List String :=
  let (object, finding) := Warning.split message
  [Screen.fit 8 object, finding]

/-- One row for each warning. -/
def table (messages : List String) : Screen :=
  Screen.lines "Build Warnings" ++ Screen.row ["#", "Object", "Message"] ++
    numberedRows warningCells 1 messages

/-- All warnings in a format; a tree or a table names neither the file nor the severity. -/
def shown (format : Format) (messages : List String) (source : Option Path := none)
    (asErrors : Bool := false) : Screen :=
  match format with
  | .text => text messages source asErrors
  | .table => table messages
  | .tree => tree messages

end Canopen.Report
