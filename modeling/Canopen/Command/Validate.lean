import Canopen.Command.Outcome
import Canopen.Command.Request
import Canopen.Document.Load
import Canopen.Image.Compile

/-!
# Checking a document

A document is checked against the schema and then compiled for its warnings; nothing is written.
-/

namespace Canopen.Command

/-- The format asked for is none. -/
def formatRefused (name : String) : Outcome where
  exitCode := 1
  errors :=
    Screen.lines ("✗ Invalid format: " ++ name) ++
      Screen.lines ("Supported: " ++ ", ".intercalate (Report.Format.all.map Report.Format.name))

/-- What stands in front of the first colon with a blank behind it, and what follows. -/
def splitPlace : List Char → Option (List Char × List Char)
  | [] => none
  | ':' :: ' ' :: rest => some ([], rest)
  | c :: rest => (splitPlace rest).map fun (place, problem) => (c :: place, problem)

/-- The place and the problem; a line without a place is all problem. -/
def problemCells (line : String) : List String :=
  match splitPlace line.toList with
  | some (place, problem) => [String.ofList place, String.ofList problem]
  | none => ["", line]

/-- The document has problems. -/
def refused (input : Path) (problems : List String) : Outcome where
  exitCode := 1
  output :=
    Screen.lines "Validation Errors" ++ Screen.row ["#", "Location", "Error"] ++
      Report.numberedRows problemCells 1 problems
  errors := Screen.lines ("✗ Validation failed for " ++ input.name)

/-- The document can be compiled; strictness turns warnings into a failure. -/
def accepted (host : Host) (request : Validation) (format : Report.Format)
    (warnings : List String) : Outcome :=
  let report :=
    if warnings.isEmpty then []
    else Report.shown format warnings (some request.input) request.strict
  let verdict :=
    if warnings.isEmpty then Screen.lines ("✓ " ++ request.input.name ++ " is valid")
    else Screen.lines ("⚠ " ++ request.input.name ++ " is valid with warnings")
  if !host.shows report then { exitCode := 1 }
  else if request.strict && !warnings.isEmpty then { exitCode := 1, errors := report }
  else if request.quiet then { errors := report }
  else .concluding host verdict report

/-- Check a document file. -/
def validate (host : Host) (files : Files) (request : Validation) : Outcome :=
  match Report.Format.ofName? request.format with
  | none => formatRefused request.format
  | some format =>
      match Document.load (host.room + 1) files request.input with
      | .ok dictionary => accepted host request format dictionary.compile.warnings
      | .error (.load error) => refused request.input [error.message]
      | .error (.schema issues) =>
          refused request.input (issues.map fun issue => issue.detail.line)
      | .error (.scalar _) => { exitCode := 1 }

end Canopen.Command
