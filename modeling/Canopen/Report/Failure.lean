import Canopen.Document
import Canopen.Files.Basic
import Canopen.Report.Warnings

/-!
# Reports of failures

Every failure ends a command with an exit code and a report that says what went wrong.
-/

namespace Canopen

/-- Why a command ends before its work is done. -/
inductive Failure where
  | stopped (exitCode : Int)
  | load (message : String)
  | strict (warnings : List String)
  | schema (issues : List Schema.Issue)
  | fileNotFound (path : Option String)
  | notPermitted (path : Option String)
  | unexpected (message : String)
deriving DecidableEq, Repr

namespace Failure

def exitCode : Failure → Int
  | stopped exitCode => exitCode
  | _ => 1

def ofDocument : DocumentError → Failure
  | .load error => load error.message
  | .scalar fault => unexpected fault.message
  | .schema issues => schema issues

def ofFile (error : FileError) : Failure :=
  match error.fault with
  | .missing => fileNotFound (some error.path.text)
  | _ => unexpected error.message

/-- The path, if there is one that is not empty. -/
def pathText : Option String → String
  | some "" => "unknown"
  | some path => path
  | none => "unknown"

/-- The place, the problem and the advice. -/
def issueRow (issue : Schema.Issue) : Screen :=
  let detail := issue.detail
  let location := detail.location
  Screen.row [if location.isEmpty then "(document)" else location, detail.text,
    detail.hint?.getD ""]

/-- The report of a failure.  With `verbose` set there is no advice to set it. -/
def screen (verbose : Bool := false) : Failure → Screen
  | stopped _ => []
  | load message => Screen.lines "Load Error" ++ Screen.lines message
  | strict warnings => Report.text warnings none true
  | schema issues =>
      Screen.lines "Schema Validation Failed" ++ Screen.row ["Location", "Problem", "Hint"] ++
        issues.flatMap issueRow
  | fileNotFound path => Screen.lines "Error" ++ Screen.lines ("File not found: " ++ pathText path)
  | notPermitted path =>
      Screen.lines "Error" ++ Screen.lines ("Permission denied: " ++ pathText path) ++
        Screen.lines "Check that the output folder is writable."
  | unexpected message =>
      Screen.lines "Error" ++ Screen.lines "An unexpected error occurred:" ++
        Screen.lines message ++
        (if verbose then [] else Screen.lines "Use --verbose for full traceback")

end Failure

end Canopen
