import Canopen.Command.Outcome
import Canopen.Document.Load
import Canopen.Image.Compile

/-!
# Summary of a document

The name of a document, how many objects it has of each kind, and where they are stored.
-/

namespace Canopen.Command

/-- A name put into a list in ascending order, once. -/
def insertName (name : String) : List String → List String
  | [] => [name]
  | first :: rest =>
      if name = first then first :: rest
      else if name < first then name :: first :: rest
      else first :: insertName name rest

/-- The groups that the entries are stored in, in ascending order. -/
def storageGroups (entries : List Entry) : List String :=
  entries.foldl (fun names entry => insertName entry.storageLocation names) []

/-- The number of objects of a shape. -/
def countShape (entries : List Entry) (shape : Shape) : Nat :=
  entries.countP fun entry => entry.content.shape = shape

def indexText (entry : Entry) : String :=
  "0x" ++ entry.label

/-- The first and the last index. -/
def indexRange (entries : List Entry) : Screen :=
  match entries.head?, entries.getLast? with
  | some first, some last =>
      Screen.row ["Index range", indexText first ++ " - " ++ indexText last]
  | _, _ => []

/-- The summary of a document. -/
def summary (dictionary : Dictionary) : Screen :=
  let enabled := dictionary.enabled
  let total := dictionary.objects.length
  let groups := ", ".intercalate (storageGroups enabled)
  Screen.lines "Document Summary" ++
    Screen.row ["Name", dictionary.name] ++
    Screen.row ["Objects", Number.decimal total] ++
    Screen.row ["Enabled", Number.decimal enabled.length] ++
    Screen.row ["Disabled", Number.decimal (total - enabled.length)] ++
    (Shape.all.flatMap fun shape =>
      Screen.row [shape.name, Number.decimal (countShape enabled shape)]) ++
    Screen.row ["Storage groups", if groups.isEmpty then "-" else groups] ++
    indexRange enabled

/-- Why a document cannot be summed up; problems with the schema are only counted. -/
def unreadable : DocumentError → String
  | .load error => error.message
  | .scalar fault => fault.message
  | .schema [_] => "1 validation error for ObjectDictionary"
  | .schema issues => Number.decimal issues.length ++ " validation errors for ObjectDictionary"

/-- Sum up a document file. -/
def info (host : Host) (files : Files) (input : Path) : Outcome :=
  match Document.load (host.room + 1) files input with
  | .error error =>
      { exitCode := 1, errors := Screen.lines ("✗ Failed to read file: " ++ unreadable error) }
  | .ok dictionary =>
      .concluding host
        (Screen.lines "File Info" ++ Screen.lines "CANopen Object Dictionary" ++
          Screen.lines ("File: " ++ input.text) ++ summary dictionary) []

end Canopen.Command
