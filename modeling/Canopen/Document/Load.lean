import Canopen.Document
import Canopen.Files.Basic
import Canopen.Text.Case

/-!
# Document files

A document file is told by its suffix, holds UTF-8 and may end its lines in any way.
-/

namespace Canopen.Document

/-- The text of a document file. -/
def fileText (files : Files) (path : Path) : Except LoadCause String :=
  match files.stored? path with
  | none => .error .notFound
  | some .folder => .error .notFile
  | some (.file octets) =>
      let suffix := Text.lower path.suffix
      if suffix ∉ supportedSuffixes then .error (.unsupportedSuffix suffix)
      else
        match Text.decodeUtf8 octets with
        | .error error => .error (.unreadable error)
        | .ok text => .ok (String.ofList (Text.unifyLineEnds text.toList))

/-- The object dictionary in a file. -/
def load (room : Nat) (files : Files) (path : Path) : Except DocumentError Dictionary :=
  match fileText files path with
  | .error cause => .error (.load ⟨cause, some path.text⟩)
  | .ok text => read room (some path.text) text

/-- What keeps a file from being an object dictionary, one line for each problem.  A scalar that
has no value is no problem of the document, and stops the check. -/
def problems (room : Nat) (files : Files) (path : Path) :
    Except Yaml.ScalarFault (List String) :=
  match load room files path with
  | .ok _ => .ok []
  | .error (.load error) => .ok [error.message]
  | .error (.schema issues) => .ok (issues.map fun issue => issue.detail.line)
  | .error (.scalar fault) => .error fault

end Canopen.Document
