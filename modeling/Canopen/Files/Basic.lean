import Canopen.Files.Path
import Canopen.Number.Positional
import Canopen.Text.Quoted
import Canopen.Text.Utf8

/-!
# Files

What is stored at each location, a location being the names on the way from the root.  A path is
followed name by name, and everything that is passed on the way has to be a folder.
-/

namespace Canopen

/-- The names on the way from the root. -/
abbrev Location := List String

/-- What a location holds. -/
inductive Stored where
  | folder
  | file (octets : List UInt8)
deriving DecidableEq, Repr

/-- Why a path cannot be followed or what is there cannot be changed. -/
inductive FileFault where
  | missing
  | taken
  | notFolder
  | isFolder
  /-- The text for the file has halves of characters, which have no octets. -/
  | halved
deriving DecidableEq, Repr

/-- A fault and the path at which it was met. -/
structure FileError where
  fault : FileFault
  path : Path
deriving DecidableEq, Repr

/-- The number of the fault, its words and the path in quotes. -/
def FileError.numbered (number : Nat) (words : String) (path : Path) : String :=
  "[Errno " ++ Number.decimal number ++ "] " ++ words ++ ": " ++ Text.quoted path.text

def FileError.message (error : FileError) : String :=
  match error.fault with
  | .missing => numbered 2 "No such file or directory" error.path
  | .taken => numbered 17 "File exists" error.path
  | .notFolder => numbered 20 "Not a directory" error.path
  | .isFolder => numbered 21 "Is a directory" error.path
  | .halved => "'utf-8' codec can't encode characters: surrogates not allowed"

/-- All files and folders, and the folder in which paths start that do not start at the root. -/
structure Files where
  entries : List (Location × Stored) := []
  working : Location := []

namespace Files

/-- What a location holds; the root is always a folder. -/
def at? (files : Files) (location : Location) : Option Stored :=
  if location = [] then some .folder else files.entries.lookup location

/-- The files with a location set anew. -/
def store (files : Files) (location : Location) (stored : Stored) : Files :=
  { files with entries := (location, stored) :: files.entries.filter fun entry => entry.1 ≠ location }

theorem at?_store_self (files : Files) {location : Location} (below : location ≠ [])
    (stored : Stored) : (files.store location stored).at? location = some stored := by
  simp [at?, store, below]

/-- Leaving out one key does not change what is found under another. -/
theorem lookup_filter_ne {location other : Location} (apart : other ≠ location)
    (entries : List (Location × Stored)) :
    (entries.filter fun entry => entry.1 ≠ location).lookup other = entries.lookup other := by
  induction entries with
  | nil => rfl
  | cons entry rest ih =>
      obtain ⟨key, stored⟩ := entry
      by_cases same : key = location
      · subst same
        have absent : (other == key) = false := beq_false_of_ne apart
        simpa [List.filter_cons, List.lookup_cons, absent] using ih
      · rw [List.filter_cons_of_pos (by simpa using same), List.lookup_cons, List.lookup_cons, ih]

/-- No other location changes. -/
theorem at?_store_of_ne (files : Files) {location other : Location} (apart : other ≠ location)
    (stored : Stored) : (files.store location stored).at? other = files.at? other := by
  have absent : (other == location) = false := beq_false_of_ne apart
  simp only [at?, store, List.lookup_cons, absent, lookup_filter_ne apart]

/-- The folders on the way to a location made where nothing is yet. -/
def addFolders (files : Files) (position : Location) : List String → Files
  | [] => files
  | part :: rest =>
      let here := position ++ [part]
      addFolders (if (files.at? here).isSome then files else files.store here .folder) here rest

/-- The files with one more, and with the folders on the way to it. -/
def add (files : Files) (location : Location) (stored : Stored) : Files :=
  (files.addFolders [] location.dropLast).store location stored

/-- Where names lead from a position; all that is passed is a folder. -/
def walk (files : Files) (position : Location) : List String → Except FileFault Location
  | [] => .ok position
  | part :: rest =>
      match files.at? position with
      | some .folder => walk files (Path.step position part) rest
      | some (.file _) => .error .notFolder
      | none => .error .missing

/-- Where a path leads. -/
def locate (files : Files) (path : Path) : Except FileFault Location :=
  files.walk (if path.absolute then [] else files.working) path.parts

/-- What a path leads to, if it can be followed. -/
def stored? (files : Files) (path : Path) : Option Stored :=
  match files.locate path with
  | .ok location => files.at? location
  | .error _ => none

/-- The files that are new or hold something else than before. -/
def changes (before after : Files) : List (Location × Stored) :=
  after.entries.filter fun (location, stored) => before.at? location ≠ some stored

end Files

end Canopen
