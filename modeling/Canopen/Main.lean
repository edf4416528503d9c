import Canopen.Command.Run

/-!
# The program

The files that a request depends on are looked at, the request is carried out on what was seen, and
the changes are made.
-/

namespace Canopen

/-- A terminal that shows everything, and room enough for all but the oddest documents. -/
def usualHost : Command.Host where
  room := 488

/-- A location as the system writes it. -/
def systemPath (location : Location) : String :=
  (Path.mk true location).text

/-- What a location holds at the moment. -/
def look (location : Location) : IO (Option Stored) := do
  try
    if ← (← IO.FS.realPath (systemPath location)).isDir then return some .folder
    return some (.file (← IO.FS.readBinFile (systemPath location)).toList)
  catch _ => return none

/-- The files with what the system holds at the end of a path and on the way to it. -/
def lookAlong (files : Files) (path : Path) : IO Files := do
  let mut seen := files
  for count in List.range path.parts.length do
    let here := ({ path with parts := path.parts.take (count + 1) }.settle files.working).parts
    if let some stored ← look here then seen := seen.store here stored
  return seen

/-- Make the changes, the oldest first. -/
def apply (changes : List (Location × Stored)) : IO Unit := do
  for (location, stored) in changes.reverse do
    match stored with
    | .folder => IO.FS.createDirAll (systemPath location)
    | .file octets => IO.FS.writeBinFile (systemPath location) ⟨octets.toArray⟩

/-- The files that a command line depends on. -/
def lookFor (working : Location) (arguments : List String) : IO Files := do
  let mut files ← lookAlong { working } ⟨true, working⟩
  if let .ok request := Command.readRequest working arguments then
    for path in request.paths do
      files ← lookAlong files path
  return files

end Canopen

def main (arguments : List String) : IO UInt32 := do
  let working := (Canopen.Path.ofText (← IO.currentDir).toString).parts
  let files ← Canopen.lookFor working arguments
  let (outcome, after) := Canopen.Command.run Canopen.usualHost arguments files
  Canopen.apply (files.changes after)
  for line in outcome.output do IO.println line
  for line in outcome.errors do IO.eprintln line
  return outcome.exitCode.toNat.toUInt32
