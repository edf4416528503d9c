import Canopen.Command.Outcome
import Canopen.Command.Progress
import Canopen.Command.Request
import Canopen.Document.Load

/-!
# Generating files

A document is compiled and written as a header and a source.  Files that are there already are kept
unless they may be overwritten, and warnings stop a strict run before anything is written.
-/

namespace Canopen.Command

namespace Generation

/-- The two files that are written. -/
def targets (request : Generation) : List Path :=
  [Source.headerPath request.folder request.filename,
    Source.bodyPath request.folder request.filename]

/-- The first target that is there already. -/
def existing? (request : Generation) (files : Files) : Option Path :=
  request.targets.find? fun path => (files.stored? path).isSome

/-- Nothing may be overwritten. -/
def keepsFiles (request : Generation) : Bool :=
  !request.force && !request.dryRun

def lengths (request : Generation) : StringLengths :=
  match request.stringLength with
  | some length => fixedLength length
  | none => defaultLength

def targetText (request : Generation) : String :=
  " and ".intercalate (request.targets.map Path.text)

end Generation

/-- A target is there already. -/
def wouldOverwrite (path : Path) : Outcome where
  exitCode := 1
  errors :=
    Screen.lines ("✗ Output file already exists: " ++ path.text) ++
      Screen.lines "Use --force to overwrite."

/-- What a run without writing would write. -/
def wouldWrite (request : Generation) (image : Image) : Screen :=
  let header := Source.header Source.currentVersion image
  let body := Source.body Source.currentVersion request.filename image
  Screen.lines ("✓ Would write " ++ Number.grouped header.length ++ " + " ++
    Number.grouped body.length ++ " characters to " ++ request.targetText)

/-- Both files have been written. -/
def written (request : Generation) (image : Image) : Screen :=
  Screen.lines ("✓ Wrote " ++ request.targetText) ++
    Screen.lines (Number.decimal image.rows.length ++ " entries in " ++ image.name)

/-- Write an image, or say what would be written.  What has been written stays even where it cannot be
said. -/
def emit (host : Host) (request : Generation) (image : Image) (notes : Screen) (files : Files) :
    Outcome × Files :=
  if request.dryRun then (.concluding host (wouldWrite request image) notes, files)
  else
    match Source.write image request.folder request.filename files with
    | .ok () changed => (.concluding host (written request image) notes, changed)
    | .error error kept =>
        (Outcome.ofFailure (Failure.ofFile error) request.verbose notes, kept)

/-- Compile a document and go on if its warnings allow it and can be shown. -/
def generateFrom (host : Host) (request : Generation) (dictionary : Dictionary) (files : Files) :
    Outcome × Files :=
  let image := dictionary.compile request.lengths request.name
  let log :=
    if request.verbose then Progress.log request.input request.lengths dictionary image else []
  match Warning.strictly request.strict image.warnings with
  | .error warnings => (Outcome.ofFailure (.strict warnings) request.verbose log, files)
  | .ok [] => emit host request image log files
  | .ok warnings =>
      let report := Report.text warnings (some request.input)
      if host.shows report then emit host request image (log ++ report) files
      else ({ exitCode := 1, errors := log }, files)

/-- Generate the files of a document file. -/
def generate (host : Host) (request : Generation) (files : Files) : Outcome × Files :=
  match request.existing? files, request.keepsFiles with
  | some path, true => (wouldOverwrite path, files)
  | _, _ =>
      match Document.load host.room files request.input with
      | .error error => (Outcome.ofFailure (Failure.ofDocument error) request.verbose, files)
      | .ok dictionary => generateFrom host request dictionary files

end Canopen.Command
