import Canopen.Files.Action
import Canopen.Source.Body

/-!
# Generated files

The header and the source of an image go into one folder under one name.
-/

namespace Canopen.Source

/-- Where the header goes. -/
def headerPath (folder : Path) (filename : String) : Path :=
  folder.append (Path.ofText (filename ++ ".h"))

/-- Where the source goes. -/
def bodyPath (folder : Path) (filename : String) : Path :=
  folder.append (Path.ofText (filename ++ ".c"))

/-- The header as it is written; there is none where labels have halves of characters. -/
def headerText? (image : Image) : Option String :=
  if image.hasHalvedLabels then none else some (header currentVersion image)

/-- The source as it is written; there is none where values have halves of characters. -/
def bodyText? (filename : String) (image : Image) : Option String :=
  if image.hasHalvedValues then none else some (body currentVersion filename image)

/-- Write the header and then the source.  The folder is made if it is missing, folders that the
name itself asks for are not. -/
def write (image : Image) (folder : Path) (filename : String := "OD") : FileAction Unit := do
  FileAction.ensureFolders folder
  FileAction.writeText (headerPath folder filename) (headerText? image)
  FileAction.writeText (bodyPath folder filename) (bodyText? filename image)

end Canopen.Source
