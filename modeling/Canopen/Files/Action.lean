import Canopen.Files.Basic

/-!
# Changing files

Making folders and writing files.  An action that fails keeps what it has changed up to then.
-/

namespace Canopen

/-- A change of the files that may fail on the way. -/
abbrev FileAction := EStateM FileError Files

namespace FileAction

/-- One folder, in a folder that is there already. -/
def makeFolder (path : Path) : FileAction Unit := fun files =>
  match files.locate path with
  | .error fault => .error ⟨fault, path⟩ files
  | .ok location =>
      match files.at? location with
      | some _ => .error ⟨.taken, path⟩ files
      | none => .ok () (files.store location .folder)

/-- One folder, unless it is there already. -/
def ensureFolder (path : Path) : FileAction Unit := fun files =>
  match makeFolder path files with
  | .ok () changed => .ok () changed
  | .error error kept =>
      if kept.stored? path = some .folder then .ok () kept else .error error kept

/-- A folder and the missing ones above it; the names are those of the path, the last one first. -/
def ensureUpward (absolute : Bool) : List String → FileAction Unit
  | [] => pure ()
  | name :: above => fun files =>
      let path := Path.mk absolute (name :: above).reverse
      match ensureFolder path files with
      | .error ⟨.missing, _⟩ kept => (ensureUpward absolute above *> ensureFolder path) kept
      | result => result

/-- A folder and the missing ones above it. -/
def ensureFolders (path : Path) : FileAction Unit :=
  ensureUpward path.absolute path.parts.reverse

/-- A file with a text, in place of the one that may be there.  The file is there and empty before its
text is encoded, so a text that has no octets leaves it so. -/
def writeText (path : Path) (text : Option String) : FileAction Unit := fun files =>
  match files.locate path with
  | .error fault => .error ⟨fault, path⟩ files
  | .ok location =>
      match files.at? location with
      | some .folder => .error ⟨.isFolder, path⟩ files
      | _ =>
          match text with
          | some text => .ok () (files.store location (.file (Text.encodeUtf8 text)))
          | none => .error ⟨.halved, path⟩ (files.store location (.file []))

end FileAction

end Canopen
