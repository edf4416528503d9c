import Canopen.Document.Load
import Canopen.Image.Compile
import Canopen.Source.Files

/-!
# Conversion

From a document file to the generated files in one step.
-/

namespace Canopen

/-- Why a conversion ends early. -/
inductive ConversionError where
  | document (error : DocumentError)
  | file (error : FileError)
deriving DecidableEq, Repr

/-- Load a document, compile it and write the generated files; warnings are not looked at. -/
def convert (room : Nat) (input folder : Path) (filename : String := "OD")
    (name : Option String := none) : EStateM ConversionError Files Unit := fun files =>
  match Document.load room files input with
  | .error error => .error (.document error) files
  | .ok dictionary =>
      match Source.write (dictionary.compile defaultLength name) folder filename files with
      | .ok () written => .ok () written
      | .error error kept => .error (.file error) kept

end Canopen
