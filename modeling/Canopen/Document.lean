import Canopen.Schema.Reader
import Canopen.Yaml.Value

/-!
# Documents

The text of a document is YAML, of which JSON is a part.  Its root has to be a mapping, and the
mapping has to describe an object dictionary.
-/

namespace Canopen

/-- Why a document cannot be loaded. -/
inductive LoadCause where
  | notFound
  | notFile
  | unsupportedSuffix (suffix : String)
  | unreadable (error : Text.Utf8Error)
  | malformed (reason : String)
  | empty
  | notMapping (kind : String)
deriving DecidableEq, Repr

/-- The suffixes of documents. -/
def supportedSuffixes : List String := [".yaml", ".yml", ".json"]

/-- The words for octets that are not UTF-8. -/
def unreadableText (error : Text.Utf8Error) : String :=
  let octet := "0x" ++ String.ofList (Number.smallHexChars 2 error.octet.toNat)
  let place :=
    if error.count = 1 then
      "byte " ++ octet ++ " in position " ++ Number.decimal error.position
    else
      "bytes in position " ++ Number.decimal error.position ++ "-" ++
        Number.decimal (error.position + error.count - 1)
  let reason :=
    match error.fault with
    | .invalidStart => "invalid start byte"
    | .invalidContinuation => "invalid continuation byte"
    | .unexpectedEnd => "unexpected end of data"
  "'utf-8' codec can't decode " ++ place ++ ": " ++ reason

namespace LoadCause

/-- The words for a cause; the path is the one that was asked for. -/
def text (path : Option String) : LoadCause → String
  | notFound => "File not found: " ++ path.getD ""
  | notFile => "Not a file: " ++ path.getD ""
  | unsupportedSuffix suffix =>
      "Unsupported file extension: " ++ suffix ++ ". Use " ++ ", ".intercalate supportedSuffixes
  | unreadable error => "File read error: " ++ unreadableText error
  | malformed reason => "YAML parsing error: " ++ reason
  | empty => "File is empty"
  | notMapping kind => "Expected dictionary at root level, got " ++ kind

end LoadCause

/-- A document that cannot be loaded, and where it was looked for. -/
structure LoadError where
  cause : LoadCause
  path : Option String := none
deriving DecidableEq, Repr

/-- A text with the path, if there is one, in front. -/
def Document.located (path : Option String) (text : String) : String :=
  match path with
  | some path => path ++ ": " ++ text
  | none => text

def LoadError.message (error : LoadError) : String :=
  Document.located error.path (error.cause.text error.path)

/-- Why a text is no object dictionary. -/
inductive DocumentError where
  | load (error : LoadError)
  | scalar (fault : Yaml.ScalarFault)
  | schema (issues : List Schema.Issue)
deriving DecidableEq, Repr

namespace Document

/-- The root mapping of a text.  There is room for so many collections inside each other as the one who
asks leaves on the stack. -/
def root (room : Nat) (path : Option String) (text : String) : Except DocumentError Value :=
  match Yaml.read room text.toList with
  | .error (.malformed reason) => .error (.load ⟨.malformed reason, path⟩)
  | .error (.scalar fault) => .error (.scalar fault)
  | .ok value =>
      match value.content with
      | .null => .error (.load ⟨.empty, path⟩)
      | .map _ => .ok value
      | value => .error (.load ⟨.notMapping value.kindName, path⟩)

/-- The object dictionary that a document value describes. -/
def check (value : Value) : Except DocumentError Dictionary :=
  if Schema.isUnwritable value then .error (.scalar .unwritable)
  else
    match Schema.read value with
    | .sound dictionary => .ok dictionary
    | .faulty issues => .error (.schema issues)

/-- The object dictionary in a text. -/
def read (room : Nat) (path : Option String) (text : String) : Except DocumentError Dictionary := do
  check (← root room path text)

end Document

end Canopen
