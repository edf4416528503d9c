import Canopen.Command.Arguments
import Canopen.Number.Numeral
import Canopen.Source.Files

/-!
# Requests

What a command line asks for.  Its paths are settled, and the document that it names has to be a
file.
-/

namespace Canopen.Command

/-- Check a document file. -/
structure Validation where
  input : Path
  strict : Bool := false
  quiet : Bool := false
  format : String := "text"
deriving DecidableEq, Repr

/-- Generate files from a document file. -/
structure Generation where
  input : Path
  output : Option Path := none
  filename : String := "OD"
  name : Option String := none
  stringLength : Option Int := none
  strict : Bool := false
  force : Bool := false
  dryRun : Bool := false
  verbose : Bool := false
deriving DecidableEq, Repr

/-- The folder of the generated files: the one asked for, or that of the document. -/
def Generation.folder (request : Generation) : Path :=
  request.output.getD request.input.parent

inductive Request where
  | version
  | help
  | validate (request : Validation)
  | generate (request : Generation)
  | info (input : Path)
deriving DecidableEq, Repr

/-- Why a command line asks for nothing that can be done. -/
inductive UsageError where
  | arguments (error : ArgumentError)
  | commandMissing
  | unknownCommand (name : String)
  | inputMissing
  | unexpectedArgument (argument : String)
  | noSuchFile (path : Path)
  | inputIsFolder (path : Path)
  | outputIsFile (path : Path)
  | notLength (written : String)
deriving DecidableEq, Repr

namespace UsageError

def argumentText : ArgumentError → String
  | .unknownOption name => "No such option: " ++ name
  | .valueMissing name => "Option '--" ++ name ++ "' requires an argument."
  | .valueNotTaken name => "Option '" ++ name ++ "' does not take a value."

def message : UsageError → String
  | arguments error => argumentText error
  | commandMissing => "Missing command."
  | unknownCommand name => "No such command '" ++ name ++ "'."
  | inputMissing => "Missing argument 'INPUT_FILE'."
  | unexpectedArgument argument => "Got unexpected extra argument (" ++ argument ++ ")"
  | noSuchFile path => "File '" ++ path.text ++ "' does not exist."
  | inputIsFolder path => "File '" ++ path.text ++ "' is a directory."
  | outputIsFile path => "Directory '" ++ path.text ++ "' is a file."
  | notLength written => "'" ++ written ++ "' is not a length of at least 1."

end UsageError

def helpRule : OptionRule := { name := "help" }

def mainRules : List OptionRule :=
  [{ name := "version", letter := some 'v' }, helpRule]

def validationRules : List OptionRule :=
  [{ name := "strict" }, { name := "quiet", letter := some 'q' },
    { name := "format", letter := some 'f', takesValue := true }, helpRule]

def generationRules : List OptionRule :=
  [{ name := "output", letter := some 'o', takesValue := true },
    { name := "filename", takesValue := true },
    { name := "name", letter := some 'n', takesValue := true },
    { name := "string-length", takesValue := true }, { name := "strict" }, { name := "force" },
    { name := "dry-run" }, { name := "verbose", letter := some 'V' }, helpRule]

/-- The path of the document file. -/
def inputPath (working : Location) (arguments : Arguments) : Except UsageError Path :=
  match arguments.others with
  | [] => .error .inputMissing
  | [written] => .ok ((Path.ofText written).settle working)
  | _ :: extra :: _ => .error (.unexpectedArgument extra)

/-- The number of elements to reserve for a string, at least one. -/
def stringLength (written : String) : Except UsageError Int :=
  match Number.numeral 10 written.toList with
  | .ok length => if 1 ≤ length then .ok length else .error (.notLength written)
  | .error _ => .error (.notLength written)

def readValidation (working : Location) (arguments : Arguments) : Except UsageError Request := do
  let input ← inputPath working arguments
  return .validate
    { input, strict := arguments.has "strict", quiet := arguments.has "quiet"
      format := (arguments.value? "format").getD "text" }

def readGeneration (working : Location) (arguments : Arguments) : Except UsageError Request := do
  let input ← inputPath working arguments
  let stringLength ← (arguments.value? "string-length").mapM stringLength
  return .generate
    { input, stringLength
      output := (arguments.value? "output").map fun written =>
        (Path.ofText written).settle working
      filename := (arguments.value? "filename").getD "OD"
      name := arguments.value? "name"
      strict := arguments.has "strict", force := arguments.has "force"
      dryRun := arguments.has "dry-run", verbose := arguments.has "verbose" }

/-- Read the arguments of a command; asking for help comes before everything else. -/
def readCommand (rules : List OptionRule) (written : List String)
    (read : Arguments → Except UsageError Request) : Except UsageError Request :=
  match readArguments rules written with
  | .error error => .error (.arguments error)
  | .ok arguments => if arguments.has "help" then .ok .help else read arguments

/-- What a command line asks for. -/
def readRequest (working : Location) (written : List String) : Except UsageError Request :=
  match readLeading mainRules written with
  | .error error => .error (.arguments error)
  | .ok (arguments, left) =>
      match arguments.options with
      | (option, _) :: _ => .ok (if option = "version" then .version else .help)
      | [] =>
          match left with
          | [] => .error .commandMissing
          | "validate" :: rest => readCommand validationRules rest (readValidation working)
          | "generate" :: rest => readCommand generationRules rest (readGeneration working)
          | "info" :: rest =>
              readCommand [helpRule] rest fun arguments =>
                (inputPath working arguments).map .info
          | name :: _ => .error (.unknownCommand name)

/-- A document file has to be there. -/
def checkInput (files : Files) (path : Path) : Except UsageError Unit :=
  match files.stored? path with
  | some (.file _) => .ok ()
  | some .folder => .error (.inputIsFolder path)
  | none => .error (.noSuchFile path)

/-- An output folder must not be a file. -/
def checkOutput (files : Files) (path : Path) : Except UsageError Unit :=
  match files.stored? path with
  | some (.file _) => .error (.outputIsFile path)
  | _ => .ok ()

namespace Request

/-- The files that a request names are as the command needs them. -/
def check (files : Files) : Request → Except UsageError Unit
  | version => .ok ()
  | help => .ok ()
  | validate request => checkInput files request.input
  | generate request => do
      checkInput files request.input
      request.output.forM (checkOutput files)
  | info input => checkInput files input

/-- All paths that the outcome of a request may depend on. -/
def paths : Request → List Path
  | version => []
  | help => []
  | validate request => [request.input]
  | generate request =>
      [request.input, request.folder, Source.headerPath request.folder request.filename,
        Source.bodyPath request.folder request.filename]
  | info input => [input]

end Request

end Canopen.Command
