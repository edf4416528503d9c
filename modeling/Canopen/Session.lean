import Canopen.Document
import Canopen.Image.Compile
import Canopen.Warning

/-!
# Sessions

A compiler keeps nothing but what it is set up with, and may be used for any number of documents.
The warnings of a run go behind those of a collector, which several runs may share; a run that names
no collector has one of its own.
-/

namespace Canopen

/-- A document as it is handed over. -/
inductive Draft where
  | value (value : Value)
  | text (text : String)

/-- The object dictionary that a draft describes. -/
def Draft.read (room : Nat) : Draft → Except DocumentError Dictionary
  | value given => Document.check given
  | text written => Document.read room none written

/-- A compiler is set up with the lengths to reserve for strings. -/
structure Compiler where
  lengths : StringLengths := defaultLength

/-- One run, with the messages that its collector holds already. -/
def Compiler.compile (compiler : Compiler) (dictionary : Dictionary)
    (name : Option String := none) (collected : List String := []) : Image :=
  dictionary.compile compiler.lengths name collected

/-- A validator compiles documents for their warnings only. -/
structure Validator where
  strict : Bool := false
  compiler : Compiler := {}

namespace Validator

/-- The warnings of a run with a collector of its own. -/
def validate (validator : Validator) (dictionary : Dictionary) : List String :=
  (validator.compiler.compile dictionary).warnings

/-- The same warnings, which strictness turns into a failure. -/
def enforce (validator : Validator) (dictionary : Dictionary) :
    Except (List String) (List String) :=
  Warning.strictly validator.strict (validator.validate dictionary)

end Validator

/-- The messages in the collectors that runs share.  A collector that nothing has been put into yet
is empty. -/
abbrev Collectors := String → List String

namespace Collectors

def empty : Collectors :=
  fun _ => []

/-- The collectors with the messages of one of them set anew. -/
def put (name : String) (messages : List String) (collectors : Collectors) : Collectors :=
  fun other => if other = name then messages else collectors other

theorem put_self (name : String) (messages : List String) (collectors : Collectors) :
    collectors.put name messages name = messages :=
  if_pos rfl

/-- The other collectors stay as they are. -/
theorem put_of_ne {name other : String} (apart : other ≠ name) (messages : List String)
    (collectors : Collectors) : collectors.put name messages other = collectors other :=
  if_neg apart

end Collectors

namespace Session

/-- What is asked for in a session. -/
inductive Step where
  | compile (draft : Draft) (name : Option String) (collector : Option String)
  | validate (draft : Draft)
  | enforce (draft : Draft)

namespace Step

def draft : Step → Draft
  | compile draft _ _ => draft
  | validate draft => draft
  | enforce draft => draft

end Step

/-- What a step gives. -/
inductive Result where
  | unread (error : DocumentError)
  | image (image : Image)
  | messages (messages : List String)
  | refused (messages : List String)

/-- Compile a dictionary, with the warnings put into a collector. -/
def compileInto (compiler : Compiler) (dictionary : Dictionary) (name : Option String)
    (collectors : Collectors) : Option String → Result × Collectors
  | none => (.image (compiler.compile dictionary name), collectors)
  | some shared =>
      let image := compiler.compile dictionary name (collectors shared)
      (.image image, collectors.put shared image.warnings)

/-- One step; a document that cannot be read ends it at once. -/
def perform (room : Nat) (validator : Validator) (collectors : Collectors) (step : Step) :
    Result × Collectors :=
  match step.draft.read room with
  | .error error => (.unread error, collectors)
  | .ok dictionary =>
      match step with
      | .compile _ name collector =>
          compileInto validator.compiler dictionary name collectors collector
      | .validate _ => (.messages (validator.validate dictionary), collectors)
      | .enforce _ =>
          match validator.enforce dictionary with
          | .ok messages => (.messages messages, collectors)
          | .error messages => (.refused messages, collectors)

/-- All steps, one after another. -/
def run (room : Nat) (validator : Validator) (collectors : Collectors) :
    List Step → List Result × Collectors
  | [] => ([], collectors)
  | step :: rest =>
      let (result, changed) := perform room validator collectors step
      let (results, final) := run room validator changed rest
      (result :: results, final)

end Session

end Canopen
