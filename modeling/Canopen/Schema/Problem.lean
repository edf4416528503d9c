import Canopen.Dictionary
import Canopen.Schema.Fault

/-!
# Problems with a document

Everything that keeps a document from being an object dictionary: the path to the place, what is
wrong there, and the words for it, both in short form and as advice.
-/

namespace Canopen.Schema

/-- One step of the path to a place in a document; the shape of an object is a step of its own. -/
inductive Step where
  | key (name : String)
  | position (index : Int)
  | shape (selected : Shape)
deriving DecidableEq, Repr

namespace Step

def text : Step → String
  | key name => name
  | position index => Number.decimal index
  | shape selected => selected.name

/-- The key is spelled like a shape. -/
def isShapeName : Step → Bool
  | key name => (Shape.ofName? name).isSome
  | position _ => false
  | shape _ => true

end Step

/-- What is wrong at a place. -/
inductive Problem where
  | missing
  | unknownField
  | keyNotText
  | notText
  | notUnicode
  | notList
  | notTruth
  | unreadableTruth
  | notIdentifier
  | notAccess
  | notMapping
  | refused (fault : Fault)
  | shapeMissing
  | unknownShape (tag : String)
  | notModel (name : String)
deriving DecidableEq, Repr

/-- A problem and where it is. -/
structure Issue where
  path : List Step
  problem : Problem
deriving DecidableEq, Repr

/-- The choices in quotes, the last one after `or`. -/
def choices : List String → String
  | [] => ""
  | [only] => "'" ++ only ++ "'"
  | [first, last] => "'" ++ first ++ "' or '" ++ last ++ "'"
  | first :: rest => "'" ++ first ++ "', " ++ choices rest

def accessChoices : String :=
  choices (Access.all.map Access.name)

def mappingChoices : String :=
  choices (Mapping.all.map Mapping.name)

/-- The pattern of a C identifier. -/
def identifierPattern : String :=
  "^[A-Za-z_][A-Za-z0-9_]*$"

namespace Problem

/-- The short name of the kind of problem. -/
def kind : Problem → String
  | missing => "missing"
  | unknownField => "extra_forbidden"
  | keyNotText => "invalid_key"
  | notText => "string_type"
  | notUnicode => "string_unicode"
  | notList => "list_type"
  | notTruth => "bool_type"
  | unreadableTruth => "bool_parsing"
  | notIdentifier => "string_pattern_mismatch"
  | notAccess => "enum"
  | notMapping => "enum"
  | refused _ => "value_error"
  | shapeMissing => "union_tag_not_found"
  | unknownShape _ => "union_tag_invalid"
  | notModel _ => "model_type"

def message : Problem → String
  | missing => "Field required"
  | unknownField => "Extra inputs are not permitted"
  | keyNotText => "Keys should be strings"
  | notText => "Input should be a valid string"
  | notUnicode => "Input should be a valid string, unable to parse raw data as a unicode string"
  | notList => "Input should be a valid list"
  | notTruth => "Input should be a valid boolean"
  | unreadableTruth => "Input should be a valid boolean, unable to interpret input"
  | notIdentifier => "String should match pattern '" ++ identifierPattern ++ "'"
  | notAccess => "Input should be " ++ accessChoices
  | notMapping => "Input should be " ++ mappingChoices
  | refused fault => "Value error, " ++ fault.message
  | shapeMissing => "Unable to extract tag using discriminator _object_type_tag()"
  | unknownShape tag =>
      "Input tag '" ++ tag ++ "' found using _object_type_tag() does not match any of the " ++
        "expected tags: " ++ ", ".intercalate (Shape.all.map fun shape => "'" ++ shape.name ++ "'")
  | notModel name => "Input should be a valid dictionary or instance of " ++ name

/-- The facts that go with a problem, by name. -/
def context : Problem → List (String × Value)
  | notAccess => [("expected", .text accessChoices)]
  | notMapping => [("expected", .text mappingChoices)]
  | refused fault => [("error", .text fault.message)]
  | unknownShape tag => [("tag", .text tag)]
  | _ => []

end Problem

/-- A problem in its reported form. -/
structure Detail where
  kind : String
  message : String
  path : List Step := []
  context : List (String × Value) := []

def Issue.detail (issue : Issue) : Detail where
  kind := issue.problem.kind
  message := issue.problem.message
  path := issue.path
  context := issue.problem.context

namespace Detail

/-- A fact by its name. -/
def fact? (detail : Detail) (name : String) : Option Value :=
  (detail.context.find? (·.1 == name)).map (·.2)

/-- The words for a place that is one of several choices. -/
def isChoice (detail : Detail) : Bool :=
  detail.kind = "literal_error" || detail.kind = "enum"

/-- Advice in place of the short message, for kinds that have it. -/
def plainWords? : String → Option String
  | "missing" => some "This field is required but was not provided"
  | "extra_forbidden" => some "This field is not allowed in this context"
  | "string_type" => some "Must be a string"
  | "int_type" => some "Must be an integer"
  | "int_parsing" => some "Must be an integer or a hex string such as 0x1000"
  | "bool_type" => some "Must be true or false"
  | "list_type" => some "Must be a list"
  | "string_pattern_mismatch" => some "Must be a C identifier"
  | _ => none

/-- The problem in the words of the document. -/
def text (detail : Detail) : String :=
  if detail.isChoice then
    "Must be one of: " ++ ((detail.fact? "expected").map Value.shown).getD "unknown"
  else if detail.kind = "union_tag_invalid" then
    "Unknown object type " ++ ((detail.fact? "tag").getD (.text "")).inspect ++
      ", expected one of: " ++ ", ".intercalate (Shape.all.map Shape.name)
  else if detail.kind = "value_error" then
    ((detail.fact? "error").map Value.shown).getD detail.message
  else (plainWords? detail.kind).getD detail.message

/-- A hint how to mend the problem, for kinds that have one. -/
def hint? (detail : Detail) : Option String :=
  if detail.isChoice then
    some ("Use one of the allowed values: " ++
      ((detail.fact? "expected").map Value.shown).getD "")
  else
    match detail.kind with
    | "missing" => some "Add the required field to your YAML"
    | "extra_forbidden" => some "Remove this field or check for typos"
    | "union_tag_invalid" => some "Set object_type to VAR, ARRAY or RECORD"
    | "int_parsing" => some "Write indices as integers or hex strings (0x1018)"
    | "string_pattern_mismatch" => some "Use letters, digits and underscores only"
    | _ => none

/-- One more step of a path in writing; names of shapes are passed over. -/
def addStep (written : String) (step : Step) : String :=
  match step with
  | .position index => written ++ "[" ++ Number.decimal index ++ "]"
  | .shape _ => written
  | .key name =>
      if (Step.key name).isShapeName then written
      else if written.isEmpty then name
      else written ++ "." ++ name

/-- The place as a path into the document. -/
def location (detail : Detail) : String :=
  detail.path.foldl addStep ""

/-- The place and the short message on one line. -/
def line (detail : Detail) : String :=
  let place := ".".intercalate (detail.path.map Step.text)
  if place.isEmpty then detail.message else place ++ ": " ++ detail.message

end Detail

end Canopen.Schema
