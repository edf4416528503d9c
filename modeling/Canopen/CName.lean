import Canopen.Text.Blank

/-!
# Names of C identifiers

A free-form name becomes one word: its parts are put together with a capital at the start of each,
and an underscore keeps two capitals apart where two parts meet.
-/

namespace Canopen.CName

/-- A character that a C identifier may hold. -/
def isWordChar (c : Char) : Bool :=
  c.isAlphanum || c = '_'

/-- The words of a name are its runs of identifier characters. -/
def nameWords (name : List Char) : List (List Char) :=
  Text.wordsBy (!isWordChar ·) name

/-- A word of several characters starts with a capital. -/
def capitalize : List Char → List Char
  | first :: second :: rest => first.toUpper :: second :: rest
  | word => word

/-- An underscore between two words whose facing characters are both capitals. -/
def separator (last : Char) (word : List Char) : List Char :=
  match word with
  | first :: _ => if last.isUpper && first.isUpper then ['_'] else []
  | [] => []

/-- Words joined after a character. -/
def joinAfter (last : Char) : List (List Char) → List Char
  | [] => []
  | word :: later =>
      separator last word ++ capitalize word ++
        joinAfter ((capitalize word).getLastD last) later

/-- A small first letter, unless a capital or a digit follows it. -/
def lowerFirst : List Char → List Char
  | first :: second :: rest =>
      if second.isLower then first.toLower :: second :: rest else first :: second :: rest
  | [only] => [only.toLower]
  | [] => []

/-- The identifier made of a name. -/
def identifierChars (name : List Char) : List Char :=
  lowerFirst (joinAfter ' ' (nameWords name))

/-- The identifier made of a name, empty when the name has no word. -/
def identifier (name : String) : String :=
  String.ofList (identifierChars name.toList)

/-- A letter or underscore, then letters, digits and underscores. -/
def isIdentifier : List Char → Bool
  | [] => false
  | first :: rest => (first.isAlpha || first = '_') && rest.all isWordChar

end Canopen.CName
