import Canopen.Image.Storage

/-!
# Blocks of lines

Generated files are lists of lines.  Blocks between braces are separated by commas, and the members
of a group are declared and initialized in the same order and at the same depth.
-/

namespace Canopen.Source

/-- Four blanks for every level. -/
def indent (level : Nat) : String :=
  String.ofList (List.replicate (4 * level) ' ')

def rule : String :=
  String.ofList (List.replicate 79 '*')

def openBrace : String := "\x7b"

def closeBrace : String := "\x7d"

/-- The comment that starts a part of a file. -/
def sectionLines (title : String) : List String :=
  ["", "", "/" ++ rule, indent 1 ++ title, rule ++ "/"]

/-- The comment that starts a file. -/
def banner (version warning : String) : List String :=
  ["/" ++ rule,
    indent 1 ++ "CANopen Object Dictionary definition for CANopenNode V4",
    "",
    indent 2 ++ "This file was automatically generated by yaml-to-od v" ++ version,
    "",
    indent 1 ++ warning,
    rule ++ "/",
    ""]

/-- A comma at the end of the last line. -/
def withComma : List String → List String
  | [] => []
  | [last] => [last ++ ","]
  | line :: rest => line :: withComma rest

/-- Blocks one after another, with a comma behind each but the last. -/
def joinBlocks : List (List String) → List String
  | [] => []
  | [last] => last
  | block :: rest => withComma block ++ joinBlocks rest

theorem length_withComma (block : List String) : (withComma block).length = block.length := by
  fun_induction withComma block <;> simp_all

mutual

/-- The declaration of a member. -/
def declaration (level : Nat) (field : StorageField) : List String :=
  match field with
  | ⟨cType, name, array, _, _, []⟩ => [indent level ++ cType ++ " " ++ name ++ array ++ ";"]
  | ⟨_, name, array, _, _, member :: members⟩ =>
      (indent level ++ "struct " ++ openBrace) :: declaration (level + 1) member ++
        declarations (level + 1) members ++
        [indent level ++ closeBrace ++ " " ++ name ++ array ++ ";"]

def declarations (level : Nat) (fields : List StorageField) : List String :=
  match fields with
  | [] => []
  | field :: rest => declaration level field ++ declarations level rest

end

mutual

/-- The initializer of a member. -/
def initialization (level : Nat) (field : StorageField) : List String :=
  match field with
  | ⟨_, name, _, initializer, _, []⟩ => [indent level ++ "." ++ name ++ " = " ++ initializer]
  | ⟨_, name, _, _, _, member :: members⟩ =>
      (indent level ++ "." ++ name ++ " = " ++ openBrace) ::
        joinBlocks (initialization (level + 1) member :: initializations (level + 1) members) ++
        [indent level ++ closeBrace]

def initializations (level : Nat) (fields : List StorageField) : List (List String) :=
  match fields with
  | [] => []
  | field :: rest => initialization level field :: initializations level rest

end

end Canopen.Source
