import Canopen.Proofs.Source.Constructs
import Canopen.Source.Body

/-!
# Members between braces

A structure declares its members one after another, and an initializer designates them with a comma
behind each but the last.  Both are trees for a reader of C, and a tree has one way of being written
in lines; the generated lines are shown to be those of the trees that a storage member stands for.
-/

namespace Canopen.Source

/-- What is declared between braces: a member of a type, or a structure with members of its own. -/
inductive Declarator where
  | value (type name array : String)
  | struct (name array : String) (members : List Declarator)

/-- What is designated between braces: a member with its value, a member with braces of its own, or
an element without a name. -/
inductive Designator where
  | value (name text : String)
  | braces (name : String) (inner : List Designator)
  | element (inner : List Designator)

namespace Declarator

def name : Declarator → String
  | value _ name _ => name
  | struct name _ _ => name

mutual

/-- The name that is declared and the names inside it, each with its depth. -/
def names (level : Nat) : Declarator → List (Nat × String)
  | value _ name _ => [(level, name)]
  | struct name _ members => (level, name) :: namesOf (level + 1) members

def namesOf (level : Nat) : List Declarator → List (Nat × String)
  | [] => []
  | declarator :: rest => declarator.names level ++ namesOf level rest

end

end Declarator

namespace Designator

def name? : Designator → Option String
  | value name _ => some name
  | braces name _ => some name
  | element _ => none

mutual

/-- The name that is designated and the names inside it, each with its depth. -/
def names (level : Nat) : Designator → List (Nat × String)
  | value name _ => [(level, name)]
  | braces name inner => (level, name) :: namesOf (level + 1) inner
  | element inner => namesOf (level + 1) inner

def namesOf (level : Nat) : List Designator → List (Nat × String)
  | [] => []
  | designator :: rest => designator.names level ++ namesOf level rest

end

end Designator

/-- The lines declare the members, one after another. -/
inductive Declares : Nat → List Declarator → List String → Prop where
  | nil (level : Nat) : Declares level [] []
  | value {level : Nat} {later : List Declarator} {lines : List String} (type name array : String)
      (behind : Declares level later lines) :
      Declares level (.value type name array :: later)
        ((indent level ++ type ++ " " ++ name ++ array ++ ";") :: lines)
  | struct {level : Nat} {members later : List Declarator} {inner lines : List String}
      (name array : String) (inside : Declares (level + 1) members inner)
      (behind : Declares level later lines) :
      Declares level (.struct name array members :: later)
        ((indent level ++ "struct " ++ openBrace) ::
          (inner ++ (indent level ++ closeBrace ++ " " ++ name ++ array ++ ";") :: lines))

/-- A comma in front of further siblings. -/
def comma (later : List Designator) : String :=
  if later.isEmpty then "" else ","

/-- The lines designate the siblings: a comma ends the last line of each but the last, and no other
line. -/
inductive Designates : Nat → List Designator → List String → Prop where
  | nil (level : Nat) : Designates level [] []
  | value {level : Nat} {later : List Designator} {lines : List String} (name text : String)
      (behind : Designates level later lines) :
      Designates level (.value name text :: later)
        ((indent level ++ "." ++ name ++ " = " ++ text ++ comma later) :: lines)
  | braces {level : Nat} {inner later : List Designator} {innerLines lines : List String}
      (name : String) (inside : Designates (level + 1) inner innerLines)
      (behind : Designates level later lines) :
      Designates level (.braces name inner :: later)
        ((indent level ++ "." ++ name ++ " = " ++ openBrace) ::
          (innerLines ++ (indent level ++ closeBrace ++ comma later) :: lines))
  | element {level : Nat} {inner later : List Designator} {innerLines lines : List String}
      (inside : Designates (level + 1) inner innerLines) (behind : Designates level later lines) :
      Designates level (.element inner :: later)
        ((indent level ++ openBrace) ::
          (innerLines ++ (indent level ++ closeBrace ++ comma later) :: lines))

theorem Declares.append {level : Nat} {first second : List Declarator}
    {firstLines secondLines : List String} (front : Declares level first firstLines)
    (back : Declares level second secondLines) :
    Declares level (first ++ second) (firstLines ++ secondLines) := by
  induction front with
  | nil => exact back
  | value type name array _ ih => exact .value type name array (ih back)
  | @struct level members later inner lines name array inside behind _ ih =>
      have whole := Declares.struct name array inside (ih back)
      rw [List.cons_append, List.cons_append, List.append_assoc, List.cons_append]
      exact whole

/-- Declarations inside braces are indented. -/
theorem Declares.isIndented {level : Nat} {declarators : List Declarator} {lines : List String}
    (declares : Declares level declarators lines) (inner : 1 ≤ level) :
    ∀ line ∈ lines, IsIndented line := by
  have indented (text : String) : IsIndented (indent level ++ text) := by
    obtain ⟨outer, rfl⟩ := Nat.exists_eq_add_of_le' inner
    exact isIndented_indent outer text
  induction declares with
  | nil => exact fun _ none => nomatch none
  | value type name array _ ih =>
      intro line inside
      rcases List.mem_cons.1 inside with rfl | inside
      · simp only [String.append_assoc, indented]
      · exact ih inner indented line inside
  | struct name array _ _ insideIh ih =>
      intro line inside
      rcases List.mem_cons.1 inside with rfl | inside
      · simp only [String.append_assoc, indented]
      rcases List.mem_append.1 inside with inside | inside
      · refine insideIh (Nat.le_add_left 1 _) (fun text => isIndented_indent _ text) line inside
      rcases List.mem_cons.1 inside with rfl | inside
      · simp only [String.append_assoc, indented]
      · exact ih inner indented line inside

/-- Designators inside braces are indented. -/
theorem Designates.isIndented {level : Nat} {designators : List Designator} {lines : List String}
    (designates : Designates level designators lines) (inner : 1 ≤ level) :
    ∀ line ∈ lines, IsIndented line := by
  have indented (text : String) : IsIndented (indent level ++ text) := by
    obtain ⟨outer, rfl⟩ := Nat.exists_eq_add_of_le' inner
    exact isIndented_indent outer text
  induction designates with
  | nil => exact fun _ none => nomatch none
  | value name text _ ih =>
      intro line inside
      rcases List.mem_cons.1 inside with rfl | inside
      · simp only [String.append_assoc, indented]
      · exact ih inner indented line inside
  | braces name _ _ insideIh ih =>
      intro line inside
      rcases List.mem_cons.1 inside with rfl | inside
      · simp only [String.append_assoc, indented]
      rcases List.mem_append.1 inside with inside | inside
      · exact insideIh (Nat.le_add_left 1 _) (fun text => isIndented_indent _ text) line inside
      rcases List.mem_cons.1 inside with rfl | inside
      · simp only [String.append_assoc, indented]
      · exact ih inner indented line inside
  | element _ _ insideIh ih =>
      intro line inside
      rcases List.mem_cons.1 inside with rfl | inside
      · exact indented openBrace
      rcases List.mem_append.1 inside with inside | inside
      · exact insideIh (Nat.le_add_left 1 _) (fun text => isIndented_indent _ text) line inside
      rcases List.mem_cons.1 inside with rfl | inside
      · simp only [String.append_assoc, indented]
      · exact ih inner indented line inside

/-! ## Commas -/

theorem append_comma_nil (line : String) : line ++ comma [] = line :=
  String.append_empty

theorem comma_of_ne_nil {later : List Designator} (some : later ≠ []) : comma later = "," := by
  cases later with
  | nil => exact absurd rfl some
  | cons => rfl

theorem comma_append {second : List Designator} (more : second ≠ []) (first : List Designator) :
    comma (first ++ second) = "," :=
  comma_of_ne_nil (List.append_ne_nil_of_right_ne_nil first more)

theorem withComma_append {rest : List String} (some : rest ≠ []) (lines : List String) :
    withComma (lines ++ rest) = lines ++ withComma rest := by
  induction lines with
  | nil => rfl
  | cons line later ih =>
      have more : later ++ rest ≠ [] := List.append_ne_nil_of_right_ne_nil later some
      rw [List.cons_append, withComma, ih]
      · rfl
      · exact more

section

variable {level : Nat} {later : List Designator} {lines : List String}

/-- The comma behind a block stands where the last line has none. -/
theorem Designates.withComma_cons (behind : Designates level later lines) (line : String) :
    withComma ((line ++ comma later) :: lines) = (line ++ ",") :: withComma lines := by
  cases behind with
  | nil =>
      rw [append_comma_nil]
      rfl
  | value => rfl
  | braces => rfl
  | element => rfl

theorem Designates.withComma_braces (behind : Designates level later lines)
    (opening closing : String) (inner : List String) :
    withComma (opening :: (inner ++ (closing ++ comma later) :: lines)) =
      opening :: (inner ++ (closing ++ ",") :: withComma lines) := by
  rw [← List.cons_append, withComma_append (List.cons_ne_nil _ _), behind.withComma_cons,
    List.cons_append]

end

/-- Blocks are joined with a comma behind the last line of the first. -/
theorem Designates.join {level : Nat} {first second : List Designator}
    {firstLines secondLines : List String} (front : Designates level first firstLines)
    (back : Designates level second secondLines) (more : second ≠ []) :
    Designates level (first ++ second) (withComma firstLines ++ secondLines) := by
  induction front with
  | nil => exact back
  | @value level later lines name text behind ih =>
      have whole := Designates.value name text (ih back)
      rw [comma_append more] at whole
      rw [behind.withComma_cons]
      exact whole
  | @braces level inner later innerLines lines name inside behind _ ih =>
      have whole := Designates.braces name inside (ih back)
      rw [comma_append more] at whole
      rw [behind.withComma_braces, List.cons_append, List.cons_append, List.append_assoc,
        List.cons_append]
      exact whole
  | @element level inner later innerLines lines inside behind _ ih =>
      have whole := Designates.element inside (ih back)
      rw [comma_append more] at whole
      rw [behind.withComma_braces, List.cons_append, List.cons_append, List.append_assoc,
        List.cons_append]
      exact whole

/-- Joined blocks designate what each of them designates. -/
theorem designates_joinBlocks {α : Type} {level : Nat} {block : α → List String}
    {designator : α → Designator} {list : List α}
    (each : ∀ item ∈ list, Designates level [designator item] (block item)) :
    Designates level (list.map designator) (joinBlocks (list.map block)) := by
  match list with
  | [] => exact .nil level
  | [last] => exact each last List.mem_cons_self
  | item :: second :: rest =>
      have later := designates_joinBlocks fun other inside =>
        each other (List.mem_cons_of_mem item inside)
      exact (each item List.mem_cons_self).join later (List.cons_ne_nil _ _)

/-! ## Stored members -/

mutual

/-- The declaration of a stored member. -/
def declarator (field : StorageField) : Declarator :=
  match field with
  | ⟨cType, name, array, _, _, []⟩ => .value cType name array
  | ⟨_, name, array, _, _, member :: members⟩ =>
      .struct name array (declarator member :: declarators members)

def declarators (fields : List StorageField) : List Declarator :=
  match fields with
  | [] => []
  | field :: rest => declarator field :: declarators rest

end

mutual

/-- The initializer of a stored member. -/
def designator (field : StorageField) : Designator :=
  match field with
  | ⟨_, name, _, initializer, _, []⟩ => .value name initializer
  | ⟨_, name, _, _, _, member :: members⟩ =>
      .braces name (designator member :: designators members)

def designators (fields : List StorageField) : List Designator :=
  match fields with
  | [] => []
  | field :: rest => designator field :: designators rest

end

mutual

/-- A member is declared and designated with the same names at the same depths. -/
theorem names_declarator (level : Nat) (field : StorageField) :
    (declarator field).names level = (designator field).names level :=
  match field with
  | ⟨cType, name, array, initializer, halved, []⟩ => by
      rw [declarator, designator, Declarator.names, Designator.names]
  | ⟨cType, name, array, initializer, halved, member :: members⟩ => by
      rw [declarator, designator, Declarator.names, Designator.names, Declarator.namesOf,
        Designator.namesOf, names_declarator (level + 1) member,
        namesOf_declarators (level + 1) members]

theorem namesOf_declarators (level : Nat) (fields : List StorageField) :
    Declarator.namesOf level (declarators fields) =
      Designator.namesOf level (designators fields) :=
  match fields with
  | [] => by rw [declarators, designators, Declarator.namesOf, Designator.namesOf]
  | field :: rest => by
      rw [declarators, designators, Declarator.namesOf, Designator.namesOf,
        names_declarator level field, namesOf_declarators level rest]

end

mutual

theorem declares_declaration (level : Nat) (field : StorageField) :
    Declares level [declarator field] (declaration level field) :=
  match field with
  | ⟨cType, name, array, initializer, halved, []⟩ => by
      rw [declaration, declarator]
      exact .value cType name array (.nil level)
  | ⟨cType, name, array, initializer, halved, member :: members⟩ => by
      have inside := (declares_declaration (level + 1) member).append
        (declares_declarations (level + 1) members)
      rw [declaration, declarator]
      exact .struct name array inside (.nil level)

theorem declares_declarations (level : Nat) (fields : List StorageField) :
    Declares level (declarators fields) (declarations level fields) :=
  match fields with
  | [] => by
      rw [declarators, declarations]
      exact .nil level
  | field :: rest => by
      rw [declarators, declarations]
      exact (declares_declaration level field).append (declares_declarations level rest)

end

theorem initializations_eq_map (level : Nat) (fields : List StorageField) :
    initializations level fields = fields.map (initialization level) := by
  induction fields with
  | nil => rfl
  | cons field rest ih => rw [initializations, ih, List.map_cons]

theorem designators_eq_map (fields : List StorageField) :
    designators fields = fields.map designator := by
  induction fields with
  | nil => rw [designators, List.map_nil]
  | cons field rest ih => rw [designators, ih, List.map_cons]

mutual

theorem designates_initialization (level : Nat) (field : StorageField) :
    Designates level [designator field] (initialization level field) :=
  match field with
  | ⟨cType, name, array, initializer, halved, []⟩ => by
      have alone := Designates.value name initializer (.nil level)
      rw [append_comma_nil] at alone
      rwa [initialization, designator]
  | ⟨cType, name, array, initializer, halved, member :: members⟩ => by
      have inside := designates_initializations (level + 1) (member :: members)
      have whole := Designates.braces name inside (.nil level)
      rw [append_comma_nil, designators] at whole
      rw [initialization, designator]
      exact whole

theorem designates_initializations (level : Nat) (fields : List StorageField) :
    Designates level (designators fields) (joinBlocks (initializations level fields)) := by
  rw [initializations_eq_map, designators_eq_map]
  exact designates_joinBlocks fun field inside => designates_initialization level field

end

end Canopen.Source
