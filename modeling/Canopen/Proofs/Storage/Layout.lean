import Mathlib.Algebra.BigOperators.Group.List.Basic
import Canopen.Image.Basic
import Canopen.Initializer
import Canopen.Proofs.Number.Spelling

/-!
# The layout of storage

Declarations and addresses are read back from their texts: the type and the dimensions of a member,
and the names and subscripts of an address.
-/

namespace Canopen

namespace CType

def all : List CType :=
  [bool, char, int8, int16, int32, int64, uint8, uint16, uint32, uint64, float32, float64]

def ofName? (text : String) : Option CType :=
  all.find? (·.name == text)

theorem ofName?_name (type : CType) : ofName? type.name = some type := by
  cases type <;> decide

theorem ne_bracket_of_mem_name {type : CType} {c : Char} (member : c ∈ type.name.toList) :
    c ≠ '[' := by
  have all : type.name.toList.all (· != '[') = true := by cases type <;> rfl
  exact bne_iff_ne.1 (List.all_eq_true.1 all c member)

end CType

namespace Layout

/-- The part of a text in front of its first bracket. -/
def head (text : List Char) : List Char :=
  text.takeWhile (· ≠ '[')

/-- The brackets at the end of a text. -/
def brackets (text : List Char) : List Char :=
  text.dropWhile (· ≠ '[')

/-- The number in front of a closing bracket. -/
def dimension? (piece : List Char) : Option Nat :=
  match piece.reverse with
  | ']' :: last :: digits => Number.spelled? .decimal (last :: digits).reverse
  | _ => none

/-- The dimensions between brackets, as in `[2][8]`. -/
def dimensions? (text : List Char) : Option (List Nat) :=
  match Text.pieces (· = '[') text with
  | [] :: rest => rest.mapM dimension?
  | _ => none

/-- The size in bytes of what is declared with a type and dimensions, as in `uint16_t[2][8]`. -/
def size? (text : List Char) : Option Nat := do
  let type ← CType.ofName? (String.ofList (head text))
  let dimensions ← dimensions? (brackets text)
  some (type.size * dimensions.prod)

/-- Dimensions as they are declared. -/
def declared (dimensions : List Nat) : List Char :=
  dimensions.flatMap fun (count : Nat) => '[' :: Number.decimalChars count ++ [']']

/-- Subscripts that select the first value of all. -/
def firsts (count : Nat) : List Char :=
  (List.replicate count ['[', '0', ']']).flatten

theorem head_append {word text : List Char} (plain : ∀ c ∈ word, c ≠ '[')
    (opens : head text = []) : head (word ++ text) = word := by
  have passed : ∀ c ∈ word, (decide (c ≠ '[')) = true := fun c member =>
    decide_eq_true (plain c member)
  rw [head, List.takeWhile_append_of_pos passed]
  exact (congrArg (word ++ ·) opens).trans (List.append_nil word)

theorem brackets_append {word text : List Char} (plain : ∀ c ∈ word, c ≠ '[')
    (opens : head text = []) : brackets (word ++ text) = text := by
  have whole := List.takeWhile_append_dropWhile (p := fun c => decide (c ≠ '[')) (l := word ++ text)
  have front : (word ++ text).takeWhile (fun c => decide (c ≠ '[')) = word :=
    head_append plain opens
  rw [front] at whole
  exact List.append_cancel_left whole

theorem head_declared (dimensions : List Nat) : head (declared dimensions) = [] := by
  cases dimensions <;> rfl

theorem head_firsts (count : Nat) : head (firsts count) = [] := by
  cases count <;> rfl

theorem dimension?_decimalChars (count : Nat) :
    dimension? (Number.decimalChars count ++ [']']) = some count := by
  have some : Number.decimalChars count ≠ [] := Nat.toDigits_ne_nil
  unfold dimension?
  rw [List.reverse_append]
  cases digits : (Number.decimalChars count).reverse with
  | nil => exact absurd (List.reverse_eq_nil_iff.1 digits) some
  | cons last rest =>
      have whole : (last :: rest).reverse = Number.decimalChars count := by
        rw [← digits, List.reverse_reverse]
      simp only [List.reverse_singleton, List.singleton_append]
      rw [whole, Number.spelled?_decimalChars]

theorem pieces_declared (dimensions : List Nat) :
    Text.pieces (· = '[') (declared dimensions) =
      [] :: dimensions.map fun (count : Nat) => Number.decimalChars count ++ [']'] := by
  induction dimensions with
  | nil => rfl
  | cons count rest ih =>
      have plain : ∀ c ∈ Number.decimalChars count ++ [']'], decide (c = '[') = false := by
        intro c member
        refine decide_eq_false fun same => ?_
        subst same
        rcases List.mem_append.1 member with digit | closing
        · exact absurd (Number.isDigit_of_mem_decimalChars digit) (by decide)
        · exact absurd (List.mem_singleton.1 closing) (by decide)
      have behind := Text.pieces_append plain ih
      rw [List.append_nil] at behind
      have opened : declared (count :: rest) =
          '[' :: (Number.decimalChars count ++ [']'] ++ declared rest) := rfl
      rw [opened, Text.pieces, List.map_cons, ← behind]
      rfl

/-- Declared dimensions are read back. -/
theorem dimensions?_declared (dimensions : List Nat) :
    dimensions? (declared dimensions) = some dimensions := by
  unfold dimensions?
  rw [pieces_declared]
  simp only
  induction dimensions with
  | nil => rfl
  | cons count rest ih =>
      rw [List.map_cons, List.mapM_cons, dimension?_decimalChars, ih]
      rfl

theorem size?_declared (type : CType) (dimensions : List Nat) :
    size? (type.name.toList ++ declared dimensions) = some (type.size * dimensions.prod) := by
  have plain : ∀ c ∈ type.name.toList, c ≠ '[' := fun _ => CType.ne_bracket_of_mem_name
  have opens := head_declared dimensions
  rw [size?, head_append plain opens, brackets_append plain opens, String.ofList_toList,
    CType.ofName?_name, dimensions?_declared]
  rfl

end Layout

namespace Reference

/-- The names of the members that lead to a value, from its group on. -/
def path (reference : Reference) : List String :=
  (Text.pieces (· = '.') (Layout.head reference.member.toList)).map String.ofList

/-- The subscripts behind the last name. -/
def subscripts (reference : Reference) : List Char :=
  Layout.brackets reference.member.toList

theorem path_of_name (group : String) {name suffix : String}
    (plain : ∀ c ∈ name.toList, c ≠ '[' ∧ c ≠ '.') (opens : Layout.head suffix.toList = []) :
    path ⟨group, name ++ suffix⟩ = [name] := by
  have whole : Text.pieces (· = '.') (name.toList ++ []) = [name.toList ++ []] :=
    Text.pieces_append (fun c member => decide_eq_false (plain c member).2) rfl
  rw [List.append_nil] at whole
  rw [path, String.toList_append, Layout.head_append (fun c member => (plain c member).1) opens,
    whole, List.map_singleton, String.ofList_toList]

theorem subscripts_of_name (group : String) {name suffix : String}
    (plain : ∀ c ∈ name.toList, c ≠ '[' ∧ c ≠ '.') (opens : Layout.head suffix.toList = []) :
    subscripts ⟨group, name ++ suffix⟩ = suffix.toList := by
  rw [subscripts, String.toList_append,
    Layout.brackets_append (fun c member => (plain c member).1) opens]

theorem toList_part (name part suffix : String) :
    (name ++ ("." ++ part ++ suffix)).toList =
      (name.toList ++ '.' :: part.toList) ++ suffix.toList := by
  simp [String.toList_append]

theorem ne_bracket_of_mem_part {name part : List Char}
    (plain : ∀ c ∈ name ++ part, c ≠ '[' ∧ c ≠ '.') : ∀ c ∈ name ++ '.' :: part, c ≠ '[' := by
  intro c member
  rcases List.mem_append.1 member with own | member
  · exact (plain c (List.mem_append_left _ own)).1
  · rcases List.mem_cons.1 member with rfl | inner
    · decide
    · exact (plain c (List.mem_append_right _ inner)).1

theorem path_of_part (group : String) {name part suffix : String}
    (plain : ∀ c ∈ name.toList ++ part.toList, c ≠ '[' ∧ c ≠ '.')
    (opens : Layout.head suffix.toList = []) :
    path ⟨group, name ++ ("." ++ part ++ suffix)⟩ = [name, part] := by
  have undotted : ∀ c ∈ name.toList ++ part.toList, decide (c = '.') = false := fun c member =>
    decide_eq_false (plain c member).2
  have behind : Text.pieces (· = '.') (part.toList ++ []) = [part.toList ++ []] :=
    Text.pieces_append (fun c member => undotted c (List.mem_append_right _ member)) rfl
  have dotted : Text.pieces (· = '.') ('.' :: part.toList) = [[], part.toList] := by
    rw [List.append_nil] at behind
    rw [Text.pieces, behind]
    rfl
  have whole := Text.pieces_append
    (fun c member => undotted c (List.mem_append_left _ member)) dotted
  rw [path, toList_part, Layout.head_append (ne_bracket_of_mem_part plain) opens, whole,
    List.append_nil, List.map_cons, List.map_singleton, String.ofList_toList,
    String.ofList_toList]

theorem subscripts_of_part (group : String) {name part suffix : String}
    (plain : ∀ c ∈ name.toList ++ part.toList, c ≠ '[' ∧ c ≠ '.')
    (opens : Layout.head suffix.toList = []) :
    subscripts ⟨group, name ++ ("." ++ part ++ suffix)⟩ = suffix.toList := by
  rw [subscripts, toList_part, Layout.brackets_append (ne_bracket_of_mem_part plain) opens]

end Reference

namespace StorageField

/-- The members that a path of names leads to. -/
def reach (fields : List StorageField) : List String → List StorageField
  | [] => []
  | [name] => fields.filter (·.name == name)
  | name :: rest => reach ((fields.filter (·.name == name)).flatMap (·.members)) rest

/-- The size of a member in bytes. -/
def size? (field : StorageField) : Option Nat :=
  Layout.size? (field.cType ++ field.array).toList

/-- The member holds values in so many bytes, and the subscripts select the first of them. -/
structure Fits (field : StorageField) (subscripts : List Char) (bytes : Nat) : Prop where
  members : field.members = []
  size : field.size? = some bytes
  subscripts :
    ∃ dimensions, Layout.dimensions? field.array.toList = some dimensions ∧
      subscripts = Layout.firsts dimensions.length

theorem fits_of_declared {field : StorageField} (type : CType) (dimensions : List Nat)
    (members : field.members = []) (cType : field.cType = type.name)
    (array : field.array.toList = Layout.declared dimensions) :
    field.Fits (Layout.firsts dimensions.length) (type.size * dimensions.prod) where
  members := members
  size := by rw [size?, String.toList_append, cType, array, Layout.size?_declared]
  subscripts := ⟨dimensions, by rw [array, Layout.dimensions?_declared], rfl⟩

end StorageField

namespace Image

/-- The members that an address leads to. -/
def targets (image : Image) (reference : Reference) : List StorageField :=
  StorageField.reach
    ((image.groups.filter (·.name == reference.group)).flatMap (·.fields)) reference.path

/-- The address leads to the first value of one member of the group, which has so many bytes. -/
structure Addresses (image : Image) (location : String) (reference : Reference) (bytes : Nat) :
    Prop where
  group : reference.group = location
  target :
    ∃ field, image.targets reference = [field] ∧ field.Fits reference.subscripts bytes

end Image

end Canopen
