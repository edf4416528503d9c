import Mathlib
import Canopen.CName
import Canopen.Proofs.Number.Spelling

/-!
# The characters of identifiers

Whatever a name holds, the identifier made of it holds letters, digits and underscores only.
-/

namespace Canopen.CName

theorem isWordChar_toUpper {c : Char} (word : isWordChar c = true) :
    isWordChar c.toUpper = true := by
  by_cases lower : c.isLower = true
  · have letter : c.toUpper.isAlpha = true := by
      rw [Char.isAlpha_toUpper_eq_isAlpha]
      simp [Char.isAlpha, lower]
    simp [isWordChar, Char.isAlphanum, letter]
  · rwa [Char.toUpper_eq_of_not_isLower lower]

theorem isWordChar_toLower {c : Char} (word : isWordChar c = true) :
    isWordChar c.toLower = true := by
  by_cases upper : c.isUpper = true
  · have letter : c.toLower.isAlpha = true := by
      rw [Char.isAlpha_toLower_eq_isAlpha]
      simp [Char.isAlpha, upper]
    simp [isWordChar, Char.isAlphanum, letter]
  · rwa [Char.toLower_eq_of_not_isUpper upper]

/-- The words of a name are made of its identifier characters. -/
theorem flatten_nameWords (name : List Char) :
    (nameWords name).flatten = name.filter isWordChar := by
  rw [nameWords, Text.flatten_wordsBy]
  simp

theorem isWordChar_of_mem_nameWords {name word : List Char} (member : word ∈ nameWords name)
    {c : Char} (inside : c ∈ word) : isWordChar c = true := by
  have kept : c ∈ (nameWords name).flatten := List.mem_flatten.2 ⟨word, member, inside⟩
  rw [flatten_nameWords] at kept
  exact (List.mem_filter.1 kept).2

theorem isWordChar_of_mem_capitalize {word : List Char}
    (all : ∀ c ∈ word, isWordChar c = true) : ∀ c ∈ capitalize word, isWordChar c = true := by
  unfold capitalize
  split
  · next first second rest =>
    intro c member
    rcases List.mem_cons.1 member with rfl | later
    · exact isWordChar_toUpper (all first List.mem_cons_self)
    · exact all c (List.mem_cons_of_mem _ later)
  · exact all

theorem isWordChar_of_mem_joinAfter {words : List (List Char)} (last : Char)
    (all : ∀ word ∈ words, ∀ c ∈ word, isWordChar c = true) :
    ∀ c ∈ joinAfter last words, isWordChar c = true := by
  induction words generalizing last with
  | nil => simp [joinAfter]
  | cons word later ih =>
      intro c member
      rw [joinAfter, List.append_assoc] at member
      rcases List.mem_append.1 member with between | member
      · have underscore : c = '_' := by
          unfold separator at between
          split at between
          · split at between
            · exact List.mem_singleton.1 between
            · cases between
          · cases between
        rw [underscore]
        decide
      · rcases List.mem_append.1 member with own | after
        · exact isWordChar_of_mem_capitalize (all word List.mem_cons_self) c own
        · exact ih _ (fun other inside => all other (List.mem_cons_of_mem _ inside)) c after

theorem isWordChar_of_mem_lowerFirst {name : List Char}
    (all : ∀ c ∈ name, isWordChar c = true) : ∀ c ∈ lowerFirst name, isWordChar c = true := by
  unfold lowerFirst
  split
  · next first second rest =>
    split
    · intro c member
      rcases List.mem_cons.1 member with rfl | later
      · exact isWordChar_toLower (all first List.mem_cons_self)
      · exact all c (List.mem_cons_of_mem _ later)
    · exact all
  · next only =>
    intro c member
    rw [List.mem_singleton.1 member]
    exact isWordChar_toLower (all only List.mem_cons_self)
  · exact all

theorem isWordChar_of_mem_identifierChars {name : List Char} {c : Char}
    (member : c ∈ identifierChars name) : isWordChar c = true :=
  isWordChar_of_mem_lowerFirst
    (isWordChar_of_mem_joinAfter ' ' fun _ word _ inside => isWordChar_of_mem_nameWords word inside)
    c member

/-! ## Words -/

/-- The text is made of identifier characters only. -/
def IsWord (text : String) : Prop :=
  ∀ c ∈ text.toList, isWordChar c = true

theorem isWord_of_all {text : String} (all : text.toList.all isWordChar = true) : IsWord text :=
  List.all_eq_true.1 all

theorem IsWord.append {first second : String} (front : IsWord first) (back : IsWord second) :
    IsWord (first ++ second) := by
  intro c inside
  rw [String.toList_append] at inside
  rcases List.mem_append.1 inside with own | own
  · exact front c own
  · exact back c own

theorem IsWord.not_mem {text : String} (word : IsWord text) {c : Char}
    (other : isWordChar c = false) : c ∉ text.toList :=
  fun inside => absurd (word c inside) (by simp [other])

theorem isWord_paddedHex (width n : Nat) : IsWord (Number.paddedHex width n) := by
  have digits : ∀ digit ∈ Number.capitalHexDigits, isWordChar digit = true :=
    List.all_eq_true.1 (by rfl)
  intro c inside
  rw [Number.paddedHex, String.toList_ofList] at inside
  exact digits c (Number.mem_capitalHexDigits inside)

theorem isWord_identifier (name : String) : IsWord (identifier name) := by
  intro c inside
  rw [identifier, String.toList_ofList] at inside
  exact isWordChar_of_mem_identifierChars inside

theorem isWord_of_isIdentifier {text : String} (identifier : isIdentifier text.toList = true) :
    IsWord text := by
  unfold isIdentifier at identifier
  split at identifier
  · cases identifier
  · next first rest chars =>
    rw [Bool.and_eq_true, Bool.or_eq_true, List.all_eq_true] at identifier
    obtain ⟨starts, follows⟩ := identifier
    intro c inside
    rw [chars] at inside
    rcases List.mem_cons.1 inside with rfl | later
    · rcases starts with letter | underscore
      · simp [isWordChar, Char.isAlphanum, letter]
      · rw [of_decide_eq_true underscore]
        decide
    · exact follows c later

theorem isIdentifier_append {first second : String} (front : isIdentifier first.toList = true)
    (back : IsWord second) : isIdentifier (first ++ second).toList = true := by
  rw [String.toList_append]
  unfold isIdentifier at front ⊢
  cases chars : first.toList with
  | nil =>
      rw [chars] at front
      cases front
  | cons c rest =>
      rw [chars] at front
      obtain ⟨starts, follows⟩ := Bool.and_eq_true _ _ ▸ front
      rw [List.cons_append]
      simp only [starts, List.all_append, follows, List.all_eq_true.2 back, Bool.and_self]

/-! ## The first character -/

/-- A letter or an underscore, which may begin an identifier. -/
def startsName (c : Char) : Bool :=
  c.isAlpha || c = '_'

theorem startsName_of_isWordChar {c : Char} (word : isWordChar c = true)
    (letter : c.isDigit = false) : startsName c = true := by
  simpa [isWordChar, startsName, Char.isAlphanum, letter] using word

theorem startsName_toUpper {c : Char} (starts : startsName c = true) :
    startsName c.toUpper = true := by
  rcases Bool.or_eq_true _ _ ▸ starts with letter | underscore
  · rw [startsName, Char.isAlpha_toUpper_eq_isAlpha, letter, Bool.true_or]
  · rw [of_decide_eq_true underscore]
    decide

theorem startsName_toLower {c : Char} (starts : startsName c = true) :
    startsName c.toLower = true := by
  rcases Bool.or_eq_true _ _ ▸ starts with letter | underscore
  · rw [startsName, Char.isAlpha_toLower_eq_isAlpha, letter, Bool.true_or]
  · rw [of_decide_eq_true underscore]
    decide

/-- Capitalizing a word changes its first character only, and only to another case. -/
theorem exists_capitalize_cons (first : Char) (rest : List Char) :
    ∃ c, capitalize (first :: rest) = c :: rest ∧
      (startsName first = true → startsName c = true) := by
  cases rest with
  | nil => exact ⟨first, rfl, id⟩
  | cons second rest => exact ⟨first.toUpper, rfl, startsName_toUpper⟩

theorem exists_lowerFirst_cons (first : Char) (rest : List Char) :
    ∃ c, lowerFirst (first :: rest) = c :: rest ∧
      (startsName first = true → startsName c = true) := by
  cases rest with
  | nil => exact ⟨first.toLower, rfl, startsName_toLower⟩
  | cons second rest =>
      rw [lowerFirst]
      split
      · exact ⟨first.toLower, rfl, startsName_toLower⟩
      · exact ⟨first, rfl, id⟩

theorem ne_nil_of_mem_nameWords {name word : List Char} (member : word ∈ nameWords name) :
    word ≠ [] := by
  simpa using (List.mem_filter.1 member).2

/-- The first character of the first word is the first identifier character of the name. -/
theorem head_nameWords (name : List Char) :
    (nameWords name).head?.bind List.head? = name.find? isWordChar := by
  have all : (nameWords name).flatten.head? = name.find? isWordChar := by
    rw [flatten_nameWords, List.head?_filter]
  rw [← all]
  cases words : nameWords name with
  | nil => rfl
  | cons word later =>
      cases word with
      | nil => exact absurd rfl (ne_nil_of_mem_nameWords (words ▸ List.mem_cons_self))
      | cons first rest => rfl

/-- A name without an identifier character makes an empty identifier. -/
theorem identifierChars_of_find?_eq_none {name : List Char}
    (none : name.find? isWordChar = none) : identifierChars name = [] := by
  have empty : nameWords name = [] := by
    rw [← head_nameWords] at none
    cases words : nameWords name with
    | nil => rfl
    | cons word later =>
        rw [words, List.head?_cons, Option.bind_some, List.head?_eq_none_iff] at none
        exact absurd none (ne_nil_of_mem_nameWords (words ▸ List.mem_cons_self))
  rw [identifierChars, empty]
  rfl

theorem exists_identifierChars {name : List Char} {first : Char}
    (found : name.find? isWordChar = some first) :
    ∃ c rest, identifierChars name = c :: rest ∧
      (startsName first = true → startsName c = true) := by
  rw [← head_nameWords] at found
  obtain ⟨word, begins, head⟩ := Option.bind_eq_some_iff.1 found
  obtain ⟨later, words⟩ := List.head?_eq_some_iff.1 begins
  obtain ⟨rest, rfl⟩ := List.head?_eq_some_iff.1 head
  obtain ⟨upper, capital, kept⟩ := exists_capitalize_cons first rest
  have joined : joinAfter ' ' (nameWords name) =
      upper :: (rest ++ joinAfter ((upper :: rest).getLastD ' ') later) := by
    rw [words, joinAfter, capital]
    rfl
  obtain ⟨lower, small, keptAgain⟩ := exists_lowerFirst_cons upper
    (rest ++ joinAfter ((upper :: rest).getLastD ' ') later)
  exact ⟨lower, _, by rw [identifierChars, joined, small], fun starts => keptAgain (kept starts)⟩

/-- The identifier made of a name is a valid one if its first identifier character is no digit. -/
theorem isIdentifier_identifierChars {name : List Char} {first : Char}
    (found : name.find? isWordChar = some first) (letter : first.isDigit = false) :
    isIdentifier (identifierChars name) = true := by
  obtain ⟨c, rest, chars, kept⟩ := exists_identifierChars found
  have starts := kept (startsName_of_isWordChar (List.find?_some found) letter)
  have follows : rest.all isWordChar = true := List.all_eq_true.2 fun other inside =>
    isWordChar_of_mem_identifierChars (chars ▸ List.mem_cons_of_mem _ inside)
  rw [chars, isIdentifier, follows, Bool.and_true]
  exact starts

theorem identifier_eq_empty_iff (name : String) :
    identifier name = "" ↔ name.toList.find? isWordChar = none := by
  rw [identifier, String.ofList_eq_empty_iff]
  constructor
  · intro empty
    cases found : name.toList.find? isWordChar with
    | none => rfl
    | some first =>
        obtain ⟨c, rest, chars, _⟩ := exists_identifierChars found
        rw [chars] at empty
        cases empty
  · exact identifierChars_of_find?_eq_none

end Canopen.CName
