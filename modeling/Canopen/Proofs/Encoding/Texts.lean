import Canopen.Proofs.Encoding.Length
import Canopen.Proofs.Encoding.Outcomes
import Canopen.Proofs.Initializer.Characters
import Canopen.Proofs.Text.Utf16

/-!
# Stored texts

A text is stored as a list of character constants, or of units of UTF-16.  Reading the list back gives
the text, and behind it as many zeros as elements are still reserved.  In ASCII, a question mark
stands for a character that has no code there.
-/

namespace Canopen

namespace Encoding

/-- The code of a character in ASCII; a question mark stands for a character without one. -/
inductive HasCode (code : Nat) : Nat → Prop where
  | ascii (small : code < 0x80) : HasCode code code
  | other (large : 0x80 ≤ code) : HasCode code 0x3F

/-- A text is stored in characters, and zeros behind it as far as elements are reserved. -/
structure StoresCharacters (text : Script) (elements : Int)
    (encoded : Encoding × Option Finding) : Prop where
  found : encoded.2 = none
  typed : encoded.1.cType = some .char
  stored : ∃ codes constants initial, List.Forall₂ HasCode text.codes codes ∧
    constants = codes ++ List.replicate (elements - text.codes.length).toNat 0 ∧
    encoded.1.initializer = some initial ∧
    (∀ tokens, Initializer.Token.Lexes initial.text.toList tokens ↔
      tokens = Initializer.Token.list constants) ∧
    encoded.1.elements = some constants.length ∧ encoded.1.length = constants.length ∧
    (constants.length : Int) = max (text.codes.length : Int) elements

/-- A text is stored in units of UTF-16, and zeros behind it as far as elements are reserved. -/
structure StoresUnits (text : String) (elements : Int)
    (encoded : Encoding × Option Finding) : Prop where
  found : encoded.2 = none
  typed : encoded.1.cType = some .uint16
  stored : ∃ units words initial, encoded.1.initializer = some initial ∧
    initial.text = "\x7b" ++ ", ".intercalate words ++ "\x7d" ∧
    List.Forall₂ (IsHexWord 4) units words ∧
    Text.ofUtf16? units = some (text.toList ++
      List.replicate (elements - Text.utf16Length text.toList).toNat '\x00') ∧
    encoded.1.elements = some units.length ∧ encoded.1.length = units.length * 2 ∧
    (units.length : Int) = max (Text.utf16Length text.toList : Int) elements

variable {default : Option Script} {elements : Int}

/-! ## Values that are stored -/

/-- A text is written as it is, unless it is empty. -/
theorem written_verbatim (default : Option Script) :
    (default.getD "" = "" ∧ Default.written true default = none) ∨
      Default.written true default =
        some ⟨(default.getD "").shown.toList, .decimal, (default.getD "").isHalved⟩ := by
  rw [Default.written]
  split
  · next empty => exact .inl ⟨Script.toList_shown_eq_nil.1 empty, rfl⟩
  · exact .inr rfl

/-- Nothing is stored only for an empty text without reserved elements. -/
theorem not_le_of_filled (filled : default.getD "" ≠ "" ∨ 0 < elements)
    (empty : default.getD "" = "") : ¬ elements ≤ 0 := by
  rcases filled with some | reserved
  · exact absurd empty some
  · exact not_le.2 reserved

/-- What is stored for a visible text. -/
def characterArray (elements : Int) (text : List Char) : Encoding :=
  array .char (reserve elements (text.map asciiCode)).length
    (.characters (reserve elements (text.map asciiCode)))

/-- What is stored for a Unicode text. -/
def unitArray (elements : Int) (text : List Char) : Encoding :=
  array .uint16 (reserve elements (text.flatMap utf16Units)).length
    (.numbers 4 (reserve elements (text.flatMap utf16Units)))

/-- A type that stores every text that is given, and zeros where none is, stores the default. -/
theorem ofFamily_verbatim {family : DataType.Family} (store : List Char → Encoding)
    (given : ∀ text, ofFamily elements
      (some ⟨text, .decimal, (default.getD "").isHalved⟩) family = .ok (store text))
    (absent : ¬ elements ≤ 0 → ofFamily elements none family = .ok (store []))
    (filled : default.getD "" ≠ "" ∨ 0 < elements) :
    ofFamily elements (Default.written true default) family =
      .ok (store (default.getD "").shown.toList) := by
  rcases written_verbatim default with ⟨empty, none⟩ | some
  · rw [none, empty]
    exact absent (not_le_of_filled filled empty)
  · rw [some]
    exact given _

theorem ofDefault_visibleText (filled : default.getD "" ≠ "" ∨ 0 < elements) :
    ofDefault (some (.known .visibleString)) default elements =
      (characterArray elements (default.getD "").shown.toList, none) := by
  have stored : ofFamily elements (Default.written DataType.visibleString.isString default)
      .visibleText = .ok (characterArray elements (default.getD "").shown.toList) := by
    refine ofFamily_verbatim (characterArray elements) (fun _ => rfl) (fun reserved => ?_) filled
    rw [ofFamily, if_neg reserved]
    rfl
  simp only [ofDefault, DataType.family, stored]

theorem ofDefault_unicodeText (filled : default.getD "" ≠ "" ∨ 0 < elements)
    (plain : (default.getD "").isHalved = false) :
    ofDefault (some (.known .unicodeString)) default elements =
      (unitArray elements (default.getD "").shown.toList, none) := by
  have stored : ofFamily elements (Default.written DataType.unicodeString.isString default)
      .unicodeText = .ok (unitArray elements (default.getD "").shown.toList) := by
    refine ofFamily_verbatim (unitArray elements) (fun _ => ?_) (fun reserved => ?_) filled
    · rw [plain]
      rfl
    rw [ofFamily, if_neg reserved]
    rfl
  simp only [ofDefault, DataType.family, stored]

/-! ## Lists that are read back -/

theorem hasCode_asciiCode (code : Nat) : HasCode code (asciiCode (Halves.shownChar code)) := by
  by_cases valid : code.isValidChar
  · rw [asciiCode, Script.toNat_shownChar valid]
    split
    · next small => exact .ascii small
    · next large => exact .other (not_lt.1 large)
  · have large : 0x80 ≤ code := not_lt.1 fun small => valid (.inl (small.trans (by decide)))
    rw [Halves.shownChar, if_neg valid]
    exact .other large

theorem HasCode.lt {code ascii : Nat} (means : HasCode code ascii) : ascii < 0x80 := by
  cases means with
  | ascii small => exact small
  | other => decide

theorem asciiCode_lt (c : Char) : asciiCode c < 0x80 := by
  rw [asciiCode]
  split
  · next small => exact small
  · decide

theorem storesCharacters_array (text : Script) (elements : Int) :
    StoresCharacters text elements (characterArray elements text.shown.toList, none) where
  found := rfl
  typed := rfl
  stored := by
    rw [Script.toList_shown, characterArray, List.map_map]
    have ascii : ∀ code ∈ text.codes.map (asciiCode ∘ Halves.shownChar), code < 0x80 :=
      List.forall_mem_map.2 fun code _ => (hasCode_asciiCode code).lt
    have codes : List.Forall₂ HasCode text.codes
        (text.codes.map (asciiCode ∘ Halves.shownChar)) := by
      rw [List.forall₂_map_right_iff, List.forall₂_same]
      exact fun code _ => hasCode_asciiCode code
    refine ⟨_, _, _, codes, ?_, rfl, fun tokens => Initializer.Token.lexes_characters_iff
      (forall_mem_reserve (by decide) ascii elements), rfl, Nat.mul_one _, ?_⟩
    · rw [reserve, List.length_map]
    · rw [length_reserve, List.length_map]

theorem storesUnits_array (text : String) (elements : Int) :
    StoresUnits text elements (unitArray elements text.toList, none) where
  found := rfl
  typed := rfl
  stored := by
    have small : ∀ unit ∈ text.toList.flatMap utf16Units, unit < 0x10000 :=
      List.forall_mem_flatMap.2 fun c _ unit inside => Text.lt_of_mem_utf16Units inside
    refine ⟨_, _, _, rfl, rfl, forall₂_isHexWord (by decide)
      (forall_mem_reserve (by decide) small elements), ?_, rfl, rfl, ?_⟩
    · rw [reserve, Text.length_flatMap_utf16Units, Text.ofUtf16?_flatMap, Text.ofUtf16?_replicate]
      rfl
    · rw [length_reserve, Text.length_flatMap_utf16Units]

/-! ## Texts -/

/-- The constants of a stored text are read back as its characters, and in no other way. -/
theorem ofDefault_visibleString (default : Option Script) (elements : Int)
    (filled : default.getD "" ≠ "" ∨ 0 < elements) :
    StoresCharacters (default.getD "") elements
      (ofDefault (some (.known .visibleString)) default elements) := by
  rw [ofDefault_visibleText filled]
  exact storesCharacters_array _ _

/-- Quotes, commas, braces and line ends in a text are read back, and one zero behind them. -/
theorem ofDefault_visibleString_quotes :
    StoresCharacters "', '\\\x7d\n\"é" 10
      (ofDefault (some (.known .visibleString)) (some "', '\\\x7d\n\"é") 10) :=
  ofDefault_visibleString (some _) 10 (.inl (by decide))

/-- The units of a stored text are read back as the text. -/
theorem ofDefault_unicodeString (default : Option String) (elements : Int)
    (filled : default.getD "" ≠ "" ∨ 0 < elements) :
    StoresUnits (default.getD "") elements
      (ofDefault (some (.known .unicodeString)) (default.map Script.whole) elements) := by
  have same : (default.map Script.whole).getD "" = (default.getD "" : String) := by
    cases default <;> rfl
  rw [ofDefault_unicodeText (by rwa [same, ne_eq, Script.whole.injEq]) (by rw [same]; rfl), same]
  exact storesUnits_array _ _

/-- A character that is a pair of units is read back, and one zero behind it. -/
theorem ofDefault_unicodeString_pair :
    StoresUnits "é😀" 4 (ofDefault (some (.known .unicodeString)) (some "é😀") 4) :=
  ofDefault_unicodeString (some _) 4 (.inl (by decide))

end Encoding

end Canopen
