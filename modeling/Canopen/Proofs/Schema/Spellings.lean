import Mathlib.Data.List.Forall2
import Canopen.Proofs.Display
import Canopen.Proofs.Literal.Grammar
import Canopen.Proofs.Schema.Forms

/-!
# Spellings of shapes

A shape is called by its name or an abbreviation of it, in letters of either case, or by its object
code: as a number, or as a text in decimal digits or in hexadecimal digits behind their mark, which
may be those of any script.  Blanks around a text do not count.
-/

namespace Canopen

/-! ## Digits of all scripts -/

namespace Text

/-- The code points of blank characters. -/
def blankRanges : List Range :=
  [(9, 13), (28, 32), (0x85, 0x85), (0xA0, 0xA0), (0x1680, 0x1680), (0x2000, 0x200A),
    (0x2028, 0x2028), (0x2029, 0x2029), (0x202F, 0x202F), (0x205F, 0x205F), (0x3000, 0x3000)]

theorem exists_range_of_isBlank {c : Char} (white : isBlank c = true) :
    ∃ range ∈ blankRanges, range.1 ≤ c.toNat ∧ c.toNat ≤ range.2 := by
  rw [← inRanges_iff]
  simpa [isBlank, inRanges, blankRanges, Bool.or_assoc, Nat.le_antisymm_iff, and_comm] using white

theorem exists_row_of_decimalDigit? {c : Char} {value : Nat}
    (digit : decimalDigit? c = some value) :
    ∃ least ∈ digitZeros, least ≤ c.toNat ∧ c.toNat < least + 10 := by
  obtain ⟨least, found, -⟩ := Option.map_eq_some_iff.1 digit
  have row := List.find?_some found
  simp only [Bool.and_eq_true, decide_eq_true_eq] at row
  exact ⟨least, List.mem_of_find?_eq_some found, row⟩

theorem toNat_of_letterDigit? {c : Char} {value : Nat} (digit : letterDigit? c = some value) :
    65 ≤ c.toNat ∧ c.toNat ≤ 122 := by
  unfold letterDigit? at digit
  split at digit
  · next row =>
    have least : 97 ≤ c.toNat := row.1
    have most : c.toNat ≤ 122 := row.2
    omega
  · split at digit
    · next row =>
      have least : 65 ≤ c.toNat := row.1
      have most : c.toNat ≤ 90 := row.2
      omega
    · cases digit

/-- No row of digits meets a range of blanks. -/
theorem digitZeros_apart : ∀ least ∈ digitZeros, ∀ range ∈ blankRanges,
    range.2 < least ∨ least + 10 ≤ range.1 :=
  forall_mem_of_all rfl

theorem letters_apart : ∀ range ∈ blankRanges, range.2 < 65 ∨ 122 < range.1 :=
  forall_mem_of_all rfl

/-- A digit is not blank. -/
theorem not_isBlank_of_digitIn? {base value : Nat} {c : Char}
    (digit : digitIn? base c = some value) : isBlank c = false := by
  rw [Bool.eq_false_iff]
  intro white
  obtain ⟨range, among, low, high⟩ := exists_range_of_isBlank white
  unfold digitIn? at digit
  cases row : decimalDigit? c with
  | some value =>
      obtain ⟨least, zero, first, last⟩ := exists_row_of_decimalDigit? row
      have apart := digitZeros_apart least zero range among
      omega
  | none =>
      cases letter : letterDigit? c with
      | some value =>
          have bounds := toNat_of_letterDigit? letter
          have apart := letters_apart range among
          omega
      | none =>
          rw [row, letter] at digit
          cases digit

end Text

namespace Number

/-- Digits of the base, of any script, and the number that they have by their places. -/
structure HasDigits (base : Nat) (digits : List Char) (n : Nat) : Prop where
  filled : digits ≠ []
  values : ∃ values, List.Forall₂ (fun c value => Text.digitIn? base c = some value) digits values ∧
    n = Nat.ofDigits base values.reverse

namespace HasDigits

variable {base n : Nat} {digits text : List Char}

theorem exists_digit (has : HasDigits base digits n) {c : Char} (inside : c ∈ digits) :
    ∃ value, Text.digitIn? base c = some value := by
  obtain ⟨-, values, each, -⟩ := has
  induction each with
  | nil => cases inside
  | cons digit _ ih =>
      rcases List.mem_cons.1 inside with rfl | later
      · exact ⟨_, digit⟩
      · exact ih later

theorem not_mem (has : HasDigits base digits n) {c : Char} (other : Text.digitIn? base c = none) :
    c ∉ digits := by
  intro inside
  obtain ⟨value, digit⟩ := has.exists_digit inside
  rw [other] at digit
  cases digit

theorem solid (has : HasDigits base digits n) : ∀ c ∈ digits, Text.isBlank c = false := by
  intro c inside
  obtain ⟨value, digit⟩ := has.exists_digit inside
  exact Text.not_isBlank_of_digitIn? digit

end HasDigits

end Number

/-! ## Words and codes -/

/-- The words for the shapes. -/
def Shape.words : List (String × Shape) :=
  [("VAR", .var), ("ARRAY", .array), ("ARR", .array), ("RECORD", .record), ("REC", .record)]

/-- The letters of these words. -/
def Shape.letters : List Char :=
  ['V', 'A', 'R', 'Y', 'E', 'C', 'O', 'D']

/-- The object code of a shape. -/
def Shape.code : Shape → Nat
  | .var => 7
  | .array => 8
  | .record => 9

namespace Schema

/-! ## Texts of numbers -/

section

variable {digits : List Char} {n : Nat}

end

/-! ## Blanks and letters -/

section

variable {front body behind : List Char}

end

/-! ## Shapes -/

end Schema

end Canopen
