import Canopen.Proofs.Number.Spelling
import Canopen.Proofs.Text.Trim
import Canopen.Number.Numeral

/-!
# Hexadecimal numerals

Padded hexadecimal digits behind the mark of their base are a numeral, and it stands for the number
that was written.  A sign behind the mark is no part of a numeral.
-/

namespace Canopen.Number

/-- Digits without underscores are read one by one. -/
theorem digitValues_of_plain {base : Nat} {digits : List Char} (some : digits ≠ [])
    (plain : '_' ∉ digits) : digitValues base digits = digits.mapM (Text.digitIn? base) := by
  induction digits with
  | nil => exact absurd rfl some
  | cons first rest ih =>
      cases rest with
      | nil => cases read : Text.digitIn? base first <;> simp [digitValues, read]
      | cons second later =>
          have other : second ≠ '_' := by
            rintro rfl
            exact plain (List.mem_cons_of_mem _ List.mem_cons_self)
          have behind := ih (List.cons_ne_nil _ _) fun inside =>
            plain (List.mem_cons_of_mem _ inside)
          rw [digitValues, behind]
          · simp [List.mapM_cons]
          · simp
          · intro _ same
            exact other (List.cons.inj same).1

/-- Both readers of digits agree on the digits that are written. -/
theorem digitIn?_capital :
    ∀ c ∈ capitalHexDigits, Text.digitIn? 16 c = Literal.digit? .hexadecimal c :=
  forall_mem_of_all rfl

theorem isSome_digitIn?_capital :
    ∀ c ∈ capitalHexDigits, (Text.digitIn? 16 c).isSome = true :=
  forall_mem_of_all rfl

theorem not_isBlank_capital : ∀ c ∈ capitalHexDigits, Text.isBlank c = false :=
  forall_mem_of_all rfl

theorem mapM_congr_option {α β : Type} {f g : α → Option β} {list : List α}
    (same : ∀ item ∈ list, f item = g item) : list.mapM f = list.mapM g := by
  induction list with
  | nil => rfl
  | cons first rest ih =>
      rw [List.mapM_cons, List.mapM_cons, same first List.mem_cons_self,
        ih fun item inside => same item (List.mem_cons_of_mem _ inside)]

theorem mapM_eq_some_map {α β : Type} {f : α → Option β} {g : α → β} {list : List α}
    (each : ∀ item ∈ list, f item = some (g item)) : list.mapM f = some (list.map g) :=
  (mapM_congr_option each).trans List.mapM_pure

theorem paddedHexChars_ne_nil {width n : Nat} : paddedHexChars width n ≠ [] := by
  intro none
  have read := spelled?_paddedHexChars width n
  have digits : (hexChars n) ≠ [] := by
    rw [hexChars, Ne, List.map_eq_nil_iff]
    exact Nat.toDigits_ne_nil
  rw [paddedHexChars, padZeros, List.append_eq_nil_iff] at none
  exact digits none.2

/-- Written digits are read back. -/
theorem digitValues_paddedHexChars (width n : Nat) :
    ∃ values, digitValues 16 (paddedHexChars width n) = some values ∧
      ofDigitValues 16 values = n := by
  have plain : '_' ∉ paddedHexChars width n := fun inside =>
    absurd (mem_capitalHexDigits inside) (by decide)
  have same := mapM_congr_option fun c (inside : c ∈ paddedHexChars width n) =>
    digitIn?_capital c (mem_capitalHexDigits inside)
  rw [digitValues_of_plain paddedHexChars_ne_nil plain, same]
  exact Option.map_eq_some_iff.1 (spelled?_paddedHexChars width n)

/-- The mark of the base in front of digits is dropped. -/
theorem dropBaseMark_hex {text : List Char} (plain : text.head? ≠ some '_') :
    dropBaseMark 16 ('0' :: 'x' :: text) = text := by
  have marked : Text.decimalDigit? '0' = some 0 ∧ 'x' ∈ baseMarks 16 := by decide
  rw [dropBaseMark, if_pos marked]
  rintro digits rfl
  exact plain rfl

theorem unsignedNumeral_paddedHexChars (width n : Nat) :
    unsignedNumeral 16 ('0' :: 'x' :: paddedHexChars width n) = .ok n := by
  have plain : (paddedHexChars width n).head? ≠ some '_' := fun first =>
    absurd (mem_capitalHexDigits (List.mem_of_head? first)) (by decide)
  have all : (paddedHexChars width n).takeWhile (isDigitOrUnderscore 16) =
      paddedHexChars width n := by
    refine List.takeWhile_eq_self_iff.2 fun c inside => ?_
    rw [isDigitOrUnderscore, isSome_digitIn?_capital c (mem_capitalHexDigits inside),
      Bool.or_true]
  obtain ⟨values, read, number⟩ := digitValues_paddedHexChars width n
  have binary : (!isBinaryBase 16 && decide (longestDecimal < values.length)) = false := by
    rw [show isBinaryBase 16 = true from rfl]
    rfl
  unfold unsignedNumeral
  simp only [dropBaseMark_hex plain, all, read, number, binary]
  simp

/-- A sign behind the mark of the base is not understood. -/
theorem unsignedNumeral_signed (digits : List Char) :
    unsignedNumeral 16 ('0' :: 'x' :: '-' :: digits) = .error .malformed := by
  have plain : ('-' :: digits).head? ≠ some '_' := by simp
  have none : ('-' :: digits).takeWhile (isDigitOrUnderscore 16) = [] :=
    List.takeWhile_cons_of_neg (by decide)
  unfold unsignedNumeral
  simp only [dropBaseMark_hex plain, none]
  rfl

/-- Nothing is trimmed off a text that begins with a zero and ends with digits. -/
theorem trimmed_digits {kind : Char → Bool} (solid : ∀ c, Text.isBlank c = false → kind c = false)
    (front : List Char) (width n : Nat) :
    Text.Trimmed kind ('0' :: front ++ paddedHexChars width n) where
  first c first := by
    cases first
    exact solid '0' (by decide)
  last c last := by
    rw [List.getLast?_append_of_ne_nil _ paddedHexChars_ne_nil] at last
    exact solid c (not_isBlank_capital c (mem_capitalHexDigits (List.mem_of_getLast? last)))

end Canopen.Number
