import Canopen.Literal

/-!
# Reading spelled numbers

Numbers are spelled with decimal digits or with capital hexadecimal digits, padded to a width.
Reading the digits gives the number back, so different numbers are spelled differently.
-/

namespace Canopen

/-- What is found of every member of a list, one after the other, holds of all. -/
theorem forall_mem_of_all {α : Type} {p : α → Prop} [DecidablePred p] {list : List α}
    (all : list.all (fun item => decide (p item)) = true) : ∀ item ∈ list, p item :=
  fun item inside => of_decide_eq_true (List.all_eq_true.1 all item inside)

namespace Number

/-- The number that digits of a base spell, most significant first. -/
def spelled? (base : Base) (digits : List Char) : Option Nat :=
  (digits.mapM (Literal.digit? base)).map (ofDigitValues base.radix)

/-- The digits of hexadecimal constants and labels. -/
def capitalHexDigits : List Char :=
  ['0', '1', '2', '3', '4', '5', '6', '7', '8', '9', 'A', 'B', 'C', 'D', 'E', 'F']

theorem ofDigitValues_append_singleton (base : Nat) (values : List Nat) (last : Nat) :
    ofDigitValues base (values ++ [last]) = ofDigitValues base values * base + last := by
  rw [ofDigitValues, List.foldl_append]
  rfl

theorem spelled?_append_singleton {base : Base} {digits : List Char} {n value : Nat} {c : Char}
    (spelled : spelled? base digits = some n) (digit : Literal.digit? base c = some value) :
    spelled? base (digits ++ [c]) = some (n * base.radix + value) := by
  obtain ⟨values, read, rfl⟩ := Option.map_eq_some_iff.1 spelled
  rw [spelled?, List.mapM_append, read]
  simp [digit, ofDigitValues_append_singleton]

/-- Zeros in front do not change the number. -/
theorem spelled?_zero_cons (base : Base) (digits : List Char) :
    spelled? base ('0' :: digits) = spelled? base digits := by
  have zero : Literal.digit? base '0' = some 0 := by cases base <;> decide
  rw [spelled?, List.mapM_cons, zero]
  cases h : digits.mapM (Literal.digit? base) with
  | none => simp [spelled?, h]
  | some values => simp [spelled?, h, ofDigitValues]

theorem spelled?_padZeros (base : Base) (width : Nat) (digits : List Char) :
    spelled? base (padZeros width digits) = spelled? base digits := by
  unfold padZeros
  induction width - digits.length with
  | zero => rfl
  | succ count ih => rw [List.replicate_succ, List.cons_append, spelled?_zero_cons, ih]

/-- Digits written by any rule that the base understands are read back. -/
theorem spelled?_toDigits (base : Base) (write : Char → Char)
    (understood : ∀ n < base.radix, Literal.digit? base (write n.digitChar) = some n) (n : Nat) :
    spelled? base ((Nat.toDigits base.radix n).map write) = some n := by
  have several : 1 < base.radix := by cases base <;> decide
  induction n using Nat.strongRecOn with
  | ind n ih =>
      rw [Nat.toDigits_eq_if several]
      split
      · next small =>
        have empty : spelled? base [] = some 0 := rfl
        have read := spelled?_append_singleton empty (understood n small)
        rwa [Nat.zero_mul, Nat.zero_add] at read
      · next large =>
        have shorter := ih (n / base.radix) (Nat.div_lt_self (by omega) several)
        have last := understood (n % base.radix) (Nat.mod_lt n (by omega))
        rw [List.map_append, List.map_singleton, spelled?_append_singleton shorter last,
          Nat.mul_comm, Nat.div_add_mod]

theorem spelled?_decimalChars (n : Nat) : spelled? .decimal (decimalChars n) = some n := by
  have read := spelled?_toDigits .decimal id (by decide) n
  rwa [List.map_id] at read

theorem spelled?_paddedHexChars (width n : Nat) :
    spelled? .hexadecimal (paddedHexChars width n) = some n := by
  rw [paddedHexChars, spelled?_padZeros, hexChars]
  exact spelled?_toDigits .hexadecimal Char.toUpper (by decide) n

theorem paddedHexChars_injective {width first second : Nat}
    (same : paddedHexChars width first = paddedHexChars width second) : first = second := by
  have read := spelled?_paddedHexChars width first
  rw [same, spelled?_paddedHexChars] at read
  exact (Option.some.inj read).symm

/-- A number that fits the width is spelled with exactly so many digits. -/
theorem length_paddedHexChars {width n : Nat} (positive : 0 < width) (fits : n < Nat.pow 16 width) :
    (paddedHexChars width n).length = width := by
  have short : (hexChars n).length ≤ width := by
    rw [hexChars, List.length_map]
    exact (Nat.length_toDigits_le_iff (by decide) positive).2 fits
  rw [paddedHexChars, length_padZeros]
  omega

theorem mem_toDigits {base n : Nat} (several : 1 < base) {c : Char}
    (member : c ∈ Nat.toDigits base n) : ∃ digit < base, c = digit.digitChar := by
  induction n using Nat.strongRecOn with
  | ind n ih =>
      rw [Nat.toDigits_eq_if several] at member
      split at member
      · next small => exact ⟨n, small, List.mem_singleton.1 member⟩
      · next large =>
        rcases List.mem_append.1 member with earlier | last
        · exact ih (n / base) (Nat.div_lt_self (by omega) several) earlier
        · exact ⟨n % base, Nat.mod_lt n (by omega), List.mem_singleton.1 last⟩

theorem toUpper_digitChar_mem :
    ∀ digit < 16, (Nat.digitChar digit).toUpper ∈ capitalHexDigits := by
  decide

theorem mem_capitalHexDigits {width n : Nat} {c : Char} (member : c ∈ paddedHexChars width n) :
    c ∈ capitalHexDigits := by
  rcases List.mem_append.1 member with zero | digit
  · rw [List.eq_of_mem_replicate zero]
    decide
  · obtain ⟨small, written, rfl⟩ := List.mem_map.1 digit
    obtain ⟨value, bound, rfl⟩ := mem_toDigits (by decide) written
    exact toUpper_digitChar_mem value bound

/-- The digits are capital, as many as asked for, and spell the number. -/
structure CapitalHex (width n : Nat) (digits : List Char) : Prop where
  length : digits.length = width
  capital : ∀ c ∈ digits, c ∈ capitalHexDigits
  spells : spelled? .hexadecimal digits = some n

theorem capitalHex_paddedHexChars {width n : Nat} (positive : 0 < width)
    (fits : n < Nat.pow 16 width) : CapitalHex width n (paddedHexChars width n) where
  length := length_paddedHexChars positive fits
  capital _ member := mem_capitalHexDigits member
  spells := spelled?_paddedHexChars width n

theorem isDigit_of_mem_decimalChars {n : Nat} {c : Char} (member : c ∈ decimalChars n) :
    c.isDigit = true :=
  Nat.isDigit_of_mem_toDigits (by decide) (by decide) member

end Number

end Canopen
