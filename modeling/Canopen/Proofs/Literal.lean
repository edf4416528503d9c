import Mathlib.Data.Int.ModEq
import Canopen.Literal

/-!
# Readings of literals

A literal spells a number.  Read with a sign in so many bits, a decimal literal means the number
that it spells and has to be in range, while any other literal is a bit pattern of the full width and
means the signed number that has this pattern.
-/

namespace Canopen.Literal

variable {base : Base} {bits : Nat} {text : List Char}

/-- The number is a signed one of so many bits. -/
def FitsSigned (bits : Nat) (number : Int) : Prop :=
  -2 ^ (bits - 1) ≤ number ∧ number < 2 ^ (bits - 1)

/-- The number is one without sign of so many bits. -/
def FitsUnsigned (bits : Nat) (number : Int) : Prop :=
  0 ≤ number ∧ number < 2 ^ bits

instance (bits : Nat) (number : Int) : Decidable (FitsSigned bits number) :=
  inferInstanceAs (Decidable (_ ∧ _))

instance (bits : Nat) (number : Int) : Decidable (FitsUnsigned bits number) :=
  inferInstanceAs (Decidable (_ ∧ _))

theorem FitsUnsigned.toNat_lt {number : Int} (fits : FitsUnsigned bits number) :
    number.toNat < 2 ^ bits :=
  (Int.toNat_lt fits.1).2 (by exact_mod_cast fits.2)

/-- A spelled number, read with a sign in so many bits. -/
inductive ReadsSigned (base : Base) (bits : Nat) (number : Int) : Int → Prop where
  | decimal (carriesSign : base = .decimal) (fits : FitsSigned bits number) :
      ReadsSigned base bits number number
  | pattern {value : Int} (noSign : base ≠ .decimal) (short : number < 2 ^ bits)
      (fits : FitsSigned bits value) (same : value ≡ number [ZMOD 2 ^ bits]) :
      ReadsSigned base bits number value

/-- The bits of a literal suffice to be read, with or without a sign. -/
def FitsReading (signed : Bool) (base : Base) (bits : Nat) (number : Int) : Prop :=
  if signed then
    if base = .decimal then FitsSigned bits number else number < 2 ^ bits
  else FitsUnsigned bits number

/-- Half of the patterns have no sign. -/
theorem two_pow_eq (positive : 0 < bits) : (2 : Int) ^ bits = 2 * 2 ^ (bits - 1) := by
  rw [← pow_succ', Nat.sub_add_cancel positive]

/-- A bit pattern has one signed number. -/
theorem FitsSigned.eq_of_modEq (positive : 0 < bits) {first second : Int}
    (fits : FitsSigned bits first) (other : FitsSigned bits second)
    (same : first ≡ second [ZMOD 2 ^ bits]) : first = second := by
  have double := two_pow_eq positive
  have close : |second - first| < 2 ^ bits := by
    obtain ⟨low, high⟩ := fits
    obtain ⟨low', high'⟩ := other
    rw [abs_lt]
    omega
  have equal := Int.eq_zero_of_abs_lt_dvd same.dvd close
  omega

/-- A number is read in one way. -/
theorem ReadsSigned.unique (positive : 0 < bits) {number first second : Int}
    (reads : ReadsSigned base bits number first) (other : ReadsSigned base bits number second) :
    first = second := by
  cases reads with
  | decimal decimal _ =>
      cases other with
      | decimal => rfl
      | pattern noSign => exact absurd decimal noSign
  | pattern noSign _ fits same =>
      cases other with
      | decimal decimal => exact absurd decimal noSign
      | pattern _ _ fits' same' =>
          exact fits.eq_of_modEq positive fits' (same.trans same'.symm)

/-- Without a sign, digits spell no number below zero. -/
theorem nonneg_of_integer {number : Int} (noSign : base ≠ .decimal)
    (spelled : integer base text = .ok number) : 0 ≤ number := by
  have positive {digits : List Char}
      (spelled : (magnitude base text digits).map Int.ofNat = .ok number) : 0 ≤ number := by
    cases size : magnitude base text digits with
    | error _ =>
        rw [size] at spelled
        cases spelled
    | ok size' =>
        rw [size] at spelled
        cases spelled
        exact Int.natCast_nonneg size'
  unfold integer at spelled
  split at spelled
  · exact absurd rfl noSign
  · exact absurd rfl noSign
  · exact positive spelled
  · exact positive spelled
  · exact positive spelled

/-- The signed reading of a literal that spells a number. -/
theorem signed_of_integer {number : Int} (spelled : integer base text = .ok number) :
    signed base bits text =
      if base = .decimal then
        if FitsSigned bits number then .ok number else .error (.outOfSigned text bits)
      else if 2 ^ bits ≤ number then .error (.outOfSigned text bits)
      else if 2 ^ (bits - 1) ≤ number then .ok (number - 2 ^ bits)
      else .ok number := by
  simp [signed, spelled, bind, Except.bind, FitsSigned]
  rfl

theorem unsigned_of_integer {number : Int} (spelled : integer base text = .ok number) :
    unsigned base bits text =
      if FitsUnsigned bits number then .ok number.toNat
      else .error (.outOfUnsigned text bits) := by
  simp [unsigned, spelled, bind, Except.bind, FitsUnsigned]
  rfl

/-- A spelled number that fits is read without sign. -/
theorem unsigned_of_fits {number : Int} (spelled : integer base text = .ok number)
    (fits : FitsUnsigned bits number) : unsigned base bits text = .ok number.toNat := by
  rw [unsigned_of_integer spelled, if_pos fits]

/-- A bit pattern that is short enough has a signed number. -/
theorem exists_pattern (positive : 0 < bits) {number : Int} (noSign : base ≠ .decimal)
    (spelled : integer base text = .ok number) (short : number < 2 ^ bits) :
    ∃ value, signed base bits text = .ok value ∧ ReadsSigned base bits number value := by
  have double := two_pow_eq positive
  have natural := nonneg_of_integer noSign spelled
  rw [signed_of_integer spelled, if_neg noSign, if_neg (not_le.2 short)]
  split
  · next negative =>
    have same : number - 2 ^ bits ≡ number [ZMOD 2 ^ bits] :=
      Int.modEq_iff_dvd.2 ⟨1, by omega⟩
    exact ⟨_, rfl, .pattern noSign short ⟨by omega, by omega⟩ same⟩
  · next positive =>
    exact ⟨_, rfl, .pattern noSign short ⟨by omega, by omega⟩ rfl⟩

/-- The signed reading of a spelled number is the one that it has. -/
theorem signed_eq_ok_iff_reads (positive : 0 < bits) {number value : Int}
    (spelled : integer base text = .ok number) :
    signed base bits text = .ok value ↔ ReadsSigned base bits number value := by
  by_cases decimal : base = .decimal
  · rw [signed_of_integer spelled, if_pos decimal]
    constructor
    · intro read
      split at read
      · next fits =>
        cases read
        exact .decimal decimal fits
      · cases read
    · rintro (⟨-, fits⟩ | ⟨noSign, -, -, -⟩)
      · exact if_pos fits
      · exact absurd decimal noSign
  · by_cases short : number < 2 ^ bits
    · obtain ⟨read, done, reads⟩ := exists_pattern positive decimal spelled short
      rw [done]
      constructor
      · rintro ⟨⟩
        exact reads
      · intro other
        rw [reads.unique positive other]
    · rw [signed_of_integer spelled, if_neg decimal, if_pos (not_lt.1 short)]
      constructor
      · rintro ⟨⟩
      · rintro (⟨carriesSign, -⟩ | ⟨-, short', -, -⟩)
        · exact absurd carriesSign decimal
        · exact absurd short' short

/-- The signed reading of a literal is that of the number it spells. -/
theorem signed_eq_ok_iff (positive : 0 < bits) {value : Int} :
    signed base bits text = .ok value ↔
      ∃ number, integer base text = .ok number ∧ ReadsSigned base bits number value := by
  cases spelled : integer base text with
  | error error => simp [signed, spelled, bind, Except.bind]
  | ok number => simp [signed_eq_ok_iff_reads positive spelled]

/-- The reading of a literal without sign is the number it spells, if that fits. -/
theorem unsigned_eq_ok_iff {value : Nat} :
    unsigned base bits text = .ok value ↔
      integer base text = .ok (value : Int) ∧ FitsUnsigned bits value := by
  cases spelled : integer base text with
  | error error => simp [unsigned, spelled, bind, Except.bind]
  | ok number =>
      rw [unsigned_of_integer spelled]
      constructor
      · intro read
        split at read
        · next fits =>
          cases read
          rw [Int.toNat_of_nonneg fits.1]
          exact ⟨rfl, fits⟩
        · cases read
      · rintro ⟨same, fits⟩
        cases same
        exact if_pos fits

/-- A spelled number has a signed reading when it fits. -/
theorem exists_reads_iff (positive : 0 < bits) {number : Int}
    (spelled : integer base text = .ok number) :
    (∃ value, ReadsSigned base bits number value) ↔ FitsReading true base bits number := by
  by_cases decimal : base = .decimal
  · rw [FitsReading, if_pos rfl, if_pos decimal]
    constructor
    · rintro ⟨value, ⟨-, fits⟩ | ⟨noSign, -, -, -⟩⟩
      · exact fits
      · exact absurd decimal noSign
    · intro fits
      exact ⟨number, .decimal decimal fits⟩
  · rw [FitsReading, if_pos rfl, if_neg decimal]
    constructor
    · rintro ⟨value, ⟨carriesSign, -⟩ | ⟨-, short, -, -⟩⟩
      · exact absurd carriesSign decimal
      · exact short
    · intro short
      obtain ⟨value, -, reads⟩ := exists_pattern positive decimal spelled short
      exact ⟨value, reads⟩

theorem two_pow_le_half {width : Nat} (narrow : width < bits) :
    (2 : Int) ^ width ≤ 2 ^ (bits - 1) := by
  have shorter : width ≤ bits - 1 := by omega
  exact_mod_cast Nat.pow_le_pow_right (by decide : 0 < 2) shorter

/-- In fewer bits than the reading has there is no difference between the number that is spelled and
the one that is read: a pattern with its highest bit set is too large, and so is its number. -/
theorem ReadsSigned.fitsUnsigned_iff {width : Nat} (narrow : width < bits) {number value : Int}
    (natural : base ≠ .decimal → 0 ≤ number) (reads : ReadsSigned base bits number value) :
    (FitsUnsigned width value ↔ FitsUnsigned width number) ∧
      (FitsUnsigned width number → value = number) := by
  cases reads with
  | decimal => exact ⟨Iff.rfl, fun _ => rfl⟩
  | pattern noSign short fits same =>
      have positive : 0 < bits := by omega
      have half := two_pow_le_half narrow
      have whole := two_pow_eq positive
      have fromNumber : FitsUnsigned width number → value = number := fun small => by
        obtain ⟨_, _⟩ := small
        exact fits.eq_of_modEq positive ⟨by omega, by omega⟩ same
      have fromValue : FitsUnsigned width value → number = value := fun small => by
        have close : |number - value| < 2 ^ bits := by
          have := natural noSign
          obtain ⟨_, _⟩ := small
          rw [abs_lt]
          omega
        have equal := Int.eq_zero_of_abs_lt_dvd same.dvd close
        omega
      refine ⟨⟨fun small => ?_, fun small => ?_⟩, fromNumber⟩
      · rwa [fromValue small]
      · rwa [fromNumber small]

/-- A number without sign of fewer bits can always be read. -/
theorem FitsUnsigned.fitsReading {width : Nat} (narrow : width < bits) {number : Int}
    (fits : FitsUnsigned width number) (signed : Bool) (base : Base) :
    FitsReading signed base bits number := by
  obtain ⟨natural, small⟩ := fits
  have half := two_pow_le_half narrow
  have whole : (2 : Int) ^ bits = 2 * 2 ^ (bits - 1) := two_pow_eq (by omega)
  unfold FitsReading
  split
  · split
    · exact ⟨by omega, by omega⟩
    · omega
  · exact ⟨natural, by omega⟩

end Canopen.Literal
