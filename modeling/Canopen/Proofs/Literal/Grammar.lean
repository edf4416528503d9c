import Mathlib.Data.Nat.Digits.Defs
import Canopen.Proofs.Number.Numeral

/-!
# The grammar of integer literals

A literal is made of hexadecimal digits behind their mark, with suffix letters at the end; of octal
digits behind a zero; or of decimal digits, with or without a sign.  It spells the value that its
digits have by their places.  Reading takes all these literals and refuses everything else, but for
one thing: suffix letters are dropped wherever they stand, so that hexadecimal digits are also read
with such letters between them.
-/

namespace Canopen

/-- The characters that are digits of the base. -/
def Base.digits : Base → List Char
  | octal => ['0', '1', '2', '3', '4', '5', '6', '7']
  | decimal => ['0', '1', '2', '3', '4', '5', '6', '7', '8', '9']
  | hexadecimal =>
      ['0', '1', '2', '3', '4', '5', '6', '7', '8', '9', 'a', 'b', 'c', 'd', 'e', 'f',
        'A', 'B', 'C', 'D', 'E', 'F']

namespace Literal

variable {base : Base} {text digits : List Char} {number : Int}

/-! ## Digits -/

/-- The value of a digit; its letter may have either case. -/
def digitValue (c : Char) : Nat :=
  ['0', '1', '2', '3', '4', '5', '6', '7', '8', '9', 'a', 'b', 'c', 'd', 'e', 'f'].idxOf c.toLower

theorem digit?_of_mem : ∀ c ∈ base.digits, digit? base c = some (digitValue c) := by
  cases base <;> exact forall_mem_of_all rfl

/-- Digits stand in three rows of characters. -/
theorem toNat_of_asciiDigit? {c : Char} {value : Nat} (digit : asciiDigit? c = some value) :
    (c.toNat = 48 + value ∧ value < 10) ∨
      (10 ≤ value ∧ (c.toNat = 87 + value ∨ c.toNat = 55 + value)) := by
  rw [asciiDigit?] at digit
  split at digit
  · next row =>
    have least : 48 ≤ c.toNat := row.1
    have most : c.toNat ≤ 57 := row.2
    cases digit
    left
    constructor <;> simp <;> omega
  · rw [Text.letterDigit?] at digit
    split at digit
    · next row =>
      have least : 97 ≤ c.toNat := row.1
      cases digit
      right
      constructor <;> simp
      omega
    · split at digit
      · next row =>
        have least : 65 ≤ c.toNat := row.1
        cases digit
        right
        constructor <;> simp
        omega
      · cases digit

theorem mem_digits_of_digit? {c : Char} {value : Nat} (digit : digit? base c = some value) :
    c ∈ base.digits := by
  have small := digit?_lt digit
  have rows : ∀ value < base.radix,
      (value < 10 → Char.ofNat (48 + value) ∈ base.digits) ∧
        (10 ≤ value → Char.ofNat (87 + value) ∈ base.digits ∧
          Char.ofNat (55 + value) ∈ base.digits) := by
    cases base <;> decide
  have ascii : asciiDigit? c = some value := by
    rw [digit?] at digit
    split at digit
    · split at digit
      · next found _ => rw [found, digit]
      · cases digit
    · cases digit
  obtain ⟨first, others⟩ := rows value small
  rw [← Char.ofNat_toNat c]
  rcases toNat_of_asciiDigit? ascii with ⟨code, row⟩ | ⟨row, code | code⟩
  · exact code ▸ first row
  · exact code ▸ (others row).1
  · exact code ▸ (others row).2

/-- Reading digits succeeds on digits of the base, and gives their values. -/
theorem mapM_digit?_eq_some_iff {values : List Nat} :
    digits.mapM (digit? base) = some values ↔
      (∀ c ∈ digits, c ∈ base.digits) ∧ values = digits.map digitValue := by
  constructor
  · intro read
    have plain : ∀ c ∈ digits, c ∈ base.digits := by
      induction digits generalizing values with
      | nil => exact List.forall_mem_nil _
      | cons c rest ih =>
          rw [List.mapM_cons] at read
          obtain ⟨value, first, later⟩ := Option.bind_eq_some_iff.1 read
          obtain ⟨others, behind, _⟩ := Option.bind_eq_some_iff.1 later
          exact List.forall_mem_cons.2 ⟨mem_digits_of_digit? first, ih behind⟩
    have same := Number.mapM_eq_some_map fun c inside => digit?_of_mem c (plain c inside)
    rw [read] at same
    exact ⟨plain, Option.some.inj same⟩
  · rintro ⟨plain, rfl⟩
    exact Number.mapM_eq_some_map fun c inside => digit?_of_mem c (plain c inside)

theorem ofDigitValues_eq (radix : Nat) (values : List Nat) :
    Number.ofDigitValues radix values = Nat.ofDigits radix values.reverse := by
  rw [Nat.ofDigits_eq_foldr, List.foldr_reverse, Number.ofDigitValues]
  congr 1
  funext total value
  rw [Nat.cast_id, Nat.mul_comm, Nat.add_comm]

/-! ## Literals -/

/-- Digits of the base, and the number that they have by their places. -/
structure IsNumeral (base : Base) (digits : List Char) (n : Nat) : Prop where
  filled : digits ≠ []
  plain : ∀ c ∈ digits, c ∈ base.digits
  value : n = Nat.ofDigits base.radix (digits.map digitValue).reverse

theorem isNumeral_of_spelled {n : Nat} (filled : digits ≠ [])
    (spelled : Number.spelled? base digits = some n) : IsNumeral base digits n := by
  obtain ⟨values, read, rfl⟩ := Option.map_eq_some_iff.1 spelled
  obtain ⟨plain, rfl⟩ := mapM_digit?_eq_some_iff.1 read
  exact ⟨filled, plain, ofDigitValues_eq _ _⟩

/-- The letters that may end a hexadecimal literal. -/
def suffixLetters : List Char :=
  ['U', 'u', 'L', 'l']

/-- The letters that mark a hexadecimal literal. -/
def hexadecimalMarks : List Char :=
  ['x', 'X']

/-- The literals, and the numbers that they spell. -/
inductive Spells : List Char → Int → Prop where
  | hexadecimal {mark : Char} {digits suffix : List Char} {n : Nat}
      (marked : mark ∈ hexadecimalMarks) (numeral : IsNumeral .hexadecimal digits n)
      (letters : ∀ c ∈ suffix, c ∈ suffixLetters) :
      Spells ('0' :: mark :: (digits ++ suffix)) n
  | octal {digits : List Char} {n : Nat} (filled : digits ≠ [])
      (numeral : IsNumeral .octal ('0' :: digits) n) : Spells ('0' :: digits) n
  | decimal {digits : List Char} {n : Nat} (numeral : IsNumeral .decimal digits n)
      (short : digits.length ≤ 4300)
      (other : ∀ c rest, digits = '0' :: c :: rest → c ∉ Base.octal.digits) : Spells digits n
  | positive {digits : List Char} {n : Nat} (numeral : IsNumeral .decimal digits n)
      (short : digits.length ≤ 4300) : Spells ('+' :: digits) n
  | negative {digits : List Char} {n : Nat} (numeral : IsNumeral .decimal digits n)
      (short : digits.length ≤ 4300) : Spells ('-' :: digits) (-n)

/-- What a text is read as, in the base that it shows. -/
def reading (text : List Char) : Except LiteralError Int :=
  integer (detectBase text).2 (detectBase text).1

/-- The texts that are read, and the numbers that they are read as.  These are the literals, and
hexadecimal digits with a suffix letter in front of some of them. -/
inductive Reads : List Char → Int → Prop where
  | literal {text : List Char} {number : Int} (spells : Spells text number) : Reads text number
  | lettered {mark letter : Char} {front behind : List Char} {n : Nat}
      (marked : mark ∈ hexadecimalMarks) (among : letter ∈ suffixLetters)
      (digit : ∃ c ∈ behind, c ∈ Base.hexadecimal.digits)
      (numeral : IsNumeral .hexadecimal
        ((front ++ letter :: behind).filter (· ∉ suffixLetters)) n) :
      Reads ('0' :: mark :: (front ++ letter :: behind)) n

/-! ## Reading digits -/

/-- Digits without mark and sign are read as the number that they have. -/
theorem magnitude_eq_ok_iff {n : Nat} :
    magnitude base text digits = .ok n ↔
      IsNumeral base digits n ∧ (base = .decimal → digits.length ≤ 4300) := by
  constructor
  · intro read
    rw [magnitude] at read
    split at read
    · cases read
    · cases read
    · next values filled found =>
      obtain ⟨plain, rfl⟩ := mapM_digit?_eq_some_iff.1 found
      split at read
      · cases read
      · next short =>
        cases read
        refine ⟨⟨?_, plain, ofDigitValues_eq _ _⟩, fun decimal => ?_⟩
        · rintro rfl
          exact filled rfl
        · rw [List.length_map, not_and] at short
          exact not_lt.1 (short decimal)
  · rintro ⟨⟨filled, plain, rfl⟩, short⟩
    have found := mapM_digit?_eq_some_iff.2 ⟨plain, rfl⟩
    cases digits with
    | nil => exact absurd rfl filled
    | cons first rest =>
        have few : ¬ (base = .decimal ∧
            Number.longestDecimal < ((first :: rest).map digitValue).length) := by
          rintro ⟨decimal, long⟩
          rw [List.length_map] at long
          exact absurd (short decimal) (not_le.2 long)
        rw [magnitude, found, ← ofDigitValues_eq]
        exact if_neg few

theorem map_eq_ok_iff {α β : Type} {result : Except LiteralError α} {f : α → β} {value : β} :
    result.map f = .ok value ↔ ∃ origin, result = .ok origin ∧ value = f origin := by
  cases result with
  | error _ => simp [Except.map]
  | ok origin => simp [Except.map, eq_comm]

theorem map_neg_eq_ok_iff {result : Except LiteralError Nat} :
    (result.map fun n => -(n : Int)) = .ok number ↔ ∃ n : Nat, result = .ok n ∧ number = -n := by
  cases result with
  | error _ => simp [Except.map, bind, Except.bind]
  | ok n => simp [Except.map, bind, Except.bind, pure, Except.pure, eq_comm]

theorem not_isNumeral_cons {c : Char} (other : c ∉ base.digits) (rest : List Char) (n : Nat) :
    ¬ IsNumeral base (c :: rest) n :=
  fun numeral => other (numeral.plain c List.mem_cons_self)

/-! ## Bases -/

theorem isSuffixLetter_eq (c : Char) : isSuffixLetter c = decide (c ∈ suffixLetters) := by
  simp [isSuffixLetter, suffixLetters, Bool.or_assoc]

theorem isSome_digit? (c : Char) : (digit? base c).isSome = decide (c ∈ base.digits) := by
  by_cases plain : c ∈ base.digits
  · rw [digit?_of_mem c plain, decide_eq_true plain]
    rfl
  · rw [decide_eq_false plain, Option.isSome_eq_false_iff, Option.isNone_iff_eq_none]
    exact Option.eq_none_iff_forall_ne_some.2 fun _ digit => plain (mem_digits_of_digit? digit)

theorem looksHexadecimal_cons {mark : Char} (marked : mark ∈ hexadecimalMarks) (c : Char)
    (rest : List Char) :
    looksHexadecimal ('0' :: mark :: c :: rest) =
      decide (c ∈ Base.hexadecimal.digits ∨ c ∈ suffixLetters) := by
  have shown : (decide (mark = 'x') || decide (mark = 'X')) = true := by
    simpa [hexadecimalMarks] using marked
  rw [looksHexadecimal, shown, isSome_digit?, isSuffixLetter_eq, Bool.true_and, Bool.decide_or]

theorem looksOctal_cons (c : Char) (rest : List Char) :
    looksOctal ('0' :: c :: rest) = decide (c ∈ Base.octal.digits) := by
  rw [looksOctal, isSome_digit?]

theorem looksHexadecimal_eq_false
    (other : ∀ mark body, text = '0' :: mark :: body → mark ∉ hexadecimalMarks) :
    looksHexadecimal text = false := by
  unfold looksHexadecimal
  split
  · next mark c rest =>
    have unmarked := other mark (c :: rest) rfl
    simp only [hexadecimalMarks, List.mem_cons, List.not_mem_nil, or_false, not_or] at unmarked
    simp [unmarked]
  · rfl

theorem looksOctal_eq_false (other : ∀ c rest, text = '0' :: c :: rest → c ∉ Base.octal.digits) :
    looksOctal text = false := by
  unfold looksOctal
  split
  · next c rest => rw [isSome_digit?, decide_eq_false (other c rest rfl)]
  · rfl

/-- What shows no other base is decimal. -/
theorem reading_eq_decimal (unmarked : looksHexadecimal text = false)
    (other : looksOctal text = false) : reading text = integer .decimal text := by
  simp [reading, detectBase, unmarked, other]

/-- A sign is no digit. -/
theorem sign_other : '-' ∉ Base.decimal.digits ∧ '+' ∉ Base.decimal.digits := by
  decide

/-- Decimal digits are read behind a sign or without one. -/
theorem integer_decimal_eq_ok_iff :
    integer .decimal text = .ok number ↔
      ∃ digits, ∃ n : Nat, IsNumeral .decimal digits n ∧ digits.length ≤ 4300 ∧
        ((text = '-' :: digits ∧ number = -n) ∨
          ((text = '+' :: digits ∨ text = digits) ∧ number = n)) := by
  have digitsOf {text digits : List Char} {n : Nat}
      (read : magnitude .decimal text digits = .ok n) :
      IsNumeral .decimal digits n ∧ digits.length ≤ 4300 := by
    obtain ⟨numeral, short⟩ := magnitude_eq_ok_iff.1 read
    exact ⟨numeral, short rfl⟩
  constructor
  · intro read
    unfold integer at read
    split at read
    · obtain ⟨n, size, same⟩ := map_neg_eq_ok_iff.1 read
      obtain ⟨numeral, short⟩ := digitsOf size
      exact ⟨_, n, numeral, short, .inl ⟨rfl, same⟩⟩
    · obtain ⟨n, size, same⟩ := map_eq_ok_iff.1 read
      obtain ⟨numeral, short⟩ := digitsOf size
      exact ⟨_, n, numeral, short, .inr ⟨.inl rfl, same⟩⟩
    · next hexadecimal => cases hexadecimal
    · next hexadecimal => cases hexadecimal
    · obtain ⟨n, size, same⟩ := map_eq_ok_iff.1 read
      obtain ⟨numeral, short⟩ := digitsOf size
      exact ⟨_, n, numeral, short, .inr ⟨.inr rfl, same⟩⟩
  · rintro ⟨digits, n, numeral, short, signed⟩
    have size (text : List Char) : magnitude .decimal text digits = .ok n :=
      magnitude_eq_ok_iff.2 ⟨numeral, fun _ => short⟩
    rcases signed with ⟨rfl, rfl⟩ | ⟨rfl | rfl, rfl⟩
    · exact map_neg_eq_ok_iff.2 ⟨n, size _, rfl⟩
    · exact map_eq_ok_iff.2 ⟨n, size _, rfl⟩
    · unfold integer
      split
      · exact absurd numeral (not_isNumeral_cons sign_other.1 _ _)
      · exact absurd numeral (not_isNumeral_cons sign_other.2 _ _)
      · next hexadecimal => cases hexadecimal
      · next hexadecimal => cases hexadecimal
      · exact map_eq_ok_iff.2 ⟨n, size _, rfl⟩

/-! ## Hexadecimal literals -/

/-- A mark is no digit of another base, no suffix letter and no sign. -/
theorem mark_other : ∀ mark ∈ hexadecimalMarks,
    mark ∉ Base.decimal.digits ∧ mark ∉ Base.octal.digits ∧ mark ∉ suffixLetters :=
  forall_mem_of_all rfl

/-- Behind a mark, suffix letters are dropped and the digits that are left are read. -/
theorem reading_marked {mark : Char} (marked : mark ∈ hexadecimalMarks) (body : List Char) :
    reading ('0' :: mark :: body) = .ok number ↔
      ∃ n : Nat, IsNumeral .hexadecimal (body.filter (· ∉ suffixLetters)) n ∧ number = n := by
  obtain ⟨notDecimal, notOctal, notLetter⟩ := mark_other mark marked
  cases shown : looksHexadecimal ('0' :: mark :: body) with
  | true =>
      have kept : ('0' :: mark :: body).filter (!isSuffixLetter ·) =
          '0' :: mark :: body.filter (· ∉ suffixLetters) := by
        have zero : '0' ∉ suffixLetters := by decide
        simp [isSuffixLetter_eq, zero, notLetter]
      have read : reading ('0' :: mark :: body) =
          (magnitude .hexadecimal ('0' :: mark :: body.filter (· ∉ suffixLetters))
            (body.filter (· ∉ suffixLetters))).map Int.ofNat := by
        simp only [reading, detectBase, shown, kept]
        simp only [hexadecimalMarks, List.mem_cons, List.not_mem_nil, or_false] at marked
        rcases marked with rfl | rfl <;> rfl
      rw [read, map_eq_ok_iff]
      refine exists_congr fun n => ?_
      rw [magnitude_eq_ok_iff]
      simp
  | false =>
      -- the text is taken for a decimal one, and its mark is no digit
      have leading : looksOctal ('0' :: mark :: body) = false := by
        rw [looksOctal_cons, decide_eq_false notOctal]
      rw [reading_eq_decimal shown leading, integer_decimal_eq_ok_iff]
      refine iff_of_false ?_ ?_
      · rintro ⟨digits, n, numeral, -, ⟨⟨⟩, -⟩ | ⟨⟨⟨⟩⟩ | rfl, -⟩⟩
        exact notDecimal (numeral.plain mark (by simp))
      · rintro ⟨n, numeral, -⟩
        cases body with
        | nil => exact numeral.filled rfl
        | cons c rest =>
            rw [looksHexadecimal_cons marked, decide_eq_false_iff_not, not_or] at shown
            refine shown.1 (numeral.plain c ?_)
            exact List.mem_filter.2 ⟨List.mem_cons_self, by simp [shown.2]⟩

/-- A suffix letter is no digit. -/
theorem not_mem_suffixLetters : ∀ c ∈ Base.hexadecimal.digits, c ∉ suffixLetters :=
  forall_mem_of_all rfl

/-- A text ends in suffix letters from its first one on, or another character comes later. -/
theorem exists_suffix (body : List Char) :
    ∃ front rest, body = front ++ rest ∧ (∀ c ∈ front, c ∉ suffixLetters) ∧
      ((∀ c ∈ rest, c ∈ suffixLetters) ∨
        ∃ letter behind, rest = letter :: behind ∧ letter ∈ suffixLetters ∧
          ∃ c ∈ behind, c ∉ suffixLetters) := by
  refine ⟨body.takeWhile (· ∉ suffixLetters), body.dropWhile (· ∉ suffixLetters),
    List.takeWhile_append_dropWhile.symm, ?_, ?_⟩
  · intro c inside
    exact of_decide_eq_true (List.mem_takeWhile_imp (p := (· ∉ suffixLetters)) inside)
  · cases rest : body.dropWhile (· ∉ suffixLetters) with
    | nil => exact .inl (List.forall_mem_nil _)
    | cons letter behind =>
        have among : letter ∈ suffixLetters := by
          have stopped := List.head?_dropWhile_not (· ∉ suffixLetters) body
          rw [rest] at stopped
          simpa using stopped
        by_cases ending : ∀ c ∈ behind, c ∈ suffixLetters
        · exact .inl (List.forall_mem_cons.2 ⟨among, ending⟩)
        · push Not at ending
          exact .inr ⟨letter, behind, rfl, among, ending⟩

theorem filter_append_suffix {front rest : List Char} (plain : ∀ c ∈ front, c ∉ suffixLetters)
    (ending : ∀ c ∈ rest, c ∈ suffixLetters) :
    (front ++ rest).filter (· ∉ suffixLetters) = front := by
  rw [List.filter_append, List.filter_eq_self.2 (by simpa using plain),
    List.filter_eq_nil_iff.2 (by simpa using ending), List.append_nil]

/-- The suffix letters are dropped from the end of a literal, or there is a digit behind one. -/
theorem reads_marked {mark : Char} (marked : mark ∈ hexadecimalMarks) {body : List Char} {n : Nat}
    (numeral : IsNumeral .hexadecimal (body.filter (· ∉ suffixLetters)) n) :
    Reads ('0' :: mark :: body) n := by
  obtain ⟨front, rest, rfl, plain, ending | ⟨letter, behind, rfl, among, c, inside, other⟩⟩ :=
    exists_suffix body
  · rw [filter_append_suffix plain ending] at numeral
    exact .literal (.hexadecimal marked numeral ending)
  · refine .lettered marked among ⟨c, inside, numeral.plain c ?_⟩ numeral
    exact List.mem_filter.2 ⟨by simp [inside], by simpa using other⟩

/-! ## Octal and decimal literals -/

/-- Behind a zero and an octal digit, octal digits are read. -/
theorem reading_leading {c : Char} (leading : c ∈ Base.octal.digits) (rest : List Char) :
    reading ('0' :: c :: rest) = .ok number ↔
      ∃ n : Nat, IsNumeral .octal ('0' :: c :: rest) n ∧ number = n := by
  have unmarked : looksHexadecimal ('0' :: c :: rest) = false := by
    refine looksHexadecimal_eq_false ?_
    rintro _ _ ⟨⟩ marked
    exact (mark_other c marked).2.1 leading
  have shown : looksOctal ('0' :: c :: rest) = true := by
    rw [looksOctal_cons, decide_eq_true leading]
  have read : reading ('0' :: c :: rest) =
      (magnitude .octal ('0' :: c :: rest) ('0' :: c :: rest)).map Int.ofNat := by
    simp only [reading, detectBase, unmarked, shown]
    rfl
  rw [read, map_eq_ok_iff]
  refine exists_congr fun n => ?_
  rw [magnitude_eq_ok_iff]
  simp

/-! ## All literals -/

/-- Every literal is read as the number that it spells. -/
theorem reading_of_spells (spells : Spells text number) : reading text = .ok number := by
  cases spells with
  | hexadecimal marked numeral letters =>
      have plain := fun c inside => not_mem_suffixLetters c (numeral.plain c inside)
      exact (reading_marked marked _).2 ⟨_, (filter_append_suffix plain letters).symm ▸ numeral, rfl⟩
  | @octal digits n filled numeral =>
      cases digits with
      | nil => exact absurd rfl filled
      | cons c rest =>
          have leading : c ∈ Base.octal.digits := numeral.plain c (by simp)
          exact (reading_leading leading rest).2 ⟨n, numeral, rfl⟩
  | decimal numeral short other =>
      rw [reading_eq_decimal (looksHexadecimal_eq_false ?_) (looksOctal_eq_false other)]
      · exact integer_decimal_eq_ok_iff.2 ⟨_, _, numeral, short, .inr ⟨.inr rfl, rfl⟩⟩
      · rintro mark body rfl marked
        exact (mark_other mark marked).1 (numeral.plain mark (by simp))
  | positive numeral short =>
      exact integer_decimal_eq_ok_iff.2 ⟨_, _, numeral, short, .inr ⟨.inl rfl, rfl⟩⟩
  | negative numeral short =>
      exact integer_decimal_eq_ok_iff.2 ⟨_, _, numeral, short, .inl ⟨rfl, rfl⟩⟩

theorem reads_of_reading (read : reading text = .ok number) : Reads text number := by
  by_cases marked : ∃ mark body, text = '0' :: mark :: body ∧ mark ∈ hexadecimalMarks
  · obtain ⟨mark, body, rfl, marked⟩ := marked
    obtain ⟨n, numeral, rfl⟩ := (reading_marked marked body).1 read
    exact reads_marked marked numeral
  by_cases leading : ∃ c rest, text = '0' :: c :: rest ∧ c ∈ Base.octal.digits
  · obtain ⟨c, rest, rfl, leading⟩ := leading
    obtain ⟨n, numeral, rfl⟩ := (reading_leading leading rest).1 read
    exact .literal (.octal (List.cons_ne_nil c rest) numeral)
  have other : ∀ c rest, text = '0' :: c :: rest → c ∉ Base.octal.digits :=
    fun c rest same octal => leading ⟨c, rest, same, octal⟩
  have unmarked : looksHexadecimal text = false :=
    looksHexadecimal_eq_false fun mark body same inside => marked ⟨mark, body, same, inside⟩
  rw [reading_eq_decimal unmarked (looksOctal_eq_false other)] at read
  obtain ⟨digits, n, numeral, short, signed⟩ := integer_decimal_eq_ok_iff.1 read
  rcases signed with ⟨rfl, rfl⟩ | ⟨rfl | rfl, rfl⟩
  · exact .literal (.negative numeral short)
  · exact .literal (.positive numeral short)
  · exact .literal (.decimal numeral short other)

theorem reading_of_reads (reads : Reads text number) : reading text = .ok number := by
  cases reads with
  | literal spells => exact reading_of_spells spells
  | lettered marked among digit numeral => exact (reading_marked marked _).2 ⟨_, numeral, rfl⟩

/-- Exactly these texts are read, as the numbers that their digits spell. -/
theorem reading_eq_ok_iff : reading text = .ok number ↔ Reads text number :=
  ⟨reads_of_reading, reading_of_reads⟩

/-- A letter between two digits is dropped, so that a text is read that is no literal. -/
theorem reading_letter_between :
    reading ['0', 'x', '1', 'U', '2'] = .ok 0x12 ∧
      ∀ number, ¬ Spells ['0', 'x', '1', 'U', '2'] number := by
  refine ⟨by decide, fun number spells => ?_⟩
  generalize same : ['0', 'x', '1', 'U', '2'] = text at spells
  cases spells with
  | @hexadecimal mark digits suffix n marked numeral letters =>
      obtain ⟨-, rfl, body⟩ : '0' = '0' ∧ 'x' = mark ∧ ['1', 'U', '2'] = digits ++ suffix := by
        simpa using same
      -- the last character is no letter, so that the letter in front of it is among the digits
      have last : suffix = [] := by
        by_contra some
        have ending : suffix.getLast? = .some '2' := by
          rw [← List.getLast?_append_of_ne_nil digits some, ← body]
          rfl
        exact absurd (letters '2' (List.mem_of_getLast? ending)) (by decide)
      rw [last, List.append_nil] at body
      exact absurd (numeral.plain 'U' (body ▸ by decide)) (by decide)
  | octal filled numeral =>
      cases same
      exact absurd (numeral.plain 'x' (by decide)) (by decide)
  | decimal numeral short other =>
      subst same
      exact absurd (numeral.plain 'x' (by decide)) (by decide)
  | positive numeral short => cases same
  | negative numeral short => cases same

end Literal

end Canopen
