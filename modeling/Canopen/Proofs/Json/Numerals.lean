import Mathlib.Data.List.TakeWhile
import Canopen.Proofs.Json.Term
import Canopen.Proofs.Number.Numeral
import Canopen.Yaml.ScalarValue

/-!
# Reading numbers

A number without a fraction and without a power of ten is an integer.  Any other number is the
floating number nearest to the digits, moved by the power and by the length of the fraction.
-/

namespace Canopen

/-- Digits of ASCII are digits. -/
theorem Text.decimalDigit?_of_isDigit {c : Char} (digit : c.isDigit = true) :
    Text.decimalDigit? c = some (c.toNat - '0'.toNat) := by
  have bounds : 48 ≤ c.toNat ∧ c.toNat ≤ 57 := by
    simp only [Char.isDigit, Bool.and_eq_true, decide_eq_true_eq] at digit
    exact ⟨digit.1, digit.2⟩
  rw [Text.decimalDigit?, Text.digitZeros, List.find?_cons_of_pos]
  · rfl
  · simp only [Bool.and_eq_true, decide_eq_true_eq]
    omega

namespace Json

open Yaml (natOfDigits splitSign)
open Number (Binary64)

/-- The digits that are read behind others. -/
theorem natOfDigits_append (front behind : List Char) :
    natOfDigits (front ++ behind) =
      behind.foldl (fun total c => total * 10 + (c.toNat - '0'.toNat)) (natOfDigits front) := by
  rw [natOfDigits, natOfDigits, List.foldl_append]

/-- The characters that numbers are made of. -/
def numeralChars : List Char :=
  "0123456789+-.eE".toList

theorem mem_numeralChars_of_isDigit {c : Char} (digit : c.isDigit = true) : c ∈ numeralChars := by
  have bounds : 48 ≤ c.toNat ∧ c.toNat ≤ 57 := by
    simp only [Char.isDigit, Bool.and_eq_true, decide_eq_true_eq] at digit
    exact ⟨digit.1, digit.2⟩
  have all : ∀ code < 58, 48 ≤ code → Char.ofNat code ∈ numeralChars := by decide
  have inside := all c.toNat (by omega) bounds.1
  rwa [Char.ofNat_toNat] at inside

theorem isDigit_of_isWholeNumber {digits : List Char} (whole : isWholeNumber digits = true) :
    ∀ c ∈ digits, c.isDigit = true := by
  unfold isWholeNumber at whole
  split at whole
  · exact forall_mem_of_all rfl
  · cases whole
  · simp only [Bool.and_eq_true, List.all_eq_true] at whole
    exact whole.2

/-- Of the numbers that begin with a zero only zero itself is spelled without a fraction. -/
theorem eq_zero_or_exists_of_isWholeNumber {digits : List Char}
    (whole : isWholeNumber digits = true) :
    digits = ['0'] ∨ ∃ first rest, digits = first :: rest ∧ first ≠ '0' := by
  cases digits with
  | nil => cases whole
  | cons first rest =>
      by_cases nought : first = '0'
      · subst nought
        cases rest with
        | nil => exact .inl rfl
        | cons second later => cases whole
      · exact .inr ⟨first, rest, rfl, nought⟩

theorem ne_nil_of_isWholeNumber {digits : List Char} (whole : isWholeNumber digits = true) :
    digits ≠ [] := by
  rintro rfl
  cases whole

namespace Power

variable (power : Power)

theorem mem_numeralChars {c : Char} (inside : c ∈ power.text) : c ∈ numeralChars := by
  rw [text, List.cons_append, List.mem_cons, List.mem_append] at inside
  rcases inside with rfl | sign | digit
  · split <;> decide
  · cases written : power.sign with
    | none =>
        rw [written] at sign
        cases sign
    | some minus =>
        rw [written] at sign
        cases minus <;> obtain rfl := List.mem_singleton.1 sign <;> decide
  · exact mem_numeralChars_of_isDigit (power.decimal c digit)

theorem readPower_digits {digits : List Char} (filled : digits ≠ [])
    (decimal : ∀ c ∈ digits, c.isDigit = true) :
    ∃ first rest, digits.mapM Text.decimalDigit? = some (first :: rest) ∧
      (first :: rest).foldl (fun total value => total * 10 + value) 0 = natOfDigits digits := by
  have values := Number.mapM_eq_some_map fun c inside => Text.decimalDigit?_of_isDigit (decimal c inside)
  cases digits with
  | nil => exact absurd rfl filled
  | cons c rest =>
      refine ⟨_, _, values, ?_⟩
      rw [natOfDigits, ← List.map_cons (f := fun c : Char => c.toNat - '0'.toNat), List.foldl_map]

/-- The power behind its letter is read. -/
theorem readPower_eq : Binary64.readPower (signText power.sign ++ power.digits) =
    some power.value := by
  obtain ⟨first, rest, read, number⟩ := readPower_digits power.filled power.decimal
  have unsigned : ∀ c, power.digits.head? = some c → c ≠ '-' ∧ c ≠ '+' := by
    intro c first
    have digit := power.decimal c (List.mem_of_head? first)
    constructor <;>
      · rintro rfl
        cases digit
  rw [value]
  cases power.sign with
  | none =>
      rw [signText, List.nil_append, Binary64.readPower, read]
      · simp [number]
      · rintro rest digits
        exact (unsigned '-' (by rw [digits]; rfl)).1 rfl
      · rintro rest digits
        exact (unsigned '+' (by rw [digits]; rfl)).2 rfl
  | some minus =>
      cases minus <;> simp [signText, Binary64.readPower, read, number]

end Power

namespace Numeral

variable (number : Numeral)

theorem whole_ne_nil : number.whole ≠ [] :=
  ne_nil_of_isWholeNumber number.spelled

theorem isDigit_whole : ∀ c ∈ number.whole, c.isDigit = true :=
  isDigit_of_isWholeNumber number.spelled

theorem mem_numeralChars {c : Char} (inside : c ∈ number.text) : c ∈ numeralChars := by
  have unsigned : ∀ c ∈ number.unsigned, c ∈ numeralChars := by
    intro c inside
    rw [unsigned, behind, List.mem_append, List.mem_append] at inside
    rcases inside with whole | fraction | power
    · exact mem_numeralChars_of_isDigit (number.isDigit_whole c whole)
    · cases digits : number.fraction with
      | nil =>
          rw [digits] at fraction
          cases fraction
      | cons first rest =>
          rw [digits] at fraction
          rcases List.mem_cons.1 fraction with rfl | digit
          · decide
          · exact mem_numeralChars_of_isDigit (number.decimal c (digits ▸ digit))
    · cases written : number.power with
      | none =>
          rw [written] at power
          cases power
      | some raised =>
          rw [written] at power
          exact raised.mem_numeralChars power
  rw [text] at inside
  split at inside
  · rcases List.mem_cons.1 inside with rfl | inside
    · decide
    · exact unsigned c inside
  · exact unsigned c inside

/-- Behind the first digits is a point or the letter of a power, unless the number is an integer. -/
theorem head?_behind (some : ¬ number.IsInteger) :
    ∃ mark rest, number.behind = mark :: rest ∧ mark ∈ ['.', 'e', 'E'] := by
  rw [behind]
  cases digits : number.fraction with
  | cons first rest => exact ⟨_, _, rfl, by decide⟩
  | nil =>
      cases written : number.power with
      | none => exact absurd ⟨digits, written⟩ some
      | some raised => exact ⟨_, _, rfl, by cases raised.capital <;> decide⟩

theorem behind_of_isInteger (integer : number.IsInteger) : number.behind = [] := by
  rw [behind, integer.1, integer.2]
  rfl

theorem takeWhile_unsigned : number.unsigned.takeWhile Char.isDigit = number.whole := by
  rw [unsigned, List.takeWhile_append_of_pos number.isDigit_whole]
  by_cases integer : number.IsInteger
  · rw [number.behind_of_isInteger integer, List.takeWhile_nil, List.append_nil]
  · obtain ⟨mark, rest, behind, known⟩ := number.head?_behind integer
    have other : mark.isDigit = false := by
      simp only [List.mem_cons, List.not_mem_nil, or_false] at known
      rcases known with rfl | rfl | rfl <;> rfl
    rw [behind, List.takeWhile_cons_of_neg (by simp [other]), List.append_nil]

/-! ## Floating numbers -/

/-- The digits in front of what is left are read one by one. -/
theorem readFrom_digits (negative : Bool) {digits : List Char}
    (decimal : ∀ c ∈ digits, c.isDigit = true) (state : Binary64.Reading) (rest : List Char) :
    Binary64.readFrom negative state (digits ++ rest) =
      Binary64.readFrom negative
        { digits := digits.foldl (fun total c => total * 10 + (c.toNat - '0'.toNat)) state.digits
          count := state.count + digits.length
          places := if state.pointSeen then state.places + digits.length else state.places
          pointSeen := state.pointSeen } rest := by
  induction digits generalizing state with
  | nil => simp
  | cons c later ih =>
      have digit := decimal c List.mem_cons_self
      have mark : c ∉ ['.', 'e', 'E'] := by
        intro known
        simp only [List.mem_cons, List.not_mem_nil, or_false] at known
        rcases known with rfl | rfl | rfl <;> cases digit
      simp only [List.mem_cons, List.not_mem_nil, or_false, not_or] at mark
      have behind := ih fun other inside => decimal other (List.mem_cons_of_mem _ inside)
      rw [List.cons_append, Binary64.readFrom, if_neg (by simp [mark.2]),
        Text.decimalDigit?_of_isDigit digit]
      · dsimp only
        rw [behind, List.foldl_cons, List.length_cons]
        cases state.pointSeen <;> simp [Nat.add_assoc, Nat.add_comm 1]
      · exact mark.1

/-- The digits, the point and the power are read as the number nearest to them. -/
theorem readFrom_unsigned (negative : Bool) :
    Binary64.readFrom negative {} number.unsigned =
      some (.ofDecimal negative (natOfDigits (number.whole ++ number.fraction))
        (number.power.elim 0 Power.value - number.fraction.length)) := by
  have counted : number.whole.length ≠ 0 := by simp [number.whole_ne_nil]
  rw [unsigned, readFrom_digits negative number.isDigit_whole, natOfDigits_append, behind]
  have last (state : Binary64.Reading) (some : state.count ≠ 0) :
      Binary64.readFrom negative state (number.power.elim [] Power.text) =
        .some (.ofDecimal negative state.digits
          (number.power.elim 0 Power.value - state.places)) := by
    cases number.power with
    | none => simp [Binary64.readFrom, some]
    | some raised =>
        rw [Option.elim_some, Option.elim_some, Power.text, List.cons_append, Binary64.readFrom]
        · rw [if_pos (by cases raised.capital <;> simp), if_neg some, raised.readPower_eq]
          rfl
        · cases raised.capital <;> decide
  cases digits : number.fraction with
  | nil =>
      rw [fractionText, List.nil_append, last _ (by simpa using counted)]
      rfl
  | cons first rest =>
      have decimal := number.decimal
      rw [digits] at decimal
      rw [fractionText, List.cons_append, Binary64.readFrom, if_neg Bool.false_ne_true,
        readFrom_digits negative decimal, last _ (by simp [counted])]
      · simp [natOfDigits]
      · exact nofun

theorem trimBy_unsigned : Text.trimBy Text.isNumberBlank number.text = number.text := by
  have solid : ∀ c ∈ numeralChars, Text.isNumberBlank c = false := forall_mem_of_all rfl
  refine Text.Trimmed.trimBy_eq_self ⟨fun c first => ?_, fun c last => ?_⟩
  · exact solid c (number.mem_numeralChars (List.mem_of_head? first))
  · exact solid c (number.mem_numeralChars (List.mem_of_getLast? last))

/-- The first character of a number without its sign is a digit. -/
theorem exists_unsigned : ∃ first rest, number.unsigned = first :: rest ∧ first.isDigit = true := by
  cases whole : number.whole with
  | nil => exact absurd whole number.whole_ne_nil
  | cons first rest =>
      refine ⟨first, rest ++ number.behind, by rw [unsigned, whole]; rfl, ?_⟩
      exact number.isDigit_whole first (whole ▸ List.mem_cons_self)

theorem splitSign_text : splitSign number.text = (number.negative, number.unsigned) := by
  rw [text]
  cases number.negative with
  | true => rfl
  | false =>
      obtain ⟨first, rest, unsigned, digit⟩ := number.exists_unsigned
      rw [unsigned, if_neg Bool.false_ne_true, splitSign]
      · rintro later ⟨⟩
        cases digit
      · rintro later ⟨⟩
        cases digit

/-- A number that is spelled is read as a floating number. -/
theorem ofText?_text : Binary64.ofText? number.text = some number.float := by
  obtain ⟨first, rest, unsigned, digit⟩ := number.exists_unsigned
  have words : ∀ name ∈ ["inf", "infinity", "nan"],
      String.ofList (number.unsigned.map Char.toLower) ≠ name := by
    intro name known same
    have front := congrArg (fun name => name.toList.head?) same
    rw [unsigned, String.toList_ofList] at front
    have small : ∀ c ∈ numeralChars, c.isDigit = true → c.toLower = c := forall_mem_of_all rfl
    have letter : ∀ name ∈ ["inf", "infinity", "nan"],
        name.toList.head?.any Char.isDigit = false := by decide
    have other := letter name known
    rw [← front] at other
    simp [small first (mem_numeralChars_of_isDigit digit) digit, digit] at other
  rw [Binary64.ofText?, trimBy_unsigned, float, ← number.readFrom_unsigned]
  split
  next negative digits cut =>
  obtain ⟨rfl, rfl⟩ := Prod.mk.inj (number.splitSign_text.symm.trans cut)
  have inf := words "inf" (by simp)
  have infinity := words "infinity" (by simp)
  have nan := words "nan" (by simp)
  simp only [inf, infinity, nan, or_self, if_false]

/-! ## Scalars -/

theorem isWholeNumber_unsigned : isWholeNumber number.unsigned = decide number.IsInteger := by
  by_cases integer : number.IsInteger
  · rw [unsigned, number.behind_of_isInteger integer, List.append_nil, number.spelled]
    simp [integer]
  · rw [decide_eq_false integer, Bool.eq_false_iff]
    intro whole
    obtain ⟨mark, rest, behind, known⟩ := number.head?_behind integer
    have digit := isDigit_of_isWholeNumber whole mark (by rw [unsigned, behind]; simp)
    simp only [List.mem_cons, List.not_mem_nil, or_false] at known
    rcases known with rfl | rfl | rfl <;> cases digit

/-- A number begins with its sign or with a digit. -/
theorem head?_text : ∃ first rest, number.text = first :: rest ∧
    (first = '-' ∨ first.isDigit = true) := by
  obtain ⟨first, rest, unsigned, digit⟩ := number.exists_unsigned
  rw [text]
  split
  · exact ⟨_, _, rfl, .inl rfl⟩
  · exact ⟨first, rest, unsigned, .inr digit⟩

theorem text_ne {word : List Char}
    (letter : word.head?.all (fun c => c ≠ '-' && !c.isDigit) = true) :
    number.text ≠ word := by
  rintro rfl
  obtain ⟨first, rest, text, known⟩ := number.head?_text
  rw [text] at letter
  rcases known with rfl | digit
  · cases letter
  · simp [digit] at letter

theorem scalar?_text : scalar? number.text = some number.value := by
  have null : number.text ≠ "null".toList := number.text_ne (by decide)
  have true : number.text ≠ "true".toList := number.text_ne (by decide)
  have false : number.text ≠ "false".toList := number.text_ne (by decide)
  unfold scalar?
  rw [if_neg null, if_neg true, if_neg false]
  split
  next negative digits cut =>
  obtain ⟨rfl, rfl⟩ : number.negative = negative ∧ number.unsigned = digits := by
    obtain ⟨first, rest, unsigned, digit⟩ := number.exists_unsigned
    cases minus : number.negative with
    | true =>
        rw [text, minus] at cut
        exact Prod.mk.inj cut
    | false =>
        rw [text, minus, if_neg Bool.false_ne_true] at cut
        split at cut
        · next same =>
          cases unsigned.symm.trans same
          cases digit
        · exact Prod.mk.inj cut
  rw [isWholeNumber_unsigned, takeWhile_unsigned, number.spelled, ofText?_text, value]
  by_cases integer : number.IsInteger
  · have whole : number.unsigned = number.whole := by
      rw [Numeral.unsigned, number.behind_of_isInteger integer, List.append_nil]
    simp only [integer, decide_true, if_true, Numeral.integer, natOfDigits, whole]
  · simp only [integer, decide_false, Bool.false_eq_true, if_false, if_true]
    rfl

end Numeral

/-- Every word spells its value. -/
theorem Word.scalar?_text (scalar : Word) : scalar? scalar.text = some scalar.value := by
  cases scalar with
  | null => rfl
  | truth value => cases value <;> rfl
  | number numeral => exact numeral.scalar?_text

/-! ## Characters of words -/

/-- The characters that words are made of. -/
def wordChars : List Char :=
  numeralChars ++ "nulltruefalse".toList

theorem Word.mem_wordChars {scalar : Word} {c : Char} (inside : c ∈ scalar.text) :
    c ∈ wordChars := by
  cases scalar with
  | null =>
      have all : ∀ c ∈ null.text, c ∈ wordChars := forall_mem_of_all rfl
      exact all c inside
  | truth value =>
      have all : ∀ c ∈ (truth value).text, c ∈ wordChars := by
        cases value <;> exact forall_mem_of_all rfl
      exact all c inside
  | number numeral => exact List.mem_append_left _ (numeral.mem_numeralChars inside)

/-- The characters that words begin with, apart from the sign of a number. -/
def firstChars : List Char :=
  "0123456789ntf".toList

theorem mem_firstChars_of_isDigit {c : Char} (digit : c.isDigit = true) : c ∈ firstChars := by
  have all : ∀ c ∈ numeralChars, c.isDigit = true → c ∈ firstChars := forall_mem_of_all rfl
  exact all c (mem_numeralChars_of_isDigit digit) digit

/-- A word begins with a digit, a letter, or a sign and a digit. -/
theorem Word.exists_text (scalar : Word) : ∃ first rest, scalar.text = first :: rest ∧
    (first ∈ firstChars ∨ (first = '-' ∧ ∃ digit later, rest = digit :: later ∧
      digit ∈ firstChars)) := by
  cases scalar with
  | null => exact ⟨_, _, rfl, .inl (by decide)⟩
  | truth value => cases value <;> exact ⟨_, _, rfl, .inl (by decide)⟩
  | number numeral =>
      obtain ⟨first, rest, unsigned, digit⟩ := numeral.exists_unsigned
      rw [Word.text, Numeral.text, unsigned]
      split
      · exact ⟨_, _, rfl, .inr ⟨rfl, first, rest, rfl, mem_firstChars_of_isDigit digit⟩⟩
      · exact ⟨first, rest, rfl, .inl (mem_firstChars_of_isDigit digit)⟩

end Json

end Canopen
