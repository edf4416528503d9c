import Canopen.Proofs.Json.Numerals
import Canopen.Proofs.Number.Numeral

/-!
# Words of JSON as plain scalars

A number that JSON spells is a number for YAML when it is an integer, or when it has a fraction and
a sign in its power of ten.  Both languages then read the same number, and they read the same of the
three words that are no numbers.
-/

namespace Canopen

/-- In ASCII, small letters are made one by one. -/
theorem Text.lower_of_ascii {text : List Char} (ascii : ∀ c ∈ text, c.toNat < 0x80) :
    Text.lower (String.ofList text) = String.ofList (text.map Char.toLower) := by
  have each (before : List Char) : Text.lowerAfter before text = text.map Char.toLower := by
    induction text generalizing before with
    | nil => rfl
    | cons c rest ih =>
        have small := ascii c List.mem_cons_self
        have sigma : c ≠ 'Σ' := by
          rintro rfl
          exact absurd small (by decide)
        have dotted : c ≠ 'İ' := by
          rintro rfl
          exact absurd small (by decide)
        rw [Text.lowerAfter, if_neg sigma, if_neg dotted, Text.lowerChar, if_pos small,
          ih (fun other inside => ascii other (List.mem_cons_of_mem _ inside)), List.map_cons]
  rw [Text.lower, String.toList_ofList, each]

namespace Number.Binary64

theorem negate_ofRatio (numerator denominator : Nat) :
    (ofRatio false numerator denominator).negate = ofRatio true numerator denominator := by
  unfold ofRatio
  split
  · rfl
  · unfold assemble
    dsimp only
    split
    · split
      · rfl
      · split <;> rfl
    · split
      · rfl
      · split <;> rfl

theorem negate_ofDecimal (digits : Nat) (power : Int) :
    (ofDecimal false digits power).negate = ofDecimal true digits power := by
  unfold ofDecimal
  dsimp only
  split
  · rfl
  · split
    · rfl
    · split
      · rfl
      · exact negate_ofRatio _ _

end Number.Binary64

namespace Json.Numeral

open Yaml
open Number (Binary64)

variable (number : Numeral)

/-- Characters of numbers are ASCII and no underscores, colons or blanks. -/
theorem dropGaps_text : dropGaps number.text = number.text := by
  have other : ∀ c ∈ numeralChars, c ≠ '_' := forall_mem_of_all rfl
  refine List.filter_eq_self.2 fun c inside => ?_
  simpa using other c (number.mem_numeralChars inside)

theorem dropSign_text : dropSign number.text = number.unsigned := by
  rw [text]
  cases number.negative with
  | true => rfl
  | false =>
      obtain ⟨first, rest, unsigned, digit⟩ := number.exists_unsigned
      rw [unsigned, if_neg Bool.false_ne_true, dropSign]
      · rintro later ⟨⟩
        cases digit
      · rintro later ⟨⟩
        cases digit

theorem isDigitOrGap_of_isDigit {c : Char} (digit : c.isDigit = true) : isDigitOrGap c = true := by
  rw [isDigitOrGap, digit, Bool.true_or]

/-- Digits end where none stands. -/
theorem dropWhile_digits {digits behind : List Char} (decimal : ∀ c ∈ digits, c.isDigit = true)
    (stops : ∀ c, behind.head? = some c → isDigitOrGap c = false) :
    (digits ++ behind).dropWhile isDigitOrGap = behind := by
  rw [List.dropWhile_append_of_pos fun c inside => isDigitOrGap_of_isDigit (decimal c inside)]
  cases behind with
  | nil => rfl
  | cons c rest => exact List.dropWhile_cons_of_neg (by simp [stops c rfl])

theorem head?_behind_not_digit : ∀ c, number.behind.head? = some c → isDigitOrGap c = false := by
  intro c first
  by_cases integer : number.IsInteger
  · rw [number.behind_of_isInteger integer] at first
    cases first
  · obtain ⟨mark, rest, behind, known⟩ := number.head?_behind integer
    rw [behind] at first
    cases first
    simp only [List.mem_cons, List.not_mem_nil, or_false] at known
    rcases known with rfl | rfl | rfl <;> rfl

theorem dropWhile_unsigned : number.unsigned.dropWhile isDigitOrGap = number.behind :=
  dropWhile_digits number.isDigit_whole number.head?_behind_not_digit

theorem startsWithDigit_unsigned : startsWithDigit number.unsigned = true := by
  obtain ⟨first, rest, unsigned, digit⟩ := number.exists_unsigned
  rw [unsigned]
  exact digit

/-- The number without its sign. -/
def positive : Numeral :=
  { number with negative := false }

theorem text_positive : number.positive.text = number.unsigned :=
  rfl

/-! ## Forms -/

/-- No word that does not begin like a number is one. -/
theorem not_contains (words : List String)
    (letters : words.all (fun word =>
      word.toList.head?.all fun c => c ≠ '-' && !c.isDigit) = true) :
    words.contains (String.ofList number.text) = false := by
  rw [List.contains_eq_any_beq, List.any_eq_false]
  intro word known same
  have text := congrArg String.toList (eq_of_beq same)
  rw [String.toList_ofList] at text
  exact number.text_ne (List.all_eq_true.1 letters word known) text

theorem unsigned_of_isInteger (integer : number.IsInteger) : number.unsigned = number.whole := by
  rw [unsigned, number.behind_of_isInteger integer, List.append_nil]

theorem isIntForm_text (integer : number.IsInteger) : isIntForm number.text = true := by
  have behind := number.dropWhile_unsigned
  have digits := number.startsWithDigit_unsigned
  rw [number.behind_of_isInteger integer, number.unsigned_of_isInteger integer] at behind
  rw [number.unsigned_of_isInteger integer] at digits
  rw [isIntForm, dropSign_text, number.unsigned_of_isInteger integer]
  rcases eq_zero_or_exists_of_isWholeNumber number.spelled with nought | ⟨first, rest, whole, some⟩
  · rw [nought]
    rfl
  · rw [whole] at behind digits ⊢
    split
    · rfl
    · next same => exact absurd (List.cons.inj same).1 some
    · next same => exact absurd (List.cons.inj same).1 some
    · next same => exact absurd (List.cons.inj same).1 some
    · rw [digits, behind]
      rfl

/-- An integer has no point, no colon and no word of a floating number. -/
theorem isFloatForm_of_isInteger (integer : number.IsInteger) :
    isFloatForm number.text = false := by
  have undefined := number.not_contains [".nan", ".NaN", ".NAN"] (by decide)
  have infinite := number.positive.not_contains [".inf", ".Inf", ".INF"] (by decide)
  rw [number.text_positive] at infinite
  rw [isFloatForm, undefined, dropSign_text, infinite, dropWhile_unsigned,
    number.behind_of_isInteger integer]
  · simp [dropSixtieths]
  · exact fun _ => number.text_ne rfl

/-- The power is one of YAML when it has a sign. -/
theorem isPowerOrEnd_power (signed : ∀ power, number.power = some power → power.sign ≠ none) :
    isPowerOrEnd (number.power.elim [] Power.text) = true := by
  cases written : number.power with
  | none => rfl
  | some raised =>
      have digits : !raised.digits.isEmpty && raised.digits.all Char.isDigit := by
        simpa [raised.filled] using raised.decimal
      cases sign : raised.sign with
      | none => exact absurd sign (signed raised written)
      | some minus =>
          rw [Option.elim_some, Power.text, sign]
          cases raised.capital <;> cases minus <;> simpa [Power.signText, isPowerOrEnd] using digits

theorem isFloatForm_text (fraction : number.fraction ≠ [])
    (signed : ∀ power, number.power = some power → power.sign ≠ none) :
    isFloatForm number.text = true := by
  have power : isPowerOrEnd
      ((number.fraction ++ number.power.elim [] Power.text).dropWhile isDigitOrGap) = true := by
    rw [dropWhile_digits number.decimal, number.isPowerOrEnd_power signed]
    intro c first
    cases written : number.power with
    | none =>
        rw [written] at first
        cases first
    | some raised =>
        rw [written] at first
        cases first
        cases raised.capital <;> rfl
  have behind : number.behind = '.' :: (number.fraction ++ number.power.elim [] Power.text) := by
    rw [Numeral.behind, fractionText]
    · rfl
    · exact fraction
  rw [isFloatForm, dropSign_text, startsWithDigit_unsigned, dropWhile_unsigned, behind]
  · simp [power]
  · exact fun _ => number.text_ne rfl

/-! ## Values -/

theorem dropFinalFeed_text : dropFinalFeed number.text = number.text := by
  have other : ∀ c ∈ numeralChars, c ≠ '\n' := forall_mem_of_all rfl
  rw [dropFinalFeed, if_neg]
  intro last
  exact other '\n' (number.mem_numeralChars (List.mem_of_getLast? last)) rfl

theorem Portable.fraction_ne_nil {number : Numeral} (portable : number.Portable)
    (some : ¬ number.IsInteger) : number.fraction ≠ [] ∧
      ∀ power, number.power = .some power → power.sign ≠ none := by
  cases portable with
  | integer integer short => exact absurd integer some
  | fraction fraction signed => exact ⟨fraction, signed⟩

/-- The form of a number is that of an integer or of a floating number. -/
theorem ofPlain_text (portable : number.Portable) :
    Tag.ofPlain (String.ofList number.text) = if number.IsInteger then .int else .float := by
  have feed : String.ofList number.text ≠ "\n" := by
    intro same
    have text := congrArg String.toList same
    rw [String.toList_ofList] at text
    exact number.text_ne (by decide) text
  have words : boolWords.contains (String.ofList number.text) = false :=
    number.not_contains boolWords (by decide)
  rw [Tag.ofPlain, String.toList_ofList, dropFinalFeed_text, if_neg feed, words]
  by_cases integer : number.IsInteger
  · simp [integer, number.isFloatForm_of_isInteger integer, number.isIntForm_text integer]
  · obtain ⟨fraction, signed⟩ := portable.fraction_ne_nil integer
    simp [integer, number.isFloatForm_text fraction signed]

theorem digitIn?_of_isDigit {c : Char} (digit : c.isDigit = true) :
    Text.digitIn? 10 c = some (c.toNat - '0'.toNat) := by
  have small : c.toNat - '0'.toNat < 10 :=
    Text.decimalDigit?_lt (Text.decimalDigit?_of_isDigit digit)
  rw [Text.digitIn?, Text.decimalDigit?_of_isDigit digit]
  exact if_pos small

/-- Digits that are not too many are read. -/
theorem intIn_digits {digits : List Char} (filled : digits ≠ [])
    (decimal : ∀ c ∈ digits, c.isDigit = true) (short : digits.length ≤ Number.longestDecimal) :
    intIn 10 digits = .ok (natOfDigits digits) := by
  have values : Number.digitValues 10 digits = some (digits.map fun c => c.toNat - '0'.toNat) := by
    rw [Number.digitValues_of_plain filled fun gap => absurd (decimal '_' gap) (by decide)]
    exact Number.mapM_eq_some_map fun c inside => digitIn?_of_isDigit (decimal c inside)
  have all : digits.takeWhile (Number.isDigitOrUnderscore 10) = digits := by
    refine List.takeWhile_eq_self_iff.2 fun c inside => ?_
    rw [Number.isDigitOrUnderscore, digitIn?_of_isDigit (decimal c inside)]
    simp
  have mark : Number.dropBaseMark 10 digits = digits := by
    unfold Number.dropBaseMark
    split
    · next nought mark rest =>
      rw [if_neg]
      rintro ⟨-, none⟩
      cases none
    · rfl
  have fits : ¬ Number.longestDecimal < digits.length := Nat.not_lt.2 short
  have unsigned : Number.unsignedNumeral 10 digits = .ok (natOfDigits digits) := by
    rw [Number.unsignedNumeral, mark, all, values]
    simp [fits, Number.isBinaryBase, Number.ofDigitValues, natOfDigits, List.foldl_map]
  have solid : ∀ c ∈ digits, Text.isNumberBlank c = false := by
    have none : ∀ c ∈ numeralChars, Text.isNumberBlank c = false := forall_mem_of_all rfl
    exact fun c inside => none c (mem_numeralChars_of_isDigit (decimal c inside))
  have trimmed : Text.Trimmed Text.isNumberBlank digits :=
    ⟨fun c first => solid c (List.mem_of_head? first),
      fun c last => solid c (List.mem_of_getLast? last)⟩
  have numeral : Number.numeral 10 digits = .ok (natOfDigits digits : Int) := by
    unfold Number.numeral
    rw [trimmed.trimBy_eq_self]
    split
    · exact absurd (decimal '-' List.mem_cons_self) (by decide)
    · exact absurd (decimal '+' List.mem_cons_self) (by decide)
    · rw [unsigned]
      rfl
  rw [intIn, numeral]

/-- The sign is the same for both languages, and zero has none. -/
theorem intValue_text (integer : number.IsInteger)
    (short : number.whole.length ≤ Number.longestDecimal) :
    intValue number.text = .ok number.integer := by
  have read := intIn_digits number.whole_ne_nil number.isDigit_whole short
  rw [intValue, dropGaps_text, number.splitSign_text, number.unsigned_of_isInteger integer,
    Numeral.integer]
  rcases eq_zero_or_exists_of_isWholeNumber number.spelled with nought | ⟨first, rest, whole, some⟩
  · rw [nought]
    cases number.negative <;> rfl
  · have colon : number.whole.contains ':' = false := by
      rw [List.contains_eq_mem, decide_eq_false_iff_not]
      exact fun inside => absurd (number.isDigit_whole ':' inside) (by decide)
    have other : ∀ later, number.whole ≠ '0' :: later := by
      intro later same
      rw [whole] at same
      exact some (List.cons.inj same).1
    dsimp only
    split
    · next empty => exact absurd empty number.whole_ne_nil
    · next same => exact absurd same (other _)
    · next same => exact absurd same (other _)
    · next same => exact absurd same (other _)
    · next same => exact absurd same (other _)
    · rw [colon, if_neg Bool.false_ne_true, read]
      rfl

/-- The same number with a small letter in front of its power. -/
def small : Numeral :=
  { number with power := number.power.map fun power => { power with capital := false } }

theorem map_toLower_unsigned : number.unsigned.map Char.toLower = number.small.unsigned := by
  have digits : ∀ digits : List Char, (∀ c ∈ digits, c.isDigit = true) →
      digits.map Char.toLower = digits := by
    intro digits decimal
    have small : ∀ c ∈ numeralChars, c.isDigit = true → c.toLower = c := forall_mem_of_all rfl
    calc digits.map Char.toLower = digits.map id := List.map_congr_left fun c inside =>
          small c (mem_numeralChars_of_isDigit (decimal c inside)) (decimal c inside)
      _ = digits := List.map_id digits
  have power : (number.power.elim [] Power.text).map Char.toLower =
      number.small.power.elim [] Power.text := by
    rw [small]
    cases number.power with
    | none => rfl
    | some raised =>
        simp only [Option.elim_some, Option.map_some, Power.text, List.map_append, List.map_cons,
          digits raised.digits raised.decimal]
        congr 2
        · cases raised.capital <;> rfl
        · cases raised.sign with
          | none => rfl
          | some minus => cases minus <;> rfl
  have fraction : (fractionText number.fraction).map Char.toLower =
      fractionText number.fraction := by
    cases written : number.fraction with
    | nil => rfl
    | cons first rest =>
        have decimal := number.decimal
        rw [written] at decimal
        rw [fractionText, List.map_cons, digits _ decimal]
        · rfl
        · exact List.cons_ne_nil _ _
  rw [unsigned, unsigned, behind, behind, List.map_append, List.map_append, power, fraction,
    digits _ number.isDigit_whole]
  rfl

theorem floatDigits_text :
    floatDigits number.text = (number.negative, number.small.positive.text) := by
  have ascii : ∀ c ∈ number.text, c.toNat < 0x80 := by
    have all : ∀ c ∈ numeralChars, c.toNat < 0x80 := forall_mem_of_all rfl
    exact fun c inside => all c (number.mem_numeralChars inside)
  have lower : number.text.map Char.toLower = number.small.text := by
    rw [text, text, small]
    change _ = if number.negative then '-' :: number.small.unsigned else number.small.unsigned
    rw [← map_toLower_unsigned]
    split <;> rfl
  rw [floatDigits, dropGaps_text, Text.lower_of_ascii ascii, String.toList_ofList, lower,
    splitSign_text]
  rfl

/-- A floating number is read the same. -/
theorem floatValue_text : floatValue number.text = .ok number.float := by
  have digits : number.small.positive.text ≠ ".inf".toList :=
    number.small.positive.text_ne (by decide)
  have undefined : number.small.positive.text ≠ undefinedWord :=
    number.small.positive.text_ne (by decide)
  have colon : number.small.positive.text.contains ':' = false := by
    rw [List.contains_eq_mem, decide_eq_false_iff_not]
    exact fun inside => absurd (number.small.positive.mem_numeralChars inside) (by decide)
  have filled : (dropGaps number.text).isEmpty = false := by
    obtain ⟨first, rest, text, -⟩ := number.head?_text
    rw [dropGaps_text, text]
    rfl
  have read : floatIn number.small.positive.text = .ok number.small.positive.float := by
    rw [floatIn, ofText?_text]
  have same : number.float =
      if number.negative then number.small.positive.float.negate
      else number.small.positive.float := by
    have value : number.small.power.elim 0 Power.value = number.power.elim 0 Power.value := by
      rw [small]
      cases number.power <;> rfl
    rw [float, float, positive, value]
    cases number.negative with
    | true => exact (Number.Binary64.negate_ofDecimal _ _).symm
    | false => rfl
  rw [floatValue, floatDigits_text, same]
  dsimp only
  rw [filled, if_neg Bool.false_ne_true, if_neg digits, if_neg undefined, colon,
    if_neg Bool.false_ne_true, read]
  rfl

end Json.Numeral

/-- A word of JSON is a plain scalar with the same value. -/
theorem Json.Word.scalarValue_text {scalar : Word} (portable : scalar.Portable) :
    Yaml.isScalarTag (.ofPlain (String.ofList scalar.text)) = true ∧
      Yaml.scalarValue (.ofPlain (String.ofList scalar.text)) (String.ofList scalar.text) =
        .ok scalar.value := by
  cases scalar with
  | null =>
      have tag : Yaml.Tag.ofPlain (String.ofList null.text) = .null := by decide
      rw [tag]
      exact ⟨rfl, rfl⟩
  | truth value =>
      have tag : Yaml.Tag.ofPlain (String.ofList (truth value).text) = .bool := by
        cases value <;> decide
      rw [tag]
      cases value <;> exact ⟨rfl, rfl⟩
  | number numeral =>
      rw [Word.text, numeral.ofPlain_text portable, Word.value, Numeral.value]
      by_cases integer : numeral.IsInteger
      · have short : numeral.whole.length ≤ Number.longestDecimal := by
          cases portable with
          | integer _ short => exact short
          | fraction fraction _ => exact absurd integer.1 fraction
        rw [if_pos integer, if_pos integer, Yaml.scalarValue, String.toList_ofList,
          numeral.intValue_text integer short]
        exact ⟨rfl, rfl⟩
      · rw [if_neg integer, if_neg integer, Yaml.scalarValue, String.toList_ofList,
          numeral.floatValue_text]
        exact ⟨rfl, rfl⟩

end Canopen
