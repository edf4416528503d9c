import Canopen.Proofs.Compile.Contribution
import Canopen.Proofs.Encoding.NodeId
import Canopen.Proofs.Literal.Written
import Canopen.Schema.Field

/-!
# Spellings of a default number

A default number may be given as such, or as a text of hexadecimal digits behind their mark.  A number
that is given as such is written in decimal digits.  Both spellings are stored alike, but for two
kinds of numbers: hexadecimal digits of the full width are a pattern, which may mean a number below
zero, while decimal digits are not; and of all zeros only the decimal one is false.
-/

namespace Canopen

namespace Default

variable {mark : Char} {digits : List Char} {n : Nat}

/-- A text of hexadecimal digits behind their mark. -/
def markedText (mark : Char) (digits : List Char) : String :=
  String.ofList ('0' :: mark :: digits)

theorem literal_of_literalChars {text : String}
    (chars : ∀ c ∈ text.toList, c ∈ Literal.literalChars) :
    literal text =
      ⟨(Literal.detectBase text.toList).1, (Literal.detectBase text.toList).2, false⟩ := by
  have trimmed : Text.trimChars text.toList = text.toList :=
    Text.trimBy_eq_self_of_solid (Literal.solid_of_literalChars chars)
  have absent : ¬ nodeId <:+: text.toList := by
    intro held
    exact (Literal.literalChars_plain '$' (chars '$' (held.subset List.mem_cons_self))).2.2 rfl
  rw [literal, Script.shown_whole, offset_eq_self absent, trimmed]
  rfl

theorem toList_decimal (n : Nat) : (Number.decimal n).toList = Nat.toDigits 10 n :=
  String.toList_ofList

theorem literal_decimal (n : Nat) :
    literal (Number.decimal n) = ⟨Nat.toDigits 10 n, .decimal, false⟩ := by
  rw [literal_of_literalChars, toList_decimal, Literal.detectBase_toDigits]
  rw [toList_decimal]
  exact (Number.isNumeral_toDigits n).mem_literalChars

theorem literal_marked (marked : mark ∈ Literal.hexadecimalMarks)
    (numeral : Literal.IsNumeral .hexadecimal digits n) :
    literal (markedText mark digits) = ⟨'0' :: mark :: digits, .hexadecimal, false⟩ := by
  have chars : (markedText mark digits).toList = '0' :: mark :: digits := String.toList_ofList
  rw [literal_of_literalChars, chars, Literal.detectBase_marked marked numeral]
  rw [chars]
  exact Literal.mem_literalChars_marked marked numeral.mem_literalChars

theorem number_decimal (short : (Nat.toDigits 10 n).length ≤ 4300) :
    number (Number.decimal n) = .ok n := by
  rw [number, literal_decimal]
  exact Literal.integer_toDigits short

theorem number_marked (marked : mark ∈ Literal.hexadecimalMarks)
    (numeral : Literal.IsNumeral .hexadecimal digits n) :
    number (markedText mark digits) = .ok n := by
  rw [number, literal_marked marked numeral]
  exact Literal.integer_marked marked numeral

end Default

namespace Encoding

/-- The types of truth values and whole numbers. -/
def IsWhole : DataType.Family → Prop
  | .boolean | .signed _ | .unsigned _ | .octetNumber _ _ => True
  | .real _ | .visibleText | .octets | .unicodeText | .domain => False

/-- A number is stored alike in both spellings. -/
def StoredAlike (n : Nat) : DataType.Family → Prop
  | .boolean => n ≠ 0
  | .signed bytes => n < 2 ^ (bytes * 8 - 1) ∨ 2 ^ (bytes * 8) ≤ n
  | _ => True

variable {known : DataType} {text : String} {elements : Int} {bytes n : Nat} {number : Int}

theorem scalar_of_isWhole (whole : IsWhole known.family) : known.isString = false := by
  cases known <;> first | rfl | cases whole

/-- What is stored for a number: what is made of its literal, if that is converted. -/
theorem fst_ofDefault (whole : IsWhole known.family) (spelled : Default.number text = .ok number) :
    (ofDefault (some (.known known)) (some text) elements).1 =
      (ofFamily elements (some (Default.literal text)) known.family).toOption.getD
        (failed known.family) := by
  rw [ofDefault_literal (scalar_of_isWhole whole) (Default.solid_of_number spelled)]
  cases ofFamily elements (some (Default.literal text)) known.family with
  | ok encoding => rfl
  | error fault => cases fault <;> rfl

/-- Without a sign, the base of a literal does not matter. -/
theorem toOption_unsigned (spelled : Default.number text = .ok number) :
    (ofFamily elements (some (Default.literal text)) (.unsigned bytes)).toOption =
      if Literal.FitsUnsigned (bytes * 8) number then
        some (scalar (unsignedType bytes) bytes (.unsigned (bytes * 2) number.toNat))
      else none := by
  rw [ofFamily, Literal.unsigned_of_integer spelled]
  split <;> rfl

theorem toOption_octetNumber {signed : Bool} (odd : known.family = .octetNumber bytes signed)
    (spelled : Default.number text = .ok number) :
    (ofFamily elements (some (Default.literal text)) (.octetNumber bytes signed)).toOption =
      if Literal.FitsUnsigned (bytes * 8) number then
        some (array .uint8 bytes (.numbers 2 (littleEndian bytes number.toNat)))
      else none := by
  obtain ⟨-, narrow⟩ := narrow_of_octetNumber odd
  rw [ofFamily]
  by_cases fits : Literal.FitsReading signed (Default.literal text).base 64 number
  · rw [octetNumber_of_fitsReading narrow spelled fits, ofReading]
    split <;> rfl
  · -- what cannot be read with sixty-four bits does not fit fewer octets either
    have large : ¬ Literal.FitsUnsigned (bytes * 8) number := fun small =>
      fits (small.fitsReading narrow _ _)
    rw [octetNumber_of_unread, if_neg large]
    · rfl
    · intro other again
      rw [spelled] at again
      cases again
      exact fits

theorem toOption_signed :
    (ofFamily elements (some (Default.literal text)) (.signed bytes)).toOption =
      (Literal.signed (Default.literal text).base (bytes * 8)
        (Default.literal text).text).toOption.map
          fun value => scalar (signedType bytes) bytes (.signed value) := by
  rw [ofFamily]
  cases Literal.signed (Default.literal text).base (bytes * 8) (Default.literal text).text <;> rfl

/-- A number below the patterns with their highest bit set, or beyond all patterns, is read alike in
both bases. -/
theorem toOption_signed_eq {first second : List Char}
    (spelled : Literal.integer .decimal first = .ok (n : Int))
    (spelled' : Literal.integer .hexadecimal second = .ok (n : Int))
    (alike : n < 2 ^ (bytes * 8 - 1) ∨ 2 ^ (bytes * 8) ≤ n) :
    (Literal.signed .decimal (bytes * 8) first).toOption =
      (Literal.signed .hexadecimal (bytes * 8) second).toOption := by
  have noSign : Base.hexadecimal ≠ .decimal := by decide
  have grows : 2 ^ (bytes * 8 - 1) ≤ 2 ^ (bytes * 8) :=
    Nat.pow_le_pow_right (by decide) (Nat.sub_le _ _)
  rw [Literal.signed_of_integer spelled, Literal.signed_of_integer spelled', if_pos rfl,
    if_neg noSign]
  rcases alike with small | large
  · have fits : Literal.FitsSigned (bytes * 8) n := by
      constructor
      · have positive : (0 : Int) ≤ 2 ^ (bytes * 8 - 1) := by positivity
        omega
      · exact_mod_cast small
    have short : ¬ (2 : Int) ^ (bytes * 8) ≤ n := by
      rw [not_le]
      exact_mod_cast small.trans_le grows
    have low : ¬ (2 : Int) ^ (bytes * 8 - 1) ≤ n := by
      rw [not_le]
      exact_mod_cast small
    rw [if_pos fits, if_neg short, if_neg low]
  · have unfit : ¬ Literal.FitsSigned (bytes * 8) n := by
      rintro ⟨-, small⟩
      have below : n < 2 ^ (bytes * 8 - 1) := by exact_mod_cast small
      omega
    have long : (2 : Int) ^ (bytes * 8) ≤ n := by exact_mod_cast large
    rw [if_neg unfit, if_pos long]
    rfl

/-- A pattern with its highest bit set is read as a number below zero, and its decimal spelling is not
read at all. -/
theorem toOption_signed_pattern {first second : List Char}
    (spelled : Literal.integer .decimal first = .ok (n : Int))
    (spelled' : Literal.integer .hexadecimal second = .ok (n : Int))
    (negative : 2 ^ (bytes * 8 - 1) ≤ n) (short : n < 2 ^ (bytes * 8)) :
    (Literal.signed .decimal (bytes * 8) first).toOption = none ∧
      (Literal.signed .hexadecimal (bytes * 8) second).toOption =
        some ((n : Int) - 2 ^ (bytes * 8)) := by
  have noSign : Base.hexadecimal ≠ .decimal := by decide
  have unfit : ¬ Literal.FitsSigned (bytes * 8) n := by
    rintro ⟨-, small⟩
    have below : n < 2 ^ (bytes * 8 - 1) := by exact_mod_cast small
    omega
  have fits : ¬ (2 : Int) ^ (bytes * 8) ≤ n := by
    rw [not_le]
    exact_mod_cast short
  have high : (2 : Int) ^ (bytes * 8 - 1) ≤ n := by exact_mod_cast negative
  rw [Literal.signed_of_integer spelled, Literal.signed_of_integer spelled', if_pos rfl,
    if_neg noSign, if_neg unfit, if_neg fits, if_pos high]
  exact ⟨rfl, rfl⟩

/-- A word that begins with a digit is no truth value. -/
theorem lower_ne_false {c : Char} (digit : c ∈ Base.decimal.digits) (rest : List Char) :
    Text.lower (String.ofList (c :: rest)) ≠ "false" := by
  have kept : ∀ d ∈ Base.decimal.digits,
      d ≠ 'Σ' ∧ d ≠ 'İ' ∧ Text.lowerChar d = d ∧ d ≠ 'f' := forall_mem_of_all rfl
  obtain ⟨sigma, dotted, same, other⟩ := kept c digit
  intro written
  have chars := congrArg String.toList written
  rw [Text.lower, String.toList_ofList, String.toList_ofList, Text.lowerAfter, if_neg sigma,
    if_neg dotted, same] at chars
  exact other (List.cons.inj chars).1

theorem toOption_boolean {c : Char} {rest : List Char} {base : Base}
    (digit : c ∈ Base.decimal.digits) :
    (ofFamily elements (some ⟨c :: rest, base, false⟩) .boolean).toOption =
      some (scalar .bool 1 (.truth (decide (c :: rest ≠ ['0'])))) := by
  have other := lower_ne_false digit rest
  by_cases zero : c :: rest = ['0']
  · have isFalse : Text.lower (String.ofList (c :: rest)) = "false" ∨ c :: rest = ['0'] := .inr zero
    rw [ofFamily, decide_eq_true isFalse, decide_eq_false (not_not.2 zero)]
    rfl
  · have isTrue : ¬ (Text.lower (String.ofList (c :: rest)) = "false" ∨ c :: rest = ['0']) :=
      not_or.2 ⟨other, zero⟩
    rw [ofFamily, decide_eq_false isTrue, decide_eq_true zero]
    rfl

/-! ## Both spellings -/

variable {mark : Char} {digits : List Char}

theorem toDigits_eq_zero_iff : Nat.toDigits 10 n = ['0'] ↔ n = 0 := by
  constructor
  · intro zero
    exact Number.eq_zero_of_head?_toDigits (by rw [zero]; rfl)
  · rintro rfl
    rfl

/-- The truth value of a number in both spellings. -/
theorem toOption_boolean_spellings (elements : Int) (marked : mark ∈ Literal.hexadecimalMarks)
    (numeral : Literal.IsNumeral .hexadecimal digits n) :
    (ofFamily elements (some (Default.literal (Number.decimal n))) .boolean).toOption =
        some (scalar .bool 1 (.truth (decide (n ≠ 0)))) ∧
      (ofFamily elements (some (Default.literal (Default.markedText mark digits)))
        .boolean).toOption = some (scalar .bool 1 (.truth true)) := by
  rw [Default.literal_decimal, Default.literal_marked marked numeral]
  constructor
  · obtain ⟨c, rest, same⟩ := List.exists_cons_of_ne_nil (Number.isNumeral_toDigits n).filled
    have digit := (Number.isNumeral_toDigits n).plain c (same ▸ List.mem_cons_self)
    have zero : decide (Nat.toDigits 10 n ≠ ['0']) = decide (n ≠ 0) :=
      decide_eq_decide.2 (not_congr toDigits_eq_zero_iff)
    rw [← zero, same]
    exact toOption_boolean digit
  · rw [toOption_boolean (by decide)]
    simp

/-- Away from the exceptions, a number is stored in the same way however it is spelled. -/
theorem fst_ofDefault_alike (whole : IsWhole known.family)
    (short : (Nat.toDigits 10 n).length ≤ 4300) (marked : mark ∈ Literal.hexadecimalMarks)
    (numeral : Literal.IsNumeral .hexadecimal digits n) (alike : StoredAlike n known.family)
    (elements elements' : Int) :
    (ofDefault (some (.known known)) (some (Number.decimal n)) elements).1 =
      (ofDefault (some (.known known)) (some (Default.markedText mark digits)) elements').1 := by
  have plain := Default.number_decimal short
  have quoted := Default.number_marked marked numeral
  rw [fst_ofDefault whole plain, fst_ofDefault whole quoted]
  -- outside of strings the reserved elements do not count, so that they may differ
  suffices same : (ofFamily elements (some (Default.literal (Number.decimal n)))
      known.family).toOption =
      (ofFamily elements' (some (Default.literal (Default.markedText mark digits)))
        known.family).toOption by
    rw [same]
  cases family : known.family with
  | boolean =>
      have nonzero : n ≠ 0 := by rwa [family] at alike
      obtain ⟨truth, -⟩ := toOption_boolean_spellings elements marked numeral
      obtain ⟨-, truth'⟩ := toOption_boolean_spellings elements' marked numeral
      rw [truth, truth', decide_eq_true nonzero]
  | signed bytes =>
      rw [family] at alike
      rw [Default.number, Default.literal_decimal] at plain
      rw [Default.number, Default.literal_marked marked numeral] at quoted
      rw [toOption_signed, toOption_signed, Default.literal_decimal,
        Default.literal_marked marked numeral, toOption_signed_eq plain quoted alike]
  | unsigned bytes => rw [toOption_unsigned plain, toOption_unsigned quoted]
  | octetNumber bytes signed =>
      rw [toOption_octetNumber family plain, toOption_octetNumber family quoted]
  | real _ | visibleText | octets | unicodeText | domain =>
      rw [family] at whole
      exact whole.elim

/-- The pattern of a number below zero is stored as this number, and its decimal spelling is not
stored. -/
theorem initializer_pattern (family : known.family = .signed bytes)
    (short : (Nat.toDigits 10 n).length ≤ 4300) (marked : mark ∈ Literal.hexadecimalMarks)
    (numeral : Literal.IsNumeral .hexadecimal digits n) (negative : 2 ^ (bytes * 8 - 1) ≤ n)
    (narrow : n < 2 ^ (bytes * 8)) (elements elements' : Int) :
    (ofDefault (some (.known known)) (some (Number.decimal n)) elements).1.initializer = none ∧
      (ofDefault (some (.known known)) (some (Default.markedText mark digits))
        elements').1.initializer = some (.signed (n - 2 ^ (bytes * 8))) := by
  have plain := Default.number_decimal short
  have quoted := Default.number_marked marked numeral
  have whole : IsWhole known.family := by
    rw [family]
    trivial
  rw [fst_ofDefault whole plain, fst_ofDefault whole quoted, family, toOption_signed,
    toOption_signed, Default.literal_decimal, Default.literal_marked marked numeral]
  rw [Default.number, Default.literal_decimal] at plain
  rw [Default.number, Default.literal_marked marked numeral] at quoted
  obtain ⟨refused, read⟩ := toOption_signed_pattern plain quoted negative narrow
  rw [refused, read]
  exact ⟨rfl, rfl⟩

/-- Zero is false in decimal digits, and true behind the mark. -/
theorem initializer_zero (family : known.family = .boolean) (zero : n = 0)
    (marked : mark ∈ Literal.hexadecimalMarks)
    (numeral : Literal.IsNumeral .hexadecimal digits n) (elements elements' : Int) :
    (ofDefault (some (.known known)) (some (Number.decimal n)) elements).1.initializer =
        some (.truth false) ∧
      (ofDefault (some (.known known)) (some (Default.markedText mark digits))
        elements').1.initializer = some (.truth true) := by
  have short : (Nat.toDigits 10 n).length ≤ 4300 := by
    rw [toDigits_eq_zero_iff.2 zero]
    decide
  have plain := Default.number_decimal short
  have quoted := Default.number_marked marked numeral
  have whole : IsWhole known.family := by
    rw [family]
    trivial
  obtain ⟨truth, -⟩ := toOption_boolean_spellings elements marked numeral
  obtain ⟨-, truth'⟩ := toOption_boolean_spellings elements' marked numeral
  rw [fst_ofDefault whole plain, fst_ofDefault whole quoted, family, truth, truth', zero]
  exact ⟨rfl, rfl⟩

end Encoding

/-! ## Objects -/

/-- The object when it holds a single value of the type, with the default. -/
def Entry.holding (entry : Entry) (datum : Datum) (known : DataType) (default : Option Script) :
    Entry :=
  { entry with content := .var { datum with dataType := some (.known known), default } }

namespace Compile

/-- How the value of the object is stored when it is of the type and has the default. -/
def held (lengths : StringLengths) (entry : Entry) (datum : Datum) (known : DataType)
    (default : Option Script) : Encoding :=
  (Encoding.ofDefault (some (.known known)) default
    (lengths (.object (entry.holding datum known default)))).1

/-- How the two spellings of a number compare as defaults of an object. -/
structure Spelled (lengths : StringLengths) (entry : Entry) (datum : Datum) (known : DataType)
    (n : Nat) (plain quoted : Option Script) : Prop where
  /-- Member and descriptor are the same, and either both are stored or none. -/
  alike : Encoding.StoredAlike n known.family → ∃ object,
    object? lengths (entry.holding datum known plain) = some object ∧
    object? lengths (entry.holding datum known quoted) = some object ∧
    (held lengths entry datum known plain).isDefined =
      (held lengths entry datum known quoted).isDefined
  /-- Only the hexadecimal spelling is a pattern of a number below zero. -/
  pattern : ∀ bytes, known.family = .signed bytes → 2 ^ (bytes * 8 - 1) ≤ n →
    n < 2 ^ (bytes * 8) →
    (held lengths entry datum known plain).initializer = none ∧
      (held lengths entry datum known quoted).initializer = some (.signed (n - 2 ^ (bytes * 8)))
  /-- Only the decimal spelling of zero is false. -/
  zero : known.family = .boolean → n = 0 →
    (held lengths entry datum known plain).initializer = some (.truth false) ∧
      (held lengths entry datum known quoted).initializer = some (.truth true)

theorem object?_holding (lengths : StringLengths) (entry : Entry) (datum : Datum)
    (known : DataType) (default : Option Script) :
    object? lengths (entry.holding datum known default) =
      some (varObject entry datum (held lengths entry datum known default)) :=
  rfl

variable {known : DataType} {n : Nat} {mark : Char} {digits : List Char}

/-- A number that is given as such is written in decimal digits. -/
theorem readDefault_int (short : (Nat.toDigits 10 n).length ≤ 4300) :
    Schema.readDefault (.int n) = .ok (some (Number.decimal n)) := by
  have below (places : Nat) (positive : 0 < places) (few : (Nat.toDigits 10 n).length ≤ places) :
      ¬ Nat.pow 10 places ≤ n :=
    Nat.not_le_of_lt ((Nat.length_toDigits_le_iff (by decide) positive).1 few)
  have written : Number.isTooLong (n : Int) = false :=
    decide_eq_false (below Number.longestDecimal (by decide) short)
  rw [Schema.readDefault, written]
  rfl

/-- A number and its text of hexadecimal digits give the same object, but for patterns of numbers
below zero and for the truth value of zero. -/
theorem object?_spellings (whole : Encoding.IsWhole known.family)
    (short : (Nat.toDigits 10 n).length ≤ 4300) (marked : mark ∈ Literal.hexadecimalMarks)
    (numeral : Literal.IsNumeral .hexadecimal digits n) (lengths : StringLengths) (entry : Entry)
    (datum : Datum) :
    ∃ plain quoted, Schema.readDefault (.int n) = .ok plain ∧
      Schema.readDefault (.text (Default.markedText mark digits)) = .ok quoted ∧
      Spelled lengths entry datum known n plain quoted := by
  refine ⟨some (Number.decimal n), some (Default.markedText mark digits), readDefault_int short, rfl, ?_⟩
  constructor
  · intro alike
    have same : held lengths entry datum known (some (Number.decimal n)) =
        held lengths entry datum known (some (Default.markedText mark digits)) :=
      Encoding.fst_ofDefault_alike whole short marked numeral alike _ _
    refine ⟨_, object?_holding lengths entry datum known _, ?_, congrArg _ same⟩
    rw [object?_holding, same]
  · intro bytes family negative narrow
    exact Encoding.initializer_pattern family short marked numeral negative narrow _ _
  · intro family zero
    exact Encoding.initializer_zero family zero marked numeral _ _

/-- The largest number of two bytes with a sign is stored alike in both spellings. -/
theorem object?_spellings_word :
    let limit : Entry := { index := 0x2000, name := "Limit", content := .var {} }
    ∃ plain quoted, Schema.readDefault (.int 0x7FFF) = .ok plain ∧
      Schema.readDefault (.text "0x7fff") = .ok quoted ∧ ∃ object,
        object? defaultLength (limit.holding {} .integer16 plain) = some object ∧
        object? defaultLength (limit.holding {} .integer16 quoted) = some object := by
  intro limit
  have numeral : Literal.IsNumeral .hexadecimal ['7', 'f', 'f', 'f'] 0x7FFF :=
    ⟨by decide, forall_mem_of_all rfl, by decide⟩
  have whole : Encoding.IsWhole DataType.integer16.family := trivial
  have marked : 'x' ∈ Literal.hexadecimalMarks := by decide
  have alike : Encoding.StoredAlike 0x7FFF DataType.integer16.family := .inl (by decide)
  obtain ⟨plain, quoted, read, read', spelled⟩ :=
    object?_spellings whole (by decide) marked numeral defaultLength limit {}
  obtain ⟨object, compiled, compiled', -⟩ := spelled.alike alike
  exact ⟨plain, quoted, read, read', object, compiled, compiled'⟩

/-- The pattern `0x80` of one byte with a sign is stored and 128 is not; the zero `0x0` is true and 0
is false. -/
theorem spellings_differ :
    let limit : Entry := { index := 0x2000, name := "Limit", content := .var {} }
    Schema.readDefault (.int 0x80) = .ok (some "128") ∧
      Schema.readDefault (.text "0x80") = .ok (some "0x80") ∧
      object? defaultLength (limit.holding {} .integer8 (some "128")) ≠
        object? defaultLength (limit.holding {} .integer8 (some "0x80")) ∧
      (held defaultLength limit {} .integer8 (some "128")).isDefined = false ∧
      (held defaultLength limit {} .integer8 (some "0x80")).isDefined = true ∧
      object? defaultLength (limit.holding {} .boolean (some "0")) ≠
        object? defaultLength (limit.holding {} .boolean (some "0x0")) := by
  intro limit
  have byte : (held defaultLength limit {} .integer8 (some "128")).isDefined = false := by decide
  have byte' : (held defaultLength limit {} .integer8 (some "0x80")).isDefined = true := by decide
  refine ⟨readDefault_int (by decide), rfl, ?_, byte, byte', ?_⟩
  · intro same
    have fields := congrArg (Option.map fun object => object.fields.length) same
    exact absurd fields (by decide)
  · intro same
    have fields := congrArg (Option.map fun object => object.fields.map (·.initializer)) same
    exact absurd fields (by decide)

end Compile

end Canopen
