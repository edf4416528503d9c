import Canopen.Proofs.Initializer.Characters
import Canopen.Proofs.Literal
import Canopen.Proofs.Literal.Written

/-!
# Initializers in C

C initializes a truth value with a word, a number with a constant that may have a sign, and an array
with a list of constants between braces.  Every initializer whose value belongs to its type is
written in this way.  All its characters can be shown, so that it stands on one line.
-/

namespace Canopen

/-- The whole numbers that a type of C holds. -/
def CType.Holds (type : CType) (value : Int) : Prop :=
  match type with
  | int8 | int16 | int32 | int64 => Literal.FitsSigned (type.size * 8) value
  | uint8 | uint16 | uint32 | uint64 => Literal.FitsUnsigned (type.size * 8) value
  | bool | char | float32 | float64 => False

namespace Initializer

/-! ## The grammar -/

/-- A character of ASCII that can be shown. -/
def IsShown (c : Char) : Prop :=
  0x20 ≤ c.toNat ∧ c.toNat < 0x7F

instance : DecidablePred IsShown :=
  fun _ => inferInstanceAs (Decidable (_ ∧ _))

/-- Constants of whole numbers: decimal ones without a zero in front, and hexadecimal ones. -/
inductive IsConstant : List Char → Nat → Prop where
  | decimal {digits : List Char} {n : Nat} (numeral : Literal.IsNumeral .decimal digits n)
      (unpadded : ∀ rest, digits = '0' :: rest → rest = []) : IsConstant digits n
  | hexadecimal {mark : Char} {digits : List Char} {n : Nat}
      (marked : mark ∈ Literal.hexadecimalMarks)
      (numeral : Literal.IsNumeral .hexadecimal digits n) : IsConstant ('0' :: mark :: digits) n

/-- Constants with a minus sign in front when they are below zero. -/
inductive IsInteger : List Char → Int → Prop where
  | plain {text : List Char} {n : Nat} (constant : IsConstant text n) : IsInteger text n
  | negative {text : List Char} {n : Nat} (constant : IsConstant text n) :
      IsInteger ('-' :: text) (-n)

/-- What may stand in front of a constant. -/
def signs : List (List Char) :=
  [[], ['-'], ['+']]

/-- The power of ten of a floating constant. -/
inductive IsPower : List Char → Prop where
  | power {letter : Char} {sign digits : List Char} {n : Nat} (marked : letter ∈ ['e', 'E'])
      (signed : sign ∈ signs) (numeral : Literal.IsNumeral .decimal digits n) :
      IsPower (letter :: (sign ++ digits))

/-- Decimal floating constants have a point, a power of ten, or both. -/
inductive IsFloating : List Char → Prop where
  | point {whole fraction power suffix : List Char} (filled : whole ++ fraction ≠ [])
      (plain : ∀ c ∈ whole ++ fraction, c ∈ Base.decimal.digits)
      (scaled : power = [] ∨ IsPower power) (suffixed : suffix ∈ [[], ['f'], ['F']]) :
      IsFloating (whole ++ ('.' :: fraction ++ (power ++ suffix)))
  | scaled {whole power suffix : List Char} {n : Nat}
      (numeral : Literal.IsNumeral .decimal whole n) (scaled : IsPower power)
      (suffixed : suffix ∈ [[], ['f'], ['F']]) : IsFloating (whole ++ (power ++ suffix))

/-- Numeric constants, with or without a sign; octal digits stand behind a zero. -/
inductive IsNumeric : List Char → Prop where
  | whole {sign text : List Char} {n : Nat} (signed : sign ∈ signs)
      (constant : IsConstant text n) : IsNumeric (sign ++ text)
  | octal {sign digits : List Char} {n : Nat} (signed : sign ∈ signs)
      (numeral : Literal.IsNumeral .octal ('0' :: digits) n) : IsNumeric (sign ++ '0' :: digits)
  | floating {sign text : List Char} (signed : sign ∈ signs) (constant : IsFloating text) :
      IsNumeric (sign ++ text)

/-- The items of an array: character constants of ASCII, or constants of numbers that the type
holds. -/
inductive IsItem : CType → List Char → Prop where
  | character {body : List Char} {code : Nat} (meant : Token.Body body code) (ascii : code < 0x80)
      (shown : ∀ c ∈ body, IsShown c) : IsItem .char ('\'' :: (body ++ ['\'']))
  | number {type : CType} {text : List Char} {n : Nat} (constant : IsConstant text n)
      (held : type.Holds n) : IsItem type text

/-- Items between braces. -/
def bracedChars (items : List (List Char)) : List Char :=
  '\x7b' :: ([',', ' '].intercalate items ++ ['\x7d'])

/-- The initializers of a value of the type, or of an array of so many values. -/
inductive IsInitializer : CType → Option Nat → List Char → Prop where
  | truth {text : List Char} (word : text ∈ ["true".toList, "false".toList]) :
      IsInitializer .bool none text
  | integer {type : CType} {text : List Char} {value : Int} (constant : IsInteger text value)
      (held : type.Holds value) : IsInitializer type none text
  | numeric {type : CType} {text : List Char} (kind : type ∈ [.float32, .float64])
      (constant : IsNumeric text) : IsInitializer type none text
  | list {type : CType} {items : List (List Char)} (filled : items ≠ [])
      (constants : ∀ item ∈ items, IsItem type item) :
      IsInitializer type (some items.length) (bracedChars items)

/-! ## Characters -/

/-- The characters of numeric constants. -/
def numericChars : List Char :=
  Base.hexadecimal.digits ++ Literal.hexadecimalMarks ++ ['.', '-', '+']

theorem numericChars_plain :
    ∀ c ∈ numericChars, IsShown c ∧ c ∉ Literal.suffixLetters ∧ c ≠ '$' :=
  forall_mem_of_all rfl

theorem mem_numericChars_of_digit {base : Base} : ∀ c ∈ base.digits, c ∈ numericChars := by
  cases base <;> exact forall_mem_of_all rfl

theorem mem_numericChars_of_mark : ∀ c ∈ Literal.hexadecimalMarks, c ∈ numericChars :=
  forall_mem_of_all rfl

variable {base : Base} {type : CType} {text sign : List Char} {n : Nat}

theorem mem_numericChars_of_sign (signed : sign ∈ signs) : ∀ c ∈ sign, c ∈ numericChars := by
  have plain : ∀ c ∈ signs.flatten, c ∈ numericChars := forall_mem_of_all rfl
  exact fun c inside => plain c (List.mem_flatten.2 ⟨sign, signed, inside⟩)

theorem mem_numericChars_of_numeral (numeral : Literal.IsNumeral base text n) :
    ∀ c ∈ text, c ∈ numericChars :=
  fun c inside => mem_numericChars_of_digit c (numeral.plain c inside)

theorem IsConstant.mem_numericChars (constant : IsConstant text n) :
    ∀ c ∈ text, c ∈ numericChars := by
  cases constant with
  | decimal numeral => exact mem_numericChars_of_numeral numeral
  | hexadecimal marked numeral =>
      exact List.forall_mem_cons.2 ⟨by decide, List.forall_mem_cons.2
        ⟨mem_numericChars_of_mark _ marked, mem_numericChars_of_numeral numeral⟩⟩

theorem IsInteger.mem_numericChars {value : Int} (constant : IsInteger text value) :
    ∀ c ∈ text, c ∈ numericChars := by
  cases constant with
  | plain constant => exact constant.mem_numericChars
  | negative constant =>
      exact List.forall_mem_cons.2 ⟨by decide, constant.mem_numericChars⟩

theorem IsPower.mem_numericChars (scaled : IsPower text) : ∀ c ∈ text, c ∈ numericChars := by
  obtain ⟨marked, signed, numeral⟩ := scaled
  have letters : ∀ c ∈ ['e', 'E'], c ∈ numericChars := forall_mem_of_all rfl
  exact List.forall_mem_cons.2 ⟨letters _ marked, List.forall_mem_append.2
    ⟨mem_numericChars_of_sign signed, mem_numericChars_of_numeral numeral⟩⟩

theorem mem_numericChars_of_suffix {suffix : List Char} (suffixed : suffix ∈ [[], ['f'], ['F']]) :
    ∀ c ∈ suffix, c ∈ numericChars := by
  have plain : ∀ c ∈ ['f', 'F'], c ∈ numericChars := forall_mem_of_all rfl
  exact fun c inside => plain c (List.mem_flatten.2 ⟨suffix, suffixed, inside⟩)

theorem IsFloating.mem_numericChars (constant : IsFloating text) :
    ∀ c ∈ text, c ∈ numericChars := by
  cases constant with
  | @point whole fraction power suffix filled plain scaled suffixed =>
      obtain ⟨before, behind⟩ := List.forall_mem_append.1 fun c inside =>
        mem_numericChars_of_digit c (plain c inside)
      have scale : ∀ c ∈ power, c ∈ numericChars := by
        rcases scaled with rfl | scaled
        · exact List.forall_mem_nil _
        · exact scaled.mem_numericChars
      have point : ∀ c ∈ '.' :: fraction, c ∈ numericChars :=
        List.forall_mem_cons.2 ⟨by decide, behind⟩
      have ending := List.forall_mem_append.2 ⟨scale, mem_numericChars_of_suffix suffixed⟩
      exact List.forall_mem_append.2 ⟨before, List.forall_mem_append.2 ⟨point, ending⟩⟩
  | scaled numeral scaled suffixed =>
      exact List.forall_mem_append.2 ⟨mem_numericChars_of_numeral numeral,
        List.forall_mem_append.2 ⟨scaled.mem_numericChars, mem_numericChars_of_suffix suffixed⟩⟩

theorem IsNumeric.mem_numericChars (constant : IsNumeric text) : ∀ c ∈ text, c ∈ numericChars := by
  cases constant with
  | whole signed constant =>
      exact List.forall_mem_append.2
        ⟨mem_numericChars_of_sign signed, constant.mem_numericChars⟩
  | octal signed numeral =>
      exact List.forall_mem_append.2
        ⟨mem_numericChars_of_sign signed, mem_numericChars_of_numeral numeral⟩
  | floating signed constant =>
      exact List.forall_mem_append.2
        ⟨mem_numericChars_of_sign signed, constant.mem_numericChars⟩

theorem shown_of_numericChars (chars : ∀ c ∈ text, c ∈ numericChars) : ∀ c ∈ text, IsShown c :=
  fun c inside => (numericChars_plain c (chars c inside)).1

theorem IsItem.shown (item : IsItem type text) : ∀ c ∈ text, IsShown c := by
  cases item with
  | character meant ascii shown =>
      exact List.forall_mem_cons.2 ⟨by decide, List.forall_mem_append.2
        ⟨shown, List.forall_mem_singleton.2 (by decide)⟩⟩
  | number constant held => exact shown_of_numericChars constant.mem_numericChars

theorem forall_mem_intercalate {p : Char → Prop} {separator : List Char}
    {items : List (List Char)} (between : ∀ c ∈ separator, p c)
    (inside : ∀ item ∈ items, ∀ c ∈ item, p c) : ∀ c ∈ separator.intercalate items, p c := by
  induction items with
  | nil => exact List.forall_mem_nil _
  | cons item items ih =>
      obtain ⟨first, others⟩ := List.forall_mem_cons.1 inside
      cases items with
      | nil =>
          rw [List.intercalate_singleton]
          exact first
      | cons next items =>
          rw [List.intercalate_cons_cons]
          exact List.forall_mem_append.2
            ⟨List.forall_mem_append.2 ⟨first, between⟩, ih others⟩

/-- An initializer stands on one line, and nothing in it is hidden. -/
theorem IsInitializer.shown {elements : Option Nat} (initial : IsInitializer type elements text) :
    ∀ c ∈ text, IsShown c := by
  cases initial with
  | truth word =>
      have letters : ∀ c ∈ ["true".toList, "false".toList].flatten, IsShown c :=
        forall_mem_of_all rfl
      exact fun c inside => letters c (List.mem_flatten.2 ⟨text, word, inside⟩)
  | integer constant held => exact shown_of_numericChars constant.mem_numericChars
  | numeric kind constant => exact shown_of_numericChars constant.mem_numericChars
  | list filled constants =>
      have between : ∀ c ∈ [',', ' '], IsShown c := forall_mem_of_all rfl
      have items := forall_mem_intercalate between fun item among => (constants item among).shown
      exact List.forall_mem_cons.2 ⟨by decide, List.forall_mem_append.2
        ⟨items, List.forall_mem_singleton.2 (by decide)⟩⟩

/-! ## Initializers that are written -/

theorem isConstant_toDigits (n : Nat) : IsConstant (Nat.toDigits 10 n) n :=
  .decimal (Number.isNumeral_toDigits n) fun _ => Number.toDigits_eq_zero_cons

theorem isInteger_decimal (value : Int) : IsInteger (Number.decimal value).toList value := by
  rw [Number.decimal, String.toList_ofList]
  cases value with
  | ofNat n => exact .plain (isConstant_toDigits n)
  | negSucc n => exact .negative (isConstant_toDigits (n + 1))

theorem isConstant_hexConstant (digits value : Nat) :
    IsConstant (hexConstant digits value).toList value := by
  have chars : (hexConstant digits value).toList =
      '0' :: 'x' :: Number.paddedHexChars digits value := by
    rw [hexConstant, String.toList_append, Number.paddedHex, String.toList_ofList,
      String.toList_ofList]
    rfl
  rw [chars]
  exact .hexadecimal (by decide) (Token.isNumeral_paddedHexChars digits value)

/-- A character is written in characters that can be shown, whatever its code is. -/
theorem shown_escapedChar (code : Nat) : ∀ c ∈ (escapedChar code).toList, IsShown c := by
  have digits : ∀ c ∈ Number.capitalHexDigits, IsShown c := forall_mem_of_all rfl
  unfold escapedChar
  split
  case h_1 | h_2 | h_3 | h_4 | h_5 | h_6 | h_7 | h_8 | h_9 | h_10 | h_11 =>
    exact forall_mem_of_all rfl
  case h_12 =>
    split
    · have written : Number.signedHex 2 code = String.ofList (Number.paddedHexChars 2 code) := rfl
      rw [String.toList_append, written, String.toList_ofList, String.toList_ofList]
      exact List.forall_mem_append.2 ⟨forall_mem_of_all rfl,
        fun c inside => digits c (Number.mem_capitalHexDigits inside)⟩
    · next printed =>
      have ascii : code < 0x80 := by omega
      have meant := Token.toNat_ofNat ascii
      rw [Int.toNat_natCast, Char.toString_eq_singleton, String.toList_singleton]
      refine List.forall_mem_singleton.2 ?_
      rw [IsShown, meant]
      omega

theorem isItem_constant {code : Nat} (ascii : code < 0x80) :
    IsItem .char (Token.constant code).toList := by
  have chars : (Token.constant code).toList = '\'' :: ((escapedChar code).toList ++ ['\'']) := by
    simp [Token.constant, String.toList_append]
  rw [chars]
  exact .character (Token.body_escapedChar ascii) ascii (shown_escapedChar code)

theorem toList_braced (items : List String) :
    (braced items).toList = bracedChars (items.map String.toList) := by
  rw [braced, String.toList_append, String.toList_append, String.toList_intercalate]
  rfl

/-- The initializers whose values belong to the type; the values of an array are as many as the
array has. -/
inductive Typed : CType → Option Nat → Initializer → Prop where
  | truth (value : Bool) : Typed .bool none (.truth value)
  | signed {type : CType} {value : Int} (held : type.Holds value) :
      Typed type none (.signed value)
  | unsigned {type : CType} {digits value : Nat} (held : type.Holds value) :
      Typed type none (.unsigned digits value)
  | characters {codes : List Nat} (filled : codes ≠ []) (ascii : ∀ code ∈ codes, code < 0x80) :
      Typed .char (some codes.length) (.characters codes)
  | numbers {type : CType} {digits : Nat} {values : List Nat} (filled : values ≠ [])
      (held : ∀ value ∈ values, type.Holds value) :
      Typed type (some values.length) (.numbers digits values)

/-- A value of the type is written as an initializer of the type. -/
theorem Typed.isInitializer {elements : Option Nat} {initial : Initializer}
    (typed : Typed type elements initial) : IsInitializer type elements initial.text.toList := by
  have list {values : List Nat} (write : Nat → String) (filled : values ≠ [])
      (items : ∀ value ∈ values, IsItem type (write value).toList) :
      IsInitializer type (some values.length) (braced (values.map write)).toList := by
    have length : ((values.map write).map String.toList).length = values.length := by
      rw [List.length_map, List.length_map]
    rw [toList_braced, ← length]
    refine .list ?_ ?_
    · rwa [ne_eq, List.map_eq_nil_iff, List.map_eq_nil_iff]
    · intro item among
      rw [List.map_map] at among
      obtain ⟨value, given, rfl⟩ := List.mem_map.1 among
      exact items value given
  cases typed with
  | truth value => cases value <;> exact .truth (by decide)
  | signed held => exact .integer (isInteger_decimal _) held
  | unsigned held => exact .integer (.plain (isConstant_hexConstant _ _)) held
  | characters filled ascii =>
      exact list Token.constant filled fun code given => isItem_constant (ascii code given)
  | numbers filled held =>
      exact list (hexConstant _) filled fun value given =>
        .number (isConstant_hexConstant _ _) (held value given)

end Initializer

end Canopen
