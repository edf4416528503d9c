import Mathlib.Data.List.Forall2
import Mathlib.Data.Nat.Digits.Defs
import Canopen.Proofs.Encoding.Given
import Canopen.Proofs.Literal
import Canopen.Proofs.Number.Spelling

/-!
# Stored integers

A default value of an integer type is a literal.  A type of fixed width stores the one number that
the literal means in so many bits, and a type of an odd width stores the octets of the number that
it spells.  Whatever else is written is refused: nothing is stored, one finding is reported, and
what is known of the type is kept.
-/

namespace Canopen

namespace Default

/-- The literal in a text: what is left without blanks and without the number of the node, and the
base that it shows. -/
def literal (text : Script) : Written :=
  let (digits, base) := Literal.detectBase (offset (Text.trimChars text.shown.toList))
  ⟨digits, base, text.isHalved⟩

/-- The number that the literal in a text spells. -/
def number (text : Script) : Except LiteralError Int :=
  Literal.integer (literal text).base (literal text).text

/-- Outside of strings, a text that is not blank is written as its literal. -/
theorem written_eq_literal {known : DataType} (scalar : known.isString = false) {text : Script}
    (solid : isBlank (some (.known known)) (some text) = false) :
    written known.isString (some text) = some (literal text) := by
  have given : known = .domain ∨ isGiven (some (.known known)) (some text) = true := by
    by_cases domain : known = .domain
    · exact .inl domain
    · right
      simp [isGiven, solid, domain]
  have filled : text.shown.toList ≠ [] ∧ Text.trimChars text.shown.toList ≠ [] := by
    simp only [isBlank, Bool.or_eq_false_iff, Bool.and_eq_false_iff, decide_eq_false_iff_not,
      not_not, String.isEmpty_eq_false_iff] at solid
    obtain ⟨some, solid⟩ := solid
    refine ⟨fun empty => some (String.toList_eq_nil_iff.1 empty), fun empty => ?_⟩
    rcases solid with (visible | unicode) | ink
    · cases visible
      cases scalar
    · cases unicode
      cases scalar
    · rw [List.all_eq_true.2 (Text.trimBy_eq_nil_iff.1 empty)] at ink
      cases ink
  rw [written, scalar, Option.getD_some]
  split
  · next empty => exact absurd empty filled.1
  · simp only [Bool.false_eq_true, ↓reduceIte]
    split
    · next empty => exact absurd empty filled.2
    · rfl

/-- Blanks spell no number. -/
theorem solid_of_number {type : Option TypeName} {text : Script} {spelled : Int}
    (reads : number text = .ok spelled) : isBlank type (some text) = false := by
  by_contra blank
  rw [Bool.not_eq_false] at blank
  have white : ∀ c ∈ text.shown.toList, Text.isBlank c = true := by
    simp only [isBlank, Bool.or_eq_true, Bool.and_eq_true, String.isEmpty_iff] at blank
    rcases blank with empty | ⟨_, white⟩
    · simp [empty]
    · exact List.all_eq_true.1 white
  have nothing : literal text = ⟨[], .decimal, text.isHalved⟩ := by
    rw [literal, Text.trimChars, Text.trimBy_eq_nil_iff.2 white]
    rfl
  rw [number, nothing] at reads
  cases reads

end Default

namespace Encoding

/-! ## Fixed widths -/

/-- The number that a default means to a type of fixed width. -/
inductive Means (text : Script) : DataType.Family → Int → Prop where
  | signed {bytes : Nat} {number value : Int} (spelled : Default.number text = .ok number)
      (reads : Literal.ReadsSigned (Default.literal text).base (bytes * 8) number value) :
      Means text (.signed bytes) value
  | unsigned {bytes : Nat} {number : Int} (spelled : Default.number text = .ok number)
      (fits : Literal.FitsUnsigned (bytes * 8) number) : Means text (.unsigned bytes) number

/-- How a number of a fixed width is written as a constant. -/
inductive Writes (value : Int) : DataType.Family → String → Prop where
  | signed {bytes : Nat} : Writes value (.signed bytes) (Number.decimal value)
  | unsigned {bytes : Nat} {digits : List Char}
      (capital : Number.CapitalHex (bytes * 2) value.toNat digits) :
      Writes value (.unsigned bytes) ("0x" ++ String.ofList digits)

/-- The C type of a type of fixed width. -/
def fixedType? : DataType.Family → Option CType
  | .signed bytes => some (signedType bytes)
  | .unsigned bytes => some (unsignedType bytes)
  | _ => none

/-- What becomes of a default of a type of fixed width. -/
structure Fixed (known : DataType) (type : CType) (text : Script)
    (encoded : Encoding × Option Finding) : Prop where
  /-- The one number that is meant is stored, and nothing is found. -/
  kept : ∀ value, Means text known.family value →
    ∃ initial, encoded.1.initializer = some initial ∧ encoded.2 = none ∧
      Writes value known.family initial.text
  unique : ∀ value other, Means text known.family value → Means text known.family other →
    value = other
  /-- When no number is meant, nothing is stored, and that is reported. -/
  refused : (∀ value, ¬ Means text known.family value) →
    encoded.1.initializer = none ∧
      encoded.2 = some (.conversion (String.ofList (Default.literal text).text) known.name)
  /-- Type, length and mark are known in every case. -/
  typed : encoded.1.cType = some type ∧ encoded.1.elements = none ∧
    encoded.1.length = type.size ∧ encoded.1.multibyte = decide (1 < type.size)

theorem shown_eq_literal {known : DataType} (scalar : known.isString = false) {text : Script}
    (solid : Default.isBlank (some (.known known)) (some text) = false) :
    Default.shown known.isString (some text) = (Default.literal text).text := by
  rw [Default.shown, Default.written_eq_literal scalar solid]

/-- What is made of a default that is not blank. -/
theorem ofDefault_literal {known : DataType} (scalar : known.isString = false) {text : Script}
    (solid : Default.isBlank (some (.known known)) (some text) = false) (elements : Int) :
    ofDefault (some (.known known)) (some text) elements =
      match ofFamily elements (some (Default.literal text)) known.family with
      | .ok encoding => (encoding, none)
      | .error .conversion =>
          (failed known.family,
            some (.conversion (String.ofList (Default.literal text).text) known.name))
      | .error .overflow =>
          (failed known.family,
            some (.overflow (String.ofList (Default.literal text).text) known.name)) := by
  have shown := shown_eq_literal scalar solid
  have written := Default.written_eq_literal scalar solid
  cases made : ofFamily elements (some (Default.literal text)) known.family with
  | ok encoding => simp only [ofDefault, written, made]
  | error fault => cases fault <;> simp only [ofDefault, shown, written, made]

theorem converted_ok {α : Type} {result : Except LiteralError α} {value : α}
    (done : result = .ok value) : converted result = .ok value := by
  rw [done]
  rfl

theorem converted_error {α : Type} {result : Except LiteralError α}
    (none : ∀ value, result ≠ .ok value) : converted result = .error .conversion := by
  cases result with
  | ok value => exact absurd rfl (none value)
  | error _ => rfl

variable {known : DataType} {text : Script} {elements : Int}

/-- A type of fixed width holds no text and has as many bytes as its C type. -/
theorem exists_width {type : CType} (fixed : fixedType? known.family = some type) :
    known.isString = false ∧
      ((known.family = .signed type.size ∧ signedType type.size = type) ∨
        (known.family = .unsigned type.size ∧ unsignedType type.size = type)) := by
  have sized := known.family_hasType
  rw [DataType.isString]
  cases family : known.family with
  | signed bytes =>
      rw [family] at fixed sized
      cases fixed
      exact ⟨rfl, .inl ⟨by rw [sized.size], by rw [sized.size]⟩⟩
  | unsigned bytes =>
      rw [family] at fixed sized
      cases fixed
      exact ⟨rfl, .inr ⟨by rw [sized.size], by rw [sized.size]⟩⟩
  | boolean | real _ | octetNumber _ _ | visibleText | octets | unicodeText | domain =>
      rw [family] at fixed
      cases fixed

theorem Means.unique {bytes : Nat} (wide : 0 < bytes) {family : DataType.Family}
    (width : family = .signed bytes ∨ family = .unsigned bytes) {value other : Int}
    (means : Means text family value) (also : Means text family other) : value = other := by
  have positive : 0 < bytes * 8 := Nat.mul_pos wide (by decide)
  rcases width with rfl | rfl
  · obtain ⟨spelled, reads⟩ := means
    obtain ⟨again, reads'⟩ := also
    rw [spelled] at again
    cases again
    exact reads.unique positive reads'
  · obtain ⟨⟩ | ⟨spelled, -⟩ := means
    obtain ⟨⟩ | ⟨again, -⟩ := also
    rw [spelled] at again
    cases again
    rfl

/-- The number that is meant is stored, spelled as a constant of its type. -/
theorem ofFamily_of_means (elements : Int) {type : CType} {value : Int}
    (width : (known.family = .signed type.size ∧ signedType type.size = type) ∨
      (known.family = .unsigned type.size ∧ unsignedType type.size = type))
    (means : Means text known.family value) :
    ∃ initial, ofFamily elements (some (Default.literal text)) known.family =
        .ok (scalar type type.size initial) ∧
      Writes value known.family initial.text := by
  have positive : 0 < type.size * 8 := Nat.mul_pos type.size_pos (by decide)
  rcases width with ⟨family, named⟩ | ⟨family, named⟩
  · rw [family] at means ⊢
    obtain ⟨spelled, reads⟩ := means
    have read := converted_ok ((Literal.signed_eq_ok_iff positive).2 ⟨_, spelled, reads⟩)
    refine ⟨.signed value, ?_, .signed⟩
    rw [ofFamily, read, named]
    rfl
  · rw [family] at means ⊢
    cases means with
    | unsigned spelled fits =>
        have read := converted_ok (Literal.unsigned_of_fits spelled fits)
        refine ⟨.unsigned (type.size * 2) value.toNat, ?_, .unsigned ?_⟩
        · rw [ofFamily, read, named]
          rfl
        · refine Number.capitalHex_paddedHexChars (Nat.mul_pos type.size_pos (by decide)) ?_
          have same : 2 ^ (type.size * 8) = Nat.pow 16 (type.size * 2) := by
            rw [Nat.pow_eq, show (16 : Nat) = 2 ^ 4 from rfl, ← pow_mul]
            congr 1
            omega
          exact same ▸ fits.toNat_lt

/-- Where no number is meant, the literal cannot be converted. -/
theorem ofFamily_of_not_means {type : CType}
    (width : (known.family = .signed type.size ∧ signedType type.size = type) ∨
      (known.family = .unsigned type.size ∧ unsignedType type.size = type))
    (none : ∀ value, ¬ Means text known.family value) :
    ofFamily elements (some (Default.literal text)) known.family = .error .conversion := by
  have positive : 0 < type.size * 8 := Nat.mul_pos type.size_pos (by decide)
  rcases width with ⟨family, named⟩ | ⟨family, named⟩
  · rw [family] at none ⊢
    have unread : ∀ value, Literal.signed (Default.literal text).base (type.size * 8)
        (Default.literal text).text ≠ .ok value := by
      intro value read
      obtain ⟨number, spelled, reads⟩ := (Literal.signed_eq_ok_iff positive).1 read
      exact none value (.signed spelled reads)
    rw [ofFamily, converted_error unread]
    rfl
  · rw [family] at none ⊢
    have unread : ∀ value, Literal.unsigned (Default.literal text).base (type.size * 8)
        (Default.literal text).text ≠ .ok value := by
      intro value read
      obtain ⟨spelled, fits⟩ := Literal.unsigned_eq_ok_iff.1 read
      exact none value (.unsigned spelled fits)
    rw [ofFamily, converted_error unread]
    rfl

/-- A type of fixed width stores a default exactly, or refuses it. -/
theorem ofDefault_fixed {type : CType} (fixed : fixedType? known.family = some type)
    (solid : Default.isBlank (some (.known known)) (some text) = false) :
    Fixed known type text (ofDefault (some (.known known)) (some text) elements) := by
  obtain ⟨scalar, width⟩ := exists_width fixed
  have kind : known.family = .signed type.size ∨ known.family = .unsigned type.size :=
    width.imp And.left And.left
  rw [ofDefault_literal scalar solid]
  by_cases meant : ∃ value, Means text known.family value
  · obtain ⟨value, means⟩ := meant
    obtain ⟨initial, stored, writes⟩ := ofFamily_of_means elements width means
    rw [stored]
    exact {
      kept := fun other also =>
        ⟨initial, rfl, rfl, means.unique type.size_pos kind also ▸ writes⟩
      unique := fun _ _ first second => first.unique type.size_pos kind second
      refused := fun none => absurd means (none value)
      typed := ⟨rfl, rfl, rfl, rfl⟩ }
  · have none : ∀ value, ¬ Means text known.family value := not_exists.1 meant
    rw [ofFamily_of_not_means width none]
    have kept : failed known.family = failedScalar type type.size := by
      rcases width with ⟨family, named⟩ | ⟨family, named⟩
      · rw [family, failed, named]
      · rw [family, failed, named]
    rw [kept]
    exact {
      kept := fun value means => absurd means (none value)
      unique := fun _ _ first second => first.unique type.size_pos kind second
      refused := fun _ => ⟨rfl, rfl⟩
      typed := ⟨rfl, rfl, rfl, rfl⟩ }

/-- A pattern with its highest bit set is stored as a negative number. -/
theorem ofDefault_fixed_pattern :
    ∃ initial,
      (ofDefault (some (.known .integer16)) (some " 0xfffE ") 0).1.initializer = some initial ∧
        initial.text = "-2" := by
  have fixed : fixedType? DataType.integer16.family = some .int16 := rfl
  have solid : Default.isBlank (some (.known .integer16)) (some " 0xfffE ") = false := by decide
  have spelled : Default.number " 0xfffE " = .ok 0xFFFE := by decide
  have means : Means (" 0xfffE " : String) DataType.integer16.family (-2) :=
    .signed spelled (.pattern (by decide) (by decide) (by decide) (by decide))
  obtain ⟨initial, stored, -, writes⟩ := (ofDefault_fixed fixed solid).kept (-2) means
  refine ⟨initial, stored, ?_⟩
  generalize initial.text = written at writes ⊢
  obtain ⟨⟩ : Writes (-2) (.signed 2) written := writes
  decide

/-! ## Odd widths -/

/-- How a word of so many digits is written as a constant. -/
def IsHexWord (width word : Nat) (written : String) : Prop :=
  ∃ digits, written = "0x" ++ String.ofList digits ∧ Number.CapitalHex width word digits

/-- How an octet is written as a constant. -/
def IsOctet (octet : Nat) (written : String) : Prop :=
  ∃ digits, written = "0x" ++ String.ofList digits ∧ Number.CapitalHex 2 octet digits

/-- The octets of a number, least significant first, as they are stored. -/
structure StoresOctets (bytes : Nat) (number : Int) (encoding : Encoding) : Prop where
  typed : encoding.cType = some .uint8
  counted : encoding.elements = some bytes
  length : encoding.length = bytes
  octets : ∃ octets words initial, encoding.initializer = some initial ∧
    octets.length = bytes ∧ ((Nat.ofDigits 0x100 octets : Nat) : Int) = number ∧
    initial.text = "\x7b" ++ ", ".intercalate words ++ "\x7d" ∧ List.Forall₂ IsOctet octets words

/-- What becomes of a default of an odd width that spells a number. -/
structure OddWidth (known : DataType) (bytes : Nat) (signed : Bool) (text : Script) (number : Int)
    (encoded : Encoding × Option Finding) : Prop where
  /-- A number that fits is stored, and nothing is found. -/
  kept : Literal.FitsUnsigned (bytes * 8) number →
    StoresOctets bytes number encoded.1 ∧ encoded.2 = none
  /-- A number that does not fit overflows, if it can be read with sixty-four bits. -/
  overflows : ¬ Literal.FitsUnsigned (bytes * 8) number →
    Literal.FitsReading signed (Default.literal text).base 64 number →
    encoded = ({ length := bytes },
      some (.overflow (String.ofList (Default.literal text).text) known.name))
  /-- A number that cannot be read with sixty-four bits is not converted. -/
  refused : ¬ Literal.FitsReading signed (Default.literal text).base 64 number →
    encoded = ({ length := bytes },
      some (.conversion (String.ofList (Default.literal text).text) known.name))

theorem ofDigits_littleEndian (bytes n : Nat) :
    Nat.ofDigits 0x100 (littleEndian bytes n) = n % 0x100 ^ bytes := by
  induction bytes generalizing n with
  | zero => simp [littleEndian, Nat.mod_one]
  | succ bytes ih => rw [littleEndian, Nat.ofDigits_cons, ih, pow_succ', Nat.mod_mul]

theorem lt_of_mem_littleEndian {bytes n octet : Nat} (among : octet ∈ littleEndian bytes n) :
    octet < 0x100 := by
  induction bytes generalizing n with
  | zero => cases among
  | succ bytes ih =>
      rcases List.mem_cons.1 among with rfl | later
      · exact Nat.mod_lt n (by decide)
      · exact ih later

theorem forall₂_isHexWord {width : Nat} (positive : 0 < width) {words : List Nat}
    (small : ∀ word ∈ words, word < Nat.pow 16 width) :
    List.Forall₂ (IsHexWord width) words (words.map (Initializer.hexConstant width)) := by
  rw [List.forall₂_map_right_iff, List.forall₂_same]
  exact fun word among => ⟨_, rfl, Number.capitalHex_paddedHexChars positive (small word among)⟩

theorem forall₂_isOctet {octets : List Nat} (small : ∀ octet ∈ octets, octet < 0x100) :
    List.Forall₂ IsOctet octets (octets.map (Initializer.hexConstant 2)) :=
  forall₂_isHexWord (by decide) small

/-- A number that fits so many octets is stored in them. -/
theorem storesOctets_littleEndian {bytes : Nat} {number : Int}
    (fits : Literal.FitsUnsigned (bytes * 8) number) :
    StoresOctets bytes number
      (array .uint8 bytes (.numbers 2 (littleEndian bytes number.toNat))) where
  typed := rfl
  counted := rfl
  length := Nat.mul_one bytes
  octets := by
    refine ⟨_, _, _, rfl, length_littleEndian bytes number.toNat, ?_, rfl,
      forall₂_isOctet fun octet => lt_of_mem_littleEndian⟩
    have natural : ((number.toNat : Nat) : Int) = number := Int.toNat_of_nonneg fits.1
    have bound : number.toNat < 0x100 ^ bytes := by
      have small := fits.toNat_lt
      rwa [Nat.mul_comm, pow_mul] at small
    rw [ofDigits_littleEndian, Nat.mod_eq_of_lt bound, natural]

/-- What is made of the number that is read with sixty-four bits. -/
def ofReading (bytes : Nat) (value : Int) : Except Failure Encoding :=
  if Literal.FitsUnsigned (bytes * 8) value then
    .ok (array .uint8 bytes (.numbers 2 (littleEndian bytes value.toNat)))
  else .error .overflow

theorem ofReading_eq (bytes : Nat) (value : Int) :
    (if value < 0 ∨ Nat.pow 2 (bytes * 8) ≤ value then .error .overflow
      else .ok (array .uint8 bytes (.numbers 2 (littleEndian bytes value.toNat))) :
        Except Failure Encoding) = ofReading bytes value := by
  have excluded : value < 0 ∨ (Nat.pow 2 (bytes * 8) : Int) ≤ value ↔
      ¬ Literal.FitsUnsigned (bytes * 8) value := by
    rw [Literal.FitsUnsigned, not_and_or, not_le, not_lt]
    simp
  rw [if_congr excluded rfl rfl, ofReading, ite_not]

theorem octetNumber_signed {bytes : Nat} {literal : Default.Written} {value : Int}
    (read : Literal.signed literal.base 64 literal.text = .ok value) :
    octetNumber bytes true literal = ofReading bytes value := by
  rw [octetNumber, if_pos rfl, read]
  exact ofReading_eq bytes value

theorem octetNumber_unsigned {bytes : Nat} {literal : Default.Written} {value : Nat}
    (read : Literal.unsigned literal.base 64 literal.text = .ok value) :
    octetNumber bytes false literal = ofReading bytes value := by
  rw [octetNumber, if_neg Bool.false_ne_true, read]
  exact ofReading_eq bytes value

/-- A literal that cannot be read with sixty-four bits is not converted. -/
theorem octetNumber_of_unread {bytes : Nat} {signed : Bool}
    (unread : ∀ number, Default.number text = .ok number →
      ¬ Literal.FitsReading signed (Default.literal text).base 64 number) :
    octetNumber bytes signed (Default.literal text) = .error .conversion := by
  cases signed with
  | true =>
      have none : ∀ value, Literal.signed (Default.literal text).base 64
          (Default.literal text).text ≠ .ok value := by
        intro value read
        obtain ⟨number, spelled, reads⟩ := (Literal.signed_eq_ok_iff (by decide)).1 read
        exact unread number spelled
          ((Literal.exists_reads_iff (by decide) spelled).1 ⟨value, reads⟩)
      rw [octetNumber, if_pos rfl, converted_error none]
      rfl
  | false =>
      have none : ∀ value, (Literal.unsigned (Default.literal text).base 64
          (Default.literal text).text).map Int.ofNat ≠ .ok value := by
        intro value read
        cases result : Literal.unsigned (Default.literal text).base 64
            (Default.literal text).text with
        | error _ =>
            rw [result] at read
            cases read
        | ok found =>
            obtain ⟨spelled, fits⟩ := Literal.unsigned_eq_ok_iff.1 result
            exact unread found spelled fits
      rw [octetNumber, if_neg Bool.false_ne_true, converted_error none]
      rfl

/-- A literal that can be read with sixty-four bits is stored when the number it spells fits. -/
theorem octetNumber_of_fitsReading {bytes : Nat} (narrow : bytes * 8 < 64) {signed : Bool}
    {number : Int} (spelled : Default.number text = .ok number)
    (fits : Literal.FitsReading signed (Default.literal text).base 64 number) :
    octetNumber bytes signed (Default.literal text) = ofReading bytes number := by
  cases signed with
  | true =>
      obtain ⟨value, reads⟩ := (Literal.exists_reads_iff (by decide) spelled).2 fits
      have read := (Literal.signed_eq_ok_iff_reads (by decide) spelled).2 reads
      obtain ⟨same, equal⟩ := reads.fitsUnsigned_iff narrow fun noSign =>
        Literal.nonneg_of_integer noSign spelled
      rw [octetNumber_signed read, ofReading, ofReading]
      by_cases small : Literal.FitsUnsigned (bytes * 8) number
      · rw [equal small]
      · rw [if_neg small, if_neg (mt same.1 small)]
  | false =>
      rw [octetNumber_unsigned (Literal.unsigned_of_fits spelled fits),
        Int.toNat_of_nonneg fits.1]

/-- The odd widths have fewer bits than a reading. -/
theorem narrow_of_octetNumber {bytes : Nat} {signed : Bool}
    (odd : known.family = .octetNumber bytes signed) :
    known.isString = false ∧ bytes * 8 < 64 := by
  cases known <;> cases odd <;> exact ⟨rfl, by decide⟩

/-- A type of an odd width stores a number in octets, or refuses it. -/
theorem ofDefault_oddWidth {bytes : Nat} {signed : Bool} {number : Int}
    (odd : known.family = .octetNumber bytes signed)
    (spelled : Default.number text = .ok number) :
    OddWidth known bytes signed text number
      (ofDefault (some (.known known)) (some text) elements) := by
  obtain ⟨scalar, narrow⟩ := narrow_of_octetNumber odd
  rw [ofDefault_literal scalar (Default.solid_of_number spelled), odd, ofFamily]
  by_cases fits : Literal.FitsReading signed (Default.literal text).base 64 number
  · rw [octetNumber_of_fitsReading narrow spelled fits, ofReading]
    by_cases small : Literal.FitsUnsigned (bytes * 8) number
    · rw [if_pos small]
      exact {
        kept := fun _ => ⟨storesOctets_littleEndian small, rfl⟩
        overflows := fun large => absurd small large
        refused := fun long => absurd fits long }
    · rw [if_neg small]
      exact {
        kept := fun small' => absurd small' small
        overflows := fun _ _ => rfl
        refused := fun long => absurd fits long }
  · have unread : ∀ other, Default.number text = .ok other →
        ¬ Literal.FitsReading signed (Default.literal text).base 64 other := by
      intro other again
      rw [spelled] at again
      cases again
      exact fits
    rw [octetNumber_of_unread unread]
    exact {
      kept := fun small => absurd (small.fitsReading narrow _ _) fits
      overflows := fun _ fits' => absurd fits' fits
      refused := fun _ => rfl }

/-- An offset to the number of the node is stored as its octets. -/
theorem ofDefault_oddWidth_offset :
    StoresOctets 3 0x123456
        (ofDefault (some (.known .unsigned24)) (some "$NODEID+0x123456") 0).1 ∧
      (ofDefault (some (.known .unsigned24)) (some "$NODEID+0x123456") 0).2 = none := by
  have odd : DataType.unsigned24.family = .octetNumber 3 false := rfl
  have spelled : Default.number "$NODEID+0x123456" = .ok 0x123456 := by decide
  exact (ofDefault_oddWidth odd spelled).kept (by decide)

end Encoding

end Canopen
