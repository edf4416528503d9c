import Canopen.Proofs.Number.Numeral
import Canopen.Schema.Reader
import Canopen.Schema.Writer

/-!
# One form for each field

Indices, types and classifications may be spelled in several ways, but each is written in one form.
That form is read as what was written, whichever spelling it came from.
-/

namespace Canopen.Schema

/-! ## Numbers -/

theorem toList_hex (width n : Nat) :
    ("0x" ++ Number.paddedHex width n).toList =
      '0' :: ['x'] ++ Number.paddedHexChars width n := by
  simp [Number.paddedHex, String.toList_append]

theorem toList_negativeHex (width n : Nat) :
    ("0x" ++ ("-" ++ Number.paddedHex width n)).toList =
      '0' :: ['x', '-'] ++ Number.paddedHexChars width n := by
  simp [Number.paddedHex, String.toList_append]

theorem isNumberBlank_of_not_isBlank {c : Char} (solid : Text.isBlank c = false) :
    Text.isNumberBlank c = false := by
  rw [Text.isNumberBlank, solid, Bool.false_and]

/-- Digits behind the mark of their base are read without trimming and without a sign. -/
theorem integerOfText_of_digits {text : String} {front : List Char} {width n : Nat}
    (spelled : text.toList = '0' :: ('x' :: front) ++ Number.paddedHexChars width n) :
    integerOfText text =
      match Number.unsignedNumeral 16 text.toList with
      | .ok number => .ok number
      | .error _ => .error (.badNumeral true text) := by
  have kept : Text.trimChars text.toList = text.toList := by
    rw [spelled]
    exact (Number.trimmed_digits (fun _ => id) _ width n).trimBy_eq_self
  have marked : isHexadecimal text.toList = true := by
    rw [spelled]
    rfl
  have read : Number.numeral 16 text.toList =
      (Number.unsignedNumeral 16 text.toList).map Int.ofNat := by
    rw [spelled, Number.numeral, (Number.trimmed_digits
      (fun _ => isNumberBlank_of_not_isBlank) _ width n).trimBy_eq_self]
    rfl
  simp only [integerOfText, kept, marked, if_pos, read]
  cases Number.unsignedNumeral 16 text.toList with
  | ok number => rfl
  | error fault => simp [Except.map]

/-- A number is read as it is written. -/
theorem integerOfText_hex (width n : Nat) :
    integerOfText ("0x" ++ Number.paddedHex width n) = .ok n := by
  rw [integerOfText_of_digits (toList_hex width n), toList_hex]
  simp only [List.cons_append, List.nil_append, Number.unsignedNumeral_paddedHexChars]

/-- A sign behind the mark of the base is not read. -/
theorem integerOfText_negativeHex (width n : Nat) :
    (integerOfText ("0x" ++ ("-" ++ Number.paddedHex width n))).toOption = none := by
  rw [integerOfText_of_digits (toList_negativeHex width n), toList_negativeHex]
  simp only [List.cons_append, List.nil_append, Number.unsignedNumeral_signed]
  rfl

theorem readUnsigned_hexText {bits width n : Nat} (fits : n < Nat.pow 2 bits) :
    readUnsigned bits (hexText width n) = .ok n := by
  have bounds : (0 : Int) ≤ n ∧ (n : Int) < Nat.pow 2 bits := ⟨by omega, by exact_mod_cast fits⟩
  rw [readUnsigned, hexText, readInteger, integerOfText_hex]
  exact if_pos bounds

theorem readIndex_hexText (index : UInt16) : readIndex (hexText 4 index.toNat) = .sound index := by
  rw [readIndex, readUnsigned_hexText index.toNat_lt]
  exact congrArg Checked.sound (UInt16.ofNat_toNat)

theorem readSubindex_hexText (subindex : UInt8) :
    readSubindex (hexText 2 subindex.toNat) = .sound subindex := by
  rw [readSubindex, readUnsigned_hexText subindex.toNat_lt]
  exact congrArg Checked.sound (UInt8.ofNat_toNat)

/-! ## Types -/

theorem typeOfText_name (type : DataType) : typeOfText type.name = .known type := by
  cases type <;> decide +kernel

theorem typeOfText_trim (text : String) : typeOfText (Text.trim text) = typeOfText text := by
  simp only [typeOfText, Text.trim_trim]

/-- The text of a type that was read from a text is read as this type again. -/
theorem typeOfText_text (text : String) : typeOfText (typeOfText text).text = typeOfText text := by
  cases read : typeOfText text with
  | known type => exact typeOfText_name type
  | unknown kept =>
      have trimmed : kept = Text.trim text := by
        simp only [typeOfText] at read
        split at read
        · cases read
        · split at read
          · cases read
          · exact (TypeName.unknown.inj read).symm
      rw [TypeName.text, trimmed, typeOfText_trim, read, trimmed]

/-- No type is known by a name that begins with a zero. -/
theorem ofName?_capitals {text : String} {rest : List Char} (zero : text.toList = '0' :: rest) :
    DataType.ofName? (Text.capitals text) = none := by
  have lettered : ∀ type ∈ DataType.all, type.name.toList.head? ≠ some '0' := by decide
  refine List.find?_eq_none.2 fun type known same => lettered type known ?_
  rw [eq_of_beq same, Text.capitals, String.toList_ofList, zero]
  rfl

theorem trim_of_digits {text : String} {front : List Char} {width n : Nat}
    (spelled : text.toList = '0' :: front ++ Number.paddedHexChars width n) :
    Text.trim text = text := by
  rw [Text.trim, Text.trimChars, spelled,
    (Number.trimmed_digits (fun _ => id) front width n).trimBy_eq_self, ← spelled,
    String.ofList_toList]

/-- A code that no type has is written as a text that names no type either. -/
theorem typeOfText_signedHex {code : Int} (unknown : DataType.ofCode? code = none) :
    typeOfText ("0x" ++ Number.signedHex 4 code) = .unknown ("0x" ++ Number.signedHex 4 code) := by
  cases code with
  | ofNat n =>
      have spelled := toList_hex 4 n
      have code : DataType.ofCode? (n : Int) = none := unknown
      simp only [typeOfText, Number.signedHex, trim_of_digits spelled, ofName?_capitals spelled,
        integerOfText_hex, Except.toOption, Option.bind_some, code]
  | negSucc n =>
      have spelled := toList_negativeHex 3 (n + 1)
      simp only [typeOfText, Number.signedHex, trim_of_digits spelled, ofName?_capitals spelled,
        integerOfText_negativeHex, Option.bind_none]

theorem readType_text (text : String) : readType (.text text) = .ok (some (typeOfText text)) :=
  rfl

/-- A type is written as it will be read. -/
theorem readType_typeValue {value : Value} {type : Option TypeName}
    (read : readType value = .ok type) : readType (typeValue type) = .ok type := by
  have again {name : TypeName} (kept : typeOfText name.text = name) :
      readType (typeValue (some name)) = .ok (some name) := by
    rw [typeValue, Option.map_some, textOrNull, Value.ofScript_whole, readType_text, kept]
  unfold readType at read
  split at read
  · cases read
    rfl
  · next truth =>
    cases read
    refine again ?_
    cases truth <;> decide
  · next code =>
    split at read
    · next known _ =>
      cases read
      exact again (typeOfText_name known)
    · next unknown =>
      cases read
      exact again (typeOfText_signedHex unknown)
  · next halves =>
    cases read
    exact again (typeOfText_text halves.shown)
  · split at read
    · next shown _ =>
      cases read
      exact again (typeOfText_text shown)
    · cases read

/-! ## Classifications -/

theorem readAccess_name (access : Option Access) :
    readAccess (textOrNull (access.map fun access => .whole access.name)) = .sound access := by
  rcases access with _ | (_ | _ | _ | _ | _ | _) <;> decide

theorem readMapping_name (mapping : Mapping) :
    readMapping (.text mapping.name) = .sound mapping := by
  cases mapping <;> decide

theorem readDefault_textOrNull (default : Option Script) :
    readDefault (textOrNull default) = .ok default := by
  rcases default with _ | (_ | _) <;> rfl

theorem readScript_ofScript (script : Script) : readScript (.ofScript script) = .sound script := by
  cases script <;> rfl

theorem readShape?_name (shape : Shape) : readShape? (.text shape.name) = some shape := by
  cases shape <;> decide

/-- A name that was read as an identifier is read again. -/
theorem readIdentifier_text {value : Value} {name : String}
    (read : readIdentifier value = .sound name) : readIdentifier (.text name) = .sound name := by
  obtain ⟨text, _, checked⟩ := Checked.andThen_eq_sound read
  split at checked
  · next identifier =>
    cases checked
    exact if_pos identifier
  · cases checked

end Canopen.Schema
