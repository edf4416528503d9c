import Canopen.Proofs.Encoding.Length
import Canopen.Proofs.Encoding.Outcomes
import Canopen.Proofs.Literal.Grammar
import Canopen.Proofs.Text.Words

/-!
# Runs of octets

A run of octets is written as literals with blanks around them.  The bytes that they spell are stored
in order, with zeros behind them up to the reserved number of elements.  When one of the words is no
byte, nothing is stored at all.
-/

namespace Canopen

namespace Encoding

/-- The bytes are stored, and zeros behind them as far as elements are reserved. -/
structure StoresBytes (bytes : List UInt8) (elements : Int) (encoding : Encoding) : Prop where
  typed : encoding.cType = some .uint8
  sized : ∃ count, encoding.elements = some count ∧ encoding.length = count ∧
    (count : Int) = max (bytes.length : Int) elements
  written : ∃ initial words, encoding.initializer = some initial ∧
    List.Forall₂ IsOctet (bytes.map UInt8.toNat) words ∧
    initial.text = "\x7b" ++ ", ".intercalate
      (words ++ List.replicate (elements - bytes.length).toNat "0x00") ++ "\x7d"

/-- What becomes of a text that is to be a run of octets. -/
structure Octets (text : Script) (elements : Int) (encoded : Encoding × Option Finding) :
    Prop where
  /-- Bytes that are spelled between blanks are stored, and nothing is found. -/
  kept : ∀ words (bytes : List UInt8), bytes ≠ [] → Text.Spread words text.shown.toList →
    List.Forall₂ (fun word byte => Literal.Spells word (byte.toNat : Int)) words bytes →
    StoresBytes bytes elements encoded.1 ∧ encoded.2 = none
  /-- A word that is not read as a byte voids the text, and that is reported. -/
  refused : ∀ words, Text.Spread words text.shown.toList →
    (∃ word ∈ words, ∀ number, Literal.reading word = .ok number →
      ¬ Literal.FitsUnsigned 8 number) →
    encoded = ({}, some (.conversion text.shown DataType.octetString.name))

variable {text : Script} {elements : Int} {words : List (List Char)} {bytes : List UInt8}

/-! ## Words -/

/-- The octet that a word spells. -/
def octetValue (word : List Char) : Except Failure Nat :=
  converted (Literal.unsigned (Literal.detectBase word).2 8 (Literal.detectBase word).1)

theorem octetValues_eq (text : List Char) : octetValues text = (Text.words text).mapM octetValue :=
  rfl

/-- A literal of a byte is read as this byte. -/
theorem octetValue_of_spells {word : List Char} {byte : UInt8}
    (spells : Literal.Spells word (byte.toNat : Int)) : octetValue word = .ok byte.toNat := by
  have fits : Literal.FitsUnsigned 8 (byte.toNat : Int) :=
    ⟨Int.natCast_nonneg _, by exact_mod_cast byte.toNat_lt⟩
  exact converted_ok (Literal.unsigned_of_fits (Literal.reading_of_spells spells) fits)

theorem mapM_octetValue
    (spelled : List.Forall₂ (fun word byte => Literal.Spells word (byte.toNat : Int)) words bytes) :
    words.mapM octetValue = .ok (bytes.map UInt8.toNat) := by
  induction spelled with
  | nil => rfl
  | cons spells _ ih =>
      rw [List.mapM_cons, octetValue_of_spells spells, ih]
      rfl

/-- When some word is not read as a byte, the words are not converted. -/
theorem mapM_octetValue_refused
    (bad : ∃ word ∈ words, ∀ number, Literal.reading word = .ok number →
      ¬ Literal.FitsUnsigned 8 number) :
    words.mapM octetValue = .error .conversion := by
  induction words with
  | nil =>
      obtain ⟨word, inside, -⟩ := bad
      cases inside
  | cons word rest ih =>
      rw [List.mapM_cons]
      cases read : Literal.unsigned (Literal.detectBase word).2 8 (Literal.detectBase word).1 with
      | error _ =>
          rw [octetValue, read]
          rfl
      | ok value =>
          obtain ⟨spelled, fits⟩ := Literal.unsigned_eq_ok_iff.1 read
          have later : ∃ word ∈ rest, ∀ number, Literal.reading word = .ok number →
              ¬ Literal.FitsUnsigned 8 number := by
            obtain ⟨other, inside, unfit⟩ := bad
            rcases List.mem_cons.1 inside with rfl | behind
            · exact absurd fits (unfit _ spelled)
            · exact ⟨other, behind, unfit⟩
          rw [ih later, octetValue, read]
          rfl

/-! ## Stored runs -/

/-- What is stored for a run of octets. -/
def octetArray (elements : Int) (octets : List Nat) : Encoding :=
  array .uint8 (reserve elements octets).length (.numbers 2 (reserve elements octets))

/-- A text with words is written as it is. -/
theorem written_spread (spread : Text.Spread words text.shown.toList) (filled : words ≠ []) :
    Default.written DataType.octetString.isString (some text) =
      some ⟨text.shown.toList, .decimal, text.isHalved⟩ := by
  refine written_string rfl fun empty => ?_
  exact spread.trimChars_ne_nil filled (Text.trimBy_eq_nil_iff.2 (empty ▸ List.forall_mem_nil _))

/-- A text with words is encoded by its words. -/
theorem ofFamily_spread (elements : Int) (spread : Text.Spread words text.shown.toList)
    (filled : words ≠ []) :
    ofFamily elements (Default.written DataType.octetString.isString (some text)) .octets =
      (words.mapM octetValue).map (octetArray elements) := by
  have solid := spread.trimChars_ne_nil filled
  rw [written_spread spread filled, ofFamily]
  split
  · next empty => exact absurd empty solid
  · rw [Option.elim_some, octetValues_eq, Text.words_trimChars, spread.words_eq]
    cases words.mapM octetValue <;> rfl

/-- The zeros behind the bytes are written like bytes. -/
theorem storesBytes_array (bytes : List UInt8) (elements : Int) :
    StoresBytes bytes elements (octetArray elements (bytes.map UInt8.toNat)) where
  typed := rfl
  sized := by
    refine ⟨_, rfl, Nat.mul_one _, ?_⟩
    rw [length_reserve, List.length_map]
  written := by
    have small : ∀ octet ∈ bytes.map UInt8.toNat, octet < 0x100 := by
      intro octet among
      obtain ⟨byte, -, rfl⟩ := List.mem_map.1 among
      exact byte.toNat_lt
    refine ⟨_, _, rfl, forall₂_isOctet small, ?_⟩
    rw [Initializer.text, reserve, List.map_append, List.map_replicate, List.length_map]
    rfl

/-- A text that spells bytes stores them, and a text with another word stores nothing. -/
theorem ofDefault_octetString (text : Script) (elements : Int) :
    Octets text elements (ofDefault (some (.known .octetString)) (some text) elements) where
  kept words bytes filled spread spelled := by
    have some : words ≠ [] := by
      rintro rfl
      cases spelled
      exact filled rfl
    have stored := ofFamily_spread elements spread some
    rw [mapM_octetValue spelled] at stored
    have same : ofDefault (.some (.known .octetString)) (.some text) elements =
        (octetArray elements (bytes.map UInt8.toNat), none) := by
      simp only [ofDefault, DataType.family, stored, Except.map]
    rw [same]
    exact ⟨storesBytes_array bytes elements, rfl⟩
  refused words spread bad := by
    have some : words ≠ [] := by
      rintro rfl
      obtain ⟨word, inside, -⟩ := bad
      cases inside
    have refused := ofFamily_spread elements spread some
    rw [mapM_octetValue_refused bad] at refused
    have shown : String.ofList (Default.shown DataType.octetString.isString (.some text)) =
        text.shown := by
      rw [Default.shown, written_spread spread some]
      exact String.ofList_toList
    simp only [ofDefault, DataType.family, refused, Except.map, shown]
    rfl

/-- Octal, hexadecimal and decimal bytes are stored between blanks of different kinds. -/
theorem ofDefault_octetString_mixture :
    StoresBytes [15, 254, 7] 4
        (ofDefault (some (.known .octetString)) (some " 017\t0xfEuL\u3000+7\n") 4).1 ∧
      (ofDefault (some (.known .octetString)) (some " 017\t0xfEuL\u3000+7\n") 4).2 = none := by
  have last : Text.Spread [['+', '7']] (['\u3000'] ++ (['+', '7'] ++ ['\n'])) :=
    .word (forall_mem_of_all rfl) (by decide) (forall_mem_of_all rfl) (by rintro _ ⟨⟩; rfl)
      (.blank (forall_mem_of_all rfl))
  have middle : Text.Spread [['0', 'x', 'f', 'E', 'u', 'L'], ['+', '7']]
      (['\t'] ++ (['0', 'x', 'f', 'E', 'u', 'L'] ++ (['\u3000'] ++ (['+', '7'] ++ ['\n'])))) :=
    .word (forall_mem_of_all rfl) (by decide) (forall_mem_of_all rfl) (by rintro _ ⟨⟩; rfl) last
  have spread : Text.Spread [['0', '1', '7'], ['0', 'x', 'f', 'E', 'u', 'L'], ['+', '7']]
      ([' '] ++ (['0', '1', '7'] ++ (['\t'] ++ (['0', 'x', 'f', 'E', 'u', 'L'] ++
        (['\u3000'] ++ (['+', '7'] ++ ['\n'])))))) :=
    .word (forall_mem_of_all rfl) (by decide) (forall_mem_of_all rfl) (by rintro _ ⟨⟩; rfl) middle
  have octal : Literal.Spells ['0', '1', '7'] (15 : UInt8).toNat :=
    .octal (by decide) ⟨by decide, forall_mem_of_all rfl, by decide⟩
  have hexadecimal : Literal.Spells ('0' :: 'x' :: (['f', 'E'] ++ ['u', 'L'])) (254 : UInt8).toNat :=
    .hexadecimal (by decide) ⟨by decide, forall_mem_of_all rfl, by decide⟩ (forall_mem_of_all rfl)
  have decimal : Literal.Spells ['+', '7'] (7 : UInt8).toNat :=
    .positive ⟨by decide, forall_mem_of_all rfl, by decide⟩ (by decide)
  exact (ofDefault_octetString _ 4).kept _ [15, 254, 7] (by decide) spread
    (.cons octal (.cons hexadecimal (.cons decimal .nil)))

end Encoding

end Canopen
