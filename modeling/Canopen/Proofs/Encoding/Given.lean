import Canopen.Proofs.Encoding.Length
import Canopen.Proofs.Text.Trim

/-!
# Given values

A default value is given when there is something to store: blanks are no value, except in a text,
and a domain stores nothing.  Every given value is stored or reported.
-/

namespace Canopen

namespace Default

/-- Nothing is written, or nothing but blanks where they are no part of a text. -/
def isBlank (type : Option TypeName) : Option Script → Bool
  | none => true
  | some text =>
      text.shown.isEmpty ||
        (type ≠ some (.known .visibleString) && type ≠ some (.known .unicodeString) &&
          text.shown.toList.all Text.isBlank)

/-- There is something to store. -/
def isGiven (type : Option TypeName) (default : Option Script) : Bool :=
  type ≠ some (.known .domain) && !isBlank type default

theorem exists_of_isGiven {type : Option TypeName} {default : Option Script}
    (given : isGiven type default = true) :
    ∃ text, default = some text ∧ text.shown.toList ≠ [] ∧
      (type ≠ some (.known .visibleString) → type ≠ some (.known .unicodeString) →
        Text.trimChars text.shown.toList ≠ []) := by
  obtain ⟨_, solid⟩ := (Bool.and_eq_true _ _).mp given
  cases default with
  | none => cases solid
  | some text =>
      simp only [isBlank, Bool.not_or, Bool.and_eq_true, Bool.not_eq_true', String.isEmpty_eq_false_iff]
        at solid
      obtain ⟨some, solid⟩ := solid
      refine ⟨text, rfl, fun empty => some (String.toList_eq_nil_iff.1 empty), ?_⟩
      intro notVisible notUnicode empty
      have blank : text.shown.toList.all Text.isBlank = true :=
        List.all_eq_true.2 (Text.trimBy_eq_nil_iff.1 empty)
      simp [notVisible, notUnicode, blank] at solid

end Default

namespace Encoding

/-- A value that is not blank is stored when it can be converted. -/
theorem isDefined_of_ofFamily {elements : Int} {value : Default.Written}
    {family : DataType.Family} {encoding : Encoding} (stored : family ≠ .domain)
    (solid : family = .octets → Text.trimChars value.text ≠ [])
    (done : ofFamily elements (some value) family = .ok encoding) : encoding.isDefined = true := by
  cases family with
  | boolean | real bytes | visibleText =>
      cases done
      rfl
  | unicodeText =>
      rw [ofFamily] at done
      split at done
      · cases done
      · cases done
        rfl
  | signed bytes =>
      obtain ⟨number, _, stored⟩ := exists_of_bind_eq_ok done
      cases stored
      rfl
  | unsigned bytes =>
      obtain ⟨number, _, stored⟩ := exists_of_bind_eq_ok done
      cases stored
      rfl
  | octetNumber bytes signed =>
      obtain ⟨number, rfl⟩ := exists_of_octetNumber done
      rfl
  | octets =>
      rw [ofFamily] at done
      split at done
      · next empty => exact absurd empty (solid rfl)
      · obtain ⟨values, _, stored⟩ := exists_of_bind_eq_ok done
        cases stored
        rfl
  | domain => exact absurd rfl stored

theorem exists_written {known : DataType} {default : Option Script}
    (given : Default.isGiven (some (.known known)) default = true) :
    ∃ value, Default.written known.isString default = some value ∧
      (known.family = .octets → Text.trimChars value.text ≠ []) := by
  obtain ⟨text, rfl, some, solid⟩ := Default.exists_of_isGiven given
  have trimmed : known.family ≠ .visibleText → known.family ≠ .unicodeText →
      Text.trimChars text.shown.toList ≠ [] := by
    intro notVisible notUnicode
    refine solid ?_ ?_
    · rintro ⟨⟩
      exact notVisible rfl
    · rintro ⟨⟩
      exact notUnicode rfl
  unfold Default.written
  rw [Option.getD_some]
  cases string : known.isString with
  | true =>
      split
      · next empty => exact absurd empty some
      · refine ⟨_, rfl, fun octets => trimmed ?_ ?_⟩ <;> rw [octets] <;> exact nofun
  | false =>
      have scalar : known.family ≠ .visibleText ∧ known.family ≠ .unicodeText ∧
          known.family ≠ .octets := by
        refine ⟨?_, ?_, ?_⟩ <;> intro family <;> simp [DataType.isString, family] at string
      split
      · next empty => exact absurd empty some
      · simp only [Bool.false_eq_true, ↓reduceIte]
        split
        · next empty => exact absurd empty (trimmed scalar.1 scalar.2.1)
        · exact ⟨_, rfl, fun octets => absurd octets scalar.2.2⟩

/-- A given value about which nothing is found is stored. -/
theorem isDefined_of_isGiven {type : Option TypeName} {default : Option Script} {elements : Int}
    (given : Default.isGiven type default = true)
    (sound : (ofDefault type default elements).2 = none) :
    (ofDefault type default elements).1.isDefined = true := by
  unfold ofDefault at sound ⊢
  split at sound
  · next known =>
    obtain ⟨value, written, solid⟩ := exists_written given
    have stored : known.family ≠ .domain := by
      intro domain
      cases known <;> cases domain
      simp [Default.isGiven] at given
    rw [written] at sound ⊢
    dsimp only at sound ⊢
    split at sound
    · next done => exact isDefined_of_ofFamily stored solid done
    · cases sound
    · cases sound
  · cases sound

end Encoding

end Canopen
