import Canopen.Proofs.Encoding.Form

/-!
# The width of values

How many bytes a value has, and whether it is a number wider than one byte, is known from its type:
it does not matter if a default is given, if it can be converted, and how many elements are reserved.
Only a text is as long as its elements, and it is never marked as a wide number.
-/

namespace Canopen

namespace DataType

/-- The numbers wider than one byte that the target has types for. -/
def wideNumbers : List DataType :=
  [integer16, integer32, integer64, unsigned16, unsigned32, unsigned64, real32, real64]

/-- The types whose values are as long as they are written. -/
def texts : List DataType := [visibleString, octetString, unicodeString]

/-- The number of bytes of a value, none for a text. -/
def bytes? : DataType → Option Nat
  | boolean | integer8 | unsigned8 => some 1
  | integer16 | unsigned16 => some 2
  | integer24 | unsigned24 => some 3
  | integer32 | unsigned32 | real32 => some 4
  | integer40 | unsigned40 => some 5
  | integer48 | unsigned48 | timeOfDay | timeDifference => some 6
  | integer56 | unsigned56 => some 7
  | integer64 | unsigned64 | real64 => some 8
  | .domain => some 0
  | visibleString | octetString | unicodeString => none

end DataType

namespace TypeName

/-- The type is that of a number wider than one byte. -/
def IsWide (type : Option TypeName) : Prop :=
  ∃ known ∈ DataType.wideNumbers, type = some (.known known)

def IsText (type : Option TypeName) : Prop :=
  ∃ known ∈ DataType.texts, type = some (.known known)

/-- The number of bytes of a value, none for a text.  A value of an unknown type has no bytes. -/
def bytes? : Option TypeName → Option Nat
  | some (.known type) => type.bytes?
  | _ => some 0

end TypeName

/-- Length and mark of an encoding are those of the type. -/
structure Encoding.HasWidth (encoding : Encoding) (type : Option TypeName) : Prop where
  wide : encoding.multibyte = true ↔ TypeName.IsWide type
  length : ¬ TypeName.IsText type → TypeName.bytes? type = some encoding.length

/-! ## Families -/

namespace DataType

namespace Family

/-- The family is that of numbers wider than one byte. -/
def isWide : Family → Bool
  | signed bytes | unsigned bytes | real bytes => 1 < bytes
  | boolean | octetNumber _ _ | visibleText | octets | unicodeText | .domain => false

def bytes? : Family → Option Nat
  | boolean => some 1
  | signed bytes | unsigned bytes | real bytes | octetNumber bytes _ => some bytes
  | .domain => some 0
  | visibleText | octets | unicodeText => none

end Family

theorem isWide_family (known : DataType) : known.family.isWide = true ↔ known ∈ wideNumbers := by
  cases known <;> decide

theorem bytes?_family (known : DataType) : known.family.bytes? = known.bytes? := by
  cases known <;> rfl

theorem isSome_bytes? {known : DataType} (number : known ∉ texts) :
    known.bytes?.isSome = true := by
  cases known with
  | visibleString | octetString | unicodeString => exact absurd (by decide) number
  | _ => rfl

end DataType

namespace Encoding

variable {family : DataType.Family} {encoding : Encoding}

/-- The encoding is as wide as the family says, whatever its value. -/
structure FitsFamily (encoding : Encoding) (family : DataType.Family) : Prop where
  wide : encoding.multibyte = family.isWide
  length : ∀ bytes, family.bytes? = some bytes → encoding.length = bytes

theorem fitsFamily_unset (family : DataType.Family) : (unset family).FitsFamily family := by
  constructor
  · cases family <;> rfl
  · intro bytes sized
    cases family <;> cases sized <;> rfl

theorem Made.fitsFamily (made : Made family encoding) : encoding.FitsFamily family := by
  cases made with
  | unset => exact fitsFamily_unset family
  | truth _ | signed _ _ | unsigned _ _ | real _ _ =>
      refine ⟨rfl, fun bytes sized => ?_⟩
      cases sized
      rfl
  | octetNumber bytes signed number =>
      refine ⟨rfl, fun bytes sized => ?_⟩
      cases sized
      exact Nat.mul_one bytes
  | visibleText _ | octets _ | unicodeText _ => exact ⟨rfl, nofun⟩

/-- A value that is refused leaves the width of its family; not every family refuses values. -/
theorem fitsFamily_failed {elements : Int} {value : Option Default.Written} {fault : Failure}
    (refused : ofFamily elements value family = .error fault) :
    (failed family).FitsFamily family := by
  cases family with
  | boolean | real _ => cases value <;> cases refused
  | signed bytes | unsigned bytes | octetNumber bytes _ =>
      refine ⟨rfl, fun bytes sized => ?_⟩
      cases sized
      rfl
  | octets => exact ⟨rfl, nofun⟩
  | domain => cases refused
  | unicodeText => exact ⟨rfl, nofun⟩
  | visibleText =>
      cases value with
      | none =>
          rw [ofFamily] at refused
          split at refused <;> cases refused
      | some value => cases refused

/-! ## Types -/

theorem isWide_known (known : DataType) :
    TypeName.IsWide (some (.known known)) ↔ known ∈ DataType.wideNumbers := by
  simp [TypeName.IsWide]

theorem FitsFamily.hasWidth {known : DataType} (fits : encoding.FitsFamily known.family) :
    encoding.HasWidth (some (.known known)) where
  wide := by rw [fits.wide, known.isWide_family, isWide_known]
  length number := by
    have plain : known ∉ DataType.texts := fun text => number ⟨known, text, rfl⟩
    obtain ⟨bytes, sized⟩ := Option.isSome_iff_exists.1 (DataType.isSome_bytes? plain)
    rw [TypeName.bytes?, sized, fits.length bytes (known.bytes?_family.trans sized)]

theorem hasWidth_unknown {type : Option TypeName}
    (unknown : ∀ known, type ≠ some (.known known)) : Encoding.HasWidth {} type where
  wide := iff_of_false Bool.false_ne_true fun ⟨known, _, same⟩ => unknown known same
  length _ := by
    match type with
    | none | some (.unknown _) => rfl
    | some (.known known) => exact absurd rfl (unknown known)

/-- The width of an encoding is that of its type, whatever default is given. -/
theorem hasWidth_ofDefault (type : Option TypeName) (default : Option Script) (elements : Int) :
    (ofDefault type default elements).1.HasWidth type := by
  unfold ofDefault
  split
  · next known =>
    split
    · next done => exact (made_ofFamily done).fitsFamily.hasWidth
    · next refused => exact (fitsFamily_failed refused).hasWidth
    · next refused => exact (fitsFamily_failed refused).hasWidth
  · next other => exact hasWidth_unknown other

end Encoding

end Canopen
