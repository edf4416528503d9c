import Canopen.Encoding

/-!
# The forms of encodings

Every family of types is encoded by a rule of its own, but only a few forms come out of it: nothing
with a type, a number with or without its value, or a list of characters, octets or units.  What
holds of encodings in general is shown for these forms.
-/

namespace Canopen

/-- How many items an initializer has between braces, none for a plain value. -/
def Initializer.items? : Initializer → Option Nat
  | truth _ => none
  | signed _ => none
  | unsigned _ _ => none
  | real _ _ => none
  | characters codes => some codes.length
  | numbers _ values => some values.length

/-- The type holds numbers of so many bytes; a character is no number. -/
structure CType.IsNumber (type : CType) (bytes : Nat) : Prop where
  size : type.size = bytes
  other : type ≠ .char

theorem CType.size_pos (type : CType) : 0 < type.size := by
  cases type <;> decide

/-- A type of the target has the width of the family. -/
def DataType.Family.HasType : DataType.Family → Prop
  | .signed bytes => (Encoding.signedType bytes).IsNumber bytes
  | .unsigned bytes => (Encoding.unsignedType bytes).IsNumber bytes
  | .real bytes => (Encoding.realType bytes).IsNumber bytes
  | _ => True

theorem DataType.family_hasType (type : DataType) : type.family.HasType := by
  cases type <;> first | trivial | exact ⟨rfl, nofun⟩

namespace Encoding

/-- The forms that encodings have. -/
inductive Form : Encoding → Prop where
  /-- Nothing is stored, and only the length may be known. -/
  | untyped (multibyte : Bool) (length : Nat) : Form { multibyte, length }
  | failed {type : CType} {bytes : Nat} (number : type.IsNumber bytes) :
      Form (failedScalar type bytes)
  | scalar {type : CType} {bytes : Nat} {value : Initializer} (number : type.IsNumber bytes)
      (plain : value.items? = none) : Form (scalar type bytes value)
  | list {type : CType} {count : Nat} {value : Initializer}
      (kind : type ∈ [.char, .uint8, .uint16]) (items : value.items? = some count) :
      Form (array type count value)

theorem exists_of_bind_eq_ok {ε α β : Type} {value : Except ε α} {next : α → Except ε β}
    {result : β} (done : value >>= next = .ok result) :
    ∃ middle, value = .ok middle ∧ next middle = .ok result := by
  cases value with
  | error _ => cases done
  | ok middle => exact ⟨middle, rfl, done⟩

/-! ## Lists -/

theorem length_littleEndian (bytes n : Nat) : (littleEndian bytes n).length = bytes := by
  induction bytes generalizing n with
  | zero => rfl
  | succ bytes ih => rw [littleEndian, List.length_cons, ih]

/-- A number that fits is stored as its octets. -/
theorem exists_of_octetNumber {bytes : Nat} {signed : Bool} {value : Default.Written}
    {encoding : Encoding} (done : octetNumber bytes signed value = .ok encoding) :
    ∃ number, encoding = array .uint8 bytes (.numbers 2 (littleEndian bytes number)) := by
  have fits {number : Int}
      (done : (if number < 0 ∨ Nat.pow 2 (bytes * 8) ≤ number then .error .overflow
        else .ok (array .uint8 bytes (.numbers 2 (littleEndian bytes number.toNat))) :
          Except Failure Encoding) = .ok encoding) :
      ∃ number, encoding = array .uint8 bytes (.numbers 2 (littleEndian bytes number)) := by
    split at done
    · cases done
    · cases done
      exact ⟨number.toNat, rfl⟩
  unfold octetNumber at done
  split at done
  · obtain ⟨number, _, stored⟩ := exists_of_bind_eq_ok done
    exact fits stored
  · obtain ⟨number, _, stored⟩ := exists_of_bind_eq_ok done
    exact fits stored

/-! ## All families -/

/-- A value of a family that is not stored. -/
def unset : DataType.Family → Encoding
  | .boolean => emptyScalar 1
  | .signed bytes | .unsigned bytes | .real bytes => emptyScalar bytes
  | .octetNumber bytes _ => { length := bytes }
  | .domain | .visibleText | .octets | .unicodeText => {}

/-- What can be made of a value, for each family of types. -/
inductive Made : DataType.Family → Encoding → Prop where
  | unset (family : DataType.Family) : Made family (unset family)
  | truth (value : Bool) : Made .boolean (scalar .bool 1 (.truth value))
  | signed (bytes : Nat) (number : Int) :
      Made (.signed bytes) (scalar (signedType bytes) bytes (.signed number))
  | unsigned (bytes number : Nat) :
      Made (.unsigned bytes) (scalar (unsignedType bytes) bytes (.unsigned (bytes * 2) number))
  | real (bytes : Nat) (text : List Char) (halved : Bool) :
      Made (.real bytes) (scalar (realType bytes) bytes (.real text halved))
  | octetNumber (bytes : Nat) (signed : Bool) (number : Nat) :
      Made (.octetNumber bytes signed)
        (array .uint8 bytes (.numbers 2 (littleEndian bytes number)))
  | visibleText (codes : List Nat) :
      Made .visibleText (array .char codes.length (.characters codes))
  | octets (octets : List Nat) : Made .octets (array .uint8 octets.length (.numbers 2 octets))
  | unicodeText (units : List Nat) :
      Made .unicodeText (array .uint16 units.length (.numbers 4 units))

/-- Whatever is stored for a family is one of the things that can be made for it. -/
theorem made_ofFamily {elements : Int} {value : Option Default.Written}
    {family : DataType.Family} {encoding : Encoding}
    (done : ofFamily elements value family = .ok encoding) : Made family encoding := by
  cases family with
  | boolean =>
      cases value with
      | none =>
          cases done
          exact .unset _
      | some value =>
          cases done
          exact .truth _
  | signed bytes =>
      cases value with
      | none =>
          cases done
          exact .unset _
      | some value =>
          obtain ⟨number, _, stored⟩ := exists_of_bind_eq_ok done
          cases stored
          exact .signed bytes number
  | unsigned bytes =>
      cases value with
      | none =>
          cases done
          exact .unset _
      | some value =>
          obtain ⟨number, _, stored⟩ := exists_of_bind_eq_ok done
          cases stored
          exact .unsigned bytes number
  | real bytes =>
      cases value with
      | none =>
          cases done
          exact .unset _
      | some value =>
          cases done
          exact .real bytes _ _
  | octetNumber bytes signed =>
      cases value with
      | none =>
          cases done
          exact .unset _
      | some value =>
          obtain ⟨number, rfl⟩ := exists_of_octetNumber done
          exact .octetNumber bytes signed number
  | domain =>
      cases done
      exact .unset _
  | visibleText =>
      cases value with
      | none =>
          rw [ofFamily] at done
          split at done
          · cases done
            exact .unset _
          · cases done
            exact .visibleText _
      | some value =>
          cases done
          exact .visibleText _
  | octets =>
      rw [ofFamily] at done
      split at done
      · split at done
        · cases done
          exact .unset _
        · cases done
          exact .octets _
      · obtain ⟨values, _, stored⟩ := exists_of_bind_eq_ok done
        cases stored
        exact .octets _
  | unicodeText =>
      cases value with
      | none =>
          rw [ofFamily] at done
          split at done
          · cases done
            exact .unset _
          · cases done
            exact .unicodeText _
      | some value =>
          rw [ofFamily] at done
          split at done
          · cases done
          · cases done
            exact .unicodeText _

theorem form_unset (family : DataType.Family) : (unset family).Form := by
  cases family <;> exact .untyped _ _

/-- Whatever is made for a family has one of the forms. -/
theorem Made.form {family : DataType.Family} {encoding : Encoding} (made : Made family encoding)
    (sized : family.HasType) : encoding.Form := by
  cases made with
  | unset => exact form_unset _
  | truth value => exact .scalar ⟨rfl, nofun⟩ rfl
  | signed bytes number => exact .scalar sized rfl
  | unsigned bytes number => exact .scalar sized rfl
  | real bytes text halved => exact .scalar sized rfl
  | octetNumber bytes signed number =>
      exact .list (by decide) (congrArg some (length_littleEndian bytes number))
  | visibleText codes => exact .list (by decide) rfl
  | octets octets => exact .list (by decide) rfl
  | unicodeText units => exact .list (by decide) rfl

theorem form_failed {family : DataType.Family} (sized : family.HasType) : (failed family).Form := by
  cases family with
  | signed bytes => exact .failed sized
  | unsigned bytes => exact .failed sized
  | boolean | real _ | octetNumber _ _ | visibleText | octets | unicodeText | domain =>
      exact .untyped _ _

/-- Every default value is encoded in one of the forms, also when it cannot be converted. -/
theorem form_ofDefault (type : Option TypeName) (default : Option Script) (elements : Int) :
    (ofDefault type default elements).1.Form := by
  unfold ofDefault
  split
  · next known =>
    split
    · next done => exact (made_ofFamily done).form known.family_hasType
    · exact form_failed known.family_hasType
    · exact form_failed known.family_hasType
  · exact .untyped _ _

/-! ## What the forms have in common -/

/-- A value has as many items as its declaration says, or it is a plain one. -/
theorem Form.items?_eq {encoding : Encoding} (form : encoding.Form) {value : Initializer}
    (stored : encoding.initializer = some value) : value.items? = encoding.elements := by
  cases form with
  | untyped => cases stored
  | failed number => cases stored
  | scalar number plain =>
      cases stored
      exact plain
  | list kind items =>
      cases stored
      exact items

/-- A number is marked when it is wider than a byte. -/
theorem Form.plain {encoding : Encoding} (form : encoding.Form) {type : CType}
    (typed : encoding.cType = some type) (plain : encoding.elements = none) :
    type ≠ .char ∧ encoding.length = type.size ∧ encoding.multibyte = decide (1 < type.size) := by
  cases form with
  | untyped => cases typed
  | failed number =>
      cases typed
      exact ⟨number.other, number.size.symm, by rw [number.size]; rfl⟩
  | scalar number =>
      cases typed
      exact ⟨number.other, number.size.symm, by rw [number.size]; rfl⟩
  | list => cases plain

/-- A list is as long as its items, and it is never marked. -/
theorem Form.listed {encoding : Encoding} (form : encoding.Form) {count : Nat}
    (several : encoding.elements = some count) :
    ∃ type, encoding.cType = some type ∧ type ∈ [.char, .uint8, .uint16] ∧
      encoding.length = count * type.size ∧ encoding.multibyte = false := by
  cases form with
  | untyped => cases several
  | failed number => cases several
  | scalar number plain => cases several
  | list kind items =>
      cases several
      exact ⟨_, rfl, kind, rfl, rfl⟩

/-- A number and a list can only be confused when they are single bytes. -/
theorem Form.eq_byte {first second : Encoding} (form : first.Form) (other : second.Form)
    (plain : first.elements = none) {count : Nat} (several : second.elements = some count)
    (cType : first.cType = second.cType) (multibyte : first.multibyte = second.multibyte) :
    first.cType = some .uint8 ∧ first.length = 1 := by
  obtain ⟨type, typed, kind, _, unmarked⟩ := other.listed several
  obtain ⟨number, size, marked⟩ := form.plain (cType.trans typed) plain
  have narrow : ¬ 1 < type.size := of_decide_eq_false (marked.symm.trans (multibyte.trans unmarked))
  simp only [List.mem_cons, List.not_mem_nil, or_false] at kind
  rcases kind with rfl | rfl | rfl
  · exact absurd rfl number
  · exact ⟨cType.trans typed, size⟩
  · exact absurd (by decide) narrow

/-- Encodings of one type, one length and one mark have the same items, unless they are single
bytes: such a byte is a number or a list of one octet. -/
theorem Form.elements_eq {first second : Encoding} (form : first.Form) (other : second.Form)
    (cType : first.cType = second.cType) (length : first.length = second.length)
    (multibyte : first.multibyte = second.multibyte)
    (larger : ¬ (second.cType = some .uint8 ∧ second.length = 1)) :
    first.elements = second.elements := by
  cases plain : first.elements with
  | none =>
      cases several : second.elements with
      | none => rfl
      | some count =>
          have byte := form.eq_byte other plain several cType multibyte
          rw [cType, length] at byte
          exact absurd byte larger
  | some count =>
      cases several : second.elements with
      | none =>
          exact absurd (other.eq_byte form several plain cType.symm multibyte.symm) larger
      | some total =>
          obtain ⟨type, typed, _, size, _⟩ := form.listed plain
          obtain ⟨same, again, _, total', _⟩ := other.listed several
          rw [cType, again] at typed
          cases typed
          rw [size, total'] at length
          rw [Nat.eq_of_mul_eq_mul_right (CType.size_pos _) length]

/-- A single byte is a number or a list of one octet. -/
theorem Form.elements_of_byte {encoding : Encoding} (form : encoding.Form)
    (typed : encoding.cType = some .uint8) (length : encoding.length = 1) :
    encoding.elements = none ∨ encoding.elements = some 1 := by
  cases several : encoding.elements with
  | none => exact .inl rfl
  | some count =>
      obtain ⟨type, same, _, size, _⟩ := form.listed several
      rw [typed] at same
      cases same
      rw [length, CType.size, Nat.mul_one] at size
      exact .inr (congrArg some size.symm)

end Encoding

end Canopen
