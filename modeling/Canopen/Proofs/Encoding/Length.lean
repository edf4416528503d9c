import Canopen.Proofs.Encoding.Form

/-!
# The length of encodings

Type, number of elements and length of an encoding are given separately for each family of types.
They agree all the same: a typed encoding is as long as its elements, and nothing is stored without
a type.
-/

namespace Canopen

namespace Encoding

/-- The length of an encoding is that of the elements it is made of. -/
structure Consistent (encoding : Encoding) : Prop where
  typed : encoding.initializer.isSome = true → encoding.cType.isSome = true
  length :
    ∀ type, encoding.cType = some type →
      encoding.length = encoding.elements.getD 1 * type.size

theorem Form.consistent {encoding : Encoding} (form : encoding.Form) : encoding.Consistent where
  typed stored := by
    cases form with
    | untyped => cases stored
    | failed number => cases stored
    | scalar number plain => rfl
    | list kind items => rfl
  length type typed := by
    cases several : encoding.elements with
    | none => rw [(form.plain typed several).2.1, Option.getD_none, Nat.one_mul]
    | some count =>
        obtain ⟨same, again, _, size, _⟩ := form.listed several
        rw [typed] at again
        cases again
        exact size

/-- Every default value has a consistent encoding, also when it cannot be converted. -/
theorem ofDefault_consistent (type : Option TypeName) (default : Option Script) (elements : Int) :
    (ofDefault type default elements).1.Consistent :=
  (form_ofDefault type default elements).consistent

/-- Zeros are reserved up to the wanted number of elements, and no value is cut off. -/
theorem length_reserve (elements : Int) (values : List Nat) :
    ((reserve elements values).length : Int) = max (values.length : Int) elements := by
  rw [reserve, List.length_append, List.length_replicate]
  omega

/-- A bound of the values is a bound of the zeros behind them. -/
theorem forall_mem_reserve {bound : Nat} (positive : 0 < bound) {values : List Nat}
    (small : ∀ value ∈ values, value < bound) (elements : Int) :
    ∀ value ∈ reserve elements values, value < bound := by
  intro value inside
  rcases List.mem_append.1 inside with given | zero
  · exact small value given
  · exact List.eq_of_mem_replicate zero ▸ positive

end Encoding

end Canopen
