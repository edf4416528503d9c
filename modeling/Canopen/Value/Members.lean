import Canopen.Value.Basic

/-!
# Members of sets

A set of numbers has no order of its own: its members stand in a table whose size is a power of two,
each at the place that its remainder tells.  Where that place is taken, the next places are tried,
and then places further away.  A set with other members keeps the order in which they came.
-/

namespace Canopen.Value

/-- Remainders are taken by this prime. -/
def remainderPrime : Nat := Nat.pow 2 61 - 1

/-- The remainder of the infinite number. -/
def infiniteRemainder : Int := 314159

def signed (negative : Bool) (size : Int) : Int :=
  if negative then -size else size

/-- The remainder of a number; minus one is set aside and counts as minus two.  Doubling sixty-one
times changes no remainder, which takes care of fractions. -/
def remainder? (value : Value) : Option Int :=
  let remainder :=
    match value with
    | bool truth => some (if truth then 1 else 0)
    | int number => some (signed (number < 0) (number.natAbs % remainderPrime : Nat))
    | float (.finite negative significand exponent) =>
        some (signed negative
          (significand * Nat.pow 2 (exponent.emod 61).toNat % remainderPrime : Nat))
    | float (.infinite negative) => some (signed negative infiniteRemainder)
    | _ => none
  remainder.map fun remainder => if remainder = -1 then -2 else remainder

/-- How many places in a row are tried, unless the row would leave the table. -/
def rowLength : Nat := 10

/-- The first free place from a place on. -/
def freePlace (size : Nat) (taken : List Nat) : Nat → Nat → Nat → Nat
  | 0, place, _ => place
  | tries + 1, place, rest =>
      let row := if place + rowLength ≤ size then rowLength else 1
      match (List.range row).find? fun ahead => !taken.contains (place + ahead) with
      | some ahead => place + ahead
      | none =>
          let rest := rest / 32
          freePlace size taken tries ((place * 5 + 1 + rest) % size) rest

/-- The size of the table for so many members. -/
def tableSize (count : Nat) : Nat :=
  if count < 5 then 8 else Nat.pow 2 ((2 * count).log2 + 1)

/-- The remainder as a number of sixty-four bits. -/
def remainderBits (remainder : Int) : Nat :=
  (remainder.emod (Nat.pow 2 64)).toNat

/-- The places of the members with the given remainders, in a table where some are taken. -/
def placesFrom (size : Nat) (taken : List Nat) : List Int → List Nat
  | [] => []
  | remainder :: rest =>
      let bits := remainderBits remainder
      let place := freePlace size taken (size + 64) (bits % size) bits
      place :: placesFrom size (place :: taken) rest

theorem length_placesFrom (size : Nat) (taken : List Nat) (remainders : List Int) :
    (placesFrom size taken remainders).length = remainders.length := by
  induction remainders generalizing taken with
  | nil => rfl
  | cons remainder rest ih => simp [placesFrom, ih]

/-- Every member with its place, and the members in the order of the places. -/
def byPlace (members : List Value) : List Value :=
  let places := placesFrom (tableSize members.length) [] (members.map fun member =>
    (remainder? member).getD 0)
  ((places.zip members).mergeSort fun left right => left.1 ≤ right.1).map (·.2)

/-- The members of a set in the order in which they are shown. -/
def ordered (members : List Value) : List Value :=
  if members.all fun member => (remainder? member).isSome then byPlace members else members

/-- No member is lost, and none is new. -/
theorem ordered_perm (members : List Value) : (ordered members).Perm members := by
  unfold ordered
  split
  · refine ((List.mergeSort_perm _ _).map _).trans ?_
    rw [List.map_snd_zip (by simp [length_placesFrom])]
  · exact .refl _

end Canopen.Value
