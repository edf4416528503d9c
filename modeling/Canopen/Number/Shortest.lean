import Canopen.Number.Binary64
import Canopen.Number.Positional
import Canopen.Text.Blank
import Canopen.Text.Digit

/-!
# Decimal text of floating numbers

A number is written with the fewest decimal digits that read back as the same number, and of those
with the ones nearest to it.
-/

namespace Canopen.Number

/-- A whole number of units of a power of ten. -/
structure Decimal where
  digits : Nat
  power : Int
deriving DecidableEq, Repr

namespace Binary64

/-- A nonzero number between its neighbours: the numbers nearest to it lie between two bounds, in
quarters of its own unit, and the bounds belong to them when the significand is even. -/
structure Interval where
  significand : Nat
  exponent : Int

namespace Interval

/-- The lower bound in quarters; below a power of two the neighbour is closer. -/
def low (number : Interval) : Nat :=
  if number.significand = fullSignificand ∧ leastExponent < number.exponent then
    4 * number.significand - 1
  else 4 * number.significand - 2

/-- The upper bound in quarters. -/
def high (number : Interval) : Nat :=
  4 * number.significand + 2

/-- A decimal and a count of quarters, both in one common unit. -/
def aligned (number : Interval) (decimal : Decimal) (quarters : Nat) : Nat × Nat :=
  let exponent := number.exponent - 2
  (decimal.digits * Nat.pow 10 decimal.power.toNat * Nat.pow 2 (-exponent).toNat,
    quarters * Nat.pow 2 exponent.toNat * Nat.pow 10 (-decimal.power).toNat)

/-- The decimal reads back as the number. -/
def holds (number : Interval) (decimal : Decimal) : Bool :=
  let (value, low) := number.aligned decimal number.low
  let (_, high) := number.aligned decimal number.high
  if number.significand % 2 = 0 then low ≤ value && value ≤ high else low < value && value < high

/-- How far a decimal is from the number, in one common unit for decimals of one power. -/
def distance (number : Interval) (decimal : Decimal) : Nat :=
  let (value, exact) := number.aligned decimal (4 * number.significand)
  (value - exact) + (exact - value)

/-- Numerator and denominator of the number. -/
def ratio (number : Interval) : Nat × Nat :=
  (number.significand * Nat.pow 2 number.exponent.toNat, Nat.pow 2 (-number.exponent).toNat)

/-- How many digits stand before the decimal point, counted down below one. -/
def magnitude (number : Interval) : Int :=
  let (numerator, denominator) := number.ratio
  if denominator ≤ numerator then (Nat.toDigits 10 (numerator / denominator)).length
  else 1 - (Nat.toDigits 10 ((denominator - 1) / numerator)).length

/-- The better of the two decimals of so many digits next to the number, if one reads back. -/
def decimalOf? (number : Interval) (count : Nat) : Option Decimal :=
  let power := number.magnitude - count
  let (numerator, denominator) := number.ratio
  let below := numerator * Nat.pow 10 (-power).toNat / (denominator * Nat.pow 10 power.toNat)
  let lower : Decimal := ⟨below, power⟩
  let upper : Decimal := ⟨below + 1, power⟩
  match number.holds lower, number.holds upper with
  | false, false => none
  | true, false => some lower
  | false, true => some upper
  | true, true =>
      let toLower := number.distance lower
      let toUpper := number.distance upper
      if toLower < toUpper ∨ (toLower = toUpper ∧ below % 2 = 0) then some lower else some upper

/-- The shortest decimal that reads back; seventeen digits always do. -/
def shortest (number : Interval) : Decimal :=
  ((List.range' 1 17).findSome? number.decimalOf?).getD ⟨0, 0⟩

end Interval

/-- Digits with the point after so many of them. -/
def pointAfter (point : Int) (digits : List Char) : List Char :=
  if point ≤ 0 then '0' :: '.' :: (List.replicate (-point).toNat '0' ++ digits)
  else if (digits.length : Int) ≤ point then
    digits ++ List.replicate (point.toNat - digits.length) '0' ++ ['.', '0']
  else digits.take point.toNat ++ '.' :: digits.drop point.toNat

/-- One digit, the others after a point, and the power of ten with its sign. -/
def scientific (power : Int) : List Char → List Char
  | [] => []
  | first :: rest =>
      let fraction := if rest.isEmpty then [] else '.' :: rest
      let sign := if power < 0 then '-' else '+'
      first :: fraction ++ 'e' :: sign :: padZeros 2 (Nat.toDigits 10 power.natAbs)

/-- The text of a decimal: positional when the point lies within or close to the digits. -/
def layout (decimal : Decimal) : List Char :=
  let digits := (((Nat.toDigits 10 decimal.digits).reverse).dropWhile (· == '0')).reverse
  let point := (Nat.toDigits 10 decimal.digits).length + decimal.power
  if -4 < point ∧ point ≤ 16 then pointAfter point digits
  else scientific (point - 1) digits

/-- The text of a number. -/
def text : Binary64 → String
  | finite negative significand exponent =>
      let unsigned :=
        if significand = 0 then ['0', '.', '0']
        else layout (Interval.shortest ⟨significand, exponent⟩)
      String.ofList (if negative then '-' :: unsigned else unsigned)
  | infinite negative => if negative then "-inf" else "inf"
  | undefined => "nan"

/-- A decimal fraction under way: the digits read, how many stand behind the point, and whether the
point has been seen. -/
structure Reading where
  digits : Nat := 0
  count : Nat := 0
  places : Nat := 0
  pointSeen : Bool := false

/-- The power of ten behind the letter that marks it. -/
def readPower (text : List Char) : Option Int :=
  let (negative, digits) :=
    match text with
    | '-' :: rest => (true, rest)
    | '+' :: rest => (false, rest)
    | rest => (false, rest)
  match digits.mapM Text.decimalDigit? with
  | none => none
  | some [] => none
  | some values =>
      let value : Nat := values.foldl (fun total value => total * 10 + value) 0
      some (if negative then -(value : Int) else value)

/-- The number spelled by digits with an optional point and an optional power of ten. -/
def readFrom (negative : Bool) (state : Reading) : List Char → Option Binary64
  | [] =>
      if state.count = 0 then none else some (ofDecimal negative state.digits (-state.places))
  | '.' :: rest =>
      if state.pointSeen then none else readFrom negative { state with pointSeen := true } rest
  | c :: rest =>
      if c = 'e' ∨ c = 'E' then
        if state.count = 0 then none
        else (readPower rest).map fun power => ofDecimal negative state.digits (power - state.places)
      else
        match Text.decimalDigit? c with
        | none => none
        | some value =>
            readFrom negative
              { state with
                digits := state.digits * 10 + value
                count := state.count + 1
                places := if state.pointSeen then state.places + 1 else state.places } rest

/-- The number spelled by a text, blanks around it allowed. -/
def ofText? (text : List Char) : Option Binary64 :=
  let (negative, unsigned) :=
    match Text.trimBy Text.isNumberBlank text with
    | '-' :: rest => (true, rest)
    | '+' :: rest => (false, rest)
    | rest => (false, rest)
  let name := String.ofList (unsigned.map Char.toLower)
  if name = "inf" ∨ name = "infinity" then some (infinite negative)
  else if name = "nan" then some undefined
  else readFrom negative {} unsigned

end Binary64

end Canopen.Number
