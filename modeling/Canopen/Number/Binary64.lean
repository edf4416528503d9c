/-!
# Binary floating point

Numbers of 53 significant bits, kept as exact integers.  Every operation computes the exact result
and rounds once, to the nearest number and to the even one of two.
-/

namespace Canopen.Number

/-- A floating number.  The significand of a normal number has 53 bits; a smaller one goes with the
least exponent, and zero has exponent zero. -/
inductive Binary64 where
  | finite (negative : Bool) (significand : Nat) (exponent : Int)
  | infinite (negative : Bool)
  | undefined
deriving DecidableEq, Repr

namespace Binary64

/-- The exponent of the numbers closest to zero. -/
def leastExponent : Int := -1074

/-- The exponent of the largest numbers. -/
def greatestExponent : Int := 971

/-- The significand from which on all bits are used. -/
def fullSignificand : Nat := Nat.pow 2 52

def zero (negative : Bool) : Binary64 :=
  finite negative 0 0

/-- Numerator and denominator of a ratio divided by a power of two. -/
def scaleDown (exponent : Int) (numerator denominator : Nat) : Nat × Nat :=
  (numerator * Nat.pow 2 (-exponent).toNat, denominator * Nat.pow 2 exponent.toNat)

/-- A quotient rounded to the nearest whole number, to the even one of two. -/
def roundQuotient (numerator denominator : Nat) : Nat :=
  let quotient := numerator / denominator
  let twice := 2 * (numerator % denominator)
  if twice < denominator then quotient
  else if denominator < twice then quotient + 1
  else quotient + quotient % 2

/-- The exponent at which a ratio fills the significand, or the least one. -/
def exponentFor (numerator denominator : Nat) : Int :=
  let guess : Int := numerator.log2 - denominator.log2 - 52
  let (scaled, unit) := scaleDown guess numerator denominator
  max leastExponent (if scaled < fullSignificand * unit then guess - 1 else guess)

/-- A significand and its exponent, moved up when the significand has one bit too many. -/
def assemble (negative : Bool) (significand : Nat) (exponent : Int) : Binary64 :=
  let (significand, exponent) :=
    if significand = 2 * fullSignificand then (fullSignificand, exponent + 1)
    else (significand, exponent)
  if significand = 0 then zero negative
  else if greatestExponent < exponent then infinite negative
  else finite negative significand exponent

/-- The number nearest to a ratio. -/
def ofRatio (negative : Bool) (numerator denominator : Nat) : Binary64 :=
  if numerator = 0 then zero negative
  else
    let exponent := exponentFor numerator denominator
    let (scaled, unit) := scaleDown exponent numerator denominator
    assemble negative (roundQuotient scaled unit) exponent

/-- The number nearest to a multiple of a power of two. -/
def ofScaled (negative : Bool) (significand : Nat) (exponent : Int) : Binary64 :=
  ofRatio negative (significand * Nat.pow 2 exponent.toNat) (Nat.pow 2 (-exponent).toNat)

def ofInt (n : Int) : Binary64 :=
  ofRatio (n < 0) n.natAbs 1

/-- The number nearest to a multiple of a power of ten; powers far out of range are not computed. -/
def ofDecimal (negative : Bool) (digits : Nat) (power : Int) : Binary64 :=
  let magnitude : Int := (Nat.toDigits 10 digits).length + power
  if digits = 0 then zero negative
  else if 400 < magnitude then infinite negative
  else if magnitude < -400 then zero negative
  else ofRatio negative (digits * Nat.pow 10 power.toNat) (Nat.pow 10 (-power).toNat)

/-- The opposite number. -/
def negate : Binary64 → Binary64
  | finite negative significand exponent => finite (!negative) significand exponent
  | infinite negative => infinite (!negative)
  | undefined => undefined

/-- The product of two numbers. -/
def multiply : Binary64 → Binary64 → Binary64
  | finite n s e, finite n' s' e' => ofScaled (n != n') (s * s') (e + e')
  | infinite n, infinite n' => infinite (n != n')
  | infinite n, finite n' s _ => if s = 0 then undefined else infinite (n != n')
  | finite n s _, infinite n' => if s = 0 then undefined else infinite (n != n')
  | undefined, _ => undefined
  | _, undefined => undefined

/-- A significand with its sign, at a smaller exponent. -/
def signedAt (least : Int) (negative : Bool) (significand : Nat) (exponent : Int) : Int :=
  let shifted : Int := significand * Nat.pow 2 (exponent - least).toNat
  if negative then -shifted else shifted

/-- The sum of two numbers. -/
def add : Binary64 → Binary64 → Binary64
  | finite n s e, finite n' s' e' =>
      let least := min e e'
      let total := signedAt least n s e + signedAt least n' s' e'
      if total = 0 then zero (n && n') else ofScaled (total < 0) total.natAbs least
  | infinite n, infinite n' => if n = n' then infinite n else undefined
  | undefined, _ => undefined
  | _, undefined => undefined
  | infinite n, _ => infinite n
  | _, infinite n => infinite n

/-- The whole number that is meant, if it is one. -/
def toInt? : Binary64 → Option Int
  | finite negative significand exponent =>
      let unit := Nat.pow 2 (-exponent).toNat
      if significand % unit = 0 then
        let whole : Int := significand / unit * Nat.pow 2 exponent.toNat
        some (if negative then -whole else whole)
      else none
  | infinite _ => none
  | undefined => none

/-- Two numbers that compare as equal: zeros of either sign do, and nothing equals the undefined
number. -/
def same : Binary64 → Binary64 → Bool
  | finite n s e, finite n' s' e' => s = s' && (s = 0 || (n = n' && e = e'))
  | infinite n, infinite n' => n = n'
  | _, _ => false

end Binary64

end Canopen.Number
