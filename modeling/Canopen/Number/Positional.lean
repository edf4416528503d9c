/-!
# Numbers as digits

Decimal and hexadecimal spellings, padded with zeros to a least width.
-/

namespace Canopen.Number

/-- Decimal digits, after a minus sign for a negative number. -/
def decimalChars : Int → List Char
  | .ofNat n => Nat.toDigits 10 n
  | .negSucc n => '-' :: Nat.toDigits 10 (n + 1)

/-- Decimal digits, after a minus sign for a negative number. -/
def decimal (n : Int) : String :=
  String.ofList (decimalChars n)

/-- Hexadecimal digits with capital letters. -/
def hexChars (n : Nat) : List Char :=
  (Nat.toDigits 16 n).map Char.toUpper

/-- Zeros in front, up to the width. -/
def padZeros (width : Nat) (digits : List Char) : List Char :=
  List.replicate (width - digits.length) '0' ++ digits

theorem length_padZeros (width : Nat) (digits : List Char) :
    (padZeros width digits).length = max width digits.length := by
  simp [padZeros]
  omega

/-- Hexadecimal digits with capital letters, at least as many as the width. -/
def paddedHexChars (width n : Nat) : List Char :=
  padZeros width (hexChars n)

/-- Hexadecimal digits with capital letters, at least as many as the width. -/
def paddedHex (width n : Nat) : String :=
  String.ofList (paddedHexChars width n)

/-- Hexadecimal digits of a signed number; the sign takes one place of the width. -/
def signedHex (width : Nat) : Int → String
  | .ofNat n => paddedHex width n
  | .negSucc n => "-" ++ paddedHex (width - 1) (n + 1)

/-- Hexadecimal digits with small letters. -/
def smallHexChars (width n : Nat) : List Char :=
  padZeros width (Nat.toDigits 16 n)

/-- A comma after every third digit from the end; the digits come last one first. -/
def groupThousands : List Char → List Char
  | a :: b :: c :: d :: rest => a :: b :: c :: ',' :: groupThousands (d :: rest)
  | digits => digits

/-- Decimal digits with a comma between thousands. -/
def grouped (n : Nat) : String :=
  String.ofList (groupThousands (Nat.toDigits 10 n).reverse).reverse

/-- The longest decimal number that is read or written as text. -/
def longestDecimal : Nat := 4300

/-- The number has more decimal digits than are ever written. -/
def isTooLong (n : Int) : Bool :=
  Nat.pow 10 longestDecimal ≤ n.natAbs

end Canopen.Number
