import PassageMarkup.Binary64.Basic
import PassageMarkup.Text.Basic

/-!
# Rounding to binary floating point

A positive quotient is rounded to the nearest number of the format, and a tie goes to the even
neighbour.  Decimal numerals and products are exact quotients, so they are rounded once.
-/

namespace PassageMarkup

/-- The quotient rounded to the nearest natural number; half a unit goes to the even neighbour. -/
def roundDiv (numerator denominator : Nat) : Nat :=
  let quotient := numerator / denominator
  let twice := 2 * (numerator % denominator)
  if denominator < twice || (twice == denominator && quotient % 2 == 1) then quotient + 1
  else quotient

namespace Binary64

/-- The numerator of `numerator / 2 ^ exponent` over the denominator `scaledDenominator`. -/
def scaledNumerator (numerator : Nat) (exponent : Int) : Nat :=
  numerator * twoPow (-exponent).toNat

/-- The denominator that belongs to `scaledNumerator`. -/
def scaledDenominator (denominator : Nat) (exponent : Int) : Nat :=
  denominator * twoPow exponent.toNat

/-- The exponent of the last place that a positive quotient has in the format: fifty-three bits
are kept, and none lies below `2 ^ (-1074)`. -/
def lastPlace (numerator denominator : Nat) : Int :=
  let exponent := max ((numerator.log2 : Int) - denominator.log2 - 53) (-1074)
  if twoPow 53 ≤ scaledNumerator numerator exponent / scaledDenominator denominator exponent then
    exponent + 1
  else exponent

/-- The number of the format nearest to a quotient.  A significand that rounds up to the next
power of two carries into the exponent, and a number past the largest finite one is infinite. -/
def ofRatio (numerator denominator : Nat) : Binary64 :=
  if numerator = 0 then zero
  else
    let exponent := lastPlace numerator denominator
    let significand :=
      roundDiv (scaledNumerator numerator exponent) (scaledDenominator denominator exponent)
    ⟨UInt64.ofNat (min ((exponent + 1074).toNat * twoPow 52 + significand) infinityBits)⟩

/-- The product of a positive number with a natural number, rounded once. -/
def times (x : Binary64) (factor : Nat) : Binary64 :=
  if x.isFinite then
    let magnitude := x.magnitude
    ofRatio (scaledNumerator (magnitude.mantissa * factor) (-magnitude.exponent))
      (scaledDenominator 1 (-magnitude.exponent))
  else x

end Binary64

/-- A value `digits * 10 ^ exponent`. -/
structure Decimal where
  digits : Nat
  exponent : Int
deriving DecidableEq, Repr

namespace Decimal

/-- The natural number that a run of decimal digits writes. -/
def digitsValue (digits : Text) : Nat :=
  digits.foldl (fun value digit => 10 * value + (digit.toNat - '0'.toNat)) 0

/-- Reads the exponent of a numeral: an `e` of either case, a sign that may be missing, and
digits.  Any other text is the exponent zero. -/
def readExponent : Text → Int
  | 'e' :: rest | 'E' :: rest =>
    match rest with
    | '-' :: digits => -(digitsValue digits : Int)
    | '+' :: digits => digitsValue digits
    | digits => digitsValue digits
  | _ => 0

/-- Reads a decimal numeral: digits, a point with more digits, and an exponent, each of which may
be missing. -/
def read (numeral : Text) : Decimal :=
  let whole := numeral.takeWhile Char.isDigit
  match numeral.dropWhile Char.isDigit with
  | '.' :: rest =>
    let fraction := rest.takeWhile Char.isDigit
    ⟨digitsValue (whole ++ fraction),
      readExponent (rest.dropWhile Char.isDigit) - fraction.length⟩
  | rest => ⟨digitsValue whole, readExponent rest⟩

/-- The number of the binary format nearest to a decimal value.  A value of 10 ^ 310 or more is
past the largest finite number and one below 10 ^ (-330) is nearer to zero than to the smallest
number, so only the powers of ten between them are worked out. -/
def toBinary64 (value : Decimal) : Binary64 :=
  if value.digits = 0 then Binary64.zero
  else
    let places : Int := (Nat.toDigits 10 value.digits).length + value.exponent
    if 310 < places then Binary64.infinity
    else if places < -330 then Binary64.zero
    else
      Binary64.ofRatio (value.digits * tenPow value.exponent.toNat)
        (tenPow (-value.exponent).toNat)

end Decimal

end PassageMarkup
