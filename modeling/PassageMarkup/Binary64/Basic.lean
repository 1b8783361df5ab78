/-!
# Binary floating point numbers

Numbers in passages have the 64 bit binary format of IEEE 754.  A number is kept as its bits, so
that two numbers are equal exactly when they are the same number, and all arithmetic on them is
exact arithmetic on natural numbers followed by one rounding.
-/

namespace PassageMarkup

/-- The power of two with a natural exponent. -/
def twoPow (exponent : Nat) : Nat :=
  Nat.pow 2 exponent

/-- The power of ten with a natural exponent. -/
def tenPow (exponent : Nat) : Nat :=
  Nat.pow 10 exponent

/-- A number of the IEEE 754 binary64 format. -/
structure Binary64 where
  bits : UInt64
deriving DecidableEq, Repr

/-- A value `mantissa * 2 ^ exponent`. -/
structure Dyadic where
  mantissa : Nat
  exponent : Int
deriving DecidableEq, Repr

namespace Binary64

/-- The eleven bits of the exponent. -/
def exponentField (x : Binary64) : Nat :=
  x.bits.toNat / twoPow 52 % twoPow 11

/-- The fifty-two bits below the exponent. -/
def fractionField (x : Binary64) : Nat :=
  x.bits.toNat % twoPow 52

/-- Tells whether the sign bit is set. -/
def isNegative (x : Binary64) : Bool :=
  twoPow 63 ≤ x.bits.toNat

/-- Tells whether a number is neither infinite nor a NaN. -/
def isFinite (x : Binary64) : Bool :=
  x.exponentField != twoPow 11 - 1

/-- Tells whether a bit pattern stands for no number. -/
def isNaN (x : Binary64) : Bool :=
  !x.isFinite && x.fractionField != 0

/-- The absolute value of a finite number.  The smallest exponent is shared by the subnormal
numbers and the first normal ones. -/
def magnitude (x : Binary64) : Dyadic :=
  if x.exponentField = 0 then ⟨x.fractionField, -1074⟩
  else ⟨twoPow 52 + x.fractionField, x.exponentField - 1075⟩

/-- The bits of positive infinity as a natural number. -/
def infinityBits : Nat :=
  (twoPow 11 - 1) * twoPow 52

/-- Positive infinity. -/
def infinity : Binary64 :=
  ⟨UInt64.ofNat infinityBits⟩

/-- Positive zero. -/
def zero : Binary64 :=
  ⟨0⟩

/-- Equality of numbers: the two zeros are equal, and a NaN equals nothing. -/
def numericEq (x y : Binary64) : Bool :=
  !x.isNaN && !y.isNaN && (x.bits == y.bits || (x.bits ||| y.bits) <<< 1 == 0)

end Binary64

end PassageMarkup
