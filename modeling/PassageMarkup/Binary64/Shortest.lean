import PassageMarkup.Binary64.Rounding

/-!
# Shortest decimal of a binary number

A finite number other than zero is written with the fewest decimal digits that are read back as the
same number.  The reals that are read back as `m * 2 ^ q` form an interval around it, whose ends
belong to it when `m` is even.  The decimals with one, two, … digits are tried in turn: on each
grid only the two neighbours of the number can be the first to lie in the interval, the nearer of
them is taken, and of two equally near the even one.
-/

namespace PassageMarkup

namespace Dyadic

/-- A positive number and a power of ten to measure it with.  The number, the ends of its interval
and the grid are all multiples of the same unit: four steps of `step` are the number's own last
place, and the grid points are the multiples of `grid`. -/
structure Measure where
  mantissa : Nat
  isPowerOfTwo : Bool
  step : Nat
  grid : Nat

/-- Measures a positive magnitude with the power `10 ^ place`. -/
def measure (value : Dyadic) (place : Int) : Measure where
  mantissa := value.mantissa
  isPowerOfTwo := value.mantissa == twoPow 52 && value.exponent != -1074
  step := tenPow (-place).toNat * twoPow (value.exponent - 2).toNat
  grid := tenPow place.toNat * twoPow (2 - value.exponent).toNat

namespace Measure

/-- The number in units. -/
def center (measure : Measure) : Nat :=
  4 * measure.mantissa * measure.step

/-- The lower end of the interval: halfway to the number below, which is half as far away when the
number is a power of two. -/
def low (measure : Measure) : Nat :=
  (4 * measure.mantissa - if measure.isPowerOfTwo then 1 else 2) * measure.step

/-- The upper end of the interval. -/
def high (measure : Measure) : Nat :=
  (4 * measure.mantissa + 2) * measure.step

/-- Tells whether a multiple of the grid is read back as the number. -/
def readsBack (measure : Measure) (multiple : Nat) : Bool :=
  let point := multiple * measure.grid
  if measure.mantissa % 2 == 0 then measure.low ≤ point && point ≤ measure.high
  else measure.low < point && point < measure.high

/-- The multiple of the grid that is read back as the number and nearest to it, if there is one. -/
def nearest? (measure : Measure) : Option Nat :=
  let below := measure.center / measure.grid
  let above := below + 1
  match measure.readsBack below, measure.readsBack above with
  | false, false => none
  | true, false => some below
  | false, true => some above
  | true, true =>
    let distanceBelow := measure.center - below * measure.grid
    let distanceAbove := above * measure.grid - measure.center
    if distanceBelow < distanceAbove || (distanceBelow == distanceAbove && below % 2 == 0) then
      some below
    else some above

end Measure

/-- The exponent of the first decimal digit of a positive magnitude.  The smallest magnitude is
above `10 ^ (-324)`, so a factor of `10 ^ 400` leaves a whole part that shows the digit. -/
def decimalExponent (value : Dyadic) : Int :=
  (Nat.toDigits 10
    (value.mantissa * twoPow value.exponent.toNat * tenPow 400 /
      twoPow (-value.exponent).toNat)).length - 401

/-- Tries the grid `10 ^ place` and then finer ones; at most `tries` of them come before the last,
which is taken as it is. -/
def searchFrom (value : Dyadic) (place : Int) : Nat → Decimal
  | 0 => ⟨(value.measure place).center / (value.measure place).grid, place⟩
  | tries + 1 =>
    match (value.measure place).nearest? with
    | some digits => ⟨digits, place⟩
    | none => searchFrom value (place - 1) tries

/-- The shortest decimal of a positive magnitude; seventeen digits always suffice. -/
def shortest (value : Dyadic) : Decimal :=
  searchFrom value value.decimalExponent 17

end Dyadic

end PassageMarkup
