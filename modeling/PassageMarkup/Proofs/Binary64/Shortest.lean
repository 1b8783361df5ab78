import Mathlib.Algebra.Order.Field.Power
import Mathlib.Algebra.Order.Field.Rat
import Mathlib.Data.Nat.Cast.Order.Field
import Mathlib.Tactic.FieldSimp
import Mathlib.Tactic.Linarith
import Mathlib.Tactic.NormNum
import Mathlib.Tactic.Positivity
import Mathlib.Tactic.Ring
import PassageMarkup.Binary64.Shortest

/-!
# Shortest decimals are read back

The rationals that are read back as a magnitude form an interval, and the shortest decimal of the
magnitude lies in it.  The intervals of two magnitudes of the format meet at most in a common end,
and that belongs to the one with the even mantissa alone.  So a magnitude is known from its shortest
decimal.
-/

namespace PassageMarkup

theorem cast_twoPow (exponent : Nat) : (twoPow exponent : ℚ) = 2 ^ exponent :=
  Nat.cast_pow 2 exponent

theorem cast_tenPow (exponent : Nat) : (tenPow exponent : ℚ) = 10 ^ exponent :=
  Nat.cast_pow 10 exponent

theorem pow_mul_le_tenPow (exponent : Nat) : 2 ^ (3 * exponent) ≤ tenPow exponent := by
  rw [Nat.pow_mul]
  exact Nat.pow_le_pow_left (by omega) exponent

theorem zpow_eq_div {base : ℚ} (nonzero : base ≠ 0) (exponent : ℤ) :
    base ^ exponent = base ^ exponent.toNat / base ^ (-exponent).toNat := by
  have split := zpow_sub₀ nonzero (exponent.toNat : ℤ) ((-exponent).toNat : ℤ)
  rwa [Int.toNat_sub_toNat_neg, zpow_natCast, zpow_natCast] at split

def Decimal.value (decimal : Decimal) : ℚ :=
  decimal.digits * 10 ^ decimal.exponent

namespace Dyadic

variable {magnitude other : Dyadic} {place : ℤ} {multiple : Nat}

def value (magnitude : Dyadic) : ℚ :=
  magnitude.mantissa * 2 ^ magnitude.exponent

/-- A quarter of the last place of a magnitude. -/
def quarter (magnitude : Dyadic) : ℚ :=
  2 ^ (magnitude.exponent - 2)

/-- How many quarters below a magnitude its interval begins. -/
def reach (magnitude : Dyadic) : Nat :=
  if magnitude.mantissa == twoPow 52 && magnitude.exponent != -1074 then 1 else 2

/-- A rational lies in the interval of a magnitude, whose ends belong to an even mantissa. -/
structure ReadsBack (magnitude : Dyadic) (point : ℚ) : Prop where
  low_le : (4 * magnitude.mantissa - magnitude.reach) * magnitude.quarter ≤ point
  le_high : point ≤ (4 * magnitude.mantissa + 2) * magnitude.quarter
  low_lt : magnitude.mantissa % 2 = 1 →
    (4 * magnitude.mantissa - magnitude.reach) * magnitude.quarter < point
  lt_high : magnitude.mantissa % 2 = 1 →
    point < (4 * magnitude.mantissa + 2) * magnitude.quarter

/-- The positive magnitudes of the format: the mantissa has fifty-three bits, or fewer with the
smallest exponent. -/
structure Canonical (magnitude : Dyadic) : Prop where
  pos : 0 < magnitude.mantissa
  mantissa_lt : magnitude.mantissa < 2 ^ 53
  le_exponent : -1074 ≤ magnitude.exponent
  normal : magnitude.exponent ≠ -1074 → 2 ^ 52 ≤ magnitude.mantissa

theorem quarter_pos (magnitude : Dyadic) : 0 < magnitude.quarter :=
  zpow_pos (by norm_num) _

theorem value_eq (magnitude : Dyadic) :
    magnitude.value = 4 * magnitude.mantissa * magnitude.quarter := by
  have four : (2 : ℚ) ^ magnitude.exponent = 4 * magnitude.quarter := by
    rw [quarter, zpow_sub₀ (by norm_num)]
    norm_num
    ring
  rw [value, four]
  ring

theorem reach_le (magnitude : Dyadic) : magnitude.reach ≤ 2 := by
  unfold reach
  split <;> omega

/-- The unit of which the grid and a quarter of the last place are multiples. -/
def unit (magnitude : Dyadic) (place : ℤ) : ℚ :=
  1 / (10 ^ (-place).toNat * 2 ^ (2 - magnitude.exponent).toNat)

theorem unit_pos (magnitude : Dyadic) (place : ℤ) : 0 < magnitude.unit place := by
  unfold unit
  positivity

theorem step_mul_unit (magnitude : Dyadic) (place : ℤ) :
    ((magnitude.measure place).step : ℚ) * magnitude.unit place = magnitude.quarter := by
  have opposite : 2 - magnitude.exponent = -(magnitude.exponent - 2) := by omega
  rw [measure, unit, quarter, zpow_eq_div (by norm_num), opposite]
  push_cast [cast_twoPow, cast_tenPow]
  field_simp

theorem grid_mul_unit (magnitude : Dyadic) (place : ℤ) :
    ((magnitude.measure place).grid : ℚ) * magnitude.unit place = 10 ^ place := by
  rw [measure, unit, zpow_eq_div (by norm_num)]
  push_cast [cast_twoPow, cast_tenPow]
  field_simp

theorem multiple_mul_unit (magnitude : Dyadic) (place : ℤ) (multiple : Nat) :
    ((multiple * (magnitude.measure place).grid : Nat) : ℚ) * magnitude.unit place =
      (Decimal.mk multiple place).value := by
  rw [Decimal.value, ← grid_mul_unit magnitude place]
  push_cast
  ring

theorem low_mul_unit (pos : 0 < magnitude.mantissa) (place : ℤ) :
    ((magnitude.measure place).low : ℚ) * magnitude.unit place =
      (4 * magnitude.mantissa - magnitude.reach) * magnitude.quarter := by
  have bound := magnitude.reach_le
  have low : (magnitude.measure place).low =
      (4 * magnitude.mantissa - magnitude.reach) * (magnitude.measure place).step := rfl
  rw [low, ← step_mul_unit magnitude place, Nat.cast_mul,
    Nat.cast_sub (by omega : magnitude.reach ≤ 4 * magnitude.mantissa)]
  push_cast
  ring

theorem high_mul_unit (magnitude : Dyadic) (place : ℤ) :
    ((magnitude.measure place).high : ℚ) * magnitude.unit place =
      (4 * magnitude.mantissa + 2) * magnitude.quarter := by
  have high : (magnitude.measure place).high =
      (4 * magnitude.mantissa + 2) * (magnitude.measure place).step := rfl
  rw [high, ← step_mul_unit magnitude place]
  push_cast
  ring

theorem readsBack_of_measure (pos : 0 < magnitude.mantissa)
    (accepted : (magnitude.measure place).readsBack multiple = true) :
    magnitude.ReadsBack (Decimal.mk multiple place).value := by
  have unitPos := magnitude.unit_pos place
  have mantissa : (magnitude.measure place).mantissa = magnitude.mantissa := rfl
  rw [Measure.readsBack, mantissa] at accepted
  rw [← multiple_mul_unit magnitude]
  by_cases even : magnitude.mantissa % 2 = 0
  · simp only [even, beq_self_eq_true, if_true, Bool.and_eq_true, decide_eq_true_eq] at accepted
    constructor
    · rw [← low_mul_unit pos place]
      gcongr
      exact accepted.1
    · rw [← high_mul_unit magnitude place]
      gcongr
      exact accepted.2
    · omega
    · omega
  · simp only [beq_eq_false_iff_ne.mpr even, Bool.false_eq_true, if_false, Bool.and_eq_true,
      decide_eq_true_eq] at accepted
    have low := mul_lt_mul_of_pos_right (Nat.cast_lt (α := ℚ).mpr accepted.1) unitPos
    have high := mul_lt_mul_of_pos_right (Nat.cast_lt (α := ℚ).mpr accepted.2) unitPos
    rw [low_mul_unit pos] at low
    rw [high_mul_unit] at high
    exact ⟨low.le, high.le, fun _ => low, fun _ => high⟩

/-- On a grid that is not wider than a quarter of the last place, the grid point below the magnitude
is in its interval. -/
theorem readsBack_below (pos : 0 < magnitude.mantissa)
    (fine : (magnitude.measure place).grid ≤ (magnitude.measure place).step)
    (gridPos : 0 < (magnitude.measure place).grid) :
    (magnitude.measure place).readsBack
      ((magnitude.measure place).center / (magnitude.measure place).grid) = true := by
  set measure := magnitude.measure place with measure_eq
  have below : measure.center / measure.grid * measure.grid ≤ measure.center :=
    Nat.div_mul_le_self _ _
  have above : measure.center < measure.center / measure.grid * measure.grid + measure.grid :=
    Nat.lt_div_mul_add gridPos
  have low : measure.low + measure.step ≤ measure.center := by
    have mantissa : 0 < measure.mantissa := pos
    have reach : 4 * measure.mantissa - (if measure.isPowerOfTwo then 1 else 2) + 1 ≤
        4 * measure.mantissa := by
      split <;> omega
    calc
      measure.low + measure.step =
          (4 * measure.mantissa - (if measure.isPowerOfTwo then 1 else 2) + 1) * measure.step := by
        rw [Measure.low, Nat.add_mul, Nat.one_mul]
      _ ≤ measure.center := Nat.mul_le_mul_right _ reach
  have high : measure.center + 2 * measure.step = measure.high := by
    rw [Measure.center, Measure.high, Nat.add_mul]
  simp only [Measure.readsBack]
  split
  · simp only [Bool.and_eq_true, decide_eq_true_eq]
    omega
  · simp only [Bool.and_eq_true, decide_eq_true_eq]
    omega

theorem grid_pos (magnitude : Dyadic) (place : ℤ) : 0 < (magnitude.measure place).grid :=
  Nat.mul_pos (Nat.pow_pos (by omega)) (Nat.pow_pos (by omega))

theorem grid_le_step (small : (10 : ℚ) ^ place ≤ magnitude.quarter) :
    (magnitude.measure place).grid ≤ (magnitude.measure place).step := by
  rw [← grid_mul_unit magnitude, ← step_mul_unit magnitude place] at small
  exact Nat.cast_le.mp (le_of_mul_le_mul_right small (magnitude.unit_pos place))

theorem nearest?_readsBack {measure : Measure} (nearest : measure.nearest? = some multiple) :
    measure.readsBack multiple = true := by
  unfold Measure.nearest? at nearest
  simp only at nearest
  split at nearest
  · contradiction
  · simp_all
  · simp_all
  · split at nearest <;> simp_all

/-- The search ends in the interval when its last grid is fine enough. -/
theorem searchFrom_readsBack (pos : 0 < magnitude.mantissa) (tries : Nat)
    (small : (10 : ℚ) ^ (place - tries) ≤ magnitude.quarter) :
    magnitude.ReadsBack (magnitude.searchFrom place tries).value := by
  induction tries generalizing place with
  | zero =>
      apply readsBack_of_measure pos
      rw [Nat.cast_zero, sub_zero] at small
      exact readsBack_below pos (grid_le_step small) (magnitude.grid_pos place)
  | succ tries induction =>
      rw [searchFrom]
      split
      case h_1 digits nearest => exact readsBack_of_measure pos (nearest?_readsBack nearest)
      case h_2 =>
        apply induction
        rw [Nat.cast_succ] at small
        rwa [show place - 1 - (tries : ℤ) = place - (tries + 1) by ring]

theorem pow_length_toDigits_le {number : Nat} (pos : 0 < number) :
    10 ^ ((Nat.toDigits 10 number).length - 1) ≤ number := by
  rcases Nat.eq_zero_or_pos ((Nat.toDigits 10 number).length - 1) with single | several
  · rw [single]
    exact pos
  · by_contra less
    have shorter := (Nat.length_toDigits_le_iff (by omega) several).mpr (Nat.lt_of_not_le less)
    omega

namespace Canonical

theorem pow_le_scaled (canonical : magnitude.Canonical) :
    2 ^ (-magnitude.exponent).toNat ≤
      magnitude.mantissa * twoPow magnitude.exponent.toNat * tenPow 400 := by
  have exponent := canonical.le_exponent
  have left : 1 ≤ magnitude.mantissa * twoPow magnitude.exponent.toNat :=
    Nat.mul_pos canonical.pos (Nat.pow_pos (by omega))
  calc
    2 ^ (-magnitude.exponent).toNat ≤ 2 ^ (3 * 400) := Nat.pow_le_pow_right (by omega) (by omega)
    _ ≤ tenPow 400 := pow_mul_le_tenPow 400
    _ ≤ magnitude.mantissa * twoPow magnitude.exponent.toNat * tenPow 400 :=
      Nat.le_mul_of_pos_left _ left

theorem pow_decimalExponent_le (canonical : magnitude.Canonical) :
    (10 : ℚ) ^ magnitude.decimalExponent ≤ magnitude.value := by
  set scaled := magnitude.mantissa * twoPow magnitude.exponent.toNat * tenPow 400 with scaled_eq
  set whole := scaled / twoPow (-magnitude.exponent).toNat with whole_eq
  have wholePos : 0 < whole :=
    Nat.div_pos canonical.pow_le_scaled (Nat.pow_pos (by omega))
  have digits := pow_length_toDigits_le wholePos
  have length : 0 < (Nat.toDigits 10 whole).length := Nat.length_toDigits_pos
  have exponent : magnitude.decimalExponent =
      (((Nat.toDigits 10 whole).length - 1 : Nat) : ℤ) - (400 : Nat) := by
    change ((Nat.toDigits 10 whole).length : ℤ) - 401 = _
    omega
  have bound : (whole : ℚ) ≤ magnitude.value * tenPow 400 := by
    calc
      (whole : ℚ) ≤ scaled / (twoPow (-magnitude.exponent).toNat : Nat) := Nat.cast_div_le
      _ = magnitude.value * tenPow 400 := by
        rw [value, zpow_eq_div (by norm_num), scaled_eq]
        push_cast [cast_twoPow]
        ring
  rw [exponent, zpow_sub₀ (by norm_num), zpow_natCast, zpow_natCast, ← cast_tenPow 400,
    div_le_iff₀ (by rw [cast_tenPow]; positivity)]
  calc
    (10 : ℚ) ^ ((Nat.toDigits 10 whole).length - 1) ≤ whole := by exact_mod_cast digits
    _ ≤ magnitude.value * tenPow 400 := bound

/-- Seventeen digits are fine enough. -/
theorem pow_le_quarter (canonical : magnitude.Canonical) :
    (10 : ℚ) ^ (magnitude.decimalExponent - (17 : Nat)) ≤ magnitude.quarter := by
  have first := canonical.pow_decimalExponent_le
  have mantissa : (magnitude.mantissa : ℚ) ≤ 2 ^ 53 := by
    exact_mod_cast canonical.mantissa_lt.le
  have quarterPos := magnitude.quarter_pos
  rw [value_eq] at first
  rw [zpow_sub₀ (by norm_num), zpow_natCast, div_le_iff₀ (by positivity)]
  calc
    (10 : ℚ) ^ magnitude.decimalExponent ≤ 4 * magnitude.mantissa * magnitude.quarter := first
    _ ≤ 4 * 2 ^ 53 * magnitude.quarter := by gcongr
    _ ≤ magnitude.quarter * 10 ^ 17 := by linarith

/-- The shortest decimal of a magnitude is read back as it. -/
theorem shortest_readsBack (canonical : magnitude.Canonical) :
    magnitude.ReadsBack magnitude.shortest.value :=
  searchFrom_readsBack canonical.pos 17 canonical.pow_le_quarter

end Canonical

theorem reach_eq_one (mantissa : magnitude.mantissa = 2 ^ 52)
    (normal : magnitude.exponent ≠ -1074) : magnitude.reach = 1 := by
  have isPower : (magnitude.mantissa == twoPow 52) = true := beq_iff_eq.mpr mantissa
  have notLeast : (magnitude.exponent != -1074) = true := bne_iff_ne.mpr normal
  rw [reach, isPower, notLeast]
  rfl

namespace ReadsBack

variable {point : ℚ}

/-- The intervals of two magnitudes with a common point overlap, by more than an end when one of the
mantissas is odd.  Both are measured in quarters of the last place of the lower one. -/
theorem overlap (lower : magnitude.ReadsBack point) (upper : other.ReadsBack point) (power : Nat)
    (exponent : other.exponent = magnitude.exponent + power) :
    (4 * other.mantissa - other.reach) * 2 ^ power ≤ (4 * magnitude.mantissa + 2 : ℤ) ∧
      (magnitude.mantissa % 2 = 1 ∨ other.mantissa % 2 = 1 →
        (4 * other.mantissa - other.reach) * 2 ^ power < (4 * magnitude.mantissa + 2 : ℤ)) := by
  have quarters : other.quarter = 2 ^ power * magnitude.quarter := by
    rw [quarter, quarter, exponent, add_sub_right_comm, zpow_add₀ (by norm_num), zpow_natCast,
      mul_comm]
  have quarterPos := magnitude.quarter_pos
  have low := upper.low_le
  have high := lower.le_high
  rw [quarters, ← mul_assoc] at low
  constructor
  · have weak := le_of_mul_le_mul_right (low.trans high) quarterPos
    exact_mod_cast weak
  · intro odd
    have strict : (4 * other.mantissa - other.reach) * 2 ^ power * magnitude.quarter <
        (4 * magnitude.mantissa + 2) * magnitude.quarter := by
      rcases odd with lowerOdd | upperOdd
      · exact low.trans_lt (lower.lt_high lowerOdd)
      · have above := upper.low_lt upperOdd
        rw [quarters, ← mul_assoc] at above
        exact above.trans_le high
    have strict := lt_of_mul_lt_mul_right strict quarterPos.le
    exact_mod_cast strict

theorem not_of_mantissa_lt (lower : magnitude.ReadsBack point) (upper : other.ReadsBack point)
    (exponent : other.exponent = magnitude.exponent) :
    ¬ magnitude.mantissa < other.mantissa := by
  intro less
  obtain ⟨weak, strict⟩ := lower.overlap upper 0 (by omega)
  have reach := other.reach_le
  rw [pow_zero, mul_one] at weak strict
  omega

theorem not_of_exponent_lt (canonical : magnitude.Canonical) (otherCanonical : other.Canonical)
    (lower : magnitude.ReadsBack point) (upper : other.ReadsBack point) :
    ¬ magnitude.exponent < other.exponent := by
  intro less
  obtain ⟨power, power_eq⟩ := Int.eq_ofNat_of_zero_le (show 0 ≤ other.exponent -
    magnitude.exponent - 1 by omega)
  obtain ⟨weak, strict⟩ := lower.overlap upper (power + 1) (by omega)
  have mantissa := canonical.mantissa_lt
  have notLeast : other.exponent ≠ -1074 := by
    have least := canonical.le_exponent
    omega
  have otherMantissa := otherCanonical.normal notLeast
  have reach := other.reach_le
  have factor : (1 : ℤ) ≤ 2 ^ power := one_le_pow₀ (by norm_num)
  have twice : 2 * (4 * other.mantissa - other.reach : ℤ) ≤
      (4 * other.mantissa - other.reach) * 2 ^ (power + 1) := by
    rw [pow_succ]
    nlinarith
  -- Only a power of two can follow the largest mantissa, and that one is odd.
  by_cases isPower : other.mantissa = 2 ^ 52
  · have one := reach_eq_one isPower notLeast
    have last : magnitude.mantissa = 2 ^ 53 - 1 := by omega
    have strict := strict (by omega)
    omega
  · omega

theorem eq_of_canonical (canonical : magnitude.Canonical) (otherCanonical : other.Canonical)
    (left : magnitude.ReadsBack point) (right : other.ReadsBack point) : magnitude = other := by
  have leftExponent := left.not_of_exponent_lt canonical otherCanonical right
  have rightExponent := right.not_of_exponent_lt otherCanonical canonical left
  have exponent : magnitude.exponent = other.exponent := by omega
  have leftMantissa := left.not_of_mantissa_lt right exponent.symm
  have rightMantissa := right.not_of_mantissa_lt left exponent
  have mantissa : magnitude.mantissa = other.mantissa := by omega
  cases magnitude
  cases other
  rw [mk.injEq]
  exact ⟨mantissa, exponent⟩

end ReadsBack

/-- A magnitude of the format is known from the value of its shortest decimal. -/
theorem Canonical.eq_of_shortest (canonical : magnitude.Canonical)
    (otherCanonical : other.Canonical)
    (same : magnitude.shortest.value = other.shortest.value) : magnitude = other := by
  have right := otherCanonical.shortest_readsBack
  rw [← same] at right
  exact canonical.shortest_readsBack.eq_of_canonical canonical otherCanonical right

end Dyadic

end PassageMarkup
