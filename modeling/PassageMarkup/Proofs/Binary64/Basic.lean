import PassageMarkup.Binary64.Rounding
import PassageMarkup.Proofs.Binary64.Shortest

/-!
# Numbers of the format

A finite number is known from its sign and its magnitude, and a magnitude other than zero is one of
the positive magnitudes of the format.  The numbers that passages write are finite or positive
infinity: no arithmetic on them gives another number.
-/

namespace PassageMarkup

namespace Binary64

variable {x y : Binary64}

/-- A number that is told from all others by its digits, or is the one infinity among them. -/
def IsWritten (x : Binary64) : Prop :=
  x.isFinite = true ∨ x = infinity

theorem fractionField_lt (x : Binary64) : x.fractionField < 2 ^ 52 :=
  Nat.mod_lt _ (by decide)

theorem ext_fields (sign : x.isNegative = y.isNegative)
    (exponent : x.exponentField = y.exponentField) (fraction : x.fractionField = y.fractionField) :
    x = y := by
  have xBound := x.bits.toNat_lt
  have yBound := y.bits.toNat_lt
  have sign : 2 ^ 63 ≤ x.bits.toNat ↔ 2 ^ 63 ≤ y.bits.toNat := decide_eq_decide.mp sign
  have exponent : x.bits.toNat / 2 ^ 52 % 2 ^ 11 = y.bits.toNat / 2 ^ 52 % 2 ^ 11 := exponent
  have fraction : x.bits.toNat % 2 ^ 52 = y.bits.toNat % 2 ^ 52 := fraction
  have bits : x.bits.toNat = y.bits.toNat := by omega
  cases x
  cases y
  exact congrArg mk (UInt64.toNat_inj.mp bits)

theorem ext_magnitude (sign : x.isNegative = y.isNegative) (same : x.magnitude = y.magnitude) :
    x = y := by
  have xBound := x.fractionField_lt
  have yBound := y.fractionField_lt
  have power : twoPow 52 = 2 ^ 52 := rfl
  unfold magnitude at same
  split at same <;> split at same <;> rw [Dyadic.mk.injEq] at same
  all_goals
    apply ext_fields sign
    · omega
    · omega

theorem magnitude_of_mantissa_eq_zero (zero : x.magnitude.mantissa = 0) :
    x.magnitude = ⟨0, -1074⟩ := by
  have power : twoPow 52 = 2 ^ 52 := rfl
  unfold magnitude at zero ⊢
  split at zero
  case isTrue subnormal =>
    rw [if_pos subnormal]
    exact congrArg (Dyadic.mk · (-1074)) zero
  case isFalse => simp only at zero; omega

theorem magnitude_canonical (nonzero : x.magnitude.mantissa ≠ 0) : x.magnitude.Canonical := by
  have fraction := x.fractionField_lt
  have power : twoPow 52 = 2 ^ 52 := rfl
  unfold magnitude at nonzero ⊢
  split at nonzero
  case isTrue subnormal =>
    rw [if_pos subnormal]
    constructor <;> simp only at nonzero ⊢ <;> omega
  case isFalse normal =>
    rw [if_neg normal]
    constructor <;> simp only <;> omega

theorem isWritten_zero : zero.IsWritten :=
  .inl rfl

theorem isWritten_infinity : infinity.IsWritten :=
  .inr rfl

theorem isWritten_ofNat {bits : Nat} (bound : bits ≤ infinityBits) :
    IsWritten ⟨UInt64.ofNat bits⟩ := by
  have limit : infinityBits = 2047 * 2 ^ 52 := rfl
  rcases Nat.eq_or_lt_of_le bound with top | below
  · right
    rw [top, infinity]
  · left
    have value : (UInt64.ofNat bits).toNat = bits := by
      rw [UInt64.toNat_ofNat']
      omega
    have field : exponentField ⟨UInt64.ofNat bits⟩ = bits / 2 ^ 52 % 2 ^ 11 := by
      rw [exponentField, value]
      rfl
    apply bne_iff_ne.mpr
    rw [field]
    have top : twoPow 11 - 1 = 2047 := rfl
    omega

theorem isWritten_ofRatio (numerator denominator : Nat) :
    (ofRatio numerator denominator).IsWritten := by
  unfold ofRatio
  split
  · exact isWritten_zero
  · exact isWritten_ofNat (Nat.min_le_right _ _)

theorem IsWritten.times (written : x.IsWritten) (factor : Nat) : (x.times factor).IsWritten := by
  unfold Binary64.times
  split
  · exact isWritten_ofRatio _ _
  · exact written

end Binary64

theorem Decimal.isWritten_toBinary64 (decimal : Decimal) : decimal.toBinary64.IsWritten := by
  unfold toBinary64
  split
  · exact Binary64.isWritten_zero
  · simp only
    split
    · exact Binary64.isWritten_infinity
    · split
      · exact Binary64.isWritten_zero
      · exact Binary64.isWritten_ofRatio _ _

end PassageMarkup
