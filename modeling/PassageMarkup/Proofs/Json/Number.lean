import PassageMarkup.Json.Basic
import PassageMarkup.Proofs.Binary64.Basic
import PassageMarkup.Proofs.Text.Forms

/-!
# Numbers in JSON

The digits of a number are laid out with a point or with an exponent.  Reading them as a numeral
gives the value of the decimal that was laid out, so a number is known from its text.
-/

namespace PassageMarkup

namespace Decimal

open Text

theorem digitsValue_append (left right : Text) :
    digitsValue (left ++ right) = 10 ^ right.length * digitsValue left + digitsValue right :=
  (Nat.ofDigitChars_append 0).trans Nat.ofDigitChars_eq_ofDigitChars_zero

theorem digitsValue_zeros (count : Nat) : digitsValue (List.replicate count '0') = 0 :=
  Nat.ofDigitChars_replicate_zero

theorem digitsValue_decimal (number : Nat) : digitsValue (Text.decimal number) = number :=
  Nat.ofDigitChars_ten_toDigits

variable {whole fraction after : Text}

theorem read_point (wholeDigits : ∀ c ∈ whole, c.isDigit = true)
    (fractionDigits : ∀ c ∈ fraction, c.isDigit = true) (ends : Ends Char.isDigit after) :
    read (whole ++ '.' :: (fraction ++ after)) =
      ⟨digitsValue (whole ++ fraction), readExponent after - fraction.length⟩ := by
  have point : Ends Char.isDigit ('.' :: (fraction ++ after)) := by simp [Ends]
  rw [read, takeWhile_of_ends wholeDigits point, dropWhile_of_ends wholeDigits point]
  simp only
  rw [takeWhile_of_ends fractionDigits ends, dropWhile_of_ends fractionDigits ends]

theorem read_exponent (wholeDigits : ∀ c ∈ whole, c.isDigit = true) (rest : Text) :
    read (whole ++ 'e' :: rest) = ⟨digitsValue whole, readExponent ('e' :: rest)⟩ := by
  have ends : Ends Char.isDigit ('e' :: rest) := by simp [Ends]
  rw [read, takeWhile_of_ends wholeDigits ends, dropWhile_of_ends wholeDigits ends]
  rfl

theorem readExponent_signed (exponent : ℤ) :
    readExponent
        (['e', if exponent < 0 then '-' else '+'] ++ Text.decimal exponent.natAbs) = exponent := by
  split
  · change -(digitsValue (Text.decimal exponent.natAbs) : ℤ) = exponent
    rw [digitsValue_decimal]
    omega
  · change (digitsValue (Text.decimal exponent.natAbs) : ℤ) = exponent
    rw [digitsValue_decimal]
    omega

theorem isDigit_of_mem_zeros {count : Nat} {c : Char} (member : c ∈ List.replicate count '0') :
    c.isDigit = true := by
  rw [List.eq_of_mem_replicate member]
  rfl

variable {digits : Text}

theorem read_belowOne (isDigits : ∀ c ∈ digits, c.isDigit = true) (zeros : Nat) :
    read ("0.".toList ++ List.replicate zeros '0' ++ digits) =
      ⟨digitsValue digits, -(zeros + digits.length : Nat)⟩ := by
  have fraction : ∀ c ∈ List.replicate zeros '0' ++ digits, c.isDigit = true := by
    intro c member
    rcases List.mem_append.mp member with zero | digit
    · exact isDigit_of_mem_zeros zero
    · exact isDigits c digit
  have value :
      digitsValue (['0'] ++ (List.replicate zeros '0' ++ digits)) = digitsValue digits := by
    rw [← List.append_assoc, digitsValue_append]
    change _ * digitsValue (List.replicate (zeros + 1) '0') + _ = _
    rw [digitsValue_zeros, Nat.mul_zero, Nat.zero_add]
  have point := @read_point ['0'] _ [] (by simp) fraction (by simp [Ends])
  rw [value, List.append_nil, List.length_append, List.length_replicate] at point
  have text : "0.".toList ++ List.replicate zeros '0' ++ digits =
      ['0'] ++ '.' :: (List.replicate zeros '0' ++ digits) := rfl
  rw [text, point]
  simp [readExponent]

theorem read_whole (isDigits : ∀ c ∈ digits, c.isDigit = true) (zeros : Nat) :
    read (digits ++ List.replicate zeros '0' ++ ".0".toList) =
      ⟨10 ^ (zeros + 1) * digitsValue digits, -1⟩ := by
  have whole : ∀ c ∈ digits ++ List.replicate zeros '0', c.isDigit = true := by
    intro c member
    rcases List.mem_append.mp member with digit | zero
    · exact isDigits c digit
    · exact isDigit_of_mem_zeros zero
  have value : digitsValue (digits ++ List.replicate zeros '0' ++ ['0']) =
      10 ^ (zeros + 1) * digitsValue digits := by
    rw [List.append_assoc, ← List.replicate_succ', digitsValue_append, digitsValue_zeros,
      List.length_replicate, Nat.add_zero]
  have point := @read_point _ ['0'] [] whole (by simp) (by simp [Ends])
  rw [value] at point
  exact point

theorem read_split (isDigits : ∀ c ∈ digits, c.isDigit = true) (whole : Nat) :
    read (digits.take whole ++ ['.'] ++ digits.drop whole) =
      ⟨digitsValue digits, -(digits.length - whole : Nat)⟩ := by
  have point := @read_point (digits.take whole) (digits.drop whole) []
    (fun c member => isDigits c (List.mem_of_mem_take member))
    (fun c member => isDigits c (List.mem_of_mem_drop member)) (by simp [Ends])
  rw [List.take_append_drop, List.append_nil, List.length_drop] at point
  rw [List.append_assoc, List.singleton_append, point]
  simp [readExponent]

theorem read_scientific (nonempty : digits ≠ []) (isDigits : ∀ c ∈ digits, c.isDigit = true)
    (exponent : ℤ) :
    read (digits.take 1 ++
        (if (digits.drop 1).isEmpty then [] else '.' :: digits.drop 1) ++
        ['e', if exponent < 0 then '-' else '+'] ++ Text.decimal exponent.natAbs) =
      ⟨digitsValue digits, exponent - (digits.length - 1 : Nat)⟩ := by
  have signed := readExponent_signed exponent
  obtain ⟨first, rest, rfl⟩ := List.exists_cons_of_ne_nil nonempty
  cases rest with
  | nil =>
      have plain := read_exponent isDigits
        ((if exponent < 0 then '-' else '+') :: Text.decimal exponent.natAbs)
      simp only [List.cons_append, List.nil_append] at plain signed
      simp [plain, signed]
  | cons second rest =>
      have point := @read_point [first] (second :: rest)
        (['e', if exponent < 0 then '-' else '+'] ++ Text.decimal exponent.natAbs)
        (by simpa using isDigits first) (fun c member => isDigits c (.tail _ member))
        (by simp [Ends])
      rw [signed] at point
      simpa using point

end Decimal

namespace Json

open Decimal

variable {digits : Text}

/-- A text lays out digits, and its value is what they have with the exponent of the first one. -/
inductive IsLayout : Text → ℚ → Prop where
  | of_digits {digits : Text} {exponent : ℤ} (nonempty : digits ≠ [])
      (isDigits : ∀ c ∈ digits, c.isDigit = true) :
      IsLayout (layout digits exponent)
        (digitsValue digits * 10 ^ (exponent - (digits.length - 1 : Nat)))

/-- The characters of numbers and of `null`. -/
def isScalar (c : Char) : Bool :=
  c.isDigit || ['.', 'e', '+', '-', 'n', 'u', 'l'].contains c

theorem isScalar_of_isDigit {c : Char} (isDigit : c.isDigit = true) : isScalar c = true := by
  rw [isScalar, isDigit, Bool.true_or]

namespace IsLayout

variable {text : Text} {value : ℚ}

theorem value_read (layout : IsLayout text value) : (read text).value = value := by
  obtain @⟨digits, exponent, nonempty, isDigits⟩ := layout
  have length : 0 < digits.length := List.length_pos_iff.mpr nonempty
  unfold Json.layout
  split
  · split
    case isTrue negative =>
      have last : -((-exponent - 1).toNat + digits.length : Nat) =
          exponent - (digits.length - 1 : Nat) := by omega
      rw [read_belowOne isDigits, Decimal.value, last]
    case isFalse whole =>
      simp only
      split
      case isTrue fits =>
        have last : exponent - (digits.length - 1 : Nat) =
            ((exponent.toNat + 1 - digits.length + 1 : Nat) : ℤ) + -1 := by omega
        rw [read_whole isDigits, Decimal.value, last, zpow_add₀ (by norm_num), zpow_natCast]
        push_cast
        ring
      case isFalse long =>
        have last : -(digits.length - (exponent.toNat + 1) : Nat) =
            exponent - (digits.length - 1 : Nat) := by omega
        rw [read_split isDigits, Decimal.value, last]
  · simp only
    rw [read_scientific nonempty isDigits, Decimal.value]

theorem exists_cons (layout : IsLayout text value) :
    ∃ first rest, text = first :: rest ∧ first.isDigit = true := by
  obtain @⟨digits, exponent, nonempty, isDigits⟩ := layout
  obtain ⟨first, rest, rfl⟩ := List.exists_cons_of_ne_nil nonempty
  have isDigit := isDigits first List.mem_cons_self
  unfold Json.layout
  split
  · split
    · exact ⟨'0', _, rfl, rfl⟩
    · simp only
      split <;> exact ⟨first, _, rfl, isDigit⟩
  · exact ⟨first, _, rfl, isDigit⟩

theorem isScalar_of_mem (layout : IsLayout text value) {c : Char} (member : c ∈ text) :
    isScalar c = true := by
  obtain @⟨digits, exponent, nonempty, isDigits⟩ := layout
  have digit {c : Char} (member : c ∈ digits) : isScalar c = true :=
    isScalar_of_isDigit (isDigits c member)
  have zero {count : Nat} {c : Char} (member : c ∈ List.replicate count '0') : isScalar c = true :=
    isScalar_of_isDigit (isDigit_of_mem_zeros member)
  unfold Json.layout at member
  split at member
  · split at member
    · rw [List.mem_append, List.mem_append] at member
      rcases member with (point | isZero) | isDigit
      · exact List.all_eq_true.mp (show "0.".toList.all isScalar = true by decide) c point
      · exact zero isZero
      · exact digit isDigit
    · simp only at member
      split at member
      · rw [List.mem_append, List.mem_append] at member
        rcases member with (isDigit | isZero) | point
        · exact digit isDigit
        · exact zero isZero
        · exact List.all_eq_true.mp (show ".0".toList.all isScalar = true by decide) c point
      · rw [List.mem_append, List.mem_append, List.mem_singleton] at member
        rcases member with (isDigit | rfl) | isDigit
        · exact digit (List.mem_of_mem_take isDigit)
        · decide
        · exact digit (List.mem_of_mem_drop isDigit)
  · simp only [List.mem_append] at member
    rcases member with ((isDigit | inFraction) | mark) | isDigit
    · exact digit (List.mem_of_mem_take isDigit)
    · split at inFraction
      · contradiction
      · rcases List.mem_cons.mp inFraction with rfl | isDigit
        · decide
        · exact digit (List.mem_of_mem_drop isDigit)
    · split at mark
      · exact List.all_eq_true.mp (show ['e', '-'].all isScalar = true by decide) c mark
      · exact List.all_eq_true.mp (show ['e', '+'].all isScalar = true by decide) c mark
    · exact isScalar_of_isDigit (Text.isDigit_of_mem_decimal isDigit)

theorem exists_not_isDigit (layout : IsLayout text value) : ∃ c ∈ text, c.isDigit = false := by
  obtain @⟨digits, exponent, nonempty, isDigits⟩ := layout
  unfold Json.layout
  split
  · split
    · exact ⟨'.', by simp, rfl⟩
    · simp only
      split <;> exact ⟨'.', by simp, rfl⟩
  · exact ⟨'e', by simp, rfl⟩

end IsLayout

/-- Digits are the ones that are laid out and the zeros that are dropped after them. -/
theorem digits_eq_append_zeros (digits : Text) :
    ∃ zeros, digits =
      (digits.reverse.dropWhile (· == '0')).reverse ++ List.replicate zeros '0' := by
  refine ⟨(digits.reverse.takeWhile (· == '0')).length, ?_⟩
  have dropped : digits.reverse.takeWhile (· == '0') =
      List.replicate (digits.reverse.takeWhile (· == '0')).length '0' := by
    rw [List.eq_replicate_iff]
    refine ⟨rfl, fun c member => ?_⟩
    exact beq_iff_eq.mp (List.all_eq_true.mp List.all_takeWhile c member)
  rw [← List.reverse_replicate, ← dropped, ← List.reverse_append, List.takeWhile_append_dropWhile,
    List.reverse_reverse]

theorem isLayout_decimalText {decimal : Decimal} (pos : 0 < decimal.digits) :
    IsLayout (decimalText decimal) decimal.value := by
  obtain ⟨zeros, split⟩ := digits_eq_append_zeros (Text.decimal decimal.digits)
  set digits := ((Text.decimal decimal.digits).reverse.dropWhile (· == '0')).reverse with digits_eq
  have value : decimal.digits = 10 ^ zeros * digitsValue digits := by
    rw [← digitsValue_decimal decimal.digits, split, digitsValue_append, digitsValue_zeros,
      List.length_replicate, Nat.add_zero]
  have nonempty : digits ≠ [] := by
    intro none
    rw [value, none] at pos
    exact absurd pos (Nat.not_lt_of_le (Nat.le_of_eq (Nat.mul_zero _)))
  have isDigits : ∀ c ∈ digits, c.isDigit = true := by
    intro c member
    apply @Text.isDigit_of_mem_decimal decimal.digits
    rw [split]
    exact List.mem_append_left _ member
  have length : 0 < digits.length := List.length_pos_iff.mpr nonempty
  have last : decimal.exponent + (Text.decimal decimal.digits).length - 1 -
      (digits.length - 1 : Nat) = (zeros : ℤ) + decimal.exponent := by
    rw [split, List.length_append, List.length_replicate]
    omega
  have same : decimal.value = digitsValue digits * 10 ^
      (decimal.exponent + (Text.decimal decimal.digits).length - 1 - (digits.length - 1 : Nat)) := by
    rw [last, zpow_add₀ (by norm_num), zpow_natCast, Decimal.value, value]
    push_cast
    ring
  rw [same]
  exact .of_digits nonempty isDigits

def magnitudeText (magnitude : Dyadic) : Text :=
  if magnitude.mantissa = 0 then "0.0".toList else decimalText magnitude.shortest

/-- The value of the decimal that is written for a magnitude. -/
def writtenValue (magnitude : Dyadic) : ℚ :=
  if magnitude.mantissa = 0 then 0 else magnitude.shortest.value

variable {x y : Binary64}

theorem numberText_of_isFinite (finite : x.isFinite = true) :
    numberText x = (if x.isNegative then ['-'] else []) ++ magnitudeText x.magnitude := by
  rw [numberText, if_pos finite]
  rfl

theorem numberText_infinity : numberText .infinity = "null".toList := by
  rfl

theorem shortest_pos (nonzero : x.magnitude.mantissa ≠ 0) : 0 < x.magnitude.shortest.digits := by
  have canonical := Binary64.magnitude_canonical nonzero
  have low := canonical.shortest_readsBack.low_le
  have reach : (x.magnitude.reach : ℚ) ≤ 2 := by exact_mod_cast x.magnitude.reach_le
  have mantissa : (1 : ℚ) ≤ x.magnitude.mantissa := by exact_mod_cast canonical.pos
  have quarter := x.magnitude.quarter_pos
  by_contra none
  rw [Decimal.value, Nat.eq_zero_of_not_pos none, Nat.cast_zero, zero_mul] at low
  nlinarith

theorem isLayout_magnitudeText (x : Binary64) :
    IsLayout (magnitudeText x.magnitude) (writtenValue x.magnitude) := by
  unfold magnitudeText writtenValue
  split
  case isTrue =>
    have layout := @IsLayout.of_digits ['0'] 0 (by simp) (by simp)
    have value : digitsValue ['0'] = 0 := rfl
    rw [value, Nat.cast_zero, zero_mul] at layout
    exact layout
  case isFalse nonzero => exact isLayout_decimalText (shortest_pos nonzero)

theorem shortest_value_ne_zero (nonzero : x.magnitude.mantissa ≠ 0) :
    x.magnitude.shortest.value ≠ 0 := by
  have digits : (x.magnitude.shortest.digits : ℚ) ≠ 0 :=
    Nat.cast_ne_zero.mpr (shortest_pos nonzero).ne'
  exact mul_ne_zero digits (zpow_ne_zero _ (by norm_num))

theorem magnitude_eq_of_text
    (same : magnitudeText x.magnitude = magnitudeText y.magnitude) : x.magnitude = y.magnitude := by
  have value : writtenValue x.magnitude = writtenValue y.magnitude := by
    rw [← (isLayout_magnitudeText x).value_read, same, (isLayout_magnitudeText y).value_read]
  unfold writtenValue at value
  split at value
  case isTrue xZero =>
    split at value
    case isTrue yZero =>
      rw [Binary64.magnitude_of_mantissa_eq_zero xZero,
        Binary64.magnitude_of_mantissa_eq_zero yZero]
    case isFalse yNonzero => exact absurd value.symm (shortest_value_ne_zero yNonzero)
  case isFalse xNonzero =>
    split at value
    case isTrue yZero => exact absurd value (shortest_value_ne_zero xNonzero)
    case isFalse yNonzero =>
      exact (Binary64.magnitude_canonical xNonzero).eq_of_shortest
        (Binary64.magnitude_canonical yNonzero) value

theorem isScalar_of_mem_numberText {c : Char} (member : c ∈ numberText x) : isScalar c = true := by
  unfold numberText at member
  split at member
  · rcases List.mem_append.mp member with sign | inMagnitude
    · split at sign
      · exact List.all_eq_true.mp (show ['-'].all isScalar = true by decide) c sign
      · contradiction
    · exact (isLayout_magnitudeText x).isScalar_of_mem inMagnitude
  · exact List.all_eq_true.mp (show "null".toList.all isScalar = true by decide) c member

theorem exists_not_isDigit_numberText (x : Binary64) : ∃ c ∈ numberText x, c.isDigit = false := by
  unfold numberText
  split
  · obtain ⟨c, member, notDigit⟩ := (isLayout_magnitudeText x).exists_not_isDigit
    exact ⟨c, List.mem_append_right _ member, notDigit⟩
  · exact ⟨'n', by simp, rfl⟩

/-- The first character of a finite number tells its sign, and it is not that of `null`. -/
theorem exists_cons_numberText (finite : x.isFinite = true) :
    ∃ first rest, numberText x = first :: rest ∧ first ≠ 'n' ∧
      (x.isNegative = true ↔ first = '-') := by
  obtain ⟨first, rest, text, isDigit⟩ := (isLayout_magnitudeText x).exists_cons
  have notMark (mark : Char) (other : mark.isDigit = false) : first ≠ mark := by
    rintro rfl
    rw [isDigit] at other
    contradiction
  rw [numberText_of_isFinite finite, text]
  cases negative : x.isNegative with
  | false => exact ⟨first, rest, rfl, notMark 'n' rfl, by simp [notMark '-' rfl]⟩
  | true => exact ⟨'-', first :: rest, rfl, by decide, by simp⟩

theorem numberText_ne_infinity (finite : x.isFinite = true) :
    numberText x ≠ numberText .infinity := by
  intro same
  obtain ⟨first, rest, text, notMark, _⟩ := exists_cons_numberText finite
  rw [numberText_infinity, text] at same
  exact notMark (List.cons.inj same).1

/-- A number is known from its text, unless that is the `null` of minus infinity or of no number. -/
theorem numberText_injective (xWritten : x.IsWritten) (yWritten : y.IsWritten)
    (same : numberText x = numberText y) : x = y := by
  rcases xWritten with xFinite | rfl
  · rcases yWritten with yFinite | rfl
    · obtain ⟨first, rest, text, _, xSign⟩ := exists_cons_numberText xFinite
      obtain ⟨other, others, otherText, _, ySign⟩ := exists_cons_numberText yFinite
      have sign : x.isNegative = y.isNegative := by
        rw [text, otherText] at same
        rw [Bool.eq_iff_iff, xSign, ySign, (List.cons.inj same).1]
      rw [numberText_of_isFinite xFinite, numberText_of_isFinite yFinite, sign,
        List.append_cancel_left_eq] at same
      exact Binary64.ext_magnitude sign (magnitude_eq_of_text same)
    · exact absurd same (numberText_ne_infinity xFinite)
  · rcases yWritten with yFinite | rfl
    · exact absurd same.symm (numberText_ne_infinity yFinite)
    · rfl

end Json

end PassageMarkup
