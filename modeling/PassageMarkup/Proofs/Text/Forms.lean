import Mathlib.Tactic.SplitIfs
import PassageMarkup.Text.Quoted

/-!
# Forms that show where they end

Digits end before a character that is no digit, and a text in quotes ends with its closing quote.
So what is written in one of these forms is known from a text that goes on after it.
-/

namespace PassageMarkup

namespace Text

/-- A text goes on with no character of a class. -/
def Ends (isPart : Char → Bool) (after : Text) : Prop :=
  ∀ c ∈ after.head?, isPart c = false

variable {isPart : Char → Bool} {part after left right leftRest rightRest : Text}

theorem takeWhile_of_ends (parts : ∀ c ∈ part, isPart c = true) (ends : Ends isPart after) :
    (part ++ after).takeWhile isPart = part := by
  rw [List.takeWhile_append_of_pos parts]
  cases after with
  | nil => simp
  | cons c rest => simp [ends c rfl]

theorem dropWhile_of_ends (parts : ∀ c ∈ part, isPart c = true) (ends : Ends isPart after) :
    (part ++ after).dropWhile isPart = after := by
  rw [List.dropWhile_append_of_pos parts]
  cases after with
  | nil => rfl
  | cons c rest => simp [ends c rfl]

theorem part_unique (leftParts : ∀ c ∈ left, isPart c = true)
    (rightParts : ∀ c ∈ right, isPart c = true) (leftEnds : Ends isPart leftRest)
    (rightEnds : Ends isPart rightRest) (same : left ++ leftRest = right ++ rightRest) :
    left = right ∧ leftRest = rightRest := by
  constructor
  · rw [← takeWhile_of_ends leftParts leftEnds, same, takeWhile_of_ends rightParts rightEnds]
  · rw [← dropWhile_of_ends leftParts leftEnds, same, dropWhile_of_ends rightParts rightEnds]

/-- A text in which each character is escaped by itself ends with the first mark that is not
escaped. -/
theorem escaped_unique {escape : Char → Text} {read : Text → Option (Char × Text)} {mark : Char}
    (reads : ∀ c rest, read (escape c ++ rest) = some (c, rest))
    (plain : ∀ rest, read (mark :: rest) = some (mark, rest))
    (escaped : ∀ rest others, escape mark ++ rest ≠ mark :: others)
    (same : left.flatMap escape ++ mark :: leftRest = right.flatMap escape ++ mark :: rightRest) :
    left = right ∧ leftRest = rightRest := by
  have opens (c : Char) (rest others : Text) : escape c ++ rest ≠ mark :: others := by
    intro same
    have first := reads c rest
    rw [same, plain, Option.some.injEq, Prod.mk.injEq] at first
    obtain ⟨rfl, _⟩ := first
    exact escaped rest others same
  induction left generalizing right with
  | nil =>
      cases right with
      | nil => exact ⟨rfl, (List.cons.inj same).2⟩
      | cons d right =>
          rw [List.flatMap_cons, List.append_assoc] at same
          exact absurd same.symm (opens d _ _)
  | cons c left induction =>
      cases right with
      | nil =>
          rw [List.flatMap_cons, List.append_assoc] at same
          exact absurd same (opens c _ _)
      | cons d right =>
          rw [List.flatMap_cons, List.flatMap_cons, List.append_assoc, List.append_assoc] at same
          have first := reads c (left.flatMap escape ++ mark :: leftRest)
          rw [same, reads, Option.some.injEq, Prod.mk.injEq] at first
          obtain ⟨texts, rests⟩ := induction first.2.symm
          exact ⟨by rw [first.1, texts], rests⟩

theorem isDigit_of_mem_decimal {number : Nat} {c : Char} (member : c ∈ decimal number) :
    c.isDigit = true :=
  Nat.isDigit_of_mem_toDigits (by omega) (by omega) member

theorem decimal_injective {left right : Nat} (same : decimal left = decimal right) :
    left = right :=
  calc
    left = Nat.ofDigitChars 10 (decimal left) 0 := Nat.ofDigitChars_ten_toDigits.symm
    _ = Nat.ofDigitChars 10 (decimal right) 0 := by rw [same]
    _ = right := Nat.ofDigitChars_ten_toDigits

def hexadecimalValue (digit : Char) : Nat :=
  if digit.isDigit then digit.toNat - '0'.toNat else digit.toNat - 'a'.toNat + 10

def readHexadecimal (digits : Text) : Nat :=
  digits.foldl (fun value digit => 16 * value + hexadecimalValue digit) 0

def isHexadecimal (c : Char) : Bool :=
  c.isDigit || 'a' ≤ c && c ≤ 'f'

theorem hexadecimal_read (number : Nat) :
    readHexadecimal (hexadecimal number) = number ∧
      ∀ c ∈ hexadecimal number, isHexadecimal c = true := by
  have digit : ∀ value < 16, hexadecimalValue value.digitChar = value ∧
      isHexadecimal value.digitChar = true := by decide
  induction number using Nat.strongRecOn with
  | ind number induction =>
      rw [hexadecimal, Nat.toDigits_eq_if (by decide)]
      split
      · rename_i small
        obtain ⟨value, isDigit⟩ := digit number small
        constructor
        · simpa [readHexadecimal] using value
        · simpa using isDigit
      · obtain ⟨value, isDigit⟩ := digit (number % 16) (Nat.mod_lt _ (by decide))
        obtain ⟨others, areDigits⟩ := induction (number / 16) (by omega)
        constructor
        · rw [readHexadecimal, hexadecimal] at others
          rw [readHexadecimal, List.foldl_append, others, List.foldl_cons, List.foldl_nil, value]
          omega
        · rw [List.forall_mem_append, List.forall_mem_singleton]
          exact ⟨areDigits, isDigit⟩

/-- Reads what stands after a backslash between quotes. -/
def readProtected : Text → Option (Char × Text)
  | '0' :: rest => some ('\x00', rest)
  | 't' :: rest => some ('\t', rest)
  | 'r' :: rest => some ('\r', rest)
  | 'n' :: rest => some ('\n', rest)
  | 'u' :: '\x7b' :: rest =>
    some (Char.ofNat (readHexadecimal (rest.takeWhile isHexadecimal)),
      (rest.dropWhile isHexadecimal).tail)
  | c :: rest => some (c, rest)
  | [] => none

/-- Reads one character between quotes. -/
def readQuoted : Text → Option (Char × Text)
  | [] => none
  | c :: rest => if c = '\\' then readProtected rest else some (c, rest)

theorem readQuoted_quotedChar (c : Char) (rest : Text) :
    readQuoted (quotedChar c ++ rest) = some (c, rest) := by
  rw [quotedChar]
  split_ifs with null tab carriage feed backslash quote shown
  · rw [null]
    rfl
  · rw [tab]
    rfl
  · rw [carriage]
    rfl
  · rw [feed]
    rfl
  · rw [backslash]
    rfl
  · rw [quote]
    rfl
  · exact if_neg backslash
  · obtain ⟨code, digits⟩ := hexadecimal_read c.toNat
    have ends : Ends isHexadecimal ('\x7d' :: rest) := by
      simp [Ends, isHexadecimal]
    have split : ['\\', 'u', '\x7b'] ++ hexadecimal c.toNat ++ ['\x7d'] ++ rest =
        '\\' :: 'u' :: '\x7b' :: (hexadecimal c.toNat ++ '\x7d' :: rest) := by simp
    rw [split, readQuoted, if_pos rfl, readProtected, takeWhile_of_ends digits ends,
      dropWhile_of_ends digits ends, code, Char.ofNat_toNat]
    rfl

theorem quoted_unique (same : quoted left ++ leftRest = quoted right ++ rightRest) :
    left = right ∧ leftRest = rightRest := by
  rw [quoted, quoted, List.append_assoc, List.append_assoc] at same
  apply escaped_unique readQuoted_quotedChar _ _ (List.cons.inj same).2
  · intro rest
    rfl
  · intro rest others same
    exact absurd (List.cons.inj same).1 (by decide)

theorem feed_not_mem_quotedChar (c : Char) : '\n' ∉ quotedChar c := by
  rw [quotedChar]
  split_ifs with null tab carriage feed
  · decide
  · decide
  · decide
  · decide
  · decide
  · decide
  · rw [List.mem_singleton]
    exact Ne.symm feed
  · intro member
    have digits := (hexadecimal_read c.toNat).2
    simp only [List.mem_append, List.mem_cons, List.not_mem_nil, or_false] at member
    rcases member with (opening | inDigits) | closing
    · exact absurd opening (by decide)
    · exact absurd (digits _ inDigits) (by decide)
    · exact absurd closing (by decide)

theorem feed_not_mem_quoted (text : Text) : '\n' ∉ quoted text := by
  intro member
  rw [quoted, List.cons_append, List.mem_cons, List.mem_append, List.mem_singleton] at member
  rcases member with opening | inText | closing
  · exact absurd opening (by decide)
  · obtain ⟨c, _, inForm⟩ := List.mem_flatMap.mp inText
    exact feed_not_mem_quotedChar c inForm
  · exact absurd closing (by decide)

end Text

end PassageMarkup
