/-!
# Ranges of code points

A property of characters is kept as the ascending list of the ranges of code points that have it.
-/

namespace PassageMarkup

namespace Unicode

/-- Closed ranges of code points, in ascending order and apart from each other. -/
abbrev CodeRanges := List (Nat × Nat)

/-- Looks for code point `n`, and stops at the first range that lies above it. -/
def CodeRanges.hasCode (n : Nat) : CodeRanges → Bool
  | [] => false
  | (low, high) :: ranges =>
    if n < low then false else if n ≤ high then true else hasCode n ranges

/-- Tells whether a character's code point lies in one of the ranges. -/
def CodeRanges.has (ranges : CodeRanges) (c : Char) : Bool :=
  ranges.hasCode c.toNat

end Unicode

end PassageMarkup
