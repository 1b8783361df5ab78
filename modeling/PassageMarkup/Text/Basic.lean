/-!
# Text

Passages, token texts and everything written about them are lists of characters.  Offsets count
characters; a length in UTF-8 bytes is a separate measure.
-/

namespace PassageMarkup

/-- A text as the list of its characters. -/
abbrev Text := List Char

/-- The half-open range of offsets from `start` to `stop`. -/
structure Span where
  start : Nat
  stop : Nat
deriving DecidableEq, Repr

namespace Span

/-- The number of offsets in a span. -/
def length (span : Span) : Nat :=
  span.stop - span.start

end Span

namespace Text

/-- The number of bytes that a text takes in UTF-8. -/
def byteLength : Text → Nat
  | [] => 0
  | c :: rest => c.utf8Size + byteLength rest

/-- The part of a text that lies in a span. -/
def slice (text : Text) (span : Span) : Text :=
  (text.drop span.start).take span.length

/-- The decimal digits of a natural number. -/
def decimal (n : Nat) : Text :=
  Nat.toDigits 10 n

/-- The lower case hexadecimal digits of a natural number. -/
def hexadecimal (n : Nat) : Text :=
  Nat.toDigits 16 n

/-- The two sides of the first occurrence of `separator`. -/
def splitFirst (separator : Text) : Text → Option (Text × Text)
  | [] => none
  | c :: rest =>
    match separator.isPrefixOf? (c :: rest) with
    | some after => some ([], after)
    | none => (splitFirst separator rest).map fun (left, right) => (c :: left, right)

/-- The two sides of the last occurrence of `separator`. -/
def splitLast (separator : Text) : Text → Option (Text × Text)
  | [] => none
  | c :: rest =>
    match splitLast separator rest with
    | some (left, right) => some (c :: left, right)
    | none => (separator.isPrefixOf? (c :: rest)).map fun after => ([], after)

end Text

end PassageMarkup
