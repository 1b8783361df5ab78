import PassageMarkup.Text.Basic

/-!
# Lines

Finding the line of an offset.  A line ends with its line feed; the last one may have none.
-/

namespace PassageMarkup

namespace Text

/-- The lines of a text, each with its line feed. -/
def lines : Text → List Text
  | [] => []
  | c :: rest =>
    if c = '\n' then ['\n'] :: lines rest
    else
      match lines rest with
      | [] => [[c]]
      | line :: others => (c :: line) :: others

end Text

/-- A line with its number, which counts from one, and a place in it. -/
structure Line where
  number : Nat
  text : Text
  column : Nat
deriving DecidableEq, Repr

namespace Line

/-- The line that holds an offset, among lines of which the first has the given number. -/
def find (number : Nat) : List Text → Nat → Option Line
  | [], _ => none
  | line :: others, offset =>
    if offset < line.length then some ⟨number, line, offset⟩
    else find (number + 1) others (offset - line.length)

/-- The line of a text that holds an offset, and the column of the offset in it. -/
def ofOffset (content : Text) (offset : Nat) : Option Line :=
  find 1 content.lines offset

end Line

end PassageMarkup
