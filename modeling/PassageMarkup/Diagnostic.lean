import PassageMarkup.Line
import PassageMarkup.Token.Query
import PassageMarkup.Unicode.Blank

/-!
# Diagnostics

An error is shown with its line and an arrow to its place:

    Error: name (tip)
    -> file
       |
    20 | (set: $a = 1)
       | ---------^
-/

namespace PassageMarkup

namespace Text

/-- A text without the blanks at its start. -/
def trimStart (text : Text) : Text :=
  text.dropWhile Unicode.isBlank

/-- A text without the blanks at its end. -/
def trimEnd (text : Text) : Text :=
  (text.reverse.dropWhile Unicode.isBlank).reverse

/-- A text with `fill` before it up to a width, however large. -/
def padStart (fill : Char) (width : Nat) (text : Text) : Text :=
  List.replicate (width - text.length) fill ++ text

end Text

namespace Located

/-- The line that names an error, with its tip in parentheses. -/
def title (error : Located) : Text :=
  "Error: ".toList ++ error.fault.name.toList ++
    error.fault.tip.elim [] fun tip => " (".toList ++ tip ++ [')']

/-- The diagram of an error in a line. -/
def diagram (file : Text) (error : Located) (line : Line) : List Text :=
  let number := Text.decimal line.number
  let bar := Text.padStart ' ' (number.length + 2) ['|']
  let ended := line.text.trimEnd
  let trimmed := ended.trimStart
  let removed := ended.length - trimmed.length
  [error.title,
    "-> ".toList ++ file,
    bar,
    number ++ " | ".toList ++ trimmed,
    bar ++ ' ' :: Text.padStart '-' (line.column - removed + 1) ['^']]

/-- The lines that show an error of a text; an error outside the text has no diagram. -/
def display (content file : Text) (error : Located) : List Text :=
  match Line.ofOffset content error.position.offset with
  | none =>
    ["Error: ".toList ++ error.fault.message ++ " at ".toList ++
      Text.decimal error.position.offset]
  | some line => error.diagram file line

end Located

end PassageMarkup
