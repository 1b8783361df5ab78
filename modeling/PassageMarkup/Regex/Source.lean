import PassageMarkup.Text.Basic

/-!
# Written form of regular expressions

Ways to put written expressions together.  A part is wrapped in a group that keeps nothing, so
that what follows applies to the whole of it.
-/

namespace PassageMarkup

namespace RegexSource

/-- Alternatives. -/
def either (alternatives : List Text) : Text :=
  "(?:".toList ++ ['|'].intercalate alternatives ++ ")".toList

/-- A part that may be missing. -/
def opt (part : Text) : Text :=
  either [part] ++ ['?']

/-- A part repeated any number of times. -/
def many (part : Text) : Text :=
  either [part] ++ ['*']

/-- A part repeated at least once. -/
def many1 (part : Text) : Text :=
  either [part] ++ ['+']

/-- One character outside a class. -/
def notChars (chars : Text) : Text :=
  "[^".toList ++ chars ++ "]".toList

/-- A part that ends at a word boundary. -/
def word (part : Text) : Text :=
  either [part] ++ "\\b".toList

end RegexSource

end PassageMarkup
