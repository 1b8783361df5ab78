import PassageMarkup.Text.Basic
import PassageMarkup.Unicode.Case
import PassageMarkup.Unicode.LowerCase

/-!
# Lower case of texts

Each character of a text becomes lower case by itself, except the capital sigma: it has one form
inside a word and another at the end of a word.
-/

namespace PassageMarkup

namespace Text

/-- Tells whether the first character that counts for case has a case. -/
def meetsCased (text : Text) : Bool :=
  match text.dropWhile Unicode.isCaseIgnorable with
  | [] => false
  | c :: _ => Unicode.isCased c

/-- The lower case of a capital sigma between `before`, which is read backwards, and `after`: the
final form stands after a letter with no letter behind it. -/
def lowerSigma (before after : Text) : Char :=
  if meetsCased before && !meetsCased after then '\u03c2' else '\u03c3'

/-- The lower case of the text that follows `before`, which is read backwards. -/
def lowerAfter (before : Text) : Text → Text
  | [] => []
  | c :: rest =>
    (if c = '\u03a3' then [lowerSigma before rest] else Unicode.lower c) ++
      lowerAfter (c :: before) rest

/-- The lower case of a whole text. -/
def lowerCase (text : Text) : Text :=
  lowerAfter [] text

end Text

end PassageMarkup
