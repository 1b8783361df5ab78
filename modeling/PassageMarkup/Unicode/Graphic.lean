import PassageMarkup.Unicode.Letter
import PassageMarkup.Unicode.Mark
import PassageMarkup.Unicode.Numeral
import PassageMarkup.Unicode.Punctuation
import PassageMarkup.Unicode.Symbol

/-!
# Visible characters and word characters

Two classes that are put together from the general categories: the characters that leave a mark on
paper, and the characters that words are made of.
-/

namespace PassageMarkup

namespace Unicode

/-- Tells whether a character is a numeral of any kind (general category `N`). -/
def isNumeral (c : Char) : Bool :=
  isDecimalDigit c || isLetterNumber c || isOtherNumeral c

/-- Tells whether a character is visible: a letter, mark, numeral, punctuation or symbol. -/
def isGraphic (c : Char) : Bool :=
  isLetter c || isMark c || isNumeral c || isPunctuation c || isSymbol c

/-- The letters in circles and squares, which count as letters in words although they are
symbols. -/
def enclosedLetterRanges : CodeRanges :=
  [(0x24b6, 0x24e9), (0x1f130, 0x1f149), (0x1f150, 0x1f169), (0x1f170, 0x1f189)]

/-- The zero width joiner and non-joiner. -/
def joinerRanges : CodeRanges :=
  [(0x200c, 0x200d)]

/-- Tells whether a character can be part of a word: it is alphabetic, a mark, a decimal digit, a
connector or a joiner. -/
def isWord (c : Char) : Bool :=
  isLetter c || isMark c || isDecimalDigit c || isLetterNumber c || isConnector c ||
    enclosedLetterRanges.has c || joinerRanges.has c

end Unicode

end PassageMarkup
