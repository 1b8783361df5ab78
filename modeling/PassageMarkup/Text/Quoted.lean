import PassageMarkup.Text.Basic
import PassageMarkup.Unicode.Grapheme
import PassageMarkup.Unicode.Graphic

/-!
# Quoted text

Messages and outlines show a text in double quotes, so that its ends can be seen and every
character of it can be told apart.  A backslash stands before a quote and a backslash, the usual
letters stand for line feed, carriage return, tab and the null character, and a character that
cannot be seen by itself is written as its code point.
-/

namespace PassageMarkup

namespace Text

/-- Tells whether a character is shown as it is: it is visible, or the space, and does not attach
to the character before it. -/
def isShown (c : Char) : Bool :=
  !Unicode.isGraphemeExtend c && (c == ' ' || Unicode.isGraphic c)

/-- The form of one character between double quotes. -/
def quotedChar (c : Char) : Text :=
  if c = '\x00' then ['\\', '0']
  else if c = '\t' then ['\\', 't']
  else if c = '\r' then ['\\', 'r']
  else if c = '\n' then ['\\', 'n']
  else if c = '\\' then ['\\', '\\']
  else if c = '"' then ['\\', '"']
  else if isShown c then [c]
  else ['\\', 'u', '\x7b'] ++ hexadecimal c.toNat ++ ['\x7d']

/-- A text in double quotes. -/
def quoted (text : Text) : Text :=
  '"' :: text.flatMap quotedChar ++ ['"']

end Text

end PassageMarkup
