import PassageMarkup.Text.LowerCase

/-!
# Colours

A colour is written by its name or by hexadecimal digits after a number sign, and resolves to the
long hexadecimal form.
-/

namespace PassageMarkup

namespace Colour

/-- The names of colours and what they stand for. -/
def names : List (Text × Text) :=
  [("red", "#e61919"), ("orange", "#e68019"), ("yellow", "#e5e619"), ("lime", "#80e619"),
    ("green", "#19e619"), ("cyan", "#19e5e6"), ("aqua", "#19e5e6"), ("blue", "#197fe6"),
    ("navy", "#1919e6"), ("purple", "#7f19e6"), ("fuchsia", "#e619e5"),
    ("magenta", "#e619e5"), ("white", "#ffffff"), ("black", "#000000"), ("grey", "#888888"),
    ("gray", "#888888"), ("transparent", "transparent")].map
    fun (name, value) => (name.toList, value.toList)

/-- What a name stands for; the name is in lower case. -/
def named? (name : Text) : Option Text :=
  names.lookup name

/-- The colour that a text stands for: every digit of a short form is doubled, a name becomes its
value, and any other text becomes lower case. -/
def resolve (text : Text) : Text :=
  match text.lowerCase with
  | '#' :: digits =>
    if Text.byteLength digits = 3 || Text.byteLength digits = 4 then
      '#' :: digits.flatMap fun digit => [digit, digit]
    else '#' :: digits
  | lower => (named? lower).getD lower

end Colour

end PassageMarkup
