import PassageMarkup.Unicode.Ranges

/-!
# White space

The property `White_Space` of Unicode 17.
-/

namespace PassageMarkup

namespace Unicode

/-- The code points with the property `White_Space`. -/
def blankRanges : CodeRanges :=
  [(0x9, 0xd), (0x20, 0x20), (0x85, 0x85), (0xa0, 0xa0), (0x1680, 0x1680), (0x2000, 0x200a),
   (0x2028, 0x2029), (0x202f, 0x202f), (0x205f, 0x205f), (0x3000, 0x3000)]

/-- Tells whether a character is white space. -/
def isBlank (c : Char) : Bool :=
  blankRanges.has c

end Unicode

end PassageMarkup
