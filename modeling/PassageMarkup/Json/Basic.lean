import PassageMarkup.Binary64.Shortest
import PassageMarkup.Text.Basic

/-!
# JSON

The values that trees are written as, with the members of an object in order, and their two
written forms: on one line without blanks, and with one member or element to a line.
-/

namespace PassageMarkup

/-- A JSON value. -/
inductive Json where
  | null
  | natural (value : Nat)
  | number (value : Binary64)
  | string (text : Text)
  | array (elements : List Json)
  | object (members : List (Text × Json))

namespace Json

/-- The form of one character in a JSON string. -/
def escapedChar (c : Char) : Text :=
  if c = '"' then ['\\', '"']
  else if c = '\\' then ['\\', '\\']
  else if c = '\x08' then ['\\', 'b']
  else if c = '\x0c' then ['\\', 'f']
  else if c = '\n' then ['\\', 'n']
  else if c = '\r' then ['\\', 'r']
  else if c = '\t' then ['\\', 't']
  else if c.toNat < 0x20 then
    let digits := Text.hexadecimal c.toNat
    ['\\', 'u'] ++ List.replicate (4 - digits.length) '0' ++ digits
  else [c]

/-- A JSON string. -/
def stringText (text : Text) : Text :=
  '"' :: text.flatMap escapedChar ++ ['"']

/-- Digits whose first one has the given exponent, as a number.  From 10 ^ (-5) to 10 ^ 15 the
number is written out and has a fractional digit; elsewhere it has an exponent. -/
def layout (digits : Text) (exponent : Int) : Text :=
  if -5 ≤ exponent && exponent ≤ 15 then
    if exponent < 0 then
      "0.".toList ++ List.replicate (-exponent - 1).toNat '0' ++ digits
    else
      let whole := exponent.toNat + 1
      if digits.length ≤ whole then
        digits ++ List.replicate (whole - digits.length) '0' ++ ".0".toList
      else digits.take whole ++ ['.'] ++ digits.drop whole
  else
    let sign := if exponent < 0 then '-' else '+'
    let fraction := digits.drop 1
    digits.take 1 ++ (if fraction.isEmpty then [] else '.' :: fraction) ++ ['e', sign] ++
      Text.decimal exponent.natAbs

/-- The number of a positive decimal; zeros at the end of its digits are dropped. -/
def decimalText (value : Decimal) : Text :=
  let digits := Text.decimal value.digits
  layout (digits.reverse.dropWhile (· == '0')).reverse (value.exponent + digits.length - 1)

/-- A number by its shortest digits, or `null` for one that JSON cannot write. -/
def numberText (value : Binary64) : Text :=
  if value.isFinite then
    (if value.isNegative then ['-'] else []) ++
      if value.magnitude.mantissa = 0 then "0.0".toList
      else decimalText value.magnitude.shortest
  else "null".toList

mutual

/-- The form of a value without blanks. -/
def compact : Json → Text
  | null => "null".toList
  | natural value => Text.decimal value
  | number value => numberText value
  | string text => stringText text
  | array elements => '[' :: compactElements elements ++ [']']
  | object members => '\x7b' :: compactMembers members ++ ['\x7d']

/-- Elements with commas between them. -/
def compactElements : List Json → Text
  | [] => []
  | [value] => value.compact
  | value :: rest => value.compact ++ ',' :: compactElements rest

/-- Members with commas between them. -/
def compactMembers : List (Text × Json) → Text
  | [] => []
  | [(key, value)] => stringText key ++ ':' :: value.compact
  | (key, value) :: rest => stringText key ++ ':' :: value.compact ++ ',' :: compactMembers rest

end

/-- A line break and the indentation of a level, two spaces each. -/
def newLine (level : Nat) : Text :=
  '\n' :: List.replicate (2 * level) ' '

mutual

/-- The form of a value with lines, inside `level` lists and objects. -/
def prettyAt (level : Nat) : Json → Text
  | null => "null".toList
  | natural value => Text.decimal value
  | number value => numberText value
  | string text => stringText text
  | array [] => "[]".toList
  | array (value :: rest) =>
    '[' :: prettyElements (level + 1) (value :: rest) ++ newLine level ++ [']']
  | object [] => ['\x7b', '\x7d']
  | object (member :: rest) =>
    '\x7b' :: prettyMembers (level + 1) (member :: rest) ++ newLine level ++ ['\x7d']

/-- Elements, each on its line. -/
def prettyElements (level : Nat) : List Json → Text
  | [] => []
  | [value] => newLine level ++ value.prettyAt level
  | value :: rest => newLine level ++ value.prettyAt level ++ ',' :: prettyElements level rest

/-- Members, each on its line. -/
def prettyMembers (level : Nat) : List (Text × Json) → Text
  | [] => []
  | [(key, value)] => newLine level ++ stringText key ++ ": ".toList ++ value.prettyAt level
  | (key, value) :: rest =>
    newLine level ++ stringText key ++ ": ".toList ++ value.prettyAt level ++
      ',' :: prettyMembers level rest

end

/-- The form of a value with lines. -/
def pretty (value : Json) : Text :=
  value.prettyAt 0

end Json

end PassageMarkup
