import PassageMarkup.Regex.Basic
import PassageMarkup.Unicode.Blank

/-!
# Terminals

The texts and expressions that the markup is made of.  A terminal that is always written the same
way is a text; the others are expressions.
-/

namespace PassageMarkup

namespace Terminal

open Regex

/-! ## Characters and names -/

/-- Tells whether a character is blank inside a line. -/
def isLineBlank (c : Char) : Bool :=
  " \x0c\t\x0b\u00a0\u1680\u180e\u202f\u205f\u3000\ufeff".toList.contains c ||
    ('\u2000' ≤ c && c ≤ '\u200a')

/-- Tells whether a character can be part of a name and makes it more than a number. -/
def isNameLetter (c : Char) : Bool :=
  Unicode.isLetter c || Unicode.isMark c || c == '_'

/-- Tells whether a character can be part of the name of a variable or property. -/
def isNameChar (c : Char) : Bool :=
  isNameLetter c || Unicode.isNumeral c

/-- Tells whether a character can be part of the name of a macro or hook. -/
def isCallChar (c : Char) : Bool :=
  isNameChar c || c == '-'

def lineBlank : Regex :=
  .set isLineBlank

/-- The end of a line, which has no text of its own. -/
def endOfLine : Regex :=
  .lineEnd

/-- One character of the name of a macro or hook. -/
def callChar : Regex :=
  .set isCallChar

/-- The name of a variable or property; one of its characters is not a numeral. -/
def name : Regex :=
  inOrder [many (.set isNameChar), .set isNameLetter, many (.set isNameChar)]

def blanks : Regex :=
  many lineBlank

def someBlanks : Regex :=
  many1 lineBlank

/-- The rest of a line, kept as the second group. -/
def restOfLine : Regex :=
  .group .second (many (noneOf "\n"))

def digit : Regex :=
  .set Char.isDigit

def hexDigit : Regex :=
  .set fun c => c.isDigit || ('a' ≤ foldCase c && foldCase c ≤ 'f')

/-- The character `=`, which keeps a bracket from opening a hook. -/
def equals : Regex :=
  char '='

/-! ## Texts -/

def lineBreak : Text :=
  ['\n']

def hookBack : Text :=
  [']']

def collapsedFront : Text :=
  ['\x7b']

def collapsedBack : Text :=
  ['\x7d']

def bold : Text :=
  ['\'', '\'']

def italic : Text :=
  ['/', '/']

def strong : Text :=
  ['*', '*']

def em : Text :=
  ['*']

def strike : Text :=
  ['~', '~']

def sup : Text :=
  ['^', '^']

def underline : Text :=
  ['_', '_']

def groupingFront : Text :=
  ['(']

/-- The end of a group or macro call. -/
def groupingBack : Text :=
  [')']

/-- The comma between arguments. -/
def comma : Text :=
  [',']

/-- The mark that spreads a list over arguments. -/
def spread : Text :=
  ['.', '.', '.']

def addition : Text :=
  ['+']

def subtraction : Text :=
  ['-']

def multiplication : Text :=
  ['*']

def division : Text :=
  ['/']

def singleQuote : Text :=
  ['\'']

def doubleQuote : Text :=
  ['"']

/-! ## Markup of whole lines -/

/-- A horizontal rule: three or more hyphens. -/
def horizontalRule : Regex :=
  inOrder [blanks, exactly 3 (char '-'), many (char '-'), blanks, endOfLine]

/-- A heading: one to six number signs and the rest of the line. -/
def heading : Regex :=
  inOrder [.group .first (.seq (char '#') (upTo 5 (char '#'))), blanks, restOfLine]

/-- An item of a bulleted list. -/
def bulleted : Regex :=
  inOrder [.group .first (many1 (char '*')), someBlanks, restOfLine]

/-- An item of a numbered list. -/
def numbered : Regex :=
  inOrder [.group .first (many1 (text "0.")), someBlanks, restOfLine]

/-- An arrow that aligns what follows it. -/
def align : Regex :=
  inOrder
    [blanks,
      .group .first (either
        [inOrder [char '<', many1 (char '='), char '>'],
          inOrder [char '<', many1 (char '=')],
          inOrder [many1 (char '='), text "><", many1 (char '=')],
          inOrder [many1 (char '='), char '>']]),
      blanks, endOfLine]

/-- A bar that puts what follows it into a column. -/
def column : Regex :=
  inOrder
    [blanks,
      .group .first (either
        [inOrder [many1 (char '|'), many1 (char '='), many (char '|')],
          inOrder [many1 (char '='), many1 (char '|')]]),
      blanks, endOfLine]

/-! ## Markup inside lines -/

def comment : Regex :=
  inOrder [text "<!--", .lazyStar (.set fun _ => true), text "-->"]

/-- The attributes of a tag: a blank and all that comes before the tag's end. -/
def attributes : Regex :=
  opt (.seq (.set Unicode.isBlank) (many (noneOf ">")))

/-- The opening tag of a script or style sheet, whose name is the first group. -/
def scriptStyleTag : Regex :=
  inOrder
    [char '<', .group .first (either [text "script", text "style"]), attributes, char '>']

def scriptClose : Regex :=
  inOrder [text "</script", many (.set Unicode.isBlank), char '>']

def styleClose : Regex :=
  inOrder [text "</style", many (.set Unicode.isBlank), char '>']

def tag : Regex :=
  inOrder
    [char '<', opt (char '/'), .set fun c => 'a' ≤ foldCase c && foldCase c ≤ 'z',
      many (.set fun c => Unicode.isWord c || c == '-'), attributes, opt (char '/'), char '>']

/-- A web address with its scheme. -/
def url : Regex :=
  inOrder
    [either
      [inOrder [text "http", opt (char 's')], text "mailto", text "javascript", text "ftp",
        text "data"],
      char ':', opt (text "//"),
      many1 (.set fun c => !Unicode.isBlank c && !"<>'\"[]()".toList.contains c)]

/-- A line break that a backslash takes back, on either side of it. -/
def escapedLine : Regex :=
  either [text "\\\n", text "\n\\"]

/-- A macro call in double angle brackets. -/
def legacyMacro : Regex :=
  inOrder
    [text "<<", many1 (.set fun c => c != '>' && !Unicode.isBlank c),
      many (either [noneOf ">", .seq (char '>') (noneOf ">")]), text ">>"]

/-- A run of backticks. -/
def verbatim : Regex :=
  many1 (char '\x60')

/-- A link to a passage, whose body is the first group. -/
def link : Regex :=
  inOrder [text "[[", .group .first (many1 (noneOf "]")), text "]]"]

/-- The mark that makes the rest of a passage a hook, with a name that may be missing. -/
def unclosedHook : Regex :=
  inOrder
    [opt (inOrder [char '|', .group .first (many1 callChar), char '>']), text "[="]

/-- The start of a hook with its name. -/
def hookPrependedFront : Regex :=
  inOrder [char '|', .group .first (many1 callChar), text ">["]

def hookFront : Regex :=
  char '['

/-- The end of a hook with its name. -/
def hookAppendedBack : Regex :=
  inOrder [text "]<", .group .first (many1 callChar), char '|']

/-! ## Expressions -/

/-- Blanks and line breaks. -/
def whitespace : Regex :=
  many1 (either [lineBlank, char '\n'])

/-- The start of a macro call with its name. -/
def macroFront : Regex :=
  inOrder [char '(', .group .first (many1 callChar), char ':']

/-- The name of a value, kept as the first group. -/
def keptName : Regex :=
  .group .first name

def storyVariable : Regex :=
  inOrder [char '$', keptName]

def tempVariable : Regex :=
  inOrder [char '_', keptName]

/-- A reference to hooks by name. -/
def hookName : Regex :=
  inOrder [char '?', keptName]

/-- The mark that type annotations end with. -/
def typeSignature : Regex :=
  toBoundary (text "-type")

/-- A property of the value before it. -/
def property : Regex :=
  inOrder [text "'s", someBlanks, keptName]

/-- The mark that a computed property of the value before it follows. -/
def possessive : Regex :=
  text "'s"

/-- A property of `it`. -/
def itsProperty : Regex :=
  inOrder [text "its", someBlanks, keptName]

/-- The word that a computed property of `it` follows. -/
def itsOperator : Regex :=
  toBoundary (text "its")

/-- A property written before `of it`. -/
def belongingItProperty : Regex :=
  toBoundary (inOrder [keptName, someBlanks, text "of", someBlanks, text "it"])

/-- A property written before `of` and a value. -/
def belongingProperty : Regex :=
  toBoundary (inOrder [keptName, someBlanks, text "of"])

/-- The word between a computed property and its value. -/
def belongingOperator : Regex :=
  toBoundary (text "of")

/-- A time in seconds or milliseconds: the amount is the first group and the unit the second. -/
def cssTime : Regex :=
  toBoundary (inOrder
    [.group .first (either
      [inOrder [many1 digit, opt (.seq (char '.') (many1 digit))],
        inOrder [char '.', many1 digit]]),
      .group .second (either [text "ms", text "s"])])

def number : Regex :=
  inOrder
    [many1 digit, opt (.seq (char '.') (many1 digit)),
      opt (inOrder [char 'e', opt (oneOf "+-"), many1 digit])]

def colourNames : List String :=
  ["red", "orange", "yellow", "lime", "green", "cyan", "aqua", "blue", "navy", "purple",
    "fuchsia", "magenta", "white", "black", "grey", "gray", "transparent"]

/-- A colour by its hexadecimal digits or by its name. -/
def colour : Regex :=
  either
    [inOrder
      [char '#',
        either
          [exactly 8 hexDigit, exactly 6 hexDigit, .seq (exactly 3 hexDigit) (upTo 1 hexDigit)],
        .wordBoundary],
      toBoundary (either (colourNames.map text))]

def boolean : Regex :=
  toBoundary (either [text "true", text "false"])

def datatypeNames : List String :=
  ["array", "boolean", "bool", "changer", "colour", "color", "command", "datamap", "dm",
    "dataset", "ds", "datatype", "gradient", "lambda", "macro", "number", "num", "string",
    "str", "integer", "int", "even", "odd", "empty", "whitespace", "lowercase", "uppercase",
    "newline", "any"]

/-- The name of a type of data. -/
def datatype : Regex :=
  toBoundary (either (datatypeNames.map text))

/-- The words that stand for values of the story. -/
def identifierNames : List String :=
  ["it", "time", "visits", "visit", "exits", "exit"]

/-- A word that stands for a value of the story. -/
def identifier : Regex :=
  toBoundary (either (identifierNames.map text))

/-- A keyword of two words. -/
def twoWords (left : String) (right : Regex) : Regex :=
  toBoundary (inOrder [text left, someBlanks, right])

def isNot : Regex :=
  twoWords "is" (text "not")

def isIn : Regex :=
  twoWords "is" (text "in")

def isA : Regex :=
  twoWords "is" (.seq (char 'a') (opt (char 'n')))

/-- A keyword of one word. -/
def oneWord (written : String) : Regex :=
  toBoundary (.literal written.toList)

/-- The keyword `bind` or `2bind`. -/
def bind : Regex :=
  toBoundary (.seq (opt (char '2')) (text "bind"))

/-- A comparison by size. -/
def inequality : Regex :=
  either [text "<=", text ">=", text "<", text ">"]

/-- A comparison or assignment in a spelling that is not valid. -/
def incorrectOperator : Regex :=
  either [text "=>", text "=<", text "==", text "!=", text "<>", text "><", text "="]

/-! ## Strings -/

/-- A backslash and the character after it. -/
def escapedStringChar : Regex :=
  .seq (char '\\') (.set fun _ => true)

end Terminal

end PassageMarkup
