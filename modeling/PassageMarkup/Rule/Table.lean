import PassageMarkup.Rule.Basic

/-!
# The rules of each mode

In each mode the rules are tried in the order of its list.
-/

namespace PassageMarkup

namespace Rule

/-! ## Markup of whole lines -/

/-- A rule for markup of a whole line. -/
def ofBlock (block : Block) (regex : Regex) (lexeme : Match → Lexeme) : Rule where
  kind := .block block
  pattern := .ofRegex regex
  lexeme := lexeme
  beginsLine := true
  cannotFollowText := true

def horizontalRule : Rule :=
  ofBlock .horizontalRule Terminal.horizontalRule Lexeme.whole

def heading : Rule :=
  { ofBlock .heading Terminal.heading (Lexeme.levelled 1) with innerMode := some .prose }

def bulleted : Rule :=
  { ofBlock .bulleted Terminal.bulleted (Lexeme.levelled 1) with innerMode := some .prose }

/-- The rule for items of numbered lists; each level takes a digit and a point. -/
def numbered : Rule :=
  { ofBlock .numbered Terminal.numbered (Lexeme.levelled 2) with innerMode := some .prose }

/-- The rule for arrows that align. -/
def align : Rule :=
  ofBlock .align Terminal.align Lexeme.align

/-- The rule for bars that make columns. -/
def column : Rule :=
  ofBlock .column Terminal.column Lexeme.column

/-! ## Markup inside lines -/

def comment : Rule where
  kind := .comment
  pattern := .ofRegex Terminal.comment
  closer := some .commentEnd

def scriptStyleTag : Rule where
  kind := .scriptStyleTag
  pattern := .ofRegex Terminal.scriptStyleTag
  lexeme := Lexeme.scriptStyle
  closer := some .tagEnd

def tag : Rule where
  kind := .tag
  pattern := .ofRegex Terminal.tag
  closer := some .tagEnd

def url : Rule where
  kind := .url
  pattern := .ofRegex Terminal.url

/-- The rule for line breaks that are taken back. -/
def escapedLine : Rule where
  kind := .escapedLine
  pattern := .ofRegex Terminal.escapedLine

def lineBreak : Rule where
  kind := .lineBreak
  pattern := .plain Terminal.lineBreak

/-- The rule for macro calls of other story formats, which are errors. -/
def legacyMacro : Rule where
  kind := .error
  pattern := .ofRegex Terminal.legacyMacro
  lexeme := Lexeme.faulty Fault.legacyMacroCall
  closer := some .callEnd

/-- The rule for the delimiters of verbatim text; a run closes the nearest run of its length. -/
def verbatimOpener : Rule where
  kind := .verbatimOpener
  pattern := .ofRegex Terminal.verbatim
  lexeme := Lexeme.run
  front := true
  closes := [(.verbatimOpener, .verbatim)]
  innerMode := some .verbatim
  aka := some .verbatim

def link : Rule where
  kind := .link
  pattern := .ofRegex Terminal.link
  lexeme := Lexeme.link
  innerMode := some .prose
  closer := some .linkEnd

/-- The rule for hooks that are never closed. -/
def unclosedHook : Rule where
  kind := .unclosedHook
  pattern := .ofRegex Terminal.unclosedHook
  lexeme := Lexeme.named

/-- The rule for fronts of hooks with a name. -/
def hookPrependedFront : Rule where
  kind := .hookPrependedFront
  pattern := .ofRegex Terminal.hookPrependedFront
  lexeme := Lexeme.named
  front := true
  innerMode := some .prose

def hookFront : Rule where
  kind := .hookFront
  pattern := (Pattern.ofRegex Terminal.hookFront).notFollowedBy Terminal.equals
  front := true
  innerMode := some .prose

/-- The open fronts that the end of a hook or of collapsed markup cannot cross. -/
def hookBarriers : List Kind :=
  [.macroFront, .groupingFront, .stringOpener .single, .stringOpener .double, .verbatim]

/-- The rule for backs of hooks with a name. -/
def hookAppendedBack : Rule where
  kind := .hookAppendedBack
  pattern := .ofRegex Terminal.hookAppendedBack
  lexeme := Lexeme.named
  closes := [(.hookFront, .hook)]
  cannotCross := hookBarriers

def hookBack : Rule where
  kind := .hookBack
  pattern := .plain Terminal.hookBack
  closes := [(.hookFront, .hook), (.hookPrependedFront, .hook)]
  cannotCross := hookBarriers

def collapsedFront : Rule where
  kind := .collapsedFront
  pattern := .plain Terminal.collapsedFront
  front := true
  innerMode := some .prose

def collapsedBack : Rule where
  kind := .collapsedBack
  pattern := .plain Terminal.collapsedBack
  closes := [(.collapsedFront, .collapsed)]
  cannotCross := hookBarriers

/-- The open fronts that the end of an emphasis cannot cross. -/
def emphasisBarriers : List Kind :=
  [.hookFront, .hookPrependedFront, .collapsedFront, .macroFront, .groupingFront,
    .stringOpener .single, .stringOpener .double, .verbatim]

def emphasisMark : Emphasis → Text
  | .bold => Terminal.bold
  | .italic => Terminal.italic
  | .strong => Terminal.strong
  | .em => Terminal.em
  | .strike => Terminal.strike
  | .sup => Terminal.sup
  | .underline => Terminal.underline

/-- The rule for the mark of an emphasis, which opens and closes it. -/
def ofEmphasis (emphasis : Emphasis) : Rule where
  kind := .emphasis emphasis
  pattern := .plain (emphasisMark emphasis)
  front := true
  closes := [(.emphasis emphasis, .emphasis emphasis)]
  cannotCross := emphasisBarriers
  innerMode := some .prose

/-! ## Expressions -/

/-- The rule for blanks in expressions. -/
def whitespace : Rule where
  kind := .whitespace
  pattern := .ofRegex Terminal.whitespace

def macroFront : Rule where
  kind := .macroFront
  pattern := .ofRegex Terminal.macroFront
  lexeme := Lexeme.named
  front := true
  innerMode := some .expression

def groupingFront : Rule where
  kind := .groupingFront
  pattern := .plain Terminal.groupingFront
  front := true
  innerMode := some .expression

/-- The open fronts that the end of a group or macro call cannot cross. -/
def groupingBarriers : List Kind :=
  [.hookFront, .hookPrependedFront, .collapsedFront, .stringOpener .single,
    .stringOpener .double, .verbatim]

/-- The rule for backs of groups and macro calls. -/
def groupingBack : Rule where
  kind := .groupingBack
  pattern := .plain Terminal.groupingBack
  closes := [(.macroFront, .macroCall), (.groupingFront, .grouping)]
  cannotCross := groupingBarriers

def comma : Rule where
  kind := .comma
  pattern := .plain Terminal.comma

/-- The rule for marks that spread. -/
def spread : Rule where
  kind := .spread
  pattern := .plain Terminal.spread

/-- The rule for ends of type annotations. -/
def typeSignature : Rule where
  kind := .typeSignature
  pattern := .ofRegex Terminal.typeSignature

def property : Rule where
  kind := .property
  pattern := .ofRegex Terminal.property
  lexeme := Lexeme.named

/-- The rule for marks of computed properties. -/
def possessiveOperator : Rule where
  kind := .possessiveOperator
  pattern := (Pattern.ofRegex Terminal.possessive).followedBy Terminal.lineBlank

def storyVariable : Rule where
  kind := .storyVariable
  pattern := .ofRegex Terminal.storyVariable
  lexeme := Lexeme.named

def tempVariable : Rule where
  kind := .tempVariable
  pattern := .ofRegex Terminal.tempVariable
  lexeme := Lexeme.named

/-- The rule for references to hooks. -/
def hookName : Rule where
  kind := .hookName
  pattern := .ofRegex Terminal.hookName
  lexeme := Lexeme.named

/-- A rule for a word, which may not start in the middle of text. -/
def ofWord (kind : Kind) (regex : Regex) (lexeme : Match → Lexeme) : Rule where
  kind := kind
  pattern := .ofRegex regex
  lexeme := lexeme
  cannotFollowText := true

/-- The rules for properties in words and for literal values. -/
def words : List Rule :=
  [ofWord .itsProperty Terminal.itsProperty Lexeme.named,
    ofWord .itsOperator Terminal.itsOperator Lexeme.whole,
    ofWord .belongingItProperty Terminal.belongingItProperty Lexeme.named,
    ofWord .belongingProperty Terminal.belongingProperty Lexeme.named,
    ofWord .belongingOperator Terminal.belongingOperator Lexeme.whole,
    ofWord (.keyword .bind) Terminal.bind Lexeme.lowerOperator,
    ofWord .cssTime Terminal.cssTime Lexeme.cssTime,
    ofWord .number Terminal.number Lexeme.number,
    ofWord .colour Terminal.colour Lexeme.colour,
    ofWord .boolean Terminal.boolean Lexeme.lowerNamed,
    ofWord .datatype Terminal.datatype Lexeme.lowerNamed,
    ofWord .identifier Terminal.identifier Lexeme.lowerNamed]

/-- A rule for a keyword with its spelling. -/
def ofKeyword (keyword : Keyword) (regex : Regex) (spelling : String) : Rule :=
  ofWord (.keyword keyword) regex (Lexeme.operator spelling)

/-- The rules for keywords with a fixed spelling. -/
def keywords : List Rule :=
  [ofKeyword .isNot Terminal.isNot "is not",
    ofKeyword .isIn Terminal.isIn "is in",
    ofKeyword .isA Terminal.isA "is a",
    ofKeyword .is (Terminal.oneWord "is") "is",
    ofKeyword .contains (Terminal.oneWord "contains") "contains",
    ofKeyword .and (Terminal.oneWord "and") "and",
    ofKeyword .or (Terminal.oneWord "or") "or",
    ofKeyword .not (Terminal.oneWord "not") "not",
    ofKeyword .into (Terminal.oneWord "into") "into",
    ofKeyword .to_ (Terminal.oneWord "to") "to",
    ofKeyword .where_ (Terminal.oneWord "where") "where",
    ofKeyword .when (Terminal.oneWord "when") "when",
    ofKeyword .via (Terminal.oneWord "via") "via",
    ofKeyword .making (Terminal.oneWord "making") "making",
    ofKeyword .each (Terminal.oneWord "each") "each"]

/-- The rule for operators in a spelling that is not valid, which are errors. -/
def incorrectOperator : Rule where
  kind := .error
  pattern := .ofRegex Terminal.incorrectOperator
  lexeme := Lexeme.faulty Fault.incorrectOperator

def inequality : Rule where
  kind := .inequality
  pattern := .ofRegex Terminal.inequality
  lexeme := Lexeme.lowerOperator

/-- A rule for an operator of arithmetic. -/
def ofArithmetic (operator : Arithmetic) (sign : Text) (spelling : String) : Rule where
  kind := .arithmetic operator
  pattern := .plain sign
  lexeme := Lexeme.operator spelling

def operators : List Rule :=
  [ofArithmetic .addition Terminal.addition "+",
    ofArithmetic .subtraction Terminal.subtraction "-",
    ofArithmetic .multiplication Terminal.multiplication "*",
    ofArithmetic .division Terminal.division "/"]

/-! ## Strings -/

def quoteText : Quote → Text
  | .single => Terminal.singleQuote
  | .double => Terminal.doubleQuote

/-- The rule for quotes that open strings. -/
def stringOpener (quote : Quote) : Rule where
  kind := .stringOpener quote
  pattern := .plain (quoteText quote)
  front := true
  innerMode := some .string

/-- The rule for characters that a backslash protects. -/
def escapedStringChar : Rule where
  kind := .escapedStringChar
  pattern := .ofRegex Terminal.escapedStringChar

/-- The rule for quotes that close strings. -/
def stringCloser (quote : Quote) : Rule where
  kind := .stringCloser quote
  pattern := .plain (quoteText quote)
  closes := [(.stringOpener quote, .string)]
  cannotCross := [.stringOpener .single, .stringOpener .double]

/-! ## Modes -/

def prose : List Rule :=
  [horizontalRule, heading, bulleted, numbered, align, column, comment, scriptStyleTag, tag, url,
    escapedLine, lineBreak, legacyMacro, verbatimOpener, link, unclosedHook, hookPrependedFront,
    hookFront, hookAppendedBack, hookBack, collapsedFront, collapsedBack] ++
  Emphasis.all.map ofEmphasis ++ [macroFront, storyVariable]

def expression : List Rule :=
  [link, hookFront, hookBack, whitespace, legacyMacro, macroFront, groupingFront, groupingBack,
    comma, spread, typeSignature, property, possessiveOperator, storyVariable, tempVariable,
    hookName] ++
  words ++ keywords ++ [incorrectOperator, inequality] ++ operators ++
  Quote.all.map stringOpener

def string : List Rule :=
  escapedStringChar :: Quote.all.map stringCloser

def verbatim : List Rule :=
  [verbatimOpener]

def ofMode : Mode → List Rule
  | .prose => prose
  | .expression => expression
  | .string => string
  | .verbatim => verbatim

end Rule

end PassageMarkup
