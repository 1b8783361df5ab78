/-!
# Kinds of tokens

What a token is.  Kinds that are treated alike are grouped: markup of whole lines, emphasis,
keywords, and the two kinds of quotes.
-/

namespace PassageMarkup

/-- Markup that takes a whole line. -/
inductive Block where
  | horizontalRule
  | heading
  | bulleted
  | numbered
  | align
  | column
deriving DecidableEq, Repr

/-- Emphasis, whose mark is the same before and after the text. -/
inductive Emphasis where
  | bold
  | italic
  | strong
  | em
  | strike
  | sup
  | underline
deriving DecidableEq, Repr

/-- The two quotes that strings are written in. -/
inductive Quote where
  | single
  | double
deriving DecidableEq, Repr

/-- Words that connect values in an expression. -/
inductive Keyword where
  | to_
  | into
  | where_
  | when
  | via
  | making
  | each
  | bind
  | and
  | or
  | not
  | isNot
  | isIn
  | isA
  | is
  | contains
deriving DecidableEq, Repr

/-- The operators of arithmetic. -/
inductive Arithmetic where
  | addition
  | subtraction
  | multiplication
  | division
deriving DecidableEq, Repr

/-- The kind of a token. -/
inductive Kind where
  | root
  | text
  | error
  | block (block : Block)
  | lineBreak
  | escapedLine
  | comment
  | tag
  | scriptStyleTag
  | url
  | verbatimOpener
  | verbatim
  | link
  | unclosedHook
  | hookFront
  | hookPrependedFront
  | hookBack
  | hookAppendedBack
  | hook
  | collapsedFront
  | collapsedBack
  | collapsed
  | emphasis (emphasis : Emphasis)
  | whitespace
  | macroFront
  | groupingFront
  | groupingBack
  | macroCall
  | grouping
  | storyVariable
  | tempVariable
  | hookName
  | property
  | possessiveOperator
  | itsProperty
  | itsOperator
  | belongingItProperty
  | belongingProperty
  | belongingOperator
  | cssTime
  | number
  | colour
  | boolean
  | datatype
  | identifier
  | comma
  | spread
  | typeSignature
  | keyword (keyword : Keyword)
  | inequality
  | arithmetic (operator : Arithmetic)
  | stringOpener (quote : Quote)
  | stringCloser (quote : Quote)
  | escapedStringChar
  | string
deriving DecidableEq, Repr

namespace Block

/-- The name of markup of a whole line. -/
def name : Block → String
  | horizontalRule => "Hr"
  | heading => "Heading"
  | bulleted => "Bulleted"
  | numbered => "Numbered"
  | align => "Align"
  | column => "Column"

/-- Every markup of a whole line. -/
def all : List Block :=
  [horizontalRule, heading, bulleted, numbered, align, column]

end Block

namespace Emphasis

/-- The name of an emphasis. -/
def name : Emphasis → String
  | bold => "Bold"
  | italic => "Italic"
  | strong => "Strong"
  | em => "Em"
  | strike => "Strike"
  | sup => "Sup"
  | underline => "Underline"

/-- Every emphasis. -/
def all : List Emphasis :=
  [bold, italic, strong, em, strike, sup, underline]

end Emphasis

namespace Quote

/-- The name of a quote. -/
def name : Quote → String
  | single => "Single"
  | double => "Double"

/-- Both quotes. -/
def all : List Quote :=
  [single, double]

end Quote

namespace Keyword

/-- The name of a keyword. -/
def name : Keyword → String
  | to_ => "To"
  | into => "Into"
  | where_ => "Where"
  | when => "When"
  | via => "Via"
  | making => "Making"
  | each => "Each"
  | bind => "Bind"
  | and => "And"
  | or => "Or"
  | not => "Not"
  | isNot => "IsNot"
  | isIn => "IsIn"
  | isA => "IsA"
  | is => "Is"
  | contains => "Contains"

/-- Every keyword. -/
def all : List Keyword :=
  [to_, into, where_, when, via, making, each, bind, and, or, not, isNot, isIn, isA, is, contains]

end Keyword

namespace Arithmetic

/-- The name of an operator of arithmetic. -/
def name : Arithmetic → String
  | addition => "Addition"
  | subtraction => "Subtraction"
  | multiplication => "Multiplication"
  | division => "Division"

/-- Every operator of arithmetic. -/
def all : List Arithmetic :=
  [addition, subtraction, multiplication, division]

end Arithmetic

namespace Kind

/-- The name of a kind. -/
def name : Kind → String
  | root => "Root"
  | text => "Text"
  | error => "Error"
  | block b => b.name
  | lineBreak => "Br"
  | escapedLine => "EscapedLine"
  | comment => "Comment"
  | tag => "Tag"
  | scriptStyleTag => "ScriptStyleTag"
  | url => "Url"
  | verbatimOpener => "VerbatimOpener"
  | verbatim => "Verbatim"
  | link => "TwineLink"
  | unclosedHook => "UnclosedHook"
  | hookFront => "HookFront"
  | hookPrependedFront => "HookPrependedFront"
  | hookBack => "HookBack"
  | hookAppendedBack => "HookAppendedBack"
  | hook => "Hook"
  | collapsedFront => "CollapsedFront"
  | collapsedBack => "CollapsedBack"
  | collapsed => "Collapsed"
  | emphasis e => e.name
  | whitespace => "Whitespace"
  | macroFront => "MacroFront"
  | groupingFront => "GroupingFront"
  | groupingBack => "GroupingBack"
  | macroCall => "Macro"
  | grouping => "Grouping"
  | storyVariable => "Variable"
  | tempVariable => "TempVariable"
  | hookName => "HookName"
  | property => "Property"
  | possessiveOperator => "PossessiveOperator"
  | itsProperty => "ItsProperty"
  | itsOperator => "ItsOperator"
  | belongingItProperty => "BelongingItProperty"
  | belongingProperty => "BelongingProperty"
  | belongingOperator => "BelongingOperator"
  | cssTime => "CssTime"
  | number => "Number"
  | colour => "Colour"
  | boolean => "Boolean"
  | datatype => "Datatype"
  | identifier => "Identifier"
  | comma => "Comma"
  | spread => "Spread"
  | typeSignature => "TypeSignature"
  | keyword k => k.name
  | inequality => "Inequality"
  | arithmetic a => a.name
  | stringOpener .single => "SingleStringOpener"
  | stringOpener .double => "DoubleStringOpener"
  | stringCloser .single => "SingleStringCloser"
  | stringCloser .double => "DoubleStringCloser"
  | escapedStringChar => "EscapedStringChar"
  | string => "String"

/-- The name with its first letter in lower case. -/
def camelName (kind : Kind) : String :=
  match kind.name.toList with
  | [] => ""
  | c :: rest => String.ofList (c.toLower :: rest)

/-- Every kind. -/
def all : List Kind :=
  [root, text, error] ++ Block.all.map block ++
  [lineBreak, escapedLine, comment, tag, scriptStyleTag, url, verbatimOpener, verbatim, link,
    unclosedHook, hookFront, hookPrependedFront, hookBack, hookAppendedBack, hook,
    collapsedFront, collapsedBack, collapsed] ++
  Emphasis.all.map emphasis ++
  [whitespace, macroFront, groupingFront, groupingBack, macroCall, grouping, storyVariable,
    tempVariable, hookName, property, possessiveOperator, itsProperty, itsOperator,
    belongingItProperty, belongingProperty, belongingOperator, cssTime, number, colour, boolean,
    datatype, identifier, comma, spread, typeSignature] ++
  Keyword.all.map keyword ++
  [inequality] ++ Arithmetic.all.map arithmetic ++
  Quote.all.map stringOpener ++ Quote.all.map stringCloser ++ [escapedStringChar, string]

/-- The kind with a given name. -/
def ofName? (name : String) : Option Kind :=
  all.find? fun kind => kind.name == name

/-- Tells whether a kind is markup of a whole line. -/
def isBlock : Kind → Bool
  | block _ => true
  | _ => false

end Kind

end PassageMarkup
