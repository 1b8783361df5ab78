import PassageMarkup.Rule.Table
import PassageMarkup.Scan.Step

/-!
# Lexing

A passage becomes a tree of tokens under a root that spans all of it.  Lexing never fails: markup
that does not pair up is text, and a few known mistakes become error tokens.
-/

namespace PassageMarkup

/-- How a passage is lexed. -/
structure Options where
  /-- The name of the passage, which every token carries. -/
  place : Text := []
  /-- The mode in which the passage begins. -/
  mode : Mode := .prose
  /-- Tells whether pairs become one token and inner texts are read. -/
  fold : Bool := true
  /-- The limit on nesting: inner texts around a place plus fronts open there. -/
  maxDepth : Nat := 128
deriving DecidableEq, Repr

namespace Scan

/-- Reads a text with the rules of a table.  At most `room` fronts may be open, and every inner
text has room for one less; without room for two, inner texts are not read. -/
def read (rules : Mode → List Rule) (fold : Bool) (place : Text) :
    Nat → Mode → Bool → Nat → Text → Outcome
  | 0, mode, beginsLine, offset, text =>
    scanText
      { rules, fold, place, mode, beginsLine, offset
        room := 0
        horizon := .ofText text
        readInner := none }
      text
  | room + 1, mode, beginsLine, offset, text =>
    scanText
      { rules, fold, place, mode, beginsLine, offset
        room := room + 1
        horizon := .ofText text
        readInner :=
          if room = 0 then none
          else some fun innerMode => read rules fold place room innerMode false }
      text

end Scan

namespace Lex

/-- Reads a text that stands at `offset` inside `depth` inner texts, in the mode of the options. -/
def readAt (options : Options) (offset depth : Nat) (beginsLine : Bool) (text : Text) :
    Scan.Outcome :=
  Scan.read Rule.ofMode options.fold options.place (options.maxDepth - depth) options.mode
    beginsLine offset text

/-- The tokens of a text that stands at `offset` inside `depth` inner texts. -/
def tokenize (options : Options) (offset depth : Nat) (beginsLine : Bool) (text : Text) :
    List Token :=
  (readAt options offset depth beginsLine text).tokens

/-- The root over the tokens of a passage. -/
def root (place source : Text) (children : List Token) : Token :=
  { Token.leaf .root 0 source place with inner := source, children }

/-- The tree of a passage. -/
def lex (options : Options) (source : Text) : Token :=
  root options.place source (tokenize options 0 0 true source)

/-- The events of lexing a passage, in order. -/
def events (options : Options) (source : Text) : List Event :=
  (readAt options 0 0 true source).events.reverse

/-- The first record of lexing a passage. -/
def beginRecord (options : Options) (source : Text) : Record :=
  ⟨.debug,
    "lexing ".toList ++ Text.decimal source.length ++ " characters of ".toList ++
      Text.quoted options.place ++ " in ".toList ++ options.mode.name.toList ++
      " mode (fold: ".toList ++ (if options.fold then "true" else "false").toList ++ [')']⟩

/-- The last record of lexing a passage. -/
def endRecord (options : Options) (tokens : List Token) : Record :=
  ⟨.debug,
    "lexed ".toList ++ Text.quoted options.place ++ " into ".toList ++
      Text.decimal tokens.length ++ " top-level tokens".toList⟩

/-- The log of lexing a passage. -/
def log (options : Options) (source : Text) : List Record :=
  let outcome := readAt options 0 0 true source
  beginRecord options source ::
    outcome.events.reverse.filterMap (Event.record? options.fold options.maxDepth) ++
    [endRecord options outcome.tokens]

end Lex

end PassageMarkup
