import PassageMarkup.Kind
import PassageMarkup.Mode
import PassageMarkup.Rule.Lexeme

/-!
# Rules

A rule says what makes a token of one kind: the pattern to look for, what is taken from a match,
where the rule applies, and how its token pairs up with others.  A front opens a pair, and a back
closes one; a token of the same rule can do both.
-/

namespace PassageMarkup

/-- Texts that a match of a rule cannot do without.  While such a text is no longer ahead, the
rule need not be tried. -/
inductive Closer where
  | commentEnd
  | tagEnd
  | callEnd
  | linkEnd
deriving DecidableEq, Repr

namespace Closer

/-- The text of a closer. -/
def text : Closer → Text
  | commentEnd => ['-', '-', '>']
  | tagEnd => ['>']
  | callEnd => ['>', '>']
  | linkEnd => [']', ']']

end Closer

/-- What comes before the place where a rule is tried. -/
inductive Preceding where
  /-- Nothing was read yet, and a line begins here. -/
  | lineStart
  /-- Nothing was read yet, but the text continues a line, as a heading's does. -/
  | midLine
  | token (kind : Kind)
deriving DecidableEq, Repr

namespace Preceding

/-- Tells whether a line begins after what comes before. -/
def beginsLine : Preceding → Bool
  | lineStart => true
  | midLine => false
  | token kind => kind == .lineBreak || kind.isBlock

end Preceding

/-- How tokens of one kind are made. -/
structure Rule where
  kind : Kind
  pattern : Pattern
  /-- What is taken from a match. -/
  lexeme : Match → Lexeme := Lexeme.whole
  /-- Tells whether the token may only begin a line. -/
  beginsLine : Bool := false
  /-- Tells whether the token may not come right after text. -/
  cannotFollowText : Bool := false
  /-- Tells whether the token may open a pair. -/
  front : Bool := false
  /-- The fronts that the token closes, each with the kind of the pair. -/
  closes : List (Kind × Kind) := []
  /-- The open fronts that the search for a front to close may not pass. -/
  cannotCross : List Kind := []
  /-- The mode of the text inside the token or inside the pair that it opens. -/
  innerMode : Option Mode := none
  /-- Another kind under which the token counts while it is an open front. -/
  aka : Option Kind := none
  /-- A text that every match contains. -/
  closer : Option Closer := none

namespace Rule

/-- The kind of the pair that the rule makes with an open front, if it closes it. -/
def resolves (rule : Rule) (front : Kind) (aka : Option Kind) (arity ownArity : Nat) :
    Option Kind :=
  if arity = ownArity then
    (rule.closes.find? fun (kind, _) => kind == front || some kind == aka).map Prod.snd
  else none

/-- Tells whether the search for a front to close stops at an open front. -/
def stopsAt (rule : Rule) (front : Kind) (aka : Option Kind) : Bool :=
  rule.cannotCross.contains front || aka.any rule.cannotCross.contains

end Rule

end PassageMarkup
