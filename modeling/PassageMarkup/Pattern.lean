import PassageMarkup.Regex.Match

/-!
# Patterns

A pattern finds a terminal at the start of a text.  An expression may come with a condition on the
text after the match.
-/

namespace PassageMarkup

/-- A condition on the text after a match: an expression must match there, or must not. -/
structure Lookahead where
  regex : Regex
  negated : Bool

/-- What a rule looks for. -/
inductive Pattern where
  | plain (text : Text)
  | regex (regex : Regex) (lookahead : Option Lookahead)

/-- A terminal found at the start of a text. -/
structure Match where
  text : Text
  first : Option Span
  second : Option Span
  following : Text

namespace Match

/-- The text of the first group, or the empty text when it took no part. -/
def firstText (found : Match) : Text :=
  found.first.elim [] found.text.slice

/-- The text of the second group, or the empty text when it took no part. -/
def secondText (found : Match) : Text :=
  found.second.elim [] found.text.slice

/-- The whole text that was searched. -/
def remaining (found : Match) : Text :=
  found.text ++ found.following

end Match

namespace Lookahead

/-- Tells whether a text may follow. -/
def allows (lookahead : Lookahead) (following : Text) : Bool :=
  (lookahead.regex.matchStart following).isSome != lookahead.negated

end Lookahead

namespace Pattern

/-- A pattern that the text after the match does not restrict. -/
def ofRegex (regex : Regex) : Pattern :=
  .regex regex none

/-- The expression of a pattern; a text stands for itself. -/
def toRegex : Pattern → Regex
  | plain text => .literal text
  | regex r _ => r

/-- Requires that the text after a match starts with `ahead`. -/
def followedBy (pattern : Pattern) (ahead : Regex) : Pattern :=
  .regex pattern.toRegex (some ⟨ahead, false⟩)

/-- Requires that the text after a match does not start with `ahead`. -/
def notFollowedBy (pattern : Pattern) (ahead : Regex) : Pattern :=
  .regex pattern.toRegex (some ⟨ahead, true⟩)

/-- Finds a pattern at the start of a text.  An empty match does not count. -/
def find? (pattern : Pattern) (remaining : Text) : Option Match :=
  match pattern with
  | plain text =>
    match text.isPrefixOf? remaining with
    | none => none
    | some following => if text.isEmpty then none else some ⟨text, none, none, following⟩
  | regex r lookahead =>
    match r.matchStart remaining with
    | none => none
    | some cursor =>
      if cursor.passed = 0 || !lookahead.all (·.allows cursor.rest) then none
      else some ⟨remaining.take cursor.passed, cursor.first, cursor.second, cursor.rest⟩

end Pattern

end PassageMarkup
