import PassageMarkup.Binary64.Rounding
import PassageMarkup.Colour
import PassageMarkup.Fault
import PassageMarkup.Fields
import PassageMarkup.Pattern
import PassageMarkup.Terminal

/-!
# Lexemes

What a rule takes from a match: how much text it consumes, which part of that has markup of its
own, and the fields of the token.
-/

namespace PassageMarkup

/-- What a rule takes from a match.  The length may be more than that of the match when the rule
takes text that follows it.  Two delimiters belong together only when their arities agree. -/
structure Lexeme where
  length : Nat
  inner : Option Span := none
  arity : Nat := 0
  fields : Fields := {}
  fault : Option Fault := none

namespace Lexeme

/-- Marks a part of the consumed text as markup of its own, unless the part is empty. -/
def withInner (lexeme : Lexeme) (inner : Span) : Lexeme :=
  if inner.start < inner.stop then { lexeme with inner := some inner } else lexeme

/-- Takes the match and sets fields. -/
def withFields (fields : Fields) (found : Match) : Lexeme :=
  { length := found.text.length, fields }

/-- Takes the match and nothing more. -/
def whole (found : Match) : Lexeme :=
  withFields {} found

def named (found : Match) : Lexeme :=
  withFields { name := some found.firstText } found

def lowerNamed (found : Match) : Lexeme :=
  withFields { name := some found.text.lowerCase } found

def operator (spelling : String) (found : Match) : Lexeme :=
  withFields { operator := some spelling.toList } found

def lowerOperator (found : Match) : Lexeme :=
  withFields { operator := some found.text.lowerCase } found

/-- Takes a line with a level: the first group is the mark, made of pieces of `width` characters,
and the second group has markup of its own. -/
def levelled (width : Nat) (found : Match) : Lexeme :=
  (withFields { depth := some (found.firstText.length / width) } found).withInner
    (found.second.getD ⟨0, 0⟩)

/-- The side to which an arrow points. -/
def alignOf (arrow : Text) : String :=
  if arrow.head? == some '<' && arrow.getLast? == some '>' then "justify"
  else if arrow.head? == some '<' then "left"
  else if (Text.splitFirst ['>', '<'] arrow).isSome then "center"
  else "right"

def align (found : Match) : Lexeme :=
  withFields { align := some (alignOf found.firstText).toList } found

/-- Takes the bar of a column: its place is given by the sides that have bars, and its width by
their number. -/
def column (found : Match) : Lexeme :=
  let left := (found.firstText.takeWhile (· == '|')).length
  let right := (found.firstText.reverse.takeWhile (· == '|')).length
  let place :=
    if left = 0 then "right" else if right = 0 then "left" else "center"
  withFields { column := some place.toList, width := some (left + right) } found

/-- The number of characters up to the end of the first match in a text. -/
def endOfFirst (regex : Regex) (text : Text) : Option Nat :=
  match regex.matchStart text with
  | some cursor => some cursor.passed
  | none =>
    match text with
    | [] => none
    | _ :: rest => (endOfFirst regex rest).map (· + 1)

/-- The closing tag that ends a script or style sheet. -/
def closingTag (name : Text) : Regex :=
  if name.lowerCase = "style".toList then Terminal.styleClose else Terminal.scriptClose

/-- Takes a script or style sheet up to its closing tag, or to the end when there is none. -/
def scriptStyle (found : Match) : Lexeme :=
  { length := found.text.length +
      (endOfFirst (closingTag found.firstText) found.following).getD found.following.length }

/-- Takes a match that is at fault. -/
def faulty (fault : Text → Fault) (found : Match) : Lexeme :=
  { withFields { message := some (fault found.text).message } found with
    fault := some (fault found.text) }

/-- Takes a run of delimiters; only a run of the same length closes it. -/
def run (found : Match) : Lexeme :=
  { whole found with arity := found.text.length }

/-- The passage of a link and the part of the body that is its text.  The last arrow to the right
or else the first arrow to the left stands between them; a body without an arrow is both. -/
def linkParts (body : Text) : Text × Span :=
  match Text.splitLast ['-', '>'] body with
  | some (text, passage) => (passage, ⟨0, text.length⟩)
  | none =>
    match Text.splitFirst ['<', '-'] body with
    | some (passage, _) => (passage, ⟨passage.length + 2, body.length⟩)
    | none => (body, ⟨0, body.length⟩)

def link (found : Match) : Lexeme :=
  let (passage, inner) := linkParts found.firstText
  let bodyStart := (found.first.map Span.start).getD 0
  (withFields { passage := some passage } found).withInner
    ⟨bodyStart + inner.start, bodyStart + inner.stop⟩

/-- Takes a time, in milliseconds. -/
def cssTime (found : Match) : Lexeme :=
  let amount := (Decimal.read found.firstText).toBinary64
  let value := if found.secondText.lowerCase = ['s'] then amount.times 1000 else amount
  withFields { value := some value } found

def number (found : Match) : Lexeme :=
  withFields { value := some (Decimal.read found.text).toBinary64 } found

def colour (found : Match) : Lexeme :=
  withFields { colour := some (Colour.resolve found.text) } found

end Lexeme

end PassageMarkup
