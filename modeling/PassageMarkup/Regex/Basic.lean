import PassageMarkup.Text.Basic
import PassageMarkup.Unicode.Graphic

/-!
# Regular expressions

The expressions that describe terminals.  Letters in them stand for both cases: a character is
compared by its simple case folding, under which two characters outside ASCII, the long s and the
Kelvin sign, are letters of ASCII too.
-/

namespace PassageMarkup

/-- The two groups of a terminal whose text is kept. -/
inductive Group where
  | first
  | second
deriving DecidableEq, Repr

/-- An expression over characters.  Of several ways to match, the left one of an alternative comes
first, and a repetition prefers to go on (`star`) or to stop (`lazyStar`). -/
inductive Regex where
  | empty
  | set (accepts : Char → Bool)
  | seq (left right : Regex)
  | alt (left right : Regex)
  | star (body : Regex)
  | lazyStar (body : Regex)
  | group (name : Group) (body : Regex)
  | wordBoundary
  | lineEnd

namespace Regex

/-- The simple case folding of a character, as far as it leads into ASCII. -/
def foldCase (c : Char) : Char :=
  if c = '\u017f' then 's' else if c = '\u212a' then 'k' else c.toLower

/-- One character, in either case. -/
def char (expected : Char) : Regex :=
  .set fun c => foldCase c == foldCase expected

/-- A text, in either case. -/
def literal : Text → Regex
  | [] => .empty
  | [c] => char c
  | c :: rest => .seq (char c) (literal rest)

/-- A written text, in either case. -/
def text (written : String) : Regex :=
  literal written.toList

/-- One character out of a list. -/
def oneOf (chars : String) : Regex :=
  .set fun c => chars.toList.contains c

/-- One character outside a list. -/
def noneOf (chars : String) : Regex :=
  .set fun c => !chars.toList.contains c

/-- One expression after the other. -/
def inOrder : List Regex → Regex
  | [] => .empty
  | [r] => r
  | r :: rest => .seq r (inOrder rest)

/-- The first of the expressions that leads to a match. -/
def either : List Regex → Regex
  | [] => .set fun _ => false
  | [r] => r
  | r :: rest => .alt r (either rest)

/-- An expression that may be missing. -/
def opt (r : Regex) : Regex :=
  .alt r .empty

/-- Any number of repetitions, as many as possible. -/
def many (r : Regex) : Regex :=
  .star r

/-- One or more repetitions, as many as possible. -/
def many1 (r : Regex) : Regex :=
  .seq r (.star r)

/-- Exactly `n` repetitions. -/
def exactly (n : Nat) (r : Regex) : Regex :=
  inOrder (List.replicate n r)

/-- At most `n` repetitions, as many as possible. -/
def upTo : Nat → Regex → Regex
  | 0, _ => .empty
  | n + 1, r => opt (.seq r (upTo n r))

/-- An expression that ends where a word ends or begins. -/
def toBoundary (r : Regex) : Regex :=
  .seq r .wordBoundary

end Regex

end PassageMarkup
