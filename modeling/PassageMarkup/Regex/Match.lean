import PassageMarkup.Regex.Basic

/-!
# Matching

An expression is matched from a fixed place.  The matcher takes what has to follow as a
continuation, tries the ways to match in the order of preference, and returns the first one that
the continuation accepts.
-/

namespace PassageMarkup

namespace Regex

/-- A place in a text, with what was kept on the way to it. -/
structure Cursor where
  /-- The character just passed, if there is one. -/
  before : Option Char
  /-- The text still ahead. -/
  rest : Text
  /-- The number of characters passed. -/
  passed : Nat
  /-- The span of the first group, once it was matched. -/
  first : Option Span
  /-- The span of the second group, once it was matched. -/
  second : Option Span

namespace Cursor

/-- The place before a text of which nothing is known to come before. -/
def atStart (text : Text) : Cursor :=
  ⟨none, text, 0, none, none⟩

/-- Keeps what was passed since `start` as a group. -/
def keep (cursor : Cursor) (name : Group) (start : Nat) : Cursor :=
  match name with
  | .first => { cursor with first := some ⟨start, cursor.passed⟩ }
  | .second => { cursor with second := some ⟨start, cursor.passed⟩ }

/-- Tells whether exactly one of the two neighbours is a word character. -/
def atWordBoundary (cursor : Cursor) : Bool :=
  (cursor.before.elim false Unicode.isWord) != (cursor.rest.head?.elim false Unicode.isWord)

/-- Tells whether a line ends here: at a line feed or at the end of the text. -/
def atLineEnd (cursor : Cursor) : Bool :=
  cursor.rest.head?.elim true (· == '\n')

end Cursor

variable {α : Type}

/-- Matches one character of a set. -/
def setThen (accepts : Char → Bool) (next : Cursor → Option α) (cursor : Cursor) : Option α :=
  match cursor.rest with
  | [] => none
  | c :: rest =>
    if accepts c then
      next { cursor with before := some c, rest, passed := cursor.passed + 1 }
    else none

/-- Repeats `body` at most `bound` times, preferring more.  A repetition that passes nothing does
not count. -/
def starThen (body : (Cursor → Option α) → Cursor → Option α) (next : Cursor → Option α) :
    Nat → Cursor → Option α
  | 0, cursor => next cursor
  | bound + 1, cursor =>
    match body (fun later =>
        if cursor.passed < later.passed then starThen body next bound later else none) cursor with
    | some result => some result
    | none => next cursor

/-- Repeats `body` at most `bound` times, preferring fewer. -/
def lazyStarThen (body : (Cursor → Option α) → Cursor → Option α) (next : Cursor → Option α) :
    Nat → Cursor → Option α
  | 0, cursor => next cursor
  | bound + 1, cursor =>
    match next cursor with
    | some result => some result
    | none =>
      body (fun later =>
        if cursor.passed < later.passed then lazyStarThen body next bound later else none) cursor

/-- Matches an expression and then `next`.  A repetition passes at least one character each time,
so the length of the text bounds it. -/
def matchThen : Regex → (Cursor → Option α) → Cursor → Option α
  | .empty, next, cursor => next cursor
  | .set accepts, next, cursor => setThen accepts next cursor
  | .seq left right, next, cursor => left.matchThen (right.matchThen next) cursor
  | .alt left right, next, cursor =>
    match left.matchThen next cursor with
    | some result => some result
    | none => right.matchThen next cursor
  | .star body, next, cursor => starThen body.matchThen next cursor.rest.length cursor
  | .lazyStar body, next, cursor => lazyStarThen body.matchThen next cursor.rest.length cursor
  | .group name body, next, cursor =>
    body.matchThen (fun later => next (later.keep name cursor.passed)) cursor
  | .wordBoundary, next, cursor => if cursor.atWordBoundary then next cursor else none
  | .lineEnd, next, cursor => if cursor.atLineEnd then next cursor else none

/-- The place to which the preferred match at the start of a text leads. -/
def matchStart (r : Regex) (text : Text) : Option Cursor :=
  r.matchThen some (.atStart text)

end Regex

end PassageMarkup
