import PassageMarkup.Fault
import PassageMarkup.Fields
import PassageMarkup.Kind

/-!
# Tokens

A token is a node of the tree of a passage.  It covers the range from `start` to `stop`, and `text`
is the passage's text in that range.  The inner text is the part of it that the children cover, as
the contents of a hook without its brackets.
-/

namespace PassageMarkup

/-- A node of the tree of a passage. -/
structure Token where
  kind : Kind
  start : Nat
  stop : Nat
  text : Text
  inner : Text
  children : List Token
  place : Text
  fields : Fields
  fault : Option Fault
deriving Repr

namespace Token

/-- A token without children that begins at `start` and is as long as its text. -/
def leaf (kind : Kind) (start : Nat) (text : Text) (place : Text) : Token where
  kind := kind
  start := start
  stop := start + text.length
  text := text
  inner := []
  children := []
  place := place
  fields := {}
  fault := none

/-- Turns a token into plain text in the same range. -/
def demote (token : Token) : Token where
  kind := .text
  start := token.start
  stop := token.stop
  text := token.text
  inner := []
  children := []
  place := token.place
  fields := {}
  fault := none

/-- Tells whether a token is text without children. -/
def isPlainText (token : Token) : Bool :=
  token.kind == .text && token.children.isEmpty

/-- Joins each run of neighbouring plain texts into one token. -/
def coalesce : List Token → List Token
  | [] => []
  | token :: rest =>
    match coalesce rest with
    | [] => [token]
    | next :: others =>
      if token.isPlainText && next.isPlainText then
        { token with text := token.text ++ next.text, stop := next.stop } :: others
      else token :: next :: others

/-- The texts of a list of tokens, one after the other. -/
def textOf (tokens : List Token) : Text :=
  tokens.flatMap Token.text

mutual

/-- The number of tokens in a tree. -/
def size : Token → Nat
  | ⟨_, _, _, _, _, children, _, _, _⟩ => 1 + sizeList children

/-- The number of tokens in a list of trees. -/
def sizeList : List Token → Nat
  | [] => 0
  | token :: rest => token.size + sizeList rest

end

theorem size_eq (token : Token) : token.size = 1 + sizeList token.children := by
  cases token
  rfl

theorem sizeList_append (left right : List Token) :
    sizeList (left ++ right) = sizeList left + sizeList right := by
  induction left with
  | nil => simp [sizeList]
  | cons token rest induction => simp [sizeList, induction, Nat.add_assoc]

mutual

/-- Equality of trees with values compared as numbers. -/
def numericEq : Token → Token → Bool
  | ⟨kind, start, stop, text, inner, children, place, fields, fault⟩, other =>
    kind == other.kind && start == other.start && stop == other.stop && text == other.text &&
      inner == other.inner && numericEqList children other.children && place == other.place &&
      fields.numericEq other.fields && fault == other.fault

/-- Equality of lists of trees with values compared as numbers. -/
def numericEqList : List Token → List Token → Bool
  | [], [] => true
  | token :: rest, other :: others => token.numericEq other && numericEqList rest others
  | _, _ => false

end

end Token

end PassageMarkup
