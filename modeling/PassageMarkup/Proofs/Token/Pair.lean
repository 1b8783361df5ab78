import PassageMarkup.Scan.Step
import PassageMarkup.Proofs.Kind
import PassageMarkup.Proofs.Rule.Delimiter

/-!
# Pairs and their delimiters

A folded pair still tells which front and which back it was made of: their texts stand around its
inner text, and its kind and fields determine the rest.
-/

namespace PassageMarkup

theorem Closes.isPair {back front pair : Kind} {arity : Nat} {name : Option Text} {text : Text}
    (closes : Closes back front pair arity name text) : pair.isPair = true := by
  cases closes <;> rfl

theorem Closes.not_isDelimiter {back front pair : Kind} {arity : Nat} {name : Option Text}
    {text : Text} (closes : Closes back front pair arity name text) :
    pair.isDelimiter = false := by
  cases closes <;> rfl

namespace Token

/-- A front or back as a token of its own. -/
def delimiter (kind : Kind) (start : Nat) (text place : Text) (name : Option Text) : Token :=
  { leaf kind start text place with fields := { name } }

def pairFrontKind (pair : Token) : Kind :=
  match pair.kind with
  | .verbatim => .verbatimOpener
  | .hook => if pair.text.head? = some '|' then .hookPrependedFront else .hookFront
  | .collapsed => .collapsedFront
  | .macroCall => .macroFront
  | .grouping => .groupingFront
  | .string => .stringOpener (if pair.text.head? = some '"' then .double else .single)
  | kind => kind

theorem pairFrontKind_isExpression (pair : Token) :
    pair.pairFrontKind.isExpression = pair.kind.isExpression := by
  unfold pairFrontKind
  cases kind : pair.kind
  case hook =>
      by_cases bar : pair.text.head? = some '|' <;> simp [bar, Kind.isExpression]
  all_goals rfl

theorem kind_eq_verbatim {pair : Token} (isPair : pair.kind.isPair = true)
    (sameFront : pair.pairFrontKind = .verbatimOpener) : pair.kind = .verbatim := by
  unfold pairFrontKind at sameFront
  cases kind : pair.kind
  case verbatim => rfl
  case hook => by_cases bar : pair.text.head? = some '|' <;> simp [kind, bar] at sameFront
  all_goals
    simp only [kind] at isPair sameFront
    contradiction

def pairBackKind (pair : Token) : Kind :=
  match pair.kind with
  | .verbatim => .verbatimOpener
  | .hook => if pair.text.getLast? = some '|' then .hookAppendedBack else .hookBack
  | .collapsed => .collapsedBack
  | .macroCall | .grouping => .groupingBack
  | .string => .stringCloser (if pair.text.head? = some '"' then .double else .single)
  | kind => kind

/-- The length of the front of a pair.  A front that is longer than the back has a name, and the
back is then a single character. -/
def pairFrontLength (pair : Token) : Nat :=
  let outside := pair.text.length - pair.inner.length
  match pair.pairFrontKind with
  | .macroFront | .hookPrependedFront => outside - 1
  | .hookFront => 1
  | _ => outside / 2

/-- The front of a pair, as it stands beside the other tokens when pairs are not folded. -/
def pairFront (pair : Token) : Token :=
  delimiter pair.pairFrontKind pair.start (pair.text.take pair.pairFrontLength) pair.place
    (if pair.pairFrontKind = .macroFront ∨ pair.pairFrontKind = .hookPrependedFront then
      pair.fields.name
    else none)

/-- The back of a pair, as it stands beside the other tokens when pairs are not folded. -/
def pairBack (pair : Token) : Token :=
  let text := pair.text.drop (pair.pairFrontLength + pair.inner.length)
  delimiter pair.pairBackKind (pair.stop - text.length) text pair.place
    (if pair.pairBackKind = .hookAppendedBack then pair.fields.name else none)

@[simp] theorem foldPair_kind (kind : Kind) (front back : Token) (children : List Token) :
    (Scan.foldPair kind front children back).kind = kind :=
  rfl

@[simp] theorem foldPair_children (kind : Kind) (front back : Token) (children : List Token) :
    (Scan.foldPair kind front children back).children = children :=
  rfl

/-- A front and a back that make a pair of a kind. -/
inductive Matched : Kind → Token → Token → Prop where
  | intro {front back pair : Kind} {arity : Nat} {frontName backName : Option Text}
      {frontText backText : Text} (place : Text) (start backStart : Nat) :
      Opens front arity frontName frontText →
      Closes back front pair arity backName backText →
      Matched pair (delimiter front start frontText place frontName)
        (delimiter back backStart backText place backName)

namespace Matched

variable {kind : Kind} {front back : Token}

theorem isPair (matched : Matched kind front back) : kind.isPair = true := by
  cases matched with
  | intro place start backStart opens closes => exact closes.isPair

theorem front_not_plain (matched : Matched kind front back) : front.isPlainText = false := by
  cases matched with
  | intro place start backStart opens closes => cases opens <;> rfl

theorem back_not_plain (matched : Matched kind front back) : back.isPlainText = false := by
  cases matched with
  | intro place start backStart opens closes => cases closes <;> rfl

theorem foldPair_not_plain (matched : Matched kind front back) (children : List Token) :
    (Scan.foldPair kind front children back).isPlainText = false := by
  cases matched with
  | intro place start backStart opens closes => cases closes <;> rfl

theorem beginsLine (matched : Matched kind front back) :
    (Preceding.token back.kind).beginsLine = (Preceding.token kind).beginsLine := by
  cases matched with
  | intro place start backStart opens closes => cases closes <;> rfl

theorem pairFrontKind_eq (matched : Matched kind front back) (children : List Token) :
    (Scan.foldPair kind front children back).pairFrontKind = front.kind := by
  cases matched with
  | intro place start backStart opens closes =>
      cases closes <;> cases opens
      all_goals simp [pairFrontKind, Scan.foldPair, delimiter, leaf]
      rename_i quote
      cases quote <;> simp [Rule.quoteText, Terminal.singleQuote, Terminal.doubleQuote]

theorem pairBackKind_eq (matched : Matched kind front back) (children : List Token) :
    (Scan.foldPair kind front children back).pairBackKind = back.kind := by
  cases matched with
  | intro place start backStart opens closes =>
      cases closes <;> cases opens
      all_goals
        simp [pairBackKind, Scan.foldPair, delimiter, leaf, List.getLast?_append,
          List.getLast?_cons]
      rename_i quote
      cases quote <;> simp [Rule.quoteText, Terminal.singleQuote, Terminal.doubleQuote]

theorem pairFrontLength_eq (matched : Matched kind front back) (children : List Token) :
    (Scan.foldPair kind front children back).pairFrontLength = front.text.length := by
  have frontKind := matched.pairFrontKind_eq children
  unfold pairFrontLength
  rw [frontKind]
  cases matched with
  | intro place start backStart opens closes =>
      cases closes <;> cases opens
      all_goals
        simp only [Scan.foldPair, delimiter, leaf, List.length_append, List.length_cons,
          List.length_nil, List.length_replicate]
      all_goals omega

theorem pairFront_eq (matched : Matched kind front back) (children : List Token) :
    (Scan.foldPair kind front children back).pairFront = front := by
  unfold pairFront
  rw [matched.pairFrontLength_eq, matched.pairFrontKind_eq]
  have taken : (front.text ++ textOf children ++ back.text).take front.text.length =
      front.text := by
    rw [List.append_assoc, List.take_left]
  cases matched with
  | intro place start backStart opens closes =>
      simp only [Scan.foldPair, taken]
      cases closes <;> cases opens
      all_goals simp [delimiter, leaf, Fields.mergeMissing]

theorem pairBack_eq (matched : Matched kind front back) (children : List Token) :
    (Scan.foldPair kind front children back).pairBack = back := by
  unfold pairBack
  rw [matched.pairFrontLength_eq, matched.pairBackKind_eq]
  have dropped : (front.text ++ textOf children ++ back.text).drop
      (front.text.length + (textOf children).length) = back.text := by
    rw [← List.length_append, List.drop_left]
  cases matched with
  | intro place start backStart opens closes =>
      simp only [Scan.foldPair, dropped]
      cases closes <;> cases opens
      all_goals simp [delimiter, leaf, Fields.mergeMissing]

end Matched

end Token

end PassageMarkup
