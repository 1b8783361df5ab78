import PassageMarkup.Proofs.Rule.Block
import PassageMarkup.Proofs.Rule.Written
import PassageMarkup.Proofs.Token.Formed

/-!
# Links

The body of a link is its passage and its inner text with an arrow between them, or is both of them
when it has no arrow.  Of several arrows, the last one to the right counts, or else the first one to
the left.
-/

namespace PassageMarkup

namespace Text

/-- The body of a link with its passage and inner text. -/
inductive SplitsLink : Text → Text → Text → Prop where
  | right {passage inner : Text} :
      ¬['-', '>'] <:+: passage →
      SplitsLink (inner ++ ['-', '>'] ++ passage) passage inner
  | left {passage inner : Text} :
      ¬['-', '>'] <:+: passage ++ ['<', '-'] ++ inner →
      ¬['<', '-'] <:+: passage →
      SplitsLink (passage ++ ['<', '-'] ++ inner) passage inner
  | whole {body : Text} :
      ¬['-', '>'] <:+: body →
      ¬['<', '-'] <:+: body →
      SplitsLink body body body

def linked (body : Text) : Text :=
  ['[', '['] ++ body ++ [']', ']']

theorem linked_inj {body other : Text} (same : body.linked = other.linked) : body = other :=
  List.append_cancel_left (List.append_cancel_right same)

theorem exists_splitsLink (body : Text) : ∃ passage inner, SplitsLink body passage inner := by
  cases right : splitLast ['-', '>'] body with
  | some sides =>
      obtain ⟨rfl, last⟩ := (splitLast_pair_eq_some_iff (by decide)).mp right
      exact ⟨_, _, .right last⟩
  | none =>
      have noRight := (splitLast_eq_none_iff (by simp)).mp right
      cases left : splitFirst ['<', '-'] body with
      | some sides =>
          obtain ⟨rfl, first⟩ := (splitFirst_pair_eq_some_iff (by decide)).mp left
          exact ⟨_, _, .left noRight first⟩
      | none => exact ⟨_, _, .whole noRight ((splitFirst_eq_none_iff (by simp)).mp left)⟩

theorem SplitsLink.linkParts_eq {body passage inner : Text}
    (splits : SplitsLink body passage inner) :
    (Lexeme.linkParts body).1 = passage ∧ body.slice (Lexeme.linkParts body).2 = inner := by
  cases splits with
  | right last =>
      have split : splitLast ['-', '>'] (inner ++ ['-', '>'] ++ passage) = some (inner, passage) :=
        (splitLast_pair_eq_some_iff (by decide)).mpr ⟨rfl, last⟩
      rw [Lexeme.linkParts, split]
      exact ⟨rfl, by simpa using slice_between [] inner (['-', '>'] ++ passage)⟩
  | left noRight first =>
      have split : splitFirst ['<', '-'] (passage ++ ['<', '-'] ++ inner) = some (passage, inner) :=
        (splitFirst_pair_eq_some_iff (by decide)).mpr ⟨rfl, first⟩
      rw [Lexeme.linkParts, (splitLast_eq_none_iff (by simp)).mpr noRight, split]
      have slice := slice_between (passage ++ ['<', '-']) inner []
      rw [List.append_nil, ← List.length_append, @List.length_append _ passage] at slice
      exact ⟨rfl, slice⟩
  | whole noRight noLeft =>
      rw [Lexeme.linkParts, (splitLast_eq_none_iff (by simp)).mpr noRight,
        (splitFirst_eq_none_iff (by simp)).mpr noLeft]
      exact ⟨rfl, by simpa using slice_between [] body []⟩

theorem SplitsLink.unique {body passage inner other text : Text}
    (first : SplitsLink body passage inner) (second : SplitsLink body other text) :
    passage = other ∧ inner = text :=
  ⟨first.linkParts_eq.1.symm.trans second.linkParts_eq.1,
    first.linkParts_eq.2.symm.trans second.linkParts_eq.2⟩

end Text

open Text

namespace Lexeme

theorem withInner_slice {lexeme : Lexeme} (unmarked : lexeme.inner = none) (inner : Span)
    (text : Text) : ((lexeme.withInner inner).inner.map text.slice).getD [] = text.slice inner := by
  unfold withInner
  split
  · rfl
  · rename_i empty
    have nothing : inner.length = 0 := Nat.sub_eq_zero_of_le (Nat.le_of_not_lt empty)
    rw [unmarked, slice, nothing]
    rfl

end Lexeme

namespace Rule

variable {remaining body : Text} {found : Match} {token : Token}

/-- What the rule for links takes is a body between brackets, split into passage and inner text. -/
theorem Takes.splitsLink (takes : link.Takes remaining found token) :
    ∃ body passage : Text, token.text = body.linked ∧ body ≠ [] ∧ ']' ∉ body ∧
      token.fields.passage = some passage ∧ SplitsLink body passage token.inner := by
  obtain ⟨before, body, after, opening, denotes, closing, text, first⟩ :=
    Pattern.find?_between takes.success rfl
  have nonempty : body ≠ [] := denotes.of_many1.1
  have unbracketed : ']' ∉ body := denotes.not_mem_of_avoids (by decide)
  have firstText : found.firstText = body := by
    simp only [Match.firstText, first, text, Option.elim]
    exact slice_between before body after
  obtain ⟨passage, inner, splits⟩ := exists_splitsLink body
  obtain ⟨passageEq, innerEq⟩ := splits.linkParts_eq
  have whole : token.text = found.text := by
    rw [takes.text_eq, length_of_marked (by simp),
      (Pattern.find?_splitsOff takes.success).take_length]
  have marked : token.inner = inner := by
    rw [takes.inner_eq, show link.lexeme found = _ from Lexeme.link_eq found,
      Lexeme.withInner_slice rfl, first, firstText, whole, text]
    exact (slice_inside (Lexeme.linkParts_le body)).trans innerEq
  refine ⟨body, passage, ?_, nonempty, unbracketed, ?_, marked ▸ splits⟩
  · rw [whole, text, opening.of_literal (by decide), closing.of_literal (by decide)]
    rfl
  · rw [takes.fields_eq, show link.lexeme found = _ from Lexeme.link_eq found,
      Lexeme.withInner_fields, firstText, ← passageEq]
    rfl

theorem finds_link (nonempty : body ≠ []) (unbracketed : ']' ∉ body) (rest : Text) :
    link.pattern.find? (body.linked ++ rest) =
      some ⟨body.linked, some ⟨2, 2 + body.length⟩, none, rest⟩ := by
  apply Pattern.find?_enclosed nonempty
  · intro c member
    have other : c ≠ ']' := by
      rintro rfl
      exact unbracketed member
    simpa using other
  · intro c head
    cases head
    decide
  · decide

end Rule

end PassageMarkup
