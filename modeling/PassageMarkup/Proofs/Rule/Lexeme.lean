import Mathlib.Tactic.FinCases
import PassageMarkup.Rule.Table
import PassageMarkup.Proofs.Kind
import PassageMarkup.Proofs.Pattern

/-!
# Lexemes of the rules

Four rules mark a part of what they take as markup of its own: those of headings, of the two kinds
of list items, and of links.  The part always lies in the text that is taken.
-/

namespace PassageMarkup

namespace Lexeme

theorem withInner_fields (lexeme : Lexeme) (inner : Span) :
    (lexeme.withInner inner).fields = lexeme.fields := by
  unfold withInner
  split <;> rfl

theorem withInner_fault (lexeme : Lexeme) (inner : Span) :
    (lexeme.withInner inner).fault = lexeme.fault := by
  unfold withInner
  split <;> rfl

/-- The part of a lexeme with markup of its own is not empty and lies in the text that is taken. -/
def Fits (lexeme : Lexeme) : Prop :=
  ∀ span, lexeme.inner = some span → span.start < span.stop ∧ span.stop ≤ lexeme.length

theorem fits_of_inner_eq_none {lexeme : Lexeme} (unmarked : lexeme.inner = none) :
    lexeme.Fits := by
  intro span marked
  rw [unmarked] at marked
  contradiction

theorem withInner_fits {lexeme : Lexeme} {inner : Span} (unmarked : lexeme.inner = none)
    (bounded : inner.start < inner.stop → inner.stop ≤ lexeme.length) :
    (lexeme.withInner inner).Fits := by
  unfold withInner
  split
  · rename_i nonempty
    intro span same
    cases same
    exact ⟨nonempty, bounded nonempty⟩
  · exact fits_of_inner_eq_none unmarked

theorem levelled_fits {found : Match} {remaining : Text} (splits : found.SplitsOff remaining)
    (width : Nat) : (levelled width found).Fits := by
  apply withInner_fits rfl
  intro nonempty
  cases second : found.second with
  | none => simp [second] at nonempty
  | some span => exact (splits.within span (.inr second)).2

theorem linkParts_le (body : Text) : (linkParts body).2.stop ≤ body.length := by
  unfold linkParts
  split
  · rename_i text passage split
    rw [Text.splitLast_eq_some split]
    simp only [List.length_append]
    omega
  · split
    · exact Nat.le_refl _
    · exact Nat.le_refl _

theorem link_eq (found : Match) :
    link found =
      (withFields { passage := some (linkParts found.firstText).1 } found).withInner
        ⟨(found.first.map Span.start).getD 0 + (linkParts found.firstText).2.start,
          (found.first.map Span.start).getD 0 + (linkParts found.firstText).2.stop⟩ :=
  rfl

theorem link_fits {found : Match} {remaining : Text} (splits : found.SplitsOff remaining) :
    (link found).Fits := by
  rw [link_eq]
  apply withInner_fits rfl
  intro _
  have inside := linkParts_le found.firstText
  cases first : found.first with
  | none =>
      have noText : found.firstText.length = 0 := by simp [Match.firstText, first]
      simp only [Option.map_none, Option.getD_none]
      omega
  | some span =>
      obtain ⟨ordered, bounded⟩ := splits.within span (.inl first)
      have length : found.firstText.length = span.stop - span.start := by
        simp [Match.firstText, first, Text.length_slice bounded]
      simp only [Option.map_some, Option.getD_some, withFields]
      omega

theorem withInner_inner {lexeme : Lexeme} {inner span : Span} (unmarked : lexeme.inner = none)
    (marked : (lexeme.withInner inner).inner = some span) : span = inner := by
  unfold withInner at marked
  split at marked
  · exact (Option.some.inj marked).symm
  · rw [unmarked] at marked
    contradiction

theorem levelled_inner_pos {mark gap rest : Regex} {remaining : Text} {found : Match} {span : Span}
    {width : Nat} (marks : ∀ text, mark.Denotes text → text ≠ [])
    (success : (Pattern.ofRegex (.inOrder [.group .first mark, gap, .group .second rest])).find?
      remaining = some found)
    (marked : (levelled width found).inner = some span) : 0 < span.start := by
  obtain ⟨text, between, _, denotes, _, _, second⟩ := Pattern.find?_secondLast success
  have same := withInner_inner rfl marked
  have positive := List.length_pos_iff.mpr (marks text denotes)
  rw [second, Option.getD_some] at same
  rw [same]
  simp only [List.length_append]
  omega

theorem link_inner_pos {remaining : Text} {found : Match} {span : Span}
    (success : Rule.link.pattern.find? remaining = some found)
    (marked : (link found).inner = some span) : 0 < span.start := by
  obtain ⟨later, matched, _, rfl⟩ := Pattern.find?_regex success
  obtain ⟨before, _, _, opening, _, _, _, first⟩ := matched.firstBetween rfl
  rw [link_eq] at marked
  rw [withInner_inner rfl marked, first, opening.of_literal (by decide)]
  have positive : 0 < "[[".toList.length := by decide
  simp only [Option.map_some, Option.getD_some]
  omega

end Lexeme

namespace Rule

/-- Only four rules mark a part of their text as markup of its own. -/
theorem inner_eq_none_or {mode : Mode} {rule : Rule} (member : rule ∈ ofMode mode) :
    (∀ found, (rule.lexeme found).inner = none) ∨
      rule ∈ [heading, bulleted, numbered, link] := by
  cases mode <;> fin_cases member
  all_goals first
    | exact .inl fun _ => rfl
    | exact .inr (by simp)

theorem inner_eq_none_or_hasInnerText {mode : Mode} {rule : Rule} (member : rule ∈ ofMode mode) :
    (∀ found, (rule.lexeme found).inner = none) ∨ rule.kind.hasInnerText = true := by
  apply (inner_eq_none_or member).imp_right
  intro special
  fin_cases special <;> rfl

theorem lexeme_fits {mode : Mode} {rule : Rule} (member : rule ∈ ofMode mode) {remaining : Text}
    {found : Match} (success : rule.pattern.find? remaining = some found) :
    (rule.lexeme found).Fits := by
  have splits := Pattern.find?_splitsOff success
  rcases inner_eq_none_or member with unmarked | special
  · exact Lexeme.fits_of_inner_eq_none (unmarked found)
  · fin_cases special
    · exact Lexeme.levelled_fits splits 1
    · exact Lexeme.levelled_fits splits 1
    · exact Lexeme.levelled_fits splits 2
    · exact Lexeme.link_fits splits

private theorem char_ne_nil {c : Char} {text : Text} (denotes : (Regex.char c).Denotes text) :
    text ≠ [] := by
  obtain ⟨d, rfl, _⟩ := denotes.of_set
  simp

/-- What a rule takes begins before its part with markup of its own, so that part is shorter. -/
theorem inner_start_pos {mode : Mode} {rule : Rule} (member : rule ∈ ofMode mode)
    {remaining : Text} {found : Match} {span : Span}
    (success : rule.pattern.find? remaining = some found)
    (marked : (rule.lexeme found).inner = some span) : 0 < span.start := by
  rcases inner_eq_none_or member with unmarked | special
  · rw [unmarked found] at marked
    contradiction
  · fin_cases special
    · apply Lexeme.levelled_inner_pos _ success marked
      intro text denotes
      cases denotes with
      | seq one more => simp [char_ne_nil one]
    · apply Lexeme.levelled_inner_pos _ success marked
      intro text denotes
      exact denotes.of_many1.1
    · apply Lexeme.levelled_inner_pos _ success marked
      intro text denotes
      cases denotes with
      | seq one more =>
          rw [Regex.Denotes.of_literal (by decide) one]
          simp
    · exact Lexeme.link_inner_pos success marked

end Rule

end PassageMarkup
