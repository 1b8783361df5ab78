import PassageMarkup.Proofs.Rule.Link
import PassageMarkup.Proofs.Scan.Levels
import PassageMarkup.Proofs.Scan.Origin
import PassageMarkup.Proofs.Scan.Writes

/-!
# Links in a tree

Where inner texts are read, every link carries the two sides of the arrow in its body.  Written
between the brackets of a link, two texts with an arrow between them come back as its passage and
its inner text.
-/

namespace PassageMarkup

namespace Lex

open Scan Token Text

variable {body passage inner : Text}

theorem everywhere_splitsLink (options : Options) (source : Text) :
    (lex { options with fold := true } source).Everywhere fun token => token.kind = .link →
      ∃ body passage : Text, token.text = body.linked ∧ body ≠ [] ∧ ']' ∉ body ∧
        token.fields.passage = some passage ∧ SplitsLink body passage token.inner := by
  intro token member isLink
  have single : token.kind ≠ .root ∧ token.kind ≠ .text ∧ token.kind.isPair = false := by
    rw [isLink]
    decide
  obtain ⟨reading, _, takes⟩ := exists_takes member single
  obtain ⟨mode, rule, listed, found, taken⟩ := takes.exists_takes rfl
  have same := Rule.kind_eq_link listed (taken.kind_eq.symm.trans isLink)
  subst same
  exact taken.splitsLink

theorem exists_children_linked (nonempty : body ≠ []) (unbracketed : ']' ∉ body) :
    ∃ token, (lex {} body.linked).children = [token] ∧ token.kind = .link ∧
      token.text = body.linked := by
  let setting := (Reading.ofPassage {} body.linked).setting {}
  let state := State.initial body.linked
  let found : Match := ⟨body.linked, some ⟨2, 2 + body.length⟩, none, []⟩
  have success : Rule.link.pattern.find? body.linked = some found := by
    have finds := Rule.finds_link nonempty unbracketed []
    rwa [List.append_nil] at finds
  have closed : setting.horizon.isAhead .linkEnd 0 = true :=
    Horizon.isAhead_iff.mpr
      ⟨['[', '['] ++ body, [], by simp [linked, Closer.text, Reading.ofPassage]⟩
  have length : (Lexeme.link found).length = body.linked.length := Lexeme.withInner_length _ _
  have accepted : state.judge setting Rule.link = .accept (Lexeme.link found) none := by
    have admitted : state.admits setting Rule.link = true := by
      simp [State.admits, Rule.link, closed, state, State.initial]
    have positive : body.linked.length ≠ 0 := by simp [linked]
    have lexeme : Rule.link.lexeme found = Lexeme.link found := rfl
    have ahead : state.rest = body.linked := rfl
    rw [State.judge, if_pos admitted, ahead, success]
    simp only [lexeme, length]
    simp [positive]
    rfl
  have live : Rule.live .prose '[' = [] ++ Rule.link :: (Rule.live .prose '[').tail := rfl
  have chosen : state.choice? setting = some ⟨Rule.link, Lexeme.link found, none⟩ :=
    State.choice?_eq_some rfl rfl live (by simp) accepted
  refine ⟨Choice.token setting state ⟨Rule.link, Lexeme.link found, none⟩, ?_,
    Choice.token_kind setting state _, ?_⟩
  · rw [← State.remaining_of_whole (by simp [linked]) chosen length rfl rfl]
    exact congrArg Outcome.tokens (read_eq _ _ _ _ _ _ _ _)
  · rw [Choice.token_text, Choice.consumed, length]
    exact List.take_length

/-- No link is inside another, so a passage that is a link has one link. -/
theorem filter_link_linked (nonempty : body ≠ []) (unbracketed : ']' ∉ body) :
    ∃ token, (lex {} body.linked).nodes.filter (·.kind == .link) = [token] ∧
      token.text = body.linked := by
  obtain ⟨token, children, isLink, text⟩ := exists_children_linked nonempty unbracketed
  have below : Below (lex {} body.linked) [] token := .child (by simp [children])
  have others : (nodesList token.children).filter (·.kind == .link) = [] := by
    rw [List.filter_eq_nil_iff]
    intro node member isLinkToo
    obtain ⟨inside, deeper⟩ := below.exists_inside member
    exact deeper.not_link (children_faithful {} _) (read_bracketed true [] _ .prose true 0 _)
      (eq_of_beq isLinkToo) token (by simp) isLink
  refine ⟨token, ?_, text⟩
  rw [nodes_eq, children, nodesList, nodesList, List.append_nil, nodes_eq,
    List.filter_cons_of_neg (by simp [lex, root, leaf]), List.filter_cons_of_pos (by simp [isLink]),
    others]

theorem filter_link_of_splits (splits : SplitsLink body passage inner) (nonempty : body ≠ [])
    (unbracketed : ']' ∉ body) :
    ∃ token, (lex {} body.linked).nodes.filter (·.kind == .link) = [token] ∧
      token.fields.passage = some passage ∧ token.inner = inner := by
  obtain ⟨token, single, text⟩ := filter_link_linked nonempty unbracketed
  obtain ⟨member, isLink⟩ := List.mem_filter.mp (single ▸ List.mem_singleton_self token)
  obtain ⟨other, name, same, _, _, passageEq, apart⟩ :=
    everywhere_splitsLink {} body.linked token member (eq_of_beq isLink)
  rw [← linked_inj (text.symm.trans same)] at apart
  obtain ⟨rfl, rfl⟩ := splits.unique apart
  exact ⟨token, single, passageEq, rfl⟩

/-- A link is split at its arrow, and two texts written with an arrow between them come back as the
passage and the inner text of one link. -/
theorem links_exact :
    (∀ (options : Options) (source : Text),
      (lex { options with fold := true } source).Everywhere fun token => token.kind = .link →
        ∃ body passage : Text, token.text = body.linked ∧ body ≠ [] ∧ ']' ∉ body ∧
          token.fields.passage = some passage ∧ SplitsLink body passage token.inner) ∧
    (∀ inner passage : Text, ']' ∉ inner → ']' ∉ passage → ¬['-', '>'] <:+: passage →
      ∃ token,
        (lex {} (linked (inner ++ ['-', '>'] ++ passage))).nodes.filter (·.kind == .link) =
            [token] ∧
          token.fields.passage = some passage ∧ token.inner = inner) ∧
    ∀ passage inner : Text, ']' ∉ passage → ']' ∉ inner → ¬['<', '-'] <:+: passage →
      ¬['-', '>'] <:+: passage ++ ['<', '-'] ++ inner →
        ∃ token,
          (lex {} (linked (passage ++ ['<', '-'] ++ inner))).nodes.filter (·.kind == .link) =
              [token] ∧
            token.fields.passage = some passage ∧ token.inner = inner := by
  refine ⟨everywhere_splitsLink, ?_, ?_⟩
  · intro inner passage innerClear passageClear last
    exact filter_link_of_splits (.right last) (by simp) (by simp [innerClear, passageClear])
  · intro passage inner passageClear innerClear first noRight
    exact filter_link_of_splits (.left noRight first) (by simp)
      (by simp [innerClear, passageClear])

theorem links_with_two_arrows_exact :
    (∃ token, (lex {} "[[a<-->b]]".toList).nodes.filter (·.kind == .link) = [token] ∧
      token.fields.passage = some ['b'] ∧ token.inner = ['a', '<', '-'] ∧
        ∃ body passage : Text, token.text = body.linked ∧ body ≠ [] ∧ ']' ∉ body ∧
          token.fields.passage = some passage ∧ SplitsLink body passage token.inner) ∧
    ∃ token, (lex {} "[[b<-<-a]]".toList).nodes.filter (·.kind == .link) = [token] ∧
      token.fields.passage = some ['b'] ∧ token.inner = ['<', '-', 'a'] := by
  obtain ⟨split, right, left⟩ := links_exact
  constructor
  · obtain ⟨token, single, passage, inner⟩ :=
      right ['a', '<', '-'] ['b'] (by decide) (by decide) (by decide)
    obtain ⟨member, isLink⟩ := List.mem_filter.mp (single ▸ List.mem_singleton_self token)
    exact ⟨token, single, passage, inner, split {} _ token member (eq_of_beq isLink)⟩
  · exact left ['b'] ['<', '-', 'a'] (by decide) (by decide) (by decide) (by decide)

end Lex

end PassageMarkup
