import Mathlib.Data.List.Chain
import PassageMarkup.Proofs.Scan.Coverage
import PassageMarkup.Proofs.Token.Ranges
import PassageMarkup.Token.Query

/-!
# Looking up offsets

The path to an offset goes down through the first child that contains it.  In the tree of a passage
the tokens beside that child do not contain the offset, so no token with the offset is missed.
-/

namespace PassageMarkup

namespace Token

variable {source : Text} {token : Token} {tokens : List Token} {first last offset : Nat}

theorem contains_iff : token.contains offset = true ↔ token.start ≤ offset ∧ offset < token.stop := by
  simp [contains]

theorem Encloses.filter_nodes_eq_nil (encloses : token.Encloses source)
    (outside : token.contains offset = false) : token.nodes.filter (·.contains offset) = [] := by
  rw [List.filter_eq_nil_iff]
  intro node inside found
  have range := encloses.nodes_inside node inside
  have holds : token.contains offset = true := by
    rw [contains_iff] at found ⊢
    omega
  rw [holds] at outside
  contradiction

/-- Tokens that begin after an offset do not contain it, and neither does any token below them. -/
theorem Laid.filter_nodesList_eq_nil (laid : Laid source first tokens last)
    (before : offset < first) : (nodesList tokens).filter (·.contains offset) = [] := by
  rw [List.filter_eq_nil_iff]
  intro node inside found
  obtain ⟨token, member, inToken⟩ := mem_nodesList.mp inside
  have range := laid.bounds token member
  have deeper := (encloses_of_placed (laid.placed token member)).nodes_inside node inToken
  rw [contains_iff] at found
  omega

theorem pathAt_eq (token : Token) :
    token.pathAt offset =
      if token.contains offset then pathAtList offset token.children ++ [token] else [] := by
  cases token
  rfl

theorem Laid.pathAtList_eq (laid : Laid source first tokens last)
    (each : ∀ token ∈ tokens,
      token.pathAt offset = (token.nodes.filter (·.contains offset)).reverse) :
    pathAtList offset tokens = ((nodesList tokens).filter (·.contains offset)).reverse := by
  induction tokens generalizing first with
  | nil => rfl
  | cons token rest induction =>
      obtain ⟨_, placed, others⟩ := laid
      rw [List.forall_mem_cons] at each
      rw [pathAtList, nodesList, List.filter_append, List.reverse_append]
      by_cases found : token.contains offset = true
      · have before : offset < token.stop := (contains_iff.mp found).2
        rw [if_pos found, others.filter_nodesList_eq_nil before]
        exact each.1
      · have none := (encloses_of_placed placed).filter_nodes_eq_nil ((Bool.not_eq_true _).mp found)
        rw [if_neg found, none, List.reverse_nil, List.append_nil]
        exact induction others each.2

/-- The path to an offset is the list of all tokens that contain it, the last one first.  The
induction is on the tree: beside the first child that contains the offset nothing else does. -/
theorem Encloses.pathAt_eq (encloses : token.Encloses source) :
    token.pathAt offset = (token.nodes.filter (·.contains offset)).reverse := by
  induction token using children_induction with
  | node token induction =>
      by_cases found : token.contains offset = true
      · obtain ⟨first, last, laid, _, _⟩ := encloses
        have each : ∀ child ∈ token.children,
            child.pathAt offset = (child.nodes.filter (·.contains offset)).reverse :=
          fun child member => induction child member (encloses_of_placed (laid.placed child member))
        have kept : (token :: nodesList token.children).filter (·.contains offset) =
            token :: (nodesList token.children).filter (·.contains offset) :=
          List.filter_cons_of_pos found
        rw [Token.pathAt_eq, if_pos found, nodes_eq, kept, List.reverse_cons,
          laid.pathAtList_eq each]
      · rw [Token.pathAt_eq, if_neg found,
          encloses.filter_nodes_eq_nil ((Bool.not_eq_true _).mp found)]
        rfl

theorem pathAtList_cases (offset : Nat) (tokens : List Token) :
    pathAtList offset tokens = [] ∨
      ∃ token ∈ tokens, token.contains offset = true ∧
        pathAtList offset tokens = token.pathAt offset := by
  induction tokens with
  | nil => exact .inl rfl
  | cons token rest induction =>
      by_cases found : token.contains offset = true
      · right
        refine ⟨token, List.mem_cons_self, found, ?_⟩
        rw [pathAtList, if_pos found]
      · rw [pathAtList, if_neg found]
        rcases induction with none | ⟨child, member, contained, path⟩
        · exact .inl none
        · exact .inr ⟨child, List.mem_cons_of_mem _ member, contained, path⟩

theorem pathAt_isChain (offset : Nat) (token : Token) :
    (token.pathAt offset).IsChain fun inner outer => inner ∈ outer.children := by
  induction token using children_induction with
  | node token induction =>
      rw [pathAt_eq]
      by_cases found : token.contains offset = true
      · rw [if_pos found]
        rcases pathAtList_cases offset token.children with none | ⟨child, member, contained, path⟩
        · rw [none]
          exact .singleton token
        · have deeper := induction child member
          rw [path]
          rw [pathAt_eq, if_pos contained] at deeper ⊢
          rw [List.isChain_append]
          refine ⟨deeper, .singleton token, ?_⟩
          intro inner ends outer begins
          simp only [List.getLast?_concat, List.head?_cons, Option.mem_def, Option.some.injEq]
            at ends begins
          rw [← ends, ← begins]
          exact member
      · rw [if_neg found]
        exact .nil

theorem getLast?_pathAt (offset : Nat) (token : Token) :
    (token.pathAt offset).getLast? = if token.contains offset then some token else none := by
  rw [pathAt_eq]
  split
  · rw [List.getLast?_concat]
  · rfl

end Token

namespace Lex

open Token

/-- The path to an offset lists every token of the tree that contains the offset once, from the
deepest one to the root, each a child of the next.  There is one, with the token at the offset as
its first entry, exactly when the offset lies in the passage. -/
theorem path_lists_containing (options : Options) (source : Text) (offset : Nat) :
    (lex options source).pathAt offset =
        ((lex options source).nodes.filter (·.contains offset)).reverse ∧
      ((lex options source).pathAt offset).IsChain (fun inner outer => inner ∈ outer.children) ∧
      ((lex options source).pathAt offset).getLast? =
        (if offset < source.length then some (lex options source) else none) ∧
      (lex options source).tokenAt offset = ((lex options source).pathAt offset).head? ∧
      ((lex options source).pathAt offset ≠ [] ↔ offset < source.length) ∧
      ((lex options source).tokenAt offset ≠ none ↔ offset < source.length) := by
  have laid : Laid source 0 (lex options source).children (0 + source.length) :=
    Scan.read_laid options.fold options.place _ options.mode true (Text.stands_self source)
  have encloses : (lex options source).Encloses source := ⟨0, _, laid, Nat.le_refl _, Nat.le_refl _⟩
  have range : (lex options source).contains offset = true ↔ offset < source.length := by
    simp [contains_iff, lex, root, leaf]
  have ends := getLast?_pathAt offset (lex options source)
  simp only [range] at ends
  have nonempty : (lex options source).pathAt offset ≠ [] ↔ offset < source.length := by
    rw [ne_eq, ← List.getLast?_eq_none_iff, ends]
    simp
  refine ⟨encloses.pathAt_eq, pathAt_isChain offset _, ends, rfl, nonempty, ?_⟩
  rw [tokenAt, ne_eq, List.head?_eq_none_iff]
  exact nonempty

end Lex

end PassageMarkup
