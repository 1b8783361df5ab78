import PassageMarkup.Proofs.Scan.Coverage
import PassageMarkup.Proofs.Scan.Tokens
import PassageMarkup.Proofs.Token.Formed

/-!
# Canonical text

Text comes from what no rule takes, from fronts that are given up, and from inner texts that the
limit on nesting leaves unread.  Whichever it is, a text token holds its text and nothing more, no
token is empty, and where two texts meet they become one token.
-/

namespace PassageMarkup

namespace Token

/-- No two neighbouring tokens are texts. -/
def TextsApart (tokens : List Token) : Prop :=
  tokens.IsChain fun left right => left.kind ≠ .text ∨ right.kind ≠ .text

/-- A token is not empty, has no neighbouring texts for children, and holds nothing but its text if
it is a text. -/
structure Canonical (token : Token) : Prop where
  nonempty : token.text ≠ []
  bare : token.kind = .text → token.demote = token
  apart : TextsApart token.children

theorem textsApart_singleton (token : Token) : TextsApart [token] :=
  .singleton token

/-- Joining leaves no two texts beside each other where texts have no children. -/
theorem coalesce_textsApart {tokens : List Token}
    (childless : ∀ token ∈ coalesce tokens, token.kind = .text → token.children = []) :
    TextsApart (coalesce tokens) := by
  refine (coalesce_isChain tokens).imp_of_mem_imp ?_
  intro left right leftMember rightMember apart
  apply apart.imp
  · intro notPlain isText
    have plain := isPlainText_iff.mpr ⟨isText, childless left leftMember isText⟩
    rw [plain] at notPlain
    contradiction
  · intro notPlain isText
    have plain := isPlainText_iff.mpr ⟨isText, childless right rightMember isText⟩
    rw [plain] at notPlain
    contradiction

namespace Canonical

variable {token : Token}

theorem childless (canonical : token.Canonical) (isText : token.kind = .text) :
    token.children = [] := by
  rw [← canonical.bare isText]
  rfl

theorem leaf {start : Nat} {text place : Text} (nonempty : text ≠ []) :
    (Token.leaf .text start text place).Canonical :=
  ⟨nonempty, fun _ => rfl, .nil⟩

theorem demote (canonical : token.Canonical) : token.demote.Canonical :=
  ⟨canonical.nonempty, fun _ => rfl, .nil⟩

theorem join (next : Token) (canonical : token.Canonical) :
    Canonical { token with text := token.text ++ next.text, stop := next.stop } := by
  constructor
  · exact List.append_ne_nil_of_left_ne_nil canonical.nonempty _
  · intro isText
    exact demote_joined next (canonical.bare isText)
  · exact canonical.apart

theorem start_lt_stop {source : Text} (canonical : token.Canonical) (placed : Placed source token) :
    token.start < token.stop := by
  have stop := placed.stop_eq
  have positive := List.length_pos_iff.mpr canonical.nonempty
  omega

theorem textsApart {tokens : List Token}
    (canonical : ∀ token ∈ coalesce tokens, token.Canonical) : TextsApart (coalesce tokens) :=
  coalesce_textsApart fun token member => (canonical token member).childless

end Canonical

end Token

namespace Scan

open Token

variable {setting : Setting} {state : State} {choice : Choice} {pairing : Pairing}

def Setting.ReadsTextsApart (setting : Setting) : Prop :=
  setting.ReadsInto fun _ _ _ outcome => TextsApart outcome.tokens

theorem canonical_keptInText : KeptInText Canonical where
  demote := fun _ canonical => canonical.demote
  join := fun _ next _ _ canonical _ => canonical.join next

theorem Choice.Applies.token_canonical (applies : choice.Applies setting state)
    (rules : setting.rules = Rule.ofMode) (reads : setting.ReadsTextsApart) :
    (choice.token setting state).Canonical := by
  constructor
  · rw [choice.token_text, ← List.length_pos_iff, applies.length_consumed]
    exact applies.length_pos
  · intro isText
    rw [choice.token_kind] at isText
    exact absurd isText (Rule.kind_ne_text (applies.rule_mem_ofMode rules))
  · rcases applies.marks_or rules with ⟨span, marks⟩ | ⟨_, childless⟩
    · rw [marks.children_eq]
      exact reads.readInner _ (textsApart_singleton _)
    · rw [childless]
      exact .nil

theorem Choice.Applies.pair_canonical (applies : choice.Applies setting state)
    (rules : setting.rules = Rule.ofMode) (paired : choice.pairing = some pairing)
    (front : pairing.frame.front.Canonical)
    (children : ∀ child ∈ pairing.children (state.flush setting).siblings, child.Canonical) :
    (foldPair pairing.kind pairing.frame.front (pairing.children (state.flush setting).siblings)
      (choice.token setting state)).Canonical := by
  constructor
  · apply List.append_ne_nil_of_left_ne_nil
    exact List.append_ne_nil_of_left_ne_nil front.nonempty _
  · intro isText
    have isPair := applies.pair_isPair rules paired
    rw [foldPair_kind] at isText
    rw [isText] at isPair
    contradiction
  · exact Canonical.textsApart children

theorem canonical_makes (rules : setting.rules = Rule.ofMode)
    (reads : setting.Reads (Everywhere Canonical)) (apart : setting.ReadsTextsApart) :
    Makes setting (fun _ => True) (Everywhere Canonical) := by
  apply Makes.everywhere rules reads Kept.trivially.stepwise canonical_keptInText
  · intro start inner nonempty
    exact .leaf nonempty
  · intro state choice applies _
    exact applies.token_canonical rules apart
  · intro state choice pairing applies paired _ front _ children
    exact applies.pair_canonical rules paired front children

/-- The tokens that a reading returns are canonical everywhere, and no two neighbours are texts. -/
theorem read_canonical (fold : Bool) (place : Text) (room : Nat) (mode : Mode) (beginsLine : Bool)
    (offset : Nat) (text : Text) :
    (∀ token ∈ (read Rule.ofMode fold place room mode beginsLine offset text).tokens,
      token.Everywhere Canonical) ∧
      TextsApart (read Rule.ofMode fold place room mode beginsLine offset text).tokens := by
  apply read_induction fun _ _ _ outcome =>
    (∀ token ∈ outcome.tokens, token.Everywhere Canonical) ∧ TextsApart outcome.tokens
  intro room mode beginsLine offset text reads
  have makes := canonical_makes rfl
    (fun read present mode offset inner => (reads read present mode offset inner).1)
    (fun read present mode offset inner => (reads read present mode offset inner).2)
  have everywhere := @Makes.scanText _ _ _ makes text trivial
  refine ⟨everywhere, ?_⟩
  exact Canonical.textsApart fun token member => (everywhere token member).here

end Scan

namespace Lex

open Token

theorem children_canonical (options : Options) (source : Text) :
    (∀ child ∈ (lex options source).children, child.Everywhere Canonical) ∧
      TextsApart (lex options source).children :=
  Scan.read_canonical options.fold options.place _ options.mode true 0 source

theorem start_lt_stop_of_below {options : Options} {source : Text} {token : Token}
    (below : token ∈ nodesList (lex options source).children) : token.start < token.stop := by
  obtain ⟨child, member, inside⟩ := mem_nodesList.mp below
  have laid := Scan.read_laid options.fold options.place (options.maxDepth - 0) options.mode true
    (Text.stands_self source)
  have canonical := (children_canonical options source).1 child member token inside
  exact canonical.start_lt_stop (laid.placed child member token inside)

/-- No two neighbours in a tree are texts, every text is a token with nothing but its text, and no
token below the root is empty. -/
theorem text_canonical (options : Options) (source : Text) :
    ((lex options source).Everywhere fun token =>
      token.children.IsChain (fun left right => left.kind ≠ .text ∨ right.kind ≠ .text) ∧
        (token.kind = .text →
          token.children = [] ∧ token.inner = [] ∧ token.fields = {} ∧ token.fault = none)) ∧
      ∀ token ∈ nodesList (lex options source).children, token.start < token.stop := by
  obtain ⟨canonical, apart⟩ := children_canonical options source
  constructor
  · refine everywhere_iff.mpr ⟨⟨apart, fun isText => by contradiction⟩, ?_⟩
    intro child member
    refine (canonical child member).imp ?_
    intro token here
    refine ⟨here.apart, fun isText => ?_⟩
    rw [← here.bare isText]
    exact ⟨rfl, rfl, rfl, rfl⟩
  · exact fun _ below => start_lt_stop_of_below below

end Lex

end PassageMarkup
