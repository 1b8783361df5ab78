import PassageMarkup.Proofs.Rule.Modes
import PassageMarkup.Proofs.Token.Nodes
import PassageMarkup.Proofs.Token.Pair

/-!
# The grammar of folded tokens

`Formed mode` holds of the tokens that a scan in a mode makes when it folds pairs: plain text,
tokens that stand alone, and pairs of a front of that mode.  Tokens inside a pair are formed in the
mode inside its front.  An inner text can end inside fronts that are never closed, so the tokens of
an inner text, and those of a passage, can be formed in more than one mode.
-/

namespace PassageMarkup

/-- A token without a partner is what its rule takes from the text ahead. -/
structure Rule.Takes (rule : Rule) (remaining : Text) (found : Match) (token : Token) : Prop where
  success : rule.pattern.find? remaining = some found
  length_le : (rule.lexeme found).length ≤ remaining.length
  kind_eq : token.kind = rule.kind
  text_eq : token.text = remaining.take (rule.lexeme found).length
  fields_eq : token.fields = (rule.lexeme found).fields
  fault_eq : token.fault = (rule.lexeme found).fault
  inner_eq : token.inner = ((rule.lexeme found).inner.map token.text.slice).getD []
  childless : (rule.lexeme found).inner = none → token.children = []

namespace Token

open Scan (foldPair)

/-- The tokens that a scan in a mode makes when pairs are folded. -/
inductive Formed : Mode → Token → Prop where
  | text {mode : Mode} {token : Token} : token.demote = token → Formed mode token
  | alone {mode : Mode} {rule : Rule} {remaining : Text} {found : Match} {token : Token}
      (modeOf : Token → Mode) :
      rule ∈ Rule.ofMode mode →
      rule.front = false →
      rule.closes = [] →
      rule.Takes remaining found token →
      (∀ child ∈ token.children, Formed (modeOf child) child) →
      Formed mode token
  | pair {mode inside : Mode} {rule : Rule} {kind : Kind} {front back : Token}
      {children : List Token} :
      rule ∈ Rule.ofMode mode →
      rule.front = true →
      rule.kind = front.kind →
      kind.pairMode = some inside →
      Matched kind front back →
      (∀ child ∈ children, Formed inside child) →
      Formed mode (foldPair kind front children back)

theorem demote_demote (token : Token) : token.demote.demote = token.demote :=
  rfl

theorem demote_joined {token : Token} (next : Token) (plain : token.demote = token) :
    ({ token with text := token.text ++ next.text, stop := next.stop } : Token).demote =
      { token with text := token.text ++ next.text, stop := next.stop } := by
  cases token
  simp only [demote, Token.mk.injEq] at plain ⊢
  simp [plain]

/-- Tokens that are each formed in some mode are formed in the modes of a function. -/
theorem exists_modeOf {tokens : List Token}
    (formed : ∀ token ∈ tokens, ∃ mode, Formed mode token) :
    ∃ modeOf : Token → Mode, ∀ token ∈ tokens, Formed (modeOf token) token := by
  classical
  refine ⟨fun token => if known : ∃ mode, Formed mode token then known.choose else .prose, ?_⟩
  intro token member
  simp only [dif_pos (formed token member)]
  exact (formed token member).choose_spec

theorem Formed.joined {mode : Mode} {token : Token} (next : Token)
    (plain : token.isPlainText = true) (formed : Formed mode token) :
    Formed mode { token with text := token.text ++ next.text, stop := next.stop } := by
  have kindText : token.kind = .text := (isPlainText_iff.mp plain).1
  cases formed with
  | text plainText => exact .text (demote_joined next plainText)
  | alone modeOf member notFront closesNothing takes inside =>
      exact absurd (takes.kind_eq.symm.trans kindText) (Rule.kind_ne_text member)
  | pair member isFront sameKind pairMode matched inside =>
      have isPair := matched.isPair
      rw [foldPair_kind] at kindText
      rw [kindText] at isPair
      contradiction

theorem Formed.coalesce {mode : Mode} {tokens : List Token}
    (formed : ∀ token ∈ tokens, Formed mode token) :
    ∀ token ∈ coalesce tokens, Formed mode token :=
  forall_mem_coalesce (fun _ next plain _ first _ => first.joined next plain) formed

/-- A token is not a delimiter alone, and a pair is its inner text between a front and a back that
belong together. -/
def Delimited (token : Token) : Prop :=
  token.kind.isDelimiter = false ∧
    (token.kind.isPair = true →
      ∃ front back, Delimits token.kind token.fields.name front back ∧
        token.text = front ++ token.inner ++ back)

theorem Matched.delimited {kind : Kind} {front back : Token} (matched : Matched kind front back)
    (children : List Token) : (foldPair kind front children back).Delimited := by
  cases matched with
  | intro place start backStart opens closes =>
      refine ⟨closes.not_isDelimiter, fun _ => ?_⟩
      exact ⟨_, _, opens.delimits closes, rfl⟩

theorem Formed.delimited {mode : Mode} {token : Token} (formed : Formed mode token) :
    token.Everywhere Delimited := by
  induction formed with
  | text plain =>
      rw [← plain]
      exact everywhere_of_children_eq_nil rfl ⟨rfl, by simp [demote, Kind.isPair, Kind.pairMode]⟩
  | alone modeOf member notFront closesNothing takes inside induction =>
      obtain ⟨notPair, notDelimiter⟩ := Rule.alone_kind member notFront closesNothing
      rw [← takes.kind_eq] at notPair notDelimiter
      exact everywhere_iff.mpr ⟨⟨notDelimiter, by simp [notPair]⟩, induction⟩
  | pair member isFront sameKind pairMode matched inside induction =>
      exact everywhere_iff.mpr ⟨matched.delimited _, induction⟩

/-- A token is one that a mode can make: text, a token that stands alone by a rule of the mode, or
a pair whose front has the kind of a rule of the mode. -/
def BelongsTo (mode : Mode) (token : Token) : Prop :=
  token.kind = .text ∨
    (∃ rule ∈ Rule.ofMode mode, rule.front = false ∧ rule.closes = [] ∧ token.kind = rule.kind) ∨
    ∃ rule ∈ Rule.ofMode mode, rule.front = true ∧ token.kind.isPair = true ∧
      token.pairFront.kind = rule.kind

theorem Formed.belongsTo {mode : Mode} {token : Token} (formed : Formed mode token) :
    token.BelongsTo mode := by
  cases formed with
  | text plain => exact .inl (congrArg Token.kind plain).symm
  | alone modeOf member notFront closesNothing takes inside =>
      exact .inr (.inl ⟨_, member, notFront, closesNothing, takes.kind_eq⟩)
  | pair member isFront sameKind pairMode matched inside =>
      refine .inr (.inr ⟨_, member, isFront, matched.isPair, ?_⟩)
      rw [matched.pairFront_eq, sameKind]

/-- What a token inside a pair is, given the mode inside the pair. -/
structure PureIn (mode : Mode) (token : Token) : Prop where
  belongsTo : token.BelongsTo mode
  prose : mode = .prose → token.kind.isExpression = false
  string : mode = .string → token.kind = .text ∨ token.kind = .escapedStringChar
  verbatim : mode = .verbatim → token.kind = .text ∨ token.kind = .verbatim

theorem BelongsTo.prose {token : Token} (belongs : token.BelongsTo .prose) :
    token.kind.isExpression = false := by
  rcases belongs with text | ⟨rule, member, _, _, sameKind⟩ | ⟨rule, member, _, _, sameFront⟩
  · rw [text]
    rfl
  · rw [sameKind]
    exact Rule.prose_not_isExpression member
  · rw [← pairFrontKind_isExpression]
    change token.pairFrontKind = rule.kind at sameFront
    rw [sameFront]
    exact Rule.prose_not_isExpression member

theorem BelongsTo.string {token : Token} (belongs : token.BelongsTo .string) :
    token.kind = .text ∨ token.kind = .escapedStringChar := by
  rcases belongs with text | ⟨rule, member, _, closesNothing, sameKind⟩ | ⟨rule, member, isFront, _⟩
  · exact .inl text
  · rw [sameKind]
    exact .inr (Rule.string_kind member closesNothing)
  · exact absurd isFront (Rule.string_not_front member)

theorem BelongsTo.verbatim {token : Token} (belongs : token.BelongsTo .verbatim) :
    token.kind = .text ∨ token.kind = .verbatim := by
  rcases belongs with text | ⟨rule, member, notFront, _⟩ | ⟨rule, member, _, isPair, sameFront⟩
  · exact .inl text
  · cases List.mem_singleton.mp member
    contradiction
  · cases List.mem_singleton.mp member
    exact .inr (kind_eq_verbatim isPair sameFront)

theorem BelongsTo.pureIn {mode : Mode} {token : Token} (belongs : token.BelongsTo mode) :
    token.PureIn mode where
  belongsTo := belongs
  prose := by
    rintro rfl
    exact belongs.prose
  string := by
    rintro rfl
    exact belongs.string
  verbatim := by
    rintro rfl
    exact belongs.verbatim

theorem Formed.pureIn {mode : Mode} {token : Token} (formed : Formed mode token) :
    token.Everywhere fun pair =>
      ∀ inside, pair.kind.pairMode = some inside → ∀ child ∈ pair.children, child.PureIn inside := by
  induction formed with
  | text plain =>
      rw [← plain]
      exact everywhere_of_children_eq_nil rfl fun inside pairMode => by contradiction
  | alone modeOf member notFront closesNothing takes formed induction =>
      refine everywhere_iff.mpr ⟨fun inside pairMode => ?_, induction⟩
      have notPair := (Rule.alone_kind member notFront closesNothing).1
      rw [← takes.kind_eq, Kind.isPair, pairMode] at notPair
      contradiction
  | pair member isFront sameKind pairMode matched formed induction =>
      refine everywhere_iff.mpr ⟨fun other otherMode child inside => ?_, induction⟩
      rw [foldPair_kind, pairMode] at otherMode
      cases otherMode
      exact (formed child inside).belongsTo.pureIn

end Token

end PassageMarkup
