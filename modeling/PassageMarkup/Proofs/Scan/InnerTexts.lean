import PassageMarkup.Proofs.Scan.Room
import PassageMarkup.Proofs.Scan.Tokens
import PassageMarkup.Proofs.Scan.Translation
import PassageMarkup.Proofs.Token.Depth

/-!
# Inner texts by themselves

A reading at an offset inside inner texts is the reading of the same text at the start of a passage,
shifted, with the limit on nesting lowered by the number of the inner texts.  So the children of
headings, list items and links are what their inner texts give by themselves, except where the
limit keeps an inner text as one plain text.
-/

namespace PassageMarkup

namespace Lex

/-- The tokens that an inner text in prose gives by itself, for a place inside `depth` inner texts.
Where the limit on nesting is reached they are the inner text as one plain text. -/
def innerTokens (options : Options) (depth start : Nat) (inner : Text) : List Token :=
  if depth < options.maxDepth then
    (tokenize { options with mode := .prose, maxDepth := options.maxDepth - depth } 0 0 false
      inner).map (Token.shift start)
  else if inner.isEmpty then []
  else [.leaf .text start inner options.place]

theorem readAt_shift (options : Options) (offset depth : Nat) (beginsLine : Bool) (text : Text) :
    readAt options offset depth beginsLine text =
      (readAt { options with maxDepth := options.maxDepth - depth } 0 0 beginsLine text).shift
        offset :=
  Scan.read_shift Rule.ofMode options.fold options.place _ options.mode beginsLine 0 text

@[simp] theorem innerTokens_nil (options : Options) (depth start : Nat) :
    innerTokens options depth start [] = [] := by
  unfold innerTokens
  split
  · rw [tokenize, readAt, Scan.read_eq]
    rfl
  · rfl

end Lex

/-- In a token inside `depth` inner texts and in all tokens below it, inner texts are read by
themselves: they stand in the text of their token, and their own tokens are its children. -/
inductive Token.ReadInside (options : Options) : Nat → Token → Prop where
  | other {depth : Nat} {token : Token} :
      token.kind.hasInnerText = false →
      (∀ child ∈ token.children, ReadInside options depth child) →
      ReadInside options depth token
  | inner {depth : Nat} {token : Token} (gap : Nat) :
      token.kind.hasInnerText = true →
      token.text.Stands gap token.inner →
      token.children = Lex.innerTokens options (depth + 1) (token.start + gap) token.inner →
      (∀ child ∈ token.children, ReadInside options (depth + 1) child) →
      ReadInside options depth token

namespace Token.ReadInside

variable {options : Options} {depth : Nat} {root token : Token} {around : List Token}

theorem plain (isText : token.kind = .text) (childless : token.children = []) :
    ReadInside options depth token := by
  refine .other ?_ (by simp [childless])
  rw [isText]
  rfl

theorem of_below (tokens : ∀ child ∈ root.children, ReadInside options 0 child)
    (below : Below root around token) : ReadInside options (innerTexts around) token := by
  induction below with
  | child member => exact tokens _ member
  | @deeper around token child _ member induction =>
      cases induction with
      | other noInner children =>
          have level : innerTexts (token :: around) = innerTexts around :=
            List.countP_cons_of_neg (by simp [noInner])
          rw [level]
          exact children child member
      | inner gap hasInner stands read children =>
          have level : innerTexts (token :: around) = innerTexts around + 1 :=
            List.countP_cons_of_pos hasInner
          rw [level]
          exact children child member

end Token.ReadInside

namespace Scan

open Token

variable {options : Options} {depth : Nat} {setting : Setting} {state : State} {choice : Choice}
  {pairing : Pairing}

/-- The inner texts of a scan inside `depth` inner texts are read by themselves. -/
def Setting.ReadsApart (options : Options) (depth : Nat) (setting : Setting) : Prop :=
  ∀ (rule : Rule) (start : Nat) (inner : Text), rule.innerMode = some .prose → inner ≠ [] →
    (Scan.readInner setting rule start inner).tokens =
        Lex.innerTokens options (depth + 1) start inner ∧
      ∀ token ∈ (Scan.readInner setting rule start inner).tokens,
        ReadInside options (depth + 1) token

theorem Choice.Applies.token_readInside (applies : choice.Applies setting state)
    (rules : setting.rules = Rule.ofMode) (reads : setting.ReadsApart options depth) :
    ReadInside options depth (choice.token setting state) := by
  rcases applies.marks_or rules with ⟨span, marks⟩ | ⟨inner, children⟩
  · obtain ⟨tokens, below⟩ := reads choice.rule (setting.offset + state.position + span.start) _
      marks.prose marks.inner_ne_nil
    rw [← marks.children_eq] at tokens below
    rw [← choice.token_start setting state, ← marks.inner_eq] at tokens
    refine .inner span.start ?_ marks.stands tokens below
    rw [choice.token_kind]
    exact marks.hasInner
  · by_cases hasInner : (choice.token setting state).kind.hasInnerText = true
    · -- without a marked part the inner text is empty, and so is what it gives
      have unread : (choice.token setting state).children =
          Lex.innerTokens options (depth + 1) ((choice.token setting state).start + 0)
            (choice.token setting state).inner := by
        rw [inner, children, Lex.innerTokens_nil]
      refine .inner 0 hasInner ?_ unread (by simp [children])
      exact ⟨[], _, by rw [inner]; rfl, rfl⟩
    · exact .other ((Bool.not_eq_true _).mp hasInner) (by simp [children])

theorem readsApart_gives (rules : setting.rules = Rule.ofMode)
    (reads : setting.ReadsApart options depth) :
    Gives setting (fun _ => True) (ReadInside options depth) where
  kept := .trivially
  plain := fun _ isText childless => .plain isText childless
  token := fun _ _ applies _ _ => applies.token_readInside rules reads
  pair := fun _ _ _ _ applies paired _ children =>
    .other (Kind.not_hasInnerText_of_isPair (applies.pair_isPair rules paired)) children

def insideSetting (options : Options) (depth : Nat) (mode : Mode) (beginsLine : Bool)
    (offset : Nat) (text : Text) : Setting :=
  readSetting Rule.ofMode options.fold options.place (options.maxDepth - depth) mode beginsLine
    offset text

section Inside

variable {mode : Mode} {beginsLine : Bool} {offset start : Nat} {text inner : Text} {rule : Rule}

/-- At the limit on nesting an inner text stays one plain text. -/
theorem readInner_unread (limit : ¬depth + 1 < options.maxDepth) (rule : Rule) (start : Nat)
    (inner : Text) :
    (Scan.readInner (insideSetting options depth mode beginsLine offset text) rule start
      inner).tokens = [.leaf .text start inner options.place] := by
  have absent : (insideSetting options depth mode beginsLine offset text).readInner = none :=
    if_pos (by omega)
  rw [Scan.readInner, absent]
  rfl

theorem readInner_read (limit : depth + 1 < options.maxDepth)
    (prose : rule.innerMode = some .prose) :
    Scan.readInner (insideSetting options depth mode beginsLine offset text) rule start inner =
      Lex.readAt { options with mode := .prose } start (depth + 1) false inner := by
  have more : ¬options.maxDepth - depth ≤ 1 := by omega
  have room : options.maxDepth - depth - 1 = options.maxDepth - (depth + 1) := by omega
  rw [Scan.readInner, insideSetting, readSetting, prose]
  simp only [if_neg more, room]
  rfl

/-- The tokens of a text inside `depth` inner texts are read apart.  The recursion is on the depth
that the limit leaves. -/
theorem scanText_readInside (options : Options) (depth : Nat) (mode : Mode) (beginsLine : Bool)
    (offset : Nat) (text : Text) :
    ∀ token ∈ (scanText (insideSetting options depth mode beginsLine offset text) text).tokens,
      ReadInside options depth token := by
  apply (readsApart_gives rfl _).scanText trivial
  intro rule start inner prose notEmpty
  by_cases limit : depth + 1 < options.maxDepth
  · rw [readInner_read limit prose]
    constructor
    · rw [Lex.readAt_shift, Lex.innerTokens, if_pos limit]
      rfl
    · rw [Lex.readAt, Scan.read_eq]
      exact scanText_readInside options (depth + 1) .prose false start inner
  · rw [readInner_unread limit]
    constructor
    · rw [Lex.innerTokens, if_neg limit, if_neg (by simpa using notEmpty)]
    · rw [List.forall_mem_singleton]
      exact .plain rfl rfl
termination_by options.maxDepth - depth

end Inside

end Scan

namespace Lex

open Token

/-- A text inside inner texts is read as at the start of a passage with as much less room for
nesting, and its tokens are shifted.  So the children of a token with an inner text are what the
inner text gives by itself, unless the limit on nesting keeps it as one plain text. -/
theorem tokenize_translated (options : Options) :
    (∀ offset depth beginsLine text,
      tokenize options offset depth beginsLine text =
        (tokenize { options with maxDepth := options.maxDepth - depth } 0 0 beginsLine text).map
          (Token.shift offset)) ∧
      ∀ source around token, Below (lex options source) around token →
        token.kind.hasInnerText = true →
          ∃ gap, token.text.Stands gap token.inner ∧
            token.children =
              innerTokens options (innerTexts around + 1) (token.start + gap) token.inner := by
  constructor
  · intro offset depth beginsLine text
    exact congrArg Scan.Outcome.tokens (readAt_shift options offset depth beginsLine text)
  · intro source around token below hasInner
    have tokens : ∀ child ∈ (lex options source).children, ReadInside options 0 child := by
      intro child member
      apply Scan.scanText_readInside options 0 options.mode true 0 source
      rw [Scan.insideSetting, ← Scan.read_eq]
      exact member
    cases ReadInside.of_below tokens below with
    | other noInner =>
        rw [noInner] at hasInner
        contradiction
    | inner gap _ stands read _ => exact ⟨gap, stands, read⟩

theorem heading_with_link_translated :
    ∃ around token, Below (lex {} "# [[a]]".toList) around token ∧
      token.kind = .block .heading ∧
        ∃ gap, token.text.Stands gap token.inner ∧
          token.children =
            innerTokens {} (innerTexts around + 1) (token.start + gap) token.inner := by
  have below : Below (lex {} "# [[a]]".toList) _ _ := .child (.head _)
  exact ⟨_, _, below, rfl, (tokenize_translated {}).2 _ _ _ below rfl⟩

/-- At the limit on nesting, no reading of the inner text by itself gives the children: a variable
in a heading stays plain text. -/
theorem inner_text_unread :
    ¬∀ (options : Options) (source : Text) (around : List Token) (token : Token),
      Below (lex { options with fold := true } source) around token →
        token.kind.hasInnerText = true →
          ∃ start limit beginsLine, token.children =
            (tokenize { options with fold := true, mode := .prose, maxDepth := limit } 0 0
              beginsLine token.inner).map (Token.shift start) := by
  intro apart
  obtain ⟨heading, below, hasInner, inner, unread⟩ :
      ∃ heading, Below (lex { maxDepth := 1, fold := true } "# $x".toList) [] heading ∧
        heading.kind.hasInnerText = true ∧ heading.inner = "$x".toList ∧
          heading.children.map Token.kind = [.text] :=
    ⟨_, .child (.head _), rfl, rfl, rfl⟩
  obtain ⟨start, limit, beginsLine, read⟩ := apart { maxDepth := 1 } _ _ _ below hasInner
  have byItself : ((tokenize { maxDepth := limit } 0 0 beginsLine "$x".toList).map
      (Token.shift start)).map Token.kind = [.storyVariable] := by
    cases limit <;> cases beginsLine <;> rfl
  rw [inner] at read
  rw [read] at unread
  exact absurd (byItself.symm.trans unread) (by decide)

end Lex

end PassageMarkup
