import PassageMarkup.Proofs.Scan.Formation
import PassageMarkup.Proofs.Scan.Limit
import PassageMarkup.Proofs.Scan.Tokens

/-!
# Where tokens come from

Every token of a tree is plain text or a pair, or a reading took it: that of the passage, or that of
an inner text inside it.  What a reading takes is what a rule finds in the text that is ahead of the
reading there.
-/

namespace PassageMarkup

open Scan

/-- A rule finds a token at the start of a text. -/
structure Rule.Finds (rule : Rule) (remaining : Text) (found : Match) (token : Token) : Prop where
  success : rule.pattern.find? remaining = some found
  length_le : (rule.lexeme found).length ≤ remaining.length
  kind_eq : token.kind = rule.kind
  text_eq : token.text = remaining.take (rule.lexeme found).length
  fields_eq : token.fields = (rule.lexeme found).fields

theorem Rule.Finds.text_eq_found {rule : Rule} {remaining : Text} {found : Match} {token : Token}
    (finds : rule.Finds remaining found token)
    (whole : (rule.lexeme found).length = found.text.length) : token.text = found.text := by
  rw [finds.text_eq, whole, (Pattern.find?_splitsOff finds.success).take_length]

namespace Reading

variable {options : Options} {reading inner : Reading} {token : Token}

/-- The reading of a passage as a whole. -/
def ofPassage (options : Options) (source : Text) : Reading :=
  ⟨options.mode, true, 0, 0, source⟩

/-- The text of a reading from an offset of the passage on. -/
def ahead (reading : Reading) (offset : Nat) : Text :=
  reading.text.drop (offset - reading.offset)

/-- A step of a reading takes a token. -/
inductive Takes (options : Options) (reading : Reading) : Token → Prop where
  | intro {state : State} {choice : Choice} :
      Passes options reading state →
      state.choice? (reading.setting options) = some choice →
      Takes options reading (choice.token (reading.setting options) state)

/-- A token is plain text or a pair, or was taken by a reading or by that of an inner text in it. -/
def Sourced (options : Options) (reading : Reading) (token : Token) : Prop :=
  token.kind = .text ∨ token.kind.isPair = true ∨
    ∃ inner, Relation.ReflTransGen (Meets options) reading inner ∧ inner.Takes options token

theorem Passes.ahead_eq {state : State} {choice : Choice} (passes : reading.Passes options state) :
    reading.ahead (choice.token (reading.setting options) state).start = state.rest := by
  have offset : (reading.setting options).offset = reading.offset := rfl
  rw [ahead, choice.token_start, offset, Nat.add_sub_cancel_left, passes.inside.rest_eq]

theorem Takes.exists_finds (takes : reading.Takes options token) :
    ∃ mode, ∃ rule ∈ Rule.ofMode mode, ∃ found,
      rule.Finds (reading.ahead token.start) found token := by
  obtain ⟨passes, chosen⟩ := takes
  rename_i state choice
  have applies := State.choice?_applies chosen
  obtain ⟨found, success, lexeme⟩ := applies.found
  obtain ⟨_, _, made⟩ := choice.token_eq (reading.setting options) state
  refine ⟨_, choice.rule, applies.rule_mem, found, ?_⟩
  rw [passes.ahead_eq]
  constructor
  · exact success
  · rw [← lexeme]
    exact applies.length_le
  · exact choice.token_kind _ _
  · rw [← lexeme]
    exact choice.token_text _ _
  · rw [made, ← lexeme]

theorem Takes.exists_takes (takes : reading.Takes options token) (fold : options.fold = true) :
    ∃ mode, ∃ rule ∈ Rule.ofMode mode, ∃ found,
      rule.Takes (reading.ahead token.start) found token := by
  obtain ⟨passes, chosen⟩ := takes
  rename_i state choice
  have applies := State.choice?_applies chosen
  obtain ⟨found, taken⟩ := applies.token_takes fold
  rw [← passes.ahead_eq] at taken
  exact ⟨_, choice.rule, applies.rule_mem, found, taken⟩

theorem Takes.childless (takes : reading.Takes options token)
    (noInner : token.kind.hasInnerText = false) : token.children = [] := by
  obtain ⟨_, chosen⟩ := takes
  rcases (State.choice?_applies chosen).marks_or rfl with ⟨span, marks⟩ | ⟨_, childless⟩
  · rw [Choice.token_kind, marks.hasInner] at noInner
    contradiction
  · exact childless

theorem Sourced.of_meets (meets : reading.Meets options inner)
    (sourced : inner.Sourced options token) : reading.Sourced options token := by
  rcases sourced with isText | isPair | ⟨last, reached, takes⟩
  · exact .inl isText
  · exact .inr (.inl isPair)
  · exact .inr (.inr ⟨last, .head meets reached, takes⟩)

/-- The children of what a reading takes come from the inner text that it comes upon there. -/
theorem Passes.children_sourced {state : State} {choice : Choice}
    (passes : reading.Passes options state)
    (chosen : state.choice? (reading.setting options) = some choice)
    (inside : ∀ inner, reading.Meets options inner →
      ∀ token ∈ (inner.outcome options).tokens, token.Everywhere (inner.Sourced options)) :
    ∀ child ∈ (choice.token (reading.setting options) state).children,
      child.Everywhere (reading.Sourced options) := by
  intro child member
  rcases (State.choice?_applies chosen).marks_or rfl with ⟨span, marks⟩ | ⟨_, childless⟩
  · have meets : reading.Meets options _ := .intro passes chosen marks.lexeme_inner
    rw [marks.children_eq, readInner] at member
    split at member
    · rename_i read present
      rw [(readSetting_readInner present).2, Nat.sub_sub] at member
      exact (inside _ meets child member).imp fun _ => Sourced.of_meets meets
    · rw [List.mem_singleton.mp member]
      exact Token.everywhere_of_children_eq_nil rfl (.inl rfl)
  · rw [childless] at member
    contradiction

theorem sourced_makes
    (inside : ∀ inner, reading.Meets options inner →
      ∀ token ∈ (inner.outcome options).tokens, token.Everywhere (inner.Sourced options)) :
    Makes (reading.setting options) (reading.Passes options)
      (Token.Everywhere (reading.Sourced options)) where
  stepwise := fun _ passes ahead => passes.step ahead
  keptInText := .everywhere (.of_plain fun _ isText _ => .inl isText)
  text := fun _ _ _ => Token.everywhere_of_children_eq_nil rfl (.inl rfl)
  token := fun _ _ chosen passes _ =>
    Token.everywhere_iff.mpr
      ⟨.inr (.inr ⟨reading, .refl, .intro passes chosen⟩), passes.children_sourced chosen inside⟩
  pair := fun _ _ _ _ applies paired _ _ _ children =>
    Token.everywhere_iff.mpr ⟨.inr (.inl (applies.pair_isPair rfl paired)), children⟩

/-- All tokens of a reading come from it or from the inner texts in it.  The recursion is on the
length of the text. -/
theorem outcome_sourced (options : Options) (reading : Reading) :
    ∀ token ∈ (reading.outcome options).tokens, token.Everywhere (reading.Sourced options) := by
  have inside : ∀ inner, reading.Meets options inner →
      ∀ token ∈ (inner.outcome options).tokens, token.Everywhere (inner.Sourced options) :=
    fun inner meets => outcome_sourced options inner
  rw [outcome, read_eq]
  exact (sourced_makes inside).scanText .initial
termination_by reading.text.length
decreasing_by exact (meets.bounds (Nat.le_max_left _ _) (Nat.le_max_right _ _)).1

end Reading

namespace Lex

open Reading

/-- Every token of a tree that is neither plain text nor a pair nor the root was taken by a reading
of the passage or of an inner text. -/
theorem exists_takes {options : Options} {source : Text} {token : Token}
    (member : token ∈ (lex options source).nodes)
    (single : token.kind ≠ .root ∧ token.kind ≠ .text ∧ token.kind.isPair = false) :
    ∃ reading, Relation.ReflTransGen (Meets options) (.ofPassage options source) reading ∧
      reading.Takes options token := by
  rcases Token.mem_nodes.mp member with rfl | below
  · exact absurd rfl single.1
  · obtain ⟨child, isChild, inside⟩ := Token.mem_nodesList.mp below
    rcases outcome_sourced options (.ofPassage options source) child isChild token inside with
      isText | isPair | taken
    · exact absurd isText single.2.1
    · rw [single.2.2] at isPair
      contradiction
    · exact taken

end Lex

end PassageMarkup
