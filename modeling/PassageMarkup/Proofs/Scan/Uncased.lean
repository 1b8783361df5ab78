import PassageMarkup.Proofs.Rule.Uncased
import PassageMarkup.Proofs.Scan.Recast

/-!
# Readings without case

A scan makes the same decisions in a text and in the same text without case: all rules find the same
there, and kinds, lengths and arities do not depend on case.  So passages that differ in the case of
ASCII letters alone have trees that differ in nothing else.
-/

namespace PassageMarkup

theorem Text.lastOccurrence_uncased {needle : Text} (letterless : needle.isLetterless = true)
    (text : Text) : lastOccurrence needle text.uncased = lastOccurrence needle text := by
  have first : ∀ text : Text, needle.isPrefixOf text.uncased = needle.isPrefixOf text := by
    intro text
    rw [← List.isSome_isPrefixOf?_eq_isPrefixOf, ← List.isSome_isPrefixOf?_eq_isPrefixOf,
      isPrefixOf?_uncased letterless, Option.isSome_map]
  induction text with
  | nil => rfl
  | cons c rest induction =>
      rw [uncased_cons, lastOccurrence, lastOccurrence, induction, ← uncased_cons, first]

theorem Horizon.ofText_uncased (text : Text) : ofText text.uncased = ofText text := by
  have closer : ∀ closer : Closer, closer.text.isLetterless = true := by
    intro closer
    cases closer <;> decide
  simp only [ofText, Text.lastOccurrence_uncased (closer _)]

namespace Scan

variable {setting : Setting} {state : State} {choice : Choice} {rule : Rule}

/-- The change of tokens that takes their case.  Events have no texts. -/
def Recast.uncased : Recast where
  token := Token.uncased
  event := id

theorem uncased_unseen : Recast.uncased.Unseen where
  kind := Token.uncased_kind
  isPlainText := by simp [Recast.uncased, Token.isPlainText, Token.uncased_eq]
  demote := by simp [Recast.uncased, Token.demote, Token.uncased_eq, Fields.uncased]
  join := by simp [Recast.uncased, Token.uncased_eq]
  foldPair := by
    intro kind front children back
    simp only [Recast.uncased, foldPair, Token.textOf_map_uncased, Token.uncased_text]
    rw [Token.uncased_eq]
    simp [Token.uncased_eq back, Token.uncased_eq front, Fields.uncased_mergeMissing]
  opened := by simp [Recast.uncased]
  demoted := by simp [Recast.uncased]
  closed := by simp [Recast.uncased]

def Outcome.uncased (outcome : Outcome) : Outcome :=
  { outcome with tokens := outcome.tokens.map Token.uncased }

def Verdict.uncased : Verdict → Verdict
  | skip => skip
  | refuse => refuse
  | accept lexeme pairing => accept lexeme.uncased (pairing.map (Pairing.recast .uncased))

def Choice.uncased (choice : Choice) : Choice :=
  { choice with
    lexeme := choice.lexeme.uncased
    pairing := choice.pairing.map (Pairing.recast .uncased) }

def State.uncased (state : State) : State :=
  { state.recast .uncased with rest := state.rest.uncased, pending := state.pending.uncased }

namespace Recast

theorem map_uncased_uncased (tokens : List Token) :
    (tokens.map uncased.token).map uncased.token = tokens.map uncased.token := by
  rw [List.map_map]
  exact List.map_congr_left fun token _ => token.uncased_uncased

theorem frames_uncased_uncased (frames : List Frame) :
    (frames.map (Frame.recast uncased)).map (Frame.recast uncased) =
      frames.map (Frame.recast uncased) := by
  rw [List.map_map]
  apply List.map_congr_left
  intro frame _
  have front : uncased.token (uncased.token frame.front) = uncased.token frame.front :=
    frame.front.uncased_uncased
  simp only [Function.comp_apply, Frame.recast, map_uncased_uncased, front]

theorem pairing_uncased_uncased (pairing : Pairing) :
    (pairing.recast uncased).recast uncased = pairing.recast uncased := by
  have frame := frames_uncased_uncased [pairing.frame]
  rw [List.map_singleton, List.map_singleton, List.singleton_inj] at frame
  simp only [Pairing.recast, frames_uncased_uncased, frame]

end Recast

namespace State

theorem uncased_uncased (state : State) : state.uncased.uncased = state.uncased := by
  simp only [uncased, recast, Recast.map_uncased_uncased, Recast.frames_uncased_uncased,
    Text.uncased_uncased]
  simp [Recast.uncased]

theorem mode_uncased : state.uncased.mode setting = state.mode setting :=
  @mode_recast .uncased setting state

theorem admits_uncased : state.uncased.admits setting rule = state.admits setting rule := by
  have preceding : state.uncased.preceding setting = state.preceding setting :=
    preceding_recast uncased_unseen
  have pending : state.uncased.pending.isEmpty = state.pending.isEmpty :=
    Text.isEmpty_uncased _
  rw [admits, admits, preceding, pending]
  rfl

theorem judgeLexeme_uncased {lexeme changed : Lexeme} (same : changed.uncased = lexeme.uncased) :
    (state.uncased.judgeLexeme setting rule changed).uncased =
      (state.judgeLexeme setting rule lexeme).uncased := by
  have arity := (Lexeme.eq_of_uncased_eq same).2.2.1
  have pairings : Frame.pairing? rule changed.arity state.uncased.frames =
      (Frame.pairing? rule lexeme.arity state.frames).map (Pairing.recast .uncased) := by
    rw [arity]
    exact Frame.pairing?_recast uncased_unseen rule lexeme.arity state.frames
  have opened : state.uncased.frames.length = state.frames.length := List.length_map _
  rw [judgeLexeme, judgeLexeme, pairings, opened]
  cases Frame.pairing? rule lexeme.arity state.frames with
  | some pairing =>
      simp only [Option.map_some, Verdict.uncased, same, Recast.pairing_uncased_uncased]
  | none =>
      simp only [Option.map_none]
      split
      · split
        · rfl
        · simp only [Verdict.uncased, same]
      · split
        · simp only [Verdict.uncased, same]
        · rfl

theorem judge_uncased {mode : Mode} (member : rule ∈ Rule.ofMode mode) :
    (state.uncased.judge setting rule).uncased = (state.judge setting rule).uncased := by
  have rest : state.uncased.rest = state.rest.uncased := rfl
  rw [judge, judge, admits_uncased, rest,
    Pattern.find?_uncased (Rule.pattern_ignoresCase member)]
  split
  · cases success : rule.pattern.find? state.rest with
    | none => rfl
    | some found =>
        have same := Rule.uncased_lexeme member success
        have length := (Lexeme.eq_of_uncased_eq same).1
        simp only [Option.map_some, length, Text.length_uncased]
        split
        · rfl
        · exact judgeLexeme_uncased same
  · rfl

theorem choose_uncased {mode : Mode} {rules : List Rule}
    (members : ∀ rule ∈ rules, rule ∈ Rule.ofMode mode) :
    (state.uncased.choose setting rules).1 = (state.choose setting rules).1 ∧
      (state.uncased.choose setting rules).2.map Choice.uncased =
        (state.choose setting rules).2.map Choice.uncased := by
  induction rules with
  | nil => exact ⟨rfl, rfl⟩
  | cons rule rules induction =>
      rw [List.forall_mem_cons] at members
      have judged := @judge_uncased setting state rule mode members.1
      obtain ⟨refused, chosen⟩ := induction members.2
      rw [choose, choose]
      cases cased : state.judge setting rule <;>
        cases changed : state.uncased.judge setting rule <;>
          simp only [cased, changed, Verdict.uncased, reduceCtorEq, Verdict.accept.injEq] at judged
      · exact ⟨refused, chosen⟩
      · exact ⟨congrArg (rule.kind :: ·) refused, chosen⟩
      · refine ⟨rfl, ?_⟩
        simp only [Option.map_some, Choice.uncased, judged.1, judged.2]

end State

/-- The inner texts of a scan are read into the same when they lose their case, but for case. -/
def Setting.ReadsUncased (setting : Setting) : Prop :=
  ∀ read, setting.readInner = some read → ∀ mode offset inner,
    (read mode offset inner.uncased).uncased = (read mode offset inner).uncased

theorem readInner_uncased (reads : setting.ReadsUncased) (rule : Rule) (start : Nat)
    (inner : Text) :
    (readInner setting rule start inner.uncased).uncased =
      (readInner setting rule start inner).uncased := by
  unfold readInner
  split
  · rename_i read present
    exact reads read present _ _ _
  · simp [Outcome.uncased, Token.uncased_leaf]

theorem makeToken_uncased (reads : setting.ReadsUncased) {lexeme changed : Lexeme}
    (same : changed.uncased = lexeme.uncased) (rule : Rule) (start : Nat) (text : Text) :
    (makeToken setting rule changed start text.uncased).1.uncased =
        (makeToken setting rule lexeme start text).1.uncased ∧
      (makeToken setting rule changed start text.uncased).2 =
        (makeToken setting rule lexeme start text).2 := by
  obtain ⟨_, inner, _, fields, fault⟩ := Lexeme.eq_of_uncased_eq same
  unfold makeToken
  rw [inner]
  cases lexeme.inner with
  | none => simp [Token.uncased_eq (Token.mk ..), Token.leaf, fields, fault]
  | some span =>
      have read := readInner_uncased reads rule (start + span.start) (text.slice span)
      have children := congrArg Outcome.tokens read
      have events := congrArg Outcome.events read
      simp only [Outcome.uncased] at children events
      simp only [← Text.uncased_slice]
      split
      · simp [Token.uncased_eq (Token.mk ..), Token.leaf, fields, fault, children, events]
      · simp [Token.uncased_eq (Token.mk ..), Token.leaf, fields, fault]

namespace State

theorem flush_uncased : state.uncased.flush setting = (state.flush setting).uncased := by
  have pending : state.uncased.pending = state.pending.uncased := rfl
  unfold flush
  rw [pending, Text.isEmpty_uncased]
  split
  · rfl
  · simp [uncased, recast, Recast.uncased, Token.uncased_leaf, Text.uncased_reverse]

theorem add_uncased (choice : Choice) (token : Token) :
    state.uncased.add setting choice.uncased token.uncased =
      (state.add setting choice token).uncased := by
  have recast := @add_recast .uncased setting state uncased_unseen choice choice.uncased rfl rfl rfl
    token
  have texts : ∀ (state : State) (rest pending : Text) choice token,
      add setting { state with rest, pending } choice token =
        { state.add setting choice token with rest, pending } := by
    intro state rest pending choice token
    unfold add
    cases choice.pairing with
    | some pairing => rfl
    | none =>
        simp only
        split <;> rfl
  rw [uncased, texts]
  simp only [uncased, add_rest, add_pending]
  rw [← recast]
  rfl

theorem accept_uncased (reads : setting.ReadsUncased) {choice changed : Choice}
    (same : changed.uncased = choice.uncased) :
    (state.uncased.accept setting changed).uncased = (state.accept setting choice).uncased := by
  obtain ⟨rule, lexeme, _⟩ : changed.rule = choice.rule ∧
      changed.lexeme.uncased = choice.lexeme.uncased ∧
      changed.pairing.map (Pairing.recast .uncased) =
        choice.pairing.map (Pairing.recast .uncased) := by
    simpa only [Choice.uncased, Choice.mk.injEq] using same
  have length := (Lexeme.eq_of_uncased_eq lexeme).1
  have rest : state.uncased.rest = state.rest.uncased := rfl
  obtain ⟨token, events⟩ := makeToken_uncased reads lexeme choice.rule
    (setting.offset + state.position) (state.rest.take choice.lexeme.length)
  have made : (changed.token setting state.uncased).uncased = (choice.token setting state).uncased := by
    rw [Choice.token, Choice.token, rule, length, rest, ← Text.uncased_take]
    exact token
  have advanced : state.uncased.advance setting changed = (state.advance setting choice).uncased := by
    have position : state.uncased.position = state.position := rfl
    simp only [advance, flush_uncased, rule, length, rest, position, ← Text.uncased_take]
    rw [events]
    simp [uncased, recast, Recast.uncased, Text.uncased_drop]
  rw [accept_eq, accept_eq, ← add_uncased, ← add_uncased, made, same, advanced, uncased_uncased]

theorem skipChar_uncased : state.uncased.skipChar = state.skipChar.uncased := by
  have rest : state.uncased.rest = state.rest.uncased := rfl
  unfold skipChar
  rw [rest]
  cases state.rest <;> rfl

theorem step_uncased (rules : setting.rules = Rule.ofMode) (reads : setting.ReadsUncased) :
    (state.uncased.step setting).uncased = (state.step setting).uncased := by
  have members : ∀ rule ∈ setting.rules (state.mode setting),
      rule ∈ Rule.ofMode (state.mode setting) := by
    rw [rules]
    exact fun _ member => member
  obtain ⟨refused, chosen⟩ := @choose_uncased setting state _ _ members
  have choice : (state.uncased.choice? setting).map Choice.uncased =
      (state.choice? setting).map Choice.uncased := by
    rw [choice?, mode_uncased, chosen]
    rfl
  have noted : state.uncased.noted setting = (state.noted setting).uncased := by
    simp only [State.noted, mode_uncased, refused]
    simp [uncased, recast, Recast.uncased]
  rw [step_eq_noted, step_eq_noted, noted]
  cases cased : state.choice? setting <;> cases changed : state.uncased.choice? setting <;>
    simp only [cased, changed, Option.map_some, Option.map_none, reduceCtorEq,
      Option.some.injEq] at choice
  · exact (congrArg uncased skipChar_uncased).trans (uncased_uncased _)
  · exact accept_uncased reads choice

theorem run_uncased (rules : setting.rules = Rule.ofMode) (reads : setting.ReadsUncased)
    (bound : Nat) :
    (state.uncased.run setting bound).uncased = (state.run setting bound).uncased := by
  have lockstep : Lockstep setting setting fun left right => left.uncased = right.uncased := by
    constructor
    · intro left right same
      have rests : left.rest.uncased = right.rest.uncased := congrArg State.rest same
      rw [← Text.isEmpty_uncased, rests, Text.isEmpty_uncased]
    · intro left right same _
      rw [← step_uncased rules reads, same, step_uncased rules reads]
  exact lockstep.run (uncased_uncased state) bound

theorem finish_uncased : state.uncased.finish setting = (state.finish setting).uncased := by
  unfold finish
  simp only [flush_uncased]
  obtain ⟨tokens, events⟩ := giveUp_recast uncased_unseen (state.flush setting)
  exact congrArg₂ Outcome.mk tokens (events.trans (List.map_id _))

end State

theorem scanText_uncased (rules : setting.rules = Rule.ofMode) (reads : setting.ReadsUncased)
    (text : Text) :
    (scanText setting text.uncased).uncased = (scanText setting text).uncased := by
  have initial : State.initial text.uncased = (State.initial text).uncased := rfl
  rw [scanText, scanText, ← State.finish_uncased, ← State.finish_uncased, initial,
    State.run_uncased rules reads, Text.length_uncased]

/-- A reading of a text without case returns the same, but for case.  The recursion is on the room,
since inner texts are read with room for one less. -/
theorem read_uncased (fold : Bool) (place : Text) (room : Nat) (mode : Mode) (beginsLine : Bool)
    (offset : Nat) (text : Text) :
    (read Rule.ofMode fold place room mode beginsLine offset text.uncased).uncased =
      (read Rule.ofMode fold place room mode beginsLine offset text).uncased := by
  have same : readSetting Rule.ofMode fold place room mode beginsLine offset text.uncased =
      readSetting Rule.ofMode fold place room mode beginsLine offset text := by
    simp only [readSetting, Horizon.ofText_uncased]
  rw [read_eq, read_eq, same]
  apply scanText_uncased rfl
  intro inner present innerMode innerOffset innerText
  obtain ⟨more, rfl⟩ := readSetting_readInner present
  exact read_uncased fold place (room - 1) innerMode false innerOffset innerText
termination_by room

end Scan

namespace Lex

theorem lex_uncased (options : Options) (source : Text) :
    (lex options source.uncased).uncased = (lex options source).uncased := by
  have read := Scan.read_uncased options.fold options.place (options.maxDepth - 0) options.mode true
    0 source
  have children : (tokenize options 0 0 true source.uncased).map Token.uncased =
      (tokenize options 0 0 true source).map Token.uncased := congrArg Scan.Outcome.tokens read
  rw [lex, lex, Token.uncased_eq, Token.uncased_eq (root _ _ _)]
  simp [root, Token.leaf, children]

/-- Passages that differ at most in the case of ASCII letters have trees that differ at most in the
case of ASCII letters in texts, names, messages and passages. -/
theorem case_insensitive (options : Options) {source other : Text}
    (same : source.uncased = other.uncased) :
    (lex options source).uncased = (lex options other).uncased := by
  rw [← lex_uncased, same, lex_uncased]

theorem condition_and_link_case_insensitive :
    Text.uncased "(If: $x IS 1E3)[[A->#b]]".toList = Text.uncased "(iF: $X is 1e3)[[a->#B]]".toList ∧
      (lex {} "(If: $x IS 1E3)[[A->#b]]".toList).uncased =
        (lex {} "(iF: $X is 1e3)[[a->#B]]".toList).uncased := by
  have same : Text.uncased "(If: $x IS 1E3)[[A->#b]]".toList =
      Text.uncased "(iF: $X is 1e3)[[a->#B]]".toList := by decide
  exact ⟨same, case_insensitive {} same⟩

end Lex

end PassageMarkup
