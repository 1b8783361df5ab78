import PassageMarkup.Proofs.Scan.Coverage
import PassageMarkup.Proofs.Scan.Opening

/-!
# Pairs read by themselves

When a back closes the front of a part, the scan of the part ends with the pair alone.  So the text
of every folded pair, read by itself, gives the pair again with all that is inside it.
-/

namespace PassageMarkup

namespace Token

/-- The text of a pair, read by itself, gives the pair alone. -/
def Relexes (place : Text) (token : Token) : Prop :=
  token.kind.isPair = true →
    (Scan.readFreely true place token.kind.aloneMode false token.start token.text).tokens = [token]

theorem relexes_of_text {place : Text} {token : Token} (isText : token.kind = .text)
    (childless : token.children = []) : token.Everywhere (Relexes place) := by
  refine everywhere_of_children_eq_nil childless ?_
  intro isPair
  rw [isText] at isPair
  contradiction

theorem Matched.endsWithBack {kind : Kind} {front back : Token}
    (matched : Matched kind front back) : EndsWithBack back.text := by
  cases matched with
  | intro place start backStart opens closes =>
      exact ⟨_, _, _, _, _, _, closes, List.suffix_refl _⟩

theorem Matched.aloneMode_eq {kind : Kind} {front back : Token}
    (matched : Matched kind front back) : front.kind.aloneMode = kind.aloneMode := by
  cases matched with
  | intro place start backStart opens closes => exact closes.aloneMode_eq

theorem relexes_coalesce {place : Text} {tokens : List Token}
    (relexes : ∀ token ∈ tokens, token.Everywhere (Relexes place)) :
    ∀ token ∈ coalesce tokens, token.Everywhere (Relexes place) := by
  refine forall_mem_coalesce ?_ relexes
  intro token next plain _ _ _
  obtain ⟨isText, childless⟩ := isPlainText_iff.mp plain
  exact relexes_of_text isText childless

end Token

namespace Scan

open Token

variable {setting : Setting} {state : State} {text place : Text} {choice : Choice}

theorem textOf_readFreely (place : Text) (mode : Mode) (beginsLine : Bool) (offset : Nat)
    (text : Text) :
    textOf (readFreely true place mode beginsLine offset text).tokens = text := by
  let source : Text := List.replicate offset ' ' ++ text
  have stands : source.Stands offset text := by
    refine ⟨List.replicate offset ' ', [], ?_, ?_⟩
    · simp [source]
    · simp
  have start : source.Stands offset [] := (Text.stands_append.mp (by simpa using stands)).1
  have laid := read_laid true place text.length mode beginsLine stands
  rw [read_eq_readFreely true place mode beginsLine offset (Nat.le_refl _)] at laid
  obtain ⟨standsToo, sameEnd⟩ := laid.stands start
  exact standsToo.eq_of_length_eq stands (Nat.add_left_cancel sameEnd).symm

/-- A pair that is folded at a step can be read by itself. -/
theorem Replays.relexes {pairing : Pairing} (runs : Runs place text setting state)
    (chosen : state.choice? setting = some choice) (paired : choice.pairing = some pairing)
    (replays : Replays place setting state pairing.frame pairing.outer) :
    (pairing.pair setting state (choice.token setting state)).Relexes place := by
  have applies := State.choice?_applies chosen
  obtain ⟨current, nested, _⟩ := runs.formed
  have matched := (applies.encloses runs.free.rules_eq nested paired).matched
  have ends := matched.endsWithBack
  rw [Choice.token_text] at ends
  have split : state.rest = choice.consumed state ++ state.rest.drop choice.lexeme.length := by
    rw [Choice.consumed, List.take_append_drop]
  obtain ⟨part, later, laterRuns, same, mirrors⟩ := replays _ _ split ends
  have laterAhead : later.rest = choice.consumed state :=
    List.append_cancel_right (mirrors.rest_eq.symm.trans split)
  have whole : later.rest.length = choice.lexeme.length := by
    rw [laterAhead, applies.length_consumed]
  have alone := mirrors.step_close runs laterRuns (laterAhead ▸ ends) chosen paired rfl rfl whole
  rw [same] at alone
  have read : (readFreely true place pairing.frame.front.kind.aloneMode false
      pairing.frame.front.start part).tokens =
        [pairing.pair setting state (choice.token setting state)] := by
    rw [readFreely_eq]
    exact alone
  have text : part = (pairing.pair setting state (choice.token setting state)).text := by
    rw [← textOf_readFreely place pairing.frame.front.kind.aloneMode false
      pairing.frame.front.start part, read]
    simp [textOf]
  intro _
  rw [← text]
  rw [matched.aloneMode_eq] at read
  exact read

/-- The pairs of every text that is shorter, read from inside a line, can be read by themselves. -/
def ShorterRelex (place text : Text) : Prop :=
  ∀ mode offset inner, inner.length < text.length →
    ∀ token ∈ (readFreely true place mode false offset inner).tokens,
      token.Everywhere (Relexes place)

/-- The tokens of a rule that neither opens nor closes a pair are not pairs, and their inner texts
are shorter than the text. -/
theorem Runs.token_relexes (runs : Runs place text setting state)
    (shorter : ShorterRelex place text)
    (applies : choice.Applies setting state) (notFront : choice.rule.front = false)
    (closesNothing : choice.rule.closes = []) :
    (choice.token setting state).Everywhere (Relexes place) := by
  have member := applies.rule_mem
  rw [runs.free.rules_eq] at member
  rw [everywhere_iff]
  constructor
  · intro isPair
    rw [Choice.token_kind, (Rule.alone_kind member notFront closesNothing).1] at isPair
    contradiction
  · intro child inside
    unfold Choice.token makeToken at inside
    cases marked : choice.lexeme.inner with
    | none => simp [marked, leaf] at inside
    | some span =>
        have length := (applies.inner_length runs.free.rules_eq runs.inside marked).2
        simp only [marked, runs.free.fold_eq, if_true] at inside
        rw [← Choice.consumed, runs.free.readInner_eq _ _ _ length] at inside
        exact shorter _ _ _ length child inside

theorem State.flush_relexes (relexes : ∀ token ∈ state.siblings, token.Everywhere (Relexes place)) :
    ∀ token ∈ (state.flush setting).siblings, token.Everywhere (Relexes place) := by
  unfold State.flush
  split
  · exact relexes
  · rw [List.forall_mem_cons]
    exact ⟨relexes_of_text rfl rfl, relexes⟩

theorem Frame.unwind_relexes {siblings : List Token} {frames : List Frame}
    (relexes : ∀ token ∈ siblings, token.Everywhere (Relexes place))
    (before : ∀ frame ∈ frames, ∀ token ∈ frame.before, token.Everywhere (Relexes place)) :
    ∀ token ∈ Frame.unwind siblings frames, token.Everywhere (Relexes place) := by
  induction frames generalizing siblings with
  | nil => exact relexes
  | cons frame outer induction =>
      rw [List.forall_mem_cons] at before
      apply induction _ before.2
      intro token member
      rcases List.mem_append.mp member with sibling | left
      · exact relexes token sibling
      · rcases List.mem_cons.mp left with demoted | earlier
        · rw [demoted]
          exact relexes_of_text rfl rfl
        · exact before.1 token earlier

/-- The pairs of a state, and those inside its tokens, can be read by themselves, and its open
fronts are replayed. -/
structure State.Relexed (place text : Text) (setting : Setting) (state : State) : Prop
    extends Runs place text setting state where
  siblings : ∀ token ∈ state.siblings, token.Everywhere (Relexes place)
  before : ∀ frame ∈ state.frames, ∀ token ∈ frame.before, token.Everywhere (Relexes place)
  replays : ∀ frame outer, frame :: outer <:+ state.frames → Replays place setting state frame outer

theorem Runs.front_cases (runs : Runs place text setting state) {frame : Frame} {outer : List Frame}
    (stays : frame :: outer <:+ (state.step setting).frames) :
    frame :: outer <:+ state.frames ∨
      ∃ choice, state.choice? setting = some choice ∧ choice.rule.front = true ∧
        choice.pairing = none ∧ frame = choice.frame setting state ∧ outer = state.frames := by
  cases chosen : state.choice? setting with
  | none =>
      rw [(State.step_passes chosen).2] at stays
      exact .inl stays
  | some choice =>
      have applies := State.choice?_applies chosen
      cases paired : choice.pairing with
      | none =>
          rcases applies.unpaired paired with ⟨isFront, _⟩ | ⟨notFront, _⟩
          · rw [(State.step_opens_front chosen paired isFront).2, List.suffix_cons_iff] at stays
            rcases stays with new | old
            · obtain ⟨sameFrame, sameOuter⟩ := List.cons_eq_cons.mp new
              exact .inr ⟨choice, rfl, isFront, paired, sameFrame, sameOuter⟩
            · exact .inl old
          · rw [(State.step_stands chosen paired notFront).2] at stays
            exact .inl stays
      | some pairing =>
          rw [(State.step_folds runs.free.fold_eq chosen paired).2] at stays
          left
          rw [(applies.pairs paired).frames_eq, List.append_cons]
          exact stays.trans (List.suffix_append _ _)

theorem State.Relexed.replays_step (relexed : state.Relexed place text setting) :
    ∀ frame outer, frame :: outer <:+ (state.step setting).frames →
      Replays place setting (state.step setting) frame outer := by
  intro frame outer stays
  rcases relexed.toRuns.front_cases stays with old | ⟨choice, chosen, isFront, unpaired, rfl, rfl⟩
  · exact Replays.step relexed.toRuns (relexed.replays frame outer old) stays
  · exact .opened relexed.toRuns chosen isFront unpaired

theorem State.Relexed.pair_relexes {pairing : Pairing} (relexed : state.Relexed place text setting)
    (chosen : state.choice? setting = some choice) (paired : choice.pairing = some pairing) :
    (pairing.pair setting state (choice.token setting state)).Everywhere (Relexes place) := by
  have frames := ((State.choice?_applies chosen).pairs paired).frames_eq
  rw [everywhere_iff]
  constructor
  · apply Replays.relexes relexed.toRuns chosen paired
    apply relexed.replays
    rw [frames]
    exact List.suffix_append _ _
  · apply relexes_coalesce
    intro token member
    rw [List.mem_reverse] at member
    refine Frame.unwind_relexes (State.flush_relexes relexed.siblings) ?_ token member
    intro frame abandoned
    apply relexed.before
    rw [frames]
    exact List.mem_append_left _ abandoned

theorem State.Relexed.step (relexed : state.Relexed place text setting)
    (shorter : ShorterRelex place text) :
    (state.step setting).Relexed place text setting := by
  have runs := relexed.toRuns
  have flushed : ∀ token ∈ (state.flush setting).siblings, token.Everywhere (Relexes place) :=
    State.flush_relexes relexed.siblings
  suffices tokens : (∀ token ∈ (state.step setting).siblings, token.Everywhere (Relexes place)) ∧
      ∀ frame ∈ (state.step setting).frames, ∀ token ∈ frame.before,
        token.Everywhere (Relexes place) from
    ⟨runs.step, tokens.1, tokens.2, relexed.replays_step⟩
  cases chosen : state.choice? setting with
  | none =>
      obtain ⟨siblings, frames⟩ := State.step_passes chosen
      rw [siblings, frames]
      exact ⟨relexed.siblings, relexed.before⟩
  | some choice =>
      have applies := State.choice?_applies chosen
      cases paired : choice.pairing with
      | none =>
          rcases applies.unpaired paired with ⟨isFront, _⟩ | ⟨notFront, closesNothing⟩
          · obtain ⟨siblings, frames⟩ := State.step_opens_front chosen paired isFront
            rw [siblings, frames, List.forall_mem_cons]
            exact ⟨List.forall_mem_nil _, flushed, relexed.before⟩
          · obtain ⟨siblings, frames⟩ := State.step_stands chosen paired notFront
            rw [siblings, frames, List.forall_mem_cons]
            exact ⟨⟨runs.token_relexes shorter applies notFront closesNothing, flushed⟩,
              relexed.before⟩
      | some pairing =>
          obtain ⟨siblings, frames⟩ := State.step_folds runs.free.fold_eq chosen paired
          have whole := (applies.pairs paired).frames_eq
          rw [siblings, frames, List.forall_mem_cons]
          refine ⟨⟨relexed.pair_relexes chosen paired, relexed.before _ ?_⟩, ?_⟩
          · simp [whole]
          · intro frame outside
            exact relexed.before frame (by simp [whole, outside])

theorem State.Relexed.run (relexed : state.Relexed place text setting)
    (shorter : ShorterRelex place text) (bound : Nat) :
    (state.run setting bound).Relexed place text setting := by
  have stepwise : Stepwise setting (State.Relexed place text setting) :=
    fun _ relexed _ => relexed.step shorter
  exact stepwise.run relexed

/-- The text of every pair that a reading folds, at any depth, gives the pair again when it is read
by itself.  The induction is on the length of the text, since inner texts are read anew. -/
theorem readFreely_relexes (place : Text) (mode : Mode) (beginsLine : Bool) (offset : Nat)
    (text : Text) :
    ∀ token ∈ (readFreely true place mode beginsLine offset text).tokens,
      token.Everywhere (Relexes place) := by
  induction size : text.length using Nat.strongRecOn generalizing mode beginsLine offset text
  rename_i size induction
  subst size
  let setting := freeSetting place mode beginsLine offset text
  have initial : (State.initial text).Relexed place text setting :=
    ⟨.initial (freeSetting_free mode beginsLine offset), by simp [State.initial],
      by simp [State.initial], fun frame outer open_ => by simp [State.initial] at open_⟩
  have final := initial.run (fun mode offset inner shorter =>
    induction inner.length shorter mode false offset inner rfl) text.length
  rw [readFreely_eq]
  apply relexes_coalesce
  intro token member
  rw [List.mem_reverse] at member
  refine Frame.unwind_relexes (State.flush_relexes final.siblings) ?_ token member
  rw [State.flush_frames]
  exact final.before

end Scan

namespace Lex

open Token

/-- Folded pairs do not depend on what is around them: with enough room for the whole passage, every
pair of the tree, read by itself in the mode that its kind asks for, is all that its text gives. -/
theorem lex_pair_alone (options : Options) (source : Text) (fold : options.fold = true)
    (room : source.length < options.maxDepth) :
    (lex options source).Everywhere fun pair =>
      pair.kind.isPair = true →
        tokenize { options with mode := pair.kind.aloneMode } pair.start 0 false pair.text =
          [pair] := by
  have free : ∀ mode beginsLine offset (text : Text), text.length ≤ source.length →
      tokenize { options with mode } offset 0 beginsLine text =
        (Scan.readFreely true options.place mode beginsLine offset text).tokens := by
    intro mode beginsLine offset text within
    have enough : text.length ≤ options.maxDepth - 0 := by omega
    simp only [tokenize, readAt, fold]
    rw [Scan.read_eq_readFreely true options.place mode beginsLine offset enough]
  have whole : (lex options source).children =
      (Scan.readFreely true options.place options.mode true 0 source).tokens :=
    free options.mode true 0 source (Nat.le_refl _)
  have laid : Laid source 0 (lex options source).children (0 + source.length) :=
    Scan.read_laid options.fold options.place _ options.mode true (Text.stands_self source)
  rw [everywhere_iff]
  refine ⟨fun isPair => by contradiction, ?_⟩
  intro child member node inside isPair
  have length := (laid.placed child member node inside).stands.le_length
  rw [whole] at member
  rw [free _ _ _ _ (by omega)]
  exact Scan.readFreely_relexes options.place options.mode true 0 source child member node inside
    isPair

theorem call_in_hook_alone :
    ({} : Options).fold = true ∧ "a[(b:[c])]".toList.length < ({} : Options).maxDepth ∧
      (lex {} "a[(b:[c])]".toList).nodes.map Token.kind =
        [.root, .text, .hook, .macroCall, .hook, .text] ∧
      ∀ pair ∈ (lex {} "a[(b:[c])]".toList).nodes, pair.kind.isPair = true →
        tokenize { mode := pair.kind.aloneMode } pair.start 0 false pair.text = [pair] := by
  have room : "a[(b:[c])]".toList.length < ({} : Options).maxDepth := by decide
  exact ⟨rfl, room, by decide +kernel, lex_pair_alone {} "a[(b:[c])]".toList rfl room⟩

end Lex

end PassageMarkup
