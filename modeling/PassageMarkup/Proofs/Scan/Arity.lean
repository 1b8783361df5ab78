import PassageMarkup.Proofs.Rule.Backticks
import PassageMarkup.Proofs.Scan.Coverage
import PassageMarkup.Proofs.Scan.Free
import PassageMarkup.Proofs.Scan.FrontStack

/-!
# The run that closes a verbatim span

Where runs of backticks are markup, a scan comes to each run at its first backtick and takes it as a
whole.  An open run waits for the next run of its length: the runs of other lengths before that are
opened inside it, and what is open inside is given up when the run is closed.  So a verbatim span
ends with the first run that is as long as the one that it begins with.
-/

namespace PassageMarkup

namespace Token

/-- The delimiters of a span are runs of a source, and no run of their length is between them. -/
structure ClosedByNext (source : Text) (length : Nat) (span : Token) : Prop where
  opened : source.IsRun length span.start
  closed : source.IsRun length (span.stop - length)
  noneBetween : ∀ start, span.start + length ≤ start → start < span.stop - length →
    ¬source.IsRun length start

/-- Between a run and the next one of its length there is text that neither begins nor ends with a
backtick, and no run in it has that length. -/
theorem ClosedByNext.inner {source : Text} {length : Nat} {span : Token}
    (closed : span.ClosedByNext source length) (placed : Placed source span)
    (spans : span.Spans length) :
    span.inner ≠ [] ∧ span.inner.head? ≠ some '\x60' ∧ span.inner.getLast? ≠ some '\x60' ∧
      ∀ start, ¬span.inner.IsRun length start := by
  have stands := placed.stands
  have stop := placed.stop_eq
  rw [spans.text_eq, Text.stands_append, Text.stands_append, List.length_replicate] at stands
  have standsInner : source.Stands (span.start + length) span.inner := stands.1.2
  have back : span.stop - length = span.start + length + span.inner.length := by
    rw [stop, spans.text_eq]
    simp only [List.length_append, List.length_replicate]
    omega
  have closing := closed.closed
  rw [back] at closing
  have nonempty : span.inner ≠ [] := by
    intro empty
    rw [empty, List.length_nil, Nat.add_zero] at closing
    exact closed.opened.after
      (closing.inside _ (Nat.le_refl _) (Nat.lt_add_of_pos_right closing.positive))
  have positive := List.length_pos_iff.mpr nonempty
  have first : span.inner.head? ≠ some '\x60' := by
    rw [List.head?_eq_getElem?, ← standsInner.getElem?_eq positive, Nat.add_zero]
    exact closed.opened.after
  have last : span.inner.getLast? ≠ some '\x60' := by
    rw [List.getLast?_eq_getElem?, ← standsInner.getElem?_eq (Nat.sub_one_lt_of_lt positive)]
    exact closing.before _ (by omega)
  refine ⟨nonempty, first, last, ?_⟩
  intro start run
  obtain ⟨sameRun, within⟩ := run.of_part standsInner first last
  have shorter := run.positive
  exact closed.noneBetween _ (Nat.le_add_right _ _) (by omega) sameRun

/-- A token that is a verbatim span is closed by the next run of its length. -/
def RunClosed (source : Text) (token : Token) : Prop :=
  token.kind = .verbatim → ∃ length, token.Spans length ∧ token.ClosedByNext source length

theorem RunClosed.of_kind_ne {source : Text} {token : Token} (notSpan : token.kind ≠ .verbatim) :
    token.RunClosed source :=
  fun isSpan => absurd isSpan notSpan

end Token

theorem Rule.of_closes_verbatim {mode : Mode} {rule : Rule} {front : Kind}
    (member : rule ∈ ofMode mode) (closes : (front, .verbatim) ∈ rule.closes) :
    front = .verbatimOpener ∧ rule.kind = .verbatimOpener := by
  have table : ∀ rule ∈ ofMode mode, ∀ closed ∈ rule.closes, closed.2 = .verbatim →
      closed.1 = .verbatimOpener ∧ rule.kind = .verbatimOpener := by
    cases mode <;> decide
  exact table rule member _ closes rfl

namespace Scan

open Token

variable {source place text : Text} {setting : Setting} {state : State} {choice : Choice}
  {pairing : Pairing} {frame : Frame}

/-- A text that stands in a source is read from its offset, and does not end in the middle of a
run. -/
structure Setting.ReadsPart (source text : Text) (setting : Setting) : Prop where
  stands : source.Stands setting.offset text
  last : source.Clear (setting.offset + text.length)

namespace Runs

theorem stands_rest (runs : Runs place text setting state) (part : setting.ReadsPart source text) :
    source.Stands (setting.offset + state.position) state.rest := by
  obtain ⟨before, split, position⟩ := runs.inside.split
  have stands := part.stands
  rw [split, Text.stands_append, List.length_append, List.length_reverse, ← position] at stands
  exact stands.2

theorem clear_of_rest (runs : Runs place text setting state) (part : setting.ReadsPart source text)
    {length : Nat} (positive : 0 < length) (within : length ≤ state.rest.length)
    (clear : state.rest.Clear length) :
    source.Clear (setting.offset + state.position + length) := by
  have last := part.last
  rw [← runs.inside.position_add_rest, ← Nat.add_assoc] at last
  exact (runs.stands_rest part).clear positive within last clear

theorem clear_after (runs : Runs place text setting state) (part : setting.ReadsPart source text)
    (applies : choice.Applies setting state)
    (counts : (state.mode setting).countsRuns = true ∨ choice.rule.front = true ∨
      choice.rule.closes ≠ []) :
    source.Clear (setting.offset + state.position + choice.lexeme.length) := by
  obtain ⟨found, success, lexeme⟩ := applies.found
  have member := applies.rule_mem_ofMode runs.free.rules_eq
  apply runs.clear_of_rest part applies.length_pos applies.length_le
  rw [lexeme]
  exact Rule.lexeme_clear member counts success

/-- Where runs are markup, a backtick ahead is never left to be text. -/
theorem head?_ne_of_none (runs : Runs place text setting state)
    (counts : (state.mode setting).countsRuns = true) (nothing : state.choice? setting = none) :
    state.rest.head? ≠ some '\x60' := by
  intro head
  obtain ⟨rest, ahead⟩ := List.head?_eq_some_iff.mp head
  obtain ⟨found, success⟩ := Rule.finds_verbatim rest
  rw [← ahead] at success
  have member := Rule.verbatimOpener_mem counts
  have room := runs.frames_lt (by simp [ahead])
  have skipped : state.judge setting Rule.verbatimOpener = .skip := by
    apply State.skipped_of_none room nothing
    rw [runs.free.rules_eq]
    exact member
  rw [State.judge_of_found runs member success, State.judgeLexeme_of_room room] at skipped
  split at skipped
  · split at skipped <;> contradiction
  · rename_i forbidden
    exact forbidden rfl

theorem isRun_of_taken (runs : Runs place text setting state) (part : setting.ReadsPart source text)
    (clear : (state.mode setting).countsRuns = true →
      source.Clear (setting.offset + state.position))
    (applies : choice.Applies setting state) (opener : choice.rule.kind = .verbatimOpener) :
    source.IsRun choice.lexeme.length (setting.offset + state.position) ∧
      choice.lexeme.arity = choice.lexeme.length ∧
        choice.consumed state = List.replicate choice.lexeme.length '\x60' := by
  have member := applies.rule_mem_ofMode runs.free.rules_eq
  have counts := Rule.countsRuns_of_verbatimOpener member opener
  obtain ⟨found, success, lexeme⟩ := applies.found
  rw [Rule.eq_verbatimOpener member opener] at success lexeme
  have length : choice.lexeme.length = found.text.length := by rw [lexeme]; rfl
  have consumed : choice.consumed state = List.replicate choice.lexeme.length '\x60' := by
    rw [Choice.consumed, length, (Pattern.find?_splitsOff success).take_length]
    exact (Rule.find?_verbatim success).1
  have stands := runs.stands_rest part
  rw [← List.take_append_drop choice.lexeme.length state.rest, ← Choice.consumed, consumed,
    Text.stands_append] at stands
  refine ⟨?_, by rw [lexeme]; rfl, consumed⟩
  exact Text.isRun_of_clear stands.1 applies.length_pos (clear counts)
    (runs.clear_after part applies (.inl counts))

end Runs

/-- An open run of a source waits for the next run of its length, which has not begun before a
place. -/
structure Frame.Awaits (source : Text) (place : Nat) (frame : Frame) : Prop where
  opened : source.IsRun frame.arity frame.front.start
  noneSince : ∀ start, frame.front.start + frame.arity ≤ start → start < place →
    ¬source.IsRun frame.arity start

namespace Frame.Awaits

variable {offset length : Nat}

theorem extend (awaits : frame.Awaits source offset) {later : Nat}
    (none : ∀ start, offset ≤ start → start < later → ¬source.IsRun frame.arity start) :
    frame.Awaits source later := by
  refine ⟨awaits.opened, ?_⟩
  intro start after before
  by_cases earlier : start < offset
  · exact awaits.noneSince start after earlier
  · exact none start (Nat.le_of_not_lt earlier) before

/-- An open run goes on waiting past a run of another length. -/
theorem past_run (awaits : frame.Awaits source offset) (run : source.IsRun length offset)
    (differs : frame.arity ≠ length) : frame.Awaits source (offset + length) := by
  apply awaits.extend
  intro start lower upper same
  exact differs (run.eq_of_mem same lower upper)

theorem past_char (awaits : frame.Awaits source offset) (differs : source[offset]? ≠ some '\x60') :
    frame.Awaits source (offset + 1) := by
  apply awaits.extend
  intro start lower upper same
  have here : start = offset := by omega
  subst here
  exact differs (same.inside start (Nat.le_refl _) (Nat.lt_add_of_pos_right same.positive))

end Frame.Awaits

theorem State.Stacked.fronted (stacked : state.Stacked setting) : state.Fronted setting := by
  intro frame open_
  obtain ⟨inner, outer, frames⟩ := List.append_of_mem open_
  unfold State.Stacked at stacked
  rw [frames] at stacked
  cases stacked.of_append with
  | cons _ opened _ => exact ⟨_, _, opened⟩

theorem State.Stacked.mode_eq (stacked : state.Stacked setting) (open_ : frame ∈ state.frames)
    (opener : frame.front.kind = .verbatimOpener) : state.mode setting = .verbatim := by
  obtain ⟨inner, outer, frames⟩ := List.append_of_mem open_
  have mode : state.mode setting = Frame.modeInside setting.mode state.frames := rfl
  unfold State.Stacked at stacked
  -- the innermost front is the given run or a run inside it
  have innermost : ∃ next further, state.frames = next :: further ∧
      next.front.kind = .verbatimOpener := by
    rw [frames] at stacked ⊢
    cases inner with
    | nil => exact ⟨frame, outer, rfl, opener⟩
    | cons next further =>
        exact ⟨next, _, rfl, stacked.inner_verbatim opener next List.mem_cons_self⟩
  obtain ⟨next, further, same, run⟩ := innermost
  rw [same] at stacked mode
  cases stacked with
  | cons _ opened _ =>
      rw [mode, Frame.Stacked.modeInside_eq opened]
      exact opened.inside_verbatim run

theorem Choice.Applies.kind_of_open (applies : choice.Applies setting state)
    (rules : setting.rules = Rule.ofMode) (stacked : state.Stacked setting)
    (open_ : frame ∈ state.frames) (opener : frame.front.kind = .verbatimOpener) :
    choice.rule.kind = .verbatimOpener := by
  have member := applies.rule_mem_ofMode rules
  rw [stacked.mode_eq open_ opener] at member
  exact Rule.kind_of_mem_verbatim member

theorem Frame.Opened.run_text {around inside : Mode} (opened : frame.Opened place around inside)
    (opener : frame.front.kind = .verbatimOpener) :
    frame.front.text = List.replicate frame.arity '\x60' := by
  obtain ⟨name, text, start, front, opens⟩ := opened.front_eq
  rw [opened.kind_eq] at opener
  rw [opener] at opens
  rw [front]
  generalize frame.arity = arity at opens
  cases opens
  rfl

/-- What is known of the states of a scan about runs: a state where runs are markup is not in the
middle of one, and the open runs still wait to be closed. -/
structure State.RunsAwaited (source place text : Text) (setting : Setting) (state : State) : Prop
    extends Runs place text setting state where
  stacked : state.Stacked setting
  clear : (state.mode setting).countsRuns = true → source.Clear (setting.offset + state.position)
  awaits : ∀ frame ∈ state.frames, frame.front.kind = .verbatimOpener →
    frame.Awaits source (setting.offset + state.position)

namespace State.RunsAwaited

theorem awaits_after (awaited : state.RunsAwaited source place text setting)
    (part : setting.ReadsPart source text) (applies : choice.Applies setting state)
    (open_ : frame ∈ state.frames) (opener : frame.front.kind = .verbatimOpener)
    (differs : frame.arity ≠ choice.lexeme.arity) :
    frame.Awaits source (setting.offset + state.position + choice.lexeme.length) := by
  have run := applies.kind_of_open awaited.free.rules_eq awaited.stacked open_ opener
  obtain ⟨isRun, arity, _⟩ := awaited.toRuns.isRun_of_taken part awaited.clear applies run
  rw [arity] at differs
  exact (awaited.awaits frame open_ opener).past_run isRun differs

theorem step_passes (awaited : state.RunsAwaited source place text setting)
    (part : setting.ReadsPart source text) (ahead : state.rest ≠ [])
    (nothing : state.choice? setting = none) :
    (state.step setting).RunsAwaited source place text setting := by
  have frames := (State.step_passes nothing).2
  have position := State.step_position_of_none ahead nothing
  have mode : (state.step setting).mode setting = state.mode setting := by
    rw [State.mode, State.mode, frames]
  -- where runs are markup, the character that stays text is no backtick
  have differs (counts : (state.mode setting).countsRuns = true) :
      source[setting.offset + state.position]? ≠ some '\x60' := by
    have stands := awaited.toRuns.stands_rest part
    rw [← Nat.add_zero (_ + _), stands.getElem?_eq (List.length_pos_iff.mpr ahead),
      ← List.head?_eq_getElem?]
    exact awaited.toRuns.head?_ne_of_none counts nothing
  refine ⟨awaited.toRuns.step, (stacked_kept awaited.free.rules_eq).step awaited.stacked, ?_, ?_⟩
  · intro counts
    rw [mode] at counts
    rw [position, ← Nat.add_assoc]
    exact Text.clear_succ_of_ne (differs counts)
  · intro frame open_ opener
    rw [frames] at open_
    rw [position, ← Nat.add_assoc]
    have inside := awaited.stacked.mode_eq open_ opener
    exact (awaited.awaits frame open_ opener).past_char (differs (by rw [inside]; rfl))

/-- Where a step that takes a rule leads to a place at which runs are markup, the place is clear. -/
theorem step_clear (awaited : state.RunsAwaited source place text setting)
    (part : setting.ReadsPart source text) (chosen : state.choice? setting = some choice)
    (counts : ((state.step setting).mode setting).countsRuns = true) :
    source.Clear (setting.offset + (state.step setting).position) := by
  have applies := State.choice?_applies chosen
  rw [State.step_position_of_some chosen, ← Nat.add_assoc]
  apply awaited.toRuns.clear_after part applies
  cases paired : choice.pairing with
  | some pairing => exact .inr (.inr (applies.closes_ne_nil paired))
  | none =>
      rcases applies.unpaired paired with ⟨isFront, _⟩ | ⟨notFront, _⟩
      · exact .inr (.inl isFront)
      · have frames := (State.step_stands chosen paired notFront).2
        rw [State.mode, frames] at counts
        exact .inl counts

theorem frame_awaits (awaited : state.RunsAwaited source place text setting)
    (part : setting.ReadsPart source text) (applies : choice.Applies setting state)
    (opener : (choice.frame setting state).front.kind = .verbatimOpener) :
    (choice.frame setting state).Awaits source
      (setting.offset + state.position + choice.lexeme.length) := by
  have kind : choice.rule.kind = .verbatimOpener := by
    rw [← choice.token_kind setting state]
    exact opener
  obtain ⟨isRun, arity, _⟩ := awaited.toRuns.isRun_of_taken part awaited.clear applies kind
  have start : (choice.frame setting state).front.start = setting.offset + state.position :=
    choice.token_start setting state
  have sameArity : (choice.frame setting state).arity = choice.lexeme.length := arity
  constructor
  · rw [start, sameArity]
    exact isRun
  · intro other after before
    rw [start, sameArity] at after
    omega

/-- After a step that takes a rule, all open runs still wait. -/
theorem step_awaits (awaited : state.RunsAwaited source place text setting)
    (part : setting.ReadsPart source text) (chosen : state.choice? setting = some choice) :
    ∀ frame ∈ (state.step setting).frames, frame.front.kind = .verbatimOpener →
      frame.Awaits source (setting.offset + (state.step setting).position) := by
  have applies := State.choice?_applies chosen
  have rules := awaited.free.rules_eq
  have stacked := awaited.stacked
  rw [State.step_position_of_some chosen, ← Nat.add_assoc]
  intro frame open_ opener
  cases paired : choice.pairing with
  | some pairing =>
      have pairs := applies.pairs paired
      rw [(State.step_folds awaited.free.fold_eq chosen paired).2] at open_
      have outer : frame ∈ state.frames := by
        rw [pairs.frames_eq]
        exact List.mem_append_right _ (List.mem_cons_of_mem _ open_)
      apply awaited.awaits_after part applies outer opener
      -- the front that is closed was open inside this run
      have whole : Frame.Stacked setting.place setting.mode state.frames := stacked
      rw [pairs.frames_eq] at whole
      rw [← (applies.closes_front rules stacked.fronted paired).2.1]
      exact whole.of_append.arity_ne_of_mem open_ opener
  | none =>
      rcases applies.unpaired paired with ⟨isFront, _⟩ | ⟨notFront, _⟩
      · have frames := (State.step_opens_front chosen paired isFront).2
        rw [frames] at open_
        rcases List.mem_cons.mp open_ with rfl | earlier
        · exact awaited.frame_awaits part applies opener
        · apply awaited.awaits_after part applies earlier opener
          have opened : Frame.Stacked setting.place setting.mode (state.step setting).frames :=
            (stacked_kept rules).step stacked
          rw [frames] at opened
          exact opened.arity_ne_of_mem earlier opener
      · rw [(State.step_stands chosen paired notFront).2] at open_
        have kind := applies.kind_of_open rules stacked open_ opener
        rw [Rule.eq_verbatimOpener (applies.rule_mem_ofMode rules) kind] at notFront
        contradiction

theorem step (awaited : state.RunsAwaited source place text setting)
    (part : setting.ReadsPart source text) (ahead : state.rest ≠ []) :
    (state.step setting).RunsAwaited source place text setting := by
  cases chosen : state.choice? setting with
  | none => exact awaited.step_passes part ahead chosen
  | some choice =>
      exact ⟨awaited.toRuns.step, (stacked_kept awaited.free.rules_eq).step awaited.stacked,
        awaited.step_clear part chosen, awaited.step_awaits part chosen⟩

end State.RunsAwaited

theorem State.RunsAwaited.pair_closed (awaited : state.RunsAwaited source place text setting)
    (part : setting.ReadsPart source text) (applies : choice.Applies setting state)
    (paired : choice.pairing = some pairing) :
    (foldPair pairing.kind pairing.frame.front (pairing.children (state.flush setting).siblings)
      (choice.token setting state)).RunClosed source := by
  intro isSpan
  rw [foldPair_kind] at isSpan
  have rules := awaited.free.rules_eq
  obtain ⟨closes, sameArity, _, _, opened⟩ :=
    applies.closes_front rules awaited.stacked.fronted paired
  rw [isSpan] at closes
  obtain ⟨frontOpener, opener⟩ := Rule.of_closes_verbatim (applies.rule_mem_ofMode rules) closes
  obtain ⟨isRun, arity, consumed⟩ := awaited.toRuns.isRun_of_taken part awaited.clear applies opener
  have open_ : pairing.frame ∈ state.frames := by
    rw [(applies.pairs paired).frames_eq]
    exact List.mem_append_right _ List.mem_cons_self
  have awaits := awaited.awaits pairing.frame open_ frontOpener
  rw [arity] at sameArity
  have backText :
      (choice.token setting state).text = List.replicate pairing.frame.arity '\x60' := by
    rw [choice.token_text, consumed, sameArity]
  have stop : (choice.token setting state).stop - pairing.frame.arity =
      setting.offset + state.position := by
    rw [choice.token_stop, applies.length_consumed, sameArity, Nat.add_sub_cancel]
  refine ⟨pairing.frame.arity, ⟨isSpan, awaits.opened.positive, ?_⟩, awaits.opened, ?_, ?_⟩
  · simp only [foldPair, opened.run_text frontOpener, backText]
  · simp only [foldPair, stop]
    rw [sameArity]
    exact isRun
  · simp only [foldPair, stop]
    exact awaits.noneSince

/-- In all shorter parts of a source, read as inner texts are, spans are closed by the next run of
their length. -/
def ShorterClosed (source place text : Text) : Prop :=
  ∀ offset inner, inner.length < text.length → source.Stands offset inner →
    source.Clear offset → source.Clear (offset + inner.length) →
      ∀ token ∈ (readFreely true place .prose false offset inner).tokens,
        token.Everywhere (RunClosed source)

theorem State.RunsAwaited.token_closed (awaited : state.RunsAwaited source place text setting)
    (part : setting.ReadsPart source text) (shorter : ShorterClosed source place text)
    (applies : choice.Applies setting state) :
    (choice.token setting state).Everywhere (RunClosed source) := by
  have runs := awaited.toRuns
  have rules := runs.free.rules_eq
  have ruleMember := applies.rule_mem_ofMode rules
  rw [everywhere_iff]
  constructor
  · apply RunClosed.of_kind_ne
    rw [choice.token_kind]
    exact Rule.kind_ne_verbatim ruleMember
  · intro child member
    rcases applies.marks_or rules with ⟨span, marks⟩ | ⟨_, childless⟩
    · obtain ⟨found, success, lexeme⟩ := applies.found
      have inner := marks.lexeme_inner
      have length := (applies.inner_length rules runs.inside inner).2
      rw [lexeme] at inner
      obtain ⟨first, last⟩ := Rule.inner_clear ruleMember success inner
      have nonempty := marks.nonempty
      have bounded := marks.bounded
      have within : span.stop ≤ state.rest.length := by
        rw [applies.length_consumed] at bounded
        exact Nat.le_trans bounded applies.length_le
      have stands := runs.stands_rest part
      rw [← List.take_append_drop choice.lexeme.length state.rest, Text.stands_append] at stands
      rw [marks.children_eq, runs.free.readInner_eq _ _ _ length, marks.prose] at member
      refine shorter _ _ length (stands.1.slice ?_) ?_ ?_ child member
      · exact Nat.le_trans (Nat.le_of_lt nonempty) bounded
      · exact runs.clear_of_rest part marks.positive (by omega) first
      · rw [Text.length_slice bounded, Nat.add_assoc, Nat.add_sub_cancel' (Nat.le_of_lt nonempty)]
        exact runs.clear_of_rest part (Nat.zero_lt_of_lt nonempty) within last
    · rw [childless] at member
      contradiction

theorem runClosed_makes (part : setting.ReadsPart source text)
    (shorter : ShorterClosed source place text) :
    Makes setting (State.RunsAwaited source place text setting)
      (Everywhere (RunClosed source)) where
  stepwise := fun _ awaited ahead => awaited.step part ahead
  keptInText := by
    apply KeptInText.everywhere
    apply KeptInText.of_plain
    exact fun _ isText _ => .of_kind_ne (by simp [isText])
  text := fun _ _ _ => everywhere_of_children_eq_nil rfl (.of_kind_ne (by simp [leaf]))
  token := fun _ _ chosen awaited _ =>
    awaited.token_closed part shorter (State.choice?_applies chosen)
  pair := fun _ _ _ _ applies paired awaited _ _ children =>
    everywhere_iff.mpr ⟨awaited.pair_closed part applies paired, children⟩

/-- In a part of a source with a clear place at both ends, every span is closed by the next run of
its length.  The induction is on the length of the part, since inner texts are read anew. -/
theorem readFreely_closed (place : Text) (mode : Mode) (beginsLine : Bool) {offset : Nat}
    (stands : source.Stands offset text) (first : source.Clear offset)
    (last : source.Clear (offset + text.length)) :
    ∀ token ∈ (readFreely true place mode beginsLine offset text).tokens,
      token.Everywhere (RunClosed source) := by
  induction size : text.length using Nat.strongRecOn generalizing text mode beginsLine offset
  rename_i size induction
  subst size
  let setting := freeSetting place mode beginsLine offset text
  have part : setting.ReadsPart source text := ⟨stands, last⟩
  have initial : (State.initial text).RunsAwaited source place text setting :=
    ⟨.initial (freeSetting_free mode beginsLine offset), .nil, fun _ => first,
      by simp [State.initial]⟩
  rw [readFreely_eq]
  apply (runClosed_makes part _).scanText initial
  intro offset inner shorter stands first last
  exact induction inner.length shorter .prose false stands first last rfl

end Scan

namespace Lex

open Token

/-- With enough room for the whole passage, every verbatim span begins with a run of backticks and
ends with the next run of the same length, so no run inside it has that length. -/
theorem verbatim_closed_by_next (options : Options) (source : Text)
    (enough : source.length ≤ options.maxDepth) :
    (lex { options with fold := true } source).Everywhere fun token => token.kind = .verbatim →
      ∃ length, token.Spans length ∧ token.ClosedByNext source length ∧
        token.inner ≠ [] ∧ token.inner.head? ≠ some '\x60' ∧
          token.inner.getLast? ≠ some '\x60' ∧ ∀ start, ¬token.inner.IsRun length start := by
  have free : (lex { options with fold := true } source).children =
      (Scan.readFreely true options.place options.mode true 0 source).tokens :=
    congrArg Scan.Outcome.tokens
      (Scan.read_eq_readFreely true options.place options.mode true 0 enough)
  have laid : Laid source 0 (lex { options with fold := true } source).children
      (0 + source.length) :=
    Scan.read_laid true options.place _ options.mode true (Text.stands_self source)
  rw [everywhere_iff]
  refine ⟨fun isSpan => by contradiction, ?_⟩
  intro child member node inside isSpan
  have placed := laid.placed child member node inside
  rw [free] at member
  have ends : source.Clear (0 + source.length) := by
    rw [Nat.zero_add]
    exact source.clear_length
  obtain ⟨length, spans, closed⟩ := Scan.readFreely_closed options.place options.mode true
    (Text.stands_self source) source.clear_zero ends child member node inside isSpan
  exact ⟨length, spans, closed, closed.inner placed spans⟩

theorem shorter_run_passed :
    "\x60\x60a\x60b\x60\x60 c".toList.length ≤ ({} : Options).maxDepth ∧
      ∃ token ∈ (lex {} "\x60\x60a\x60b\x60\x60 c".toList).children,
        token.kind = .verbatim ∧ token.inner = "a\x60b".toList ∧
          ∃ length, token.Spans length ∧
            token.ClosedByNext "\x60\x60a\x60b\x60\x60 c".toList length ∧
              token.inner ≠ [] ∧ token.inner.head? ≠ some '\x60' ∧
                token.inner.getLast? ≠ some '\x60' ∧ ∀ start, ¬token.inner.IsRun length start := by
  have enough : "\x60\x60a\x60b\x60\x60 c".toList.length ≤ ({} : Options).maxDepth := by decide
  have every := (everywhere_iff.mp
    (verbatim_closed_by_next {} "\x60\x60a\x60b\x60\x60 c".toList enough)).2
  exact ⟨enough, _, .head _, rfl, rfl, (every _ (.head _)).here rfl⟩

end Lex

end PassageMarkup
