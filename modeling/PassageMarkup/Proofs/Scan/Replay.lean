import PassageMarkup.Proofs.Scan.Free

/-!
# A part of a scan by itself

The text from an open front up to a back can be scanned by itself.  Such a scan `Mirrors` the scan
of the whole text: it has the same text ahead up to the back, and the same tokens and fronts after
the front from which it began.  Both decide alike about every rule, as far as what is taken does not
go past the back.
-/

namespace PassageMarkup

namespace Scan

variable {setting apart : Setting} {state later : State} {frame : Frame} {outer : List Frame}
  {text part suffix place : Text} {rule : Rule} {choice : Choice}

/-- The same text is ahead at two places that count alike, but the text ends sooner at one. -/
structure Aligned (setting apart : Setting) (suffix : Text) (state later : State) : Prop where
  rest_eq : state.rest = later.rest ++ suffix
  place_eq : setting.offset + state.position = apart.offset + later.position

/-- A front as the first one of a text. -/
def Frame.alone (frame : Frame) : Frame :=
  { frame with before := [] }

/-- A scan of a part has come to the same place as a scan of the whole text. -/
structure Mirrors (setting apart : Setting) (frame : Frame) (outer : List Frame) (suffix : Text)
    (state later : State) : Prop extends Aligned setting apart suffix state later where
  pending_eq : later.pending = state.pending
  siblings_eq : later.siblings = state.siblings
  frames_eq : ∃ inner, state.frames = inner ++ frame :: outer ∧
    later.frames = inner ++ [frame.alone]

namespace Mirrors

variable (mirrors : Mirrors setting apart frame outer suffix state later)
include mirrors

theorem preceding_eq : later.preceding apart = state.preceding setting := by
  obtain ⟨inner, frames, laterFrames⟩ := mirrors.frames_eq
  rw [State.preceding, State.preceding, mirrors.siblings_eq, frames, laterFrames]
  cases state.siblings with
  | cons token others => rfl
  | nil => cases inner <;> rfl

theorem mode_eq (formed : state.Formed setting) : later.mode apart = state.mode setting := by
  obtain ⟨inner, frames, laterFrames⟩ := mirrors.frames_eq
  obtain ⟨current, nested, _⟩ := formed
  rw [nested.mode_eq, State.mode, laterFrames]
  rw [frames] at nested
  cases inner with
  | nil =>
      cases nested with
      | cons deeper before opened => simp [Frame.alone, opened.innerMode_eq]
  | cons first inner =>
      cases nested with
      | cons deeper before opened => simp [opened.innerMode_eq]

theorem ahead (ends : EndsWithBack later.rest) : state.rest ≠ [] := by
  rw [mirrors.rest_eq]
  exact List.append_ne_nil_of_left_ne_nil ends.ne_nil suffix

theorem pairing?_eq_none {arity : Nat} (none : Frame.pairing? rule arity state.frames = none) :
    Frame.pairing? rule arity later.frames = .none := by
  obtain ⟨inner, frames, laterFrames⟩ := mirrors.frames_eq
  rw [frames] at none
  rw [laterFrames]
  clear frames laterFrames
  induction inner with
  | nil =>
      have unresolved :
          rule.resolves frame.front.kind frame.rule.aka frame.arity arity = .none := by
        rw [List.nil_append, Frame.pairing?] at none
        split at none
        · contradiction
        · assumption
      simp [Frame.pairing?, Frame.alone, unresolved]
  | cons first inner induction =>
      rw [List.cons_append, Frame.pairing?] at none
      rw [List.cons_append, Frame.pairing?]
      cases resolves : rule.resolves first.front.kind first.rule.aka first.arity arity with
      | some kind =>
          rw [resolves] at none
          contradiction
      | none =>
          rw [resolves] at none
          by_cases stops : rule.stopsAt first.front.kind first.rule.aka = true
          · simp [stops]
          · simp only [stops, Bool.false_eq_true, if_false, Option.map_eq_none_iff] at none
            simp [stops, induction none]

section

variable (runs : Runs place text setting state) (laterRuns : Runs place part apart later)
  (ends : EndsWithBack later.rest) {mode : Mode} (member : rule ∈ Rule.ofMode mode)
include runs laterRuns ends member

theorem judgeLexeme_skip {found longer : Match}
    (skipped : state.judgeLexeme setting rule (rule.lexeme longer) = .skip) :
    later.judgeLexeme apart rule (rule.lexeme found) = .skip := by
  rw [State.judgeLexeme_of_room (runs.frames_lt (mirrors.ahead ends))] at skipped
  rw [State.judgeLexeme_of_room (laterRuns.frames_lt ends.ne_nil)]
  cases unpaired : Frame.pairing? rule (rule.lexeme longer).arity state.frames with
  | some pairing =>
      rw [unpaired] at skipped
      contradiction
  | none =>
      rw [unpaired] at skipped
      simp only at skipped
      split at skipped
      · contradiction
      · -- Only a back is skipped, and all backs have the same arity.
        rename_i isBack
        obtain ⟨notFront, closes⟩ := not_or.mp isBack
        have arity := Rule.arity_of_back member (by simpa using notFront) closes
        rw [arity] at unpaired
        rw [arity, mirrors.pairing?_eq_none unpaired]
        exact if_neg isBack

theorem judge_skip (skipped : state.judge setting rule = .skip) :
    later.judge apart rule = .skip := by
  cases success : rule.pattern.find? later.rest with
  | none => exact State.judge_eq_skip success
  | some found =>
      have more := (Rule.pattern_settled member ends).isSome_append success suffix
      rw [← mirrors.rest_eq] at more
      obtain ⟨longer, successToo⟩ := Option.isSome_iff_exists.mp more
      rw [State.judge_of_found runs member successToo] at skipped
      rw [State.judge_of_found laterRuns member success, mirrors.preceding_eq,
        mirrors.pending_eq]
      split at skipped
      · rename_i admitted
        rw [if_pos admitted]
        exact mirrors.judgeLexeme_skip runs laterRuns ends member skipped
      · rename_i forbidden
        rw [if_neg forbidden]

theorem judge_accept {lexeme : Lexeme} {pairing : Option Pairing}
    (accepted : state.judge setting rule = .accept lexeme pairing)
    (within : lexeme.length ≤ later.rest.length)
    (paired : (Frame.pairing? rule lexeme.arity later.frames).isSome = pairing.isSome) :
    later.judge apart rule = .accept lexeme (Frame.pairing? rule lexeme.arity later.frames) := by
  cases success : rule.pattern.find? state.rest with
  | none =>
      rw [State.judge_eq_skip success] at accepted
      contradiction
  | some found =>
      have laterRoom := laterRuns.frames_lt ends.ne_nil
      rw [State.judge_of_found runs member success] at accepted
      split at accepted
      · rename_i admitted
        obtain ⟨rfl, _, unpaired⟩ := State.judgeLexeme_accept accepted
        rw [mirrors.rest_eq] at success
        obtain ⟨same, laterSuccess, sameLexeme⟩ := Rule.find?_of_append member ends success within
        rw [State.judge_of_found laterRuns member laterSuccess, mirrors.preceding_eq,
          mirrors.pending_eq, if_pos admitted, State.judgeLexeme_of_room laterRoom, sameLexeme]
        cases search : Frame.pairing? rule (rule.lexeme found).arity later.frames with
        | some pairing => rfl
        | none =>
            rw [search] at paired
            have nothing : pairing = none := by simpa using paired.symm
            exact if_pos ((unpaired nothing).imp And.left And.right)
      · contradiction

omit member

theorem choose_none {rules : List Rule} (known : ∀ rule ∈ rules, rule ∈ Rule.ofMode mode)
    (nothing : (state.choose setting rules).2 = none) : (later.choose apart rules).2 = none := by
  induction rules with
  | nil => rfl
  | cons rule rules induction =>
      rw [List.forall_mem_cons] at known
      have room := runs.frames_lt (mirrors.ahead ends)
      rw [State.choose] at nothing ⊢
      cases judged : state.judge setting rule with
      | skip =>
          rw [judged] at nothing
          rw [mirrors.judge_skip runs laterRuns ends known.1 judged]
          exact induction known.2 nothing
      | refuse => exact absurd judged (State.judge_ne_refuse room)
      | accept lexeme pairing =>
          rw [judged] at nothing
          contradiction

theorem choose_some {rules : List Rule} (known : ∀ rule ∈ rules, rule ∈ Rule.ofMode mode)
    (chosen : (state.choose setting rules).2 = some choice)
    (within : choice.lexeme.length ≤ later.rest.length)
    (paired : (Frame.pairing? choice.rule choice.lexeme.arity later.frames).isSome =
      choice.pairing.isSome) :
    (later.choose apart rules).2 =
      some { choice with
        pairing := Frame.pairing? choice.rule choice.lexeme.arity later.frames } := by
  induction rules with
  | nil => contradiction
  | cons rule rules induction =>
      rw [List.forall_mem_cons] at known
      have room := runs.frames_lt (mirrors.ahead ends)
      rw [State.choose] at chosen ⊢
      cases judged : state.judge setting rule with
      | skip =>
          rw [judged] at chosen
          rw [mirrors.judge_skip runs laterRuns ends known.1 judged]
          exact induction known.2 chosen
      | refuse => exact absurd judged (State.judge_ne_refuse room)
      | accept lexeme pairing =>
          rw [judged] at chosen
          cases chosen
          rw [mirrors.judge_accept runs laterRuns ends known.1 judged within
            paired]

end

end Mirrors

theorem Aligned.token_eq (aligned : Aligned setting apart suffix state later)
    (runs : Runs place text setting state) (laterRuns : Runs place part apart later)
    (applies : choice.Applies setting state)
    (within : choice.lexeme.length ≤ later.rest.length) :
    choice.token apart later = choice.token setting state := by
  have consumed : choice.consumed later = choice.consumed state := by
    rw [Choice.consumed, Choice.consumed, aligned.rest_eq, List.take_append_of_le_length within]
  have inner : ∀ span, choice.lexeme.inner = some span → ∀ start,
      readInner apart choice.rule start ((choice.consumed state).slice span) =
        readInner setting choice.rule start ((choice.consumed state).slice span) := by
    intro span marked start
    obtain ⟨positive, nonempty, bounded⟩ := applies.inner_bounds runs.free.rules_eq marked
    have total := laterRuns.inside.position_add_rest
    have shorter := (applies.inner_length runs.free.rules_eq runs.inside marked).2
    have laterShorter : ((choice.consumed state).slice span).length < part.length := by
      rw [Text.length_slice (by rw [applies.length_consumed]; exact bounded)]
      omega
    rw [runs.free.readInner_eq _ _ _ shorter, laterRuns.free.readInner_eq _ _ _ laterShorter]
  rw [Choice.token, Choice.token, makeToken, makeToken, ← Choice.consumed, ← Choice.consumed,
    consumed, aligned.place_eq, laterRuns.free.place_eq, runs.free.place_eq,
    laterRuns.free.fold_eq, runs.free.fold_eq]
  cases marked : choice.lexeme.inner with
  | none => rfl
  | some span =>
      rw [← aligned.place_eq]
      simp only [if_true, inner span marked]

namespace Mirrors

variable (mirrors : Mirrors setting apart frame outer suffix state later)
include mirrors

theorem withEvents (events laterEvents : List Event) :
    Mirrors setting apart frame outer suffix { state with events }
      { later with events := laterEvents } :=
  ⟨⟨mirrors.rest_eq, mirrors.place_eq⟩, mirrors.pending_eq, mirrors.siblings_eq,
    mirrors.frames_eq⟩

theorem flush_siblings (runs : Runs place text setting state)
    (laterRuns : Runs place part apart later) :
    (later.flush apart).siblings = (state.flush setting).siblings := by
  have pending := mirrors.pending_eq
  unfold State.flush
  rw [pending]
  split
  · exact mirrors.siblings_eq
  · have start := mirrors.place_eq
    have before := runs.inside.pending_le
    have laterBefore := laterRuns.inside.pending_le
    rw [pending] at laterBefore
    have same : apart.offset + (later.position - state.pending.length) =
        setting.offset + (state.position - state.pending.length) := by
      omega
    simp only [mirrors.siblings_eq, laterRuns.free.place_eq, runs.free.place_eq, same]

theorem advance (runs : Runs place text setting state) (laterRuns : Runs place part apart later)
    (within : choice.lexeme.length ≤ later.rest.length) :
    Mirrors setting apart frame outer suffix (state.advance setting choice)
      (later.advance apart choice) := by
  have moved := mirrors.place_eq
  constructor
  · constructor
    · simp only [State.advance, mirrors.rest_eq]
      exact List.drop_append_of_le_length within
    · simp only [State.advance]
      omega
  · simp [State.advance]
  · exact mirrors.flush_siblings runs laterRuns
  · obtain ⟨inner, frames, laterFrames⟩ := mirrors.frames_eq
    refine ⟨inner, ?_, ?_⟩
    · rw [State.advance_frames, frames]
    · rw [State.advance_frames, laterFrames]

theorem add_unpaired {token : Token} (unpaired : choice.pairing = none) :
    Mirrors setting apart frame outer suffix (state.add setting choice token)
      (later.add apart choice token) := by
  obtain ⟨inner, frames, laterFrames⟩ := mirrors.frames_eq
  simp only [State.add, unpaired]
  split
  · refine ⟨⟨mirrors.rest_eq, mirrors.place_eq⟩, mirrors.pending_eq, rfl, ?_⟩
    refine ⟨⟨choice.rule, choice.lexeme.arity, token, state.siblings⟩ :: inner, ?_, ?_⟩
    · rw [frames]
      rfl
    · rw [laterFrames, mirrors.siblings_eq]
      rfl
  · refine ⟨⟨mirrors.rest_eq, mirrors.place_eq⟩, mirrors.pending_eq, ?_, inner, frames, laterFrames⟩
    rw [mirrors.siblings_eq]

theorem close {token : Token} {pairing : Pairing} {inner : List Frame}
    (fold : setting.fold = true) (laterFold : apart.fold = true)
    (outside : pairing.outer = inner ++ frame :: outer) :
    Mirrors setting apart frame outer suffix (state.close setting token pairing)
      (later.close apart token { pairing with outer := inner ++ [frame.alone] }) := by
  refine ⟨⟨mirrors.rest_eq, mirrors.place_eq⟩, mirrors.pending_eq, ?_, inner, outside, rfl⟩
  simp only [State.close, fold, laterFold, if_true, mirrors.siblings_eq]

theorem pairing?_inside {arity : Nat} {pairing : Pairing} {inner : List Frame}
    (pairs : Frame.Pairs rule arity state.frames pairing)
    (outside : pairing.outer = inner ++ frame :: outer) :
    Frame.pairing? rule arity later.frames =
      some { pairing with outer := inner ++ [frame.alone] } := by
  obtain ⟨above, frames, laterFrames⟩ := mirrors.frames_eq
  apply Frame.Pairs.pairing?_eq
  have whole := pairs.frames_eq
  rw [frames, outside, ← List.cons_append, ← List.append_assoc] at whole
  have same : above = pairing.abandoned ++ pairing.frame :: inner := List.append_cancel_right whole
  refine ⟨?_, pairs.resolves_eq, pairs.passes⟩
  rw [laterFrames, same]
  simp

theorem pairing?_alone {arity : Nat} {pairing : Pairing}
    (pairs : Frame.Pairs rule arity state.frames pairing) (same : pairing.frame = frame)
    (outside : pairing.outer = outer) :
    Frame.pairing? rule arity later.frames =
      some { pairing with frame := frame.alone, outer := [] } := by
  obtain ⟨above, frames, laterFrames⟩ := mirrors.frames_eq
  apply Frame.Pairs.pairing?_eq
  have whole := pairs.frames_eq
  rw [frames, outside, same] at whole
  have abandoned : above = pairing.abandoned := List.append_cancel_right whole
  have resolves := pairs.resolves_eq
  rw [same] at resolves
  refine ⟨?_, resolves, pairs.passes⟩
  rw [laterFrames, abandoned]

section

variable (runs : Runs place text setting state) (laterRuns : Runs place part apart later)
  (ends : EndsWithBack later.rest)
include runs laterRuns ends

theorem choice?_none (nothing : state.choice? setting = none) : later.choice? apart = none := by
  rw [State.choice?, runs.free.rules_eq] at nothing
  rw [State.choice?, laterRuns.free.rules_eq, mirrors.mode_eq runs.formed]
  exact mirrors.choose_none runs laterRuns ends (fun _ member => member) nothing

theorem choice?_some (chosen : state.choice? setting = some choice)
    (within : choice.lexeme.length ≤ later.rest.length) {pairing : Option Pairing}
    (search : Frame.pairing? choice.rule choice.lexeme.arity later.frames = pairing)
    (paired : pairing.isSome = choice.pairing.isSome) :
    later.choice? apart = some { choice with pairing } := by
  rw [State.choice?, runs.free.rules_eq] at chosen
  rw [State.choice?, laterRuns.free.rules_eq, mirrors.mode_eq runs.formed, ← search]
  rw [← search] at paired
  exact mirrors.choose_some runs laterRuns ends (fun _ member => member) chosen within paired

/-- Where the whole scan goes past a character, so does the scan of the part. -/
theorem step_skip (nothing : state.choice? setting = none) :
    Mirrors setting apart frame outer suffix (state.step setting) (later.step apart) := by
  obtain ⟨c, rest, ahead⟩ := List.exists_cons_of_ne_nil ends.ne_nil
  have wholeAhead : state.rest = c :: (rest ++ suffix) := by
    rw [mirrors.rest_eq, ahead]
    rfl
  obtain ⟨events, step⟩ := State.step_skips wholeAhead nothing
  obtain ⟨laterEvents, laterStep⟩ :=
    State.step_skips ahead (mirrors.choice?_none runs laterRuns ends nothing)
  have moved := mirrors.place_eq
  rw [step, laterStep]
  refine ⟨⟨rfl, ?_⟩, ?_, mirrors.siblings_eq, mirrors.frames_eq⟩
  · simp only
    omega
  · simp only [mirrors.pending_eq]

/-- Where the whole scan takes a rule and the front of the part stays open, the scan of the part
takes the same rule. -/
theorem step_accept (chosen : state.choice? setting = some choice)
    (within : choice.lexeme.length ≤ later.rest.length)
    (stays : frame :: outer <:+ (state.step setting).frames) :
    Mirrors setting apart frame outer suffix (state.step setting) (later.step apart) := by
  have applies := State.choice?_applies chosen
  have token := mirrors.token_eq runs laterRuns applies within
  obtain ⟨events, step⟩ := State.step_of_some chosen
  cases paired : choice.pairing with
  | none =>
      have search := mirrors.pairing?_eq_none (applies.pairing_eq.symm.trans paired)
      have laterChosen :=
        mirrors.choice?_some runs laterRuns ends chosen within search (by rw [paired])
      rw [← paired] at laterChosen
      obtain ⟨laterEvents, laterStep⟩ := State.step_of_some laterChosen
      rw [step, laterStep, token]
      exact ((mirrors.withEvents events laterEvents).advance (runs.withEvents events)
        (laterRuns.withEvents laterEvents) within).add_unpaired paired
  | some pairing =>
      have left : (state.step setting).frames = pairing.outer := by
        rw [step]
        simp only [State.add, paired, State.close]
      rw [left] at stays
      obtain ⟨inner, outside⟩ := stays
      have search := mirrors.pairing?_inside (applies.pairs paired) outside.symm
      have laterChosen :=
        mirrors.choice?_some runs laterRuns ends chosen within search (by rw [paired]; rfl)
      obtain ⟨laterEvents, laterStep⟩ := State.step_of_some laterChosen
      have laterToken : ∀ pairing, Choice.token apart later { choice with pairing } =
          choice.token apart later := fun _ => rfl
      rw [step, laterStep, laterToken, token]
      simp only [State.add, paired]
      exact ((mirrors.withEvents events laterEvents).advance (runs.withEvents events)
        (laterRuns.withEvents laterEvents) within).close runs.free.fold_eq
          laterRuns.free.fold_eq outside.symm

/-- Where the whole scan closes the front of the part with all that is left of the part, the scan of
the part returns the pair alone. -/
theorem step_close {pairing : Pairing} (chosen : state.choice? setting = some choice)
    (paired : choice.pairing = some pairing) (same : pairing.frame = frame)
    (outside : pairing.outer = outer) (whole : later.rest.length = choice.lexeme.length) :
    later.remaining apart = [pairing.pair setting state (choice.token setting state)] := by
  have within : choice.lexeme.length ≤ later.rest.length := Nat.le_of_eq whole.symm
  have applies := State.choice?_applies chosen
  have token := mirrors.token_eq runs laterRuns applies within
  have search := mirrors.pairing?_alone (applies.pairs paired) same outside
  have laterChosen :=
    mirrors.choice?_some runs laterRuns ends chosen within search (by rw [paired]; rfl)
  have siblings := mirrors.flush_siblings runs laterRuns
  have ended : (later.step apart).rest = [] := by
    rw [State.step_rest_of_some laterChosen, ← whole, List.drop_length]
  obtain ⟨laterEvents, laterStep⟩ := State.step_of_some laterChosen
  obtain ⟨between, frames⟩ := State.step_folds laterRuns.free.fold_eq laterChosen rfl
  have settled : (later.step apart).flush apart = later.step apart := by
    rw [State.flush, laterStep, State.add_pending, State.advance, State.flush_pending]
    rfl
  have sameToken : ∀ pairing, Choice.token apart later { choice with pairing } =
      choice.token apart later := fun _ => rfl
  rw [← State.remaining_step ends.ne_nil, State.remaining_of_ended ended, settled, between, frames,
    Pairing.pair, Pairing.pair, siblings, sameToken, token, same]
  rfl

end

end Mirrors

end Scan

end PassageMarkup
