import PassageMarkup.Proofs.Rule.Alone
import PassageMarkup.Proofs.Scan.Replay

/-!
# The front of a part

A part of a text begins with a front that the scan of the whole text opens.  The scan of the part
opens the same front, although it does not know what came before, and mirrors the scan of the whole
text for as long as the front stays open.
-/

namespace PassageMarkup

namespace Rule

theorem front_anywhere {mode : Mode} {rule : Rule} (member : rule ∈ ofMode mode)
    (isFront : rule.front = true) : rule.Anywhere := by
  rcases front_cases member isFront with listed | ⟨emphasis, rfl⟩ | ⟨quote, rfl⟩
  · fin_cases listed <;> exact ⟨rfl, rfl, .inl rfl⟩
  · exact ⟨rfl, rfl, .inl rfl⟩
  · exact ⟨rfl, rfl, .inl rfl⟩

end Rule

namespace Scan

variable {setting apart : Setting} {state later : State} {frame : Frame} {outer : List Frame}
  {text part rest suffix place : Text} {rule : Rule} {choice : Choice}

namespace Runs

theorem find?_eq_none_of_skip (runs : Runs place text setting state) (ahead : state.rest ≠ [])
    {mode : Mode} (member : rule ∈ Rule.ofMode mode) (anywhere : rule.Anywhere)
    (skipped : state.judge setting rule = .skip) : rule.pattern.find? state.rest = none := by
  cases success : rule.pattern.find? state.rest with
  | none => rfl
  | some found =>
      rw [State.judge_of_found runs member success, anywhere.beginsLine,
        anywhere.cannotFollowText, State.judgeLexeme_of_room (runs.frames_lt ahead)] at skipped
      simp only [Bool.not_false, Bool.true_or, Bool.and_self, if_true, anywhere.unpaired] at skipped
      split at skipped <;> contradiction

section

variable (partRuns : Runs place part apart (.initial part)) (ends : EndsWithBack part)
  {mode : Mode} (member : rule ∈ Rule.ofMode mode) (isFront : rule.front = true) {found : Match}
  (success : rule.pattern.find? part = some found)
include partRuns ends member isFront success

/-- At the start of a part, a rule that finds a front takes it. -/
theorem judge_front_initial :
    (State.initial part).judge apart rule = .accept (rule.lexeme found) none := by
  have anywhere := Rule.front_anywhere member isFront
  have room := partRuns.frames_lt ends.ne_nil
  rw [State.judge_of_found partRuns member success, anywhere.beginsLine,
    anywhere.cannotFollowText, State.judgeLexeme_of_room room]
  simp [State.initial, Frame.pairing?, isFront]

/-- A part begins with its front if every rule that was skipped at the front in the whole text finds
nothing in the part. -/
theorem choice?_initial (current : apart.mode = rule.kind.aloneMode)
    (continues : apart.beginsLine = false)
    (nothing : ∀ other ∈ Rule.before mode rule.kind, other.Anywhere →
      other.pattern.find? part = none) :
    (State.initial part).choice? apart = some ⟨rule, rule.lexeme found, none⟩ := by
  obtain ⟨_, _, _, opens⟩ := Rule.front_opens member isFront success
  obtain ⟨rest, begins⟩ : ∃ rest, part = rule.kind.sign :: rest := by
    obtain ⟨others, written⟩ := List.head?_eq_some_iff.mp opens.head?_eq
    rw [(Pattern.find?_splitsOff success).remaining_eq, written]
    exact ⟨_, rfl⟩
  obtain ⟨earlier, others, live, givesWay⟩ := Rule.front_live member isFront
  have skipped : ∀ other ∈ earlier, (State.initial part).judge apart other = .skip := by
    intro other inEarlier
    rcases givesWay other inEarlier with line | ⟨before, anywhere⟩ | ⟨hook, unclosed⟩
    · -- Nothing came before, but the text continues a line.
      simp [State.judge, State.admits, line, State.preceding, State.initial, continues,
        Preceding.beginsLine]
    · exact State.judge_eq_skip (nothing other before anywhere)
    · rw [hook] at success
      rw [unclosed]
      exact State.judge_eq_skip (Rule.unclosedHook_finds_nothing_at_hookFront success)
  have inMode : (State.initial part).mode apart = rule.kind.aloneMode := current
  rw [← inMode] at live
  exact State.choice?_eq_some_of_skipped partRuns.free.rules_eq begins live skipped
    (judge_front_initial partRuns ends member isFront success)

end

theorem choice?_alone (runs : Runs place text setting state)
    (chosen : state.choice? setting = some choice) (isFront : choice.rule.front = true)
    (unpaired : choice.pairing = none) (ahead : state.rest = part ++ suffix)
    (within : choice.lexeme.length ≤ part.length) (ends : EndsWithBack part)
    (partRuns : Runs place part apart (.initial part))
    (mode : apart.mode = choice.rule.kind.aloneMode) (continues : apart.beginsLine = false) :
    (State.initial part).choice? apart = some choice := by
  have applies := State.choice?_applies chosen
  have member := applies.rule_mem
  rw [runs.free.rules_eq] at member
  have notEmpty : state.rest ≠ [] := by
    rw [ahead]
    exact List.append_ne_nil_of_left_ne_nil ends.ne_nil suffix
  obtain ⟨found, success, lexeme⟩ := applies.found
  rw [ahead] at success
  rw [lexeme] at within
  obtain ⟨same, partSuccess, sameLexeme⟩ := Rule.find?_of_append member ends success within
  have nothing : ∀ other ∈ Rule.before (state.mode setting) choice.rule.kind, other.Anywhere →
      other.pattern.find? part = none := by
    intro other before anywhere
    have inMode := (List.takeWhile_sublist _).subset before
    have skipped : state.judge setting other = .skip := by
      apply State.skipped_of_chosen (runs.frames_lt notEmpty) _ other before
      rw [← runs.free.rules_eq]
      exact chosen
    have nothing := runs.find?_eq_none_of_skip notEmpty inMode anywhere skipped
    rw [ahead] at nothing
    exact Rule.find?_eq_none_of_append inMode ends nothing
  rw [choice?_initial partRuns ends member isFront partSuccess mode continues nothing, sameLexeme,
    ← lexeme, ← unpaired]

/-- The first step of a part opens the front, and from then on the part mirrors the whole text. -/
theorem step_alone (runs : Runs place text setting state)
    (chosen : state.choice? setting = some choice) (isFront : choice.rule.front = true)
    (unpaired : choice.pairing = none) (ahead : state.rest = part ++ suffix)
    (within : choice.lexeme.length ≤ part.length) (ends : EndsWithBack part)
    (partRuns : Runs place part apart (.initial part))
    (mode : apart.mode = choice.rule.kind.aloneMode) (continues : apart.beginsLine = false)
    (offset : setting.offset + state.position = apart.offset) :
    Mirrors setting apart (choice.frame setting state) state.frames suffix (state.step setting)
      ((State.initial part).step apart) := by
  have partChosen := runs.choice?_alone chosen isFront unpaired ahead within ends partRuns mode
    continues
  have aligned : Aligned setting apart suffix state (.initial part) := ⟨ahead, offset⟩
  have token := aligned.token_eq runs partRuns (State.choice?_applies chosen) within
  obtain ⟨siblings, frames⟩ := State.step_opens_front chosen unpaired isFront
  obtain ⟨partSiblings, partFrames⟩ := State.step_opens_front partChosen unpaired isFront
  obtain ⟨events, step⟩ := State.step_of_some chosen
  obtain ⟨partEvents, partStep⟩ := State.step_of_some partChosen
  refine ⟨⟨?_, ?_⟩, ?_, partSiblings.trans siblings.symm, [], frames, ?_⟩
  · rw [State.step_rest_of_some chosen, State.step_rest_of_some partChosen, ahead]
    exact List.drop_append_of_le_length within
  · rw [step, partStep, State.add_position, State.add_position]
    simp only [State.advance, State.initial]
    omega
  · rw [step, partStep, State.add_pending, State.add_pending]
    simp only [State.advance, State.flush_pending]
  · rw [partFrames, Choice.frame, token]
    rfl

end Runs

/-- The setting in which a part that begins with an open front is read by itself. -/
def Frame.partSetting (place : Text) (frame : Frame) (part : Text) : Setting :=
  freeSetting place frame.front.kind.aloneMode false frame.front.start part

/-- Wherever a back ends a part that begins with an open front, the scan of the part by itself comes
to the place of a state. -/
def Replays (place : Text) (setting : Setting) (state : State) (frame : Frame)
    (outer : List Frame) : Prop :=
  ∀ rest suffix, state.rest = rest ++ suffix → EndsWithBack rest →
    ∃ part later, Runs place part (frame.partSetting place part) later ∧
      later.remaining (frame.partSetting place part) =
        (State.initial part).remaining (frame.partSetting place part) ∧
      Mirrors setting (frame.partSetting place part) frame outer suffix state later

theorem Replays.opened (runs : Runs place text setting state)
    (chosen : state.choice? setting = some choice) (isFront : choice.rule.front = true)
    (unpaired : choice.pairing = none) :
    Replays place setting (state.step setting) (choice.frame setting state) state.frames := by
  intro rest suffix split ends
  have applies := State.choice?_applies chosen
  let part := choice.consumed state ++ rest
  let apart := (choice.frame setting state).partSetting place part
  have ahead : state.rest = part ++ suffix := by
    rw [State.step_rest_of_some chosen] at split
    rw [List.append_assoc, ← split, Choice.consumed, List.take_append_drop]
  have within : choice.lexeme.length ≤ part.length := by
    rw [List.length_append, applies.length_consumed]
    exact Nat.le_add_right _ _
  have partEnds : EndsWithBack part := ends.append _
  have partRuns : Runs place part apart (.initial part) := .initial (freeSetting_free _ _ _)
  have mode : apart.mode = choice.rule.kind.aloneMode :=
    congrArg Kind.aloneMode (Choice.token_kind setting state choice)
  have offset : setting.offset + state.position = apart.offset :=
    (Choice.token_start setting state choice).symm
  refine ⟨part, (State.initial part).step apart, partRuns.step, ?_, ?_⟩
  · exact State.remaining_step partEnds.ne_nil
  · exact runs.step_alone chosen isFront unpaired ahead within partEnds partRuns mode rfl offset

/-- A front that stays open is replayed after a step, too. -/
theorem Replays.step (runs : Runs place text setting state)
    (replays : Replays place setting state frame outer)
    (stays : frame :: outer <:+ (state.step setting).frames) :
    Replays place setting (state.step setting) frame outer := by
  intro rest suffix split ends
  obtain ⟨consumed, consumes⟩ := @State.step_rest_suffix setting state
  have ahead : state.rest = consumed ++ rest ++ suffix := by
    rw [← consumes, split, List.append_assoc]
  obtain ⟨part, later, laterRuns, same, mirrors⟩ :=
    replays (consumed ++ rest) suffix ahead (ends.append consumed)
  have laterAhead : later.rest = consumed ++ rest :=
    List.append_cancel_right (mirrors.rest_eq.symm.trans ahead)
  have laterEnds : EndsWithBack later.rest := by
    rw [laterAhead]
    exact ends.append consumed
  refine ⟨part, later.step (frame.partSetting place part), laterRuns.step, ?_, ?_⟩
  · rw [State.remaining_step laterEnds.ne_nil, same]
  · cases chosen : state.choice? setting with
    | none => exact mirrors.step_skip runs laterRuns laterEnds chosen
    | some choice =>
        apply mirrors.step_accept runs laterRuns laterEnds chosen _ stays
        have fits := (State.choice?_applies chosen).length_le
        have left := congrArg List.length (State.step_rest_of_some chosen)
        have total := congrArg List.length consumes
        rw [List.length_drop] at left
        rw [List.length_append] at total
        rw [laterAhead, List.length_append]
        omega

end Scan

end PassageMarkup
