import PassageMarkup.Proofs.Rule.Lexeme
import PassageMarkup.Proofs.Scan.Progress

/-!
# Readings with enough room

Inner texts are shorter than the text around them, and a text has more characters than open fronts.
So a reading with as much room as its text has characters never meets the nesting limit, and
returns what a reading without the limit returns.
-/

namespace PassageMarkup

namespace Scan

variable {setting : Setting} {state : State} {choice : Choice} {text : Text}

/-- The part of the text ahead that a choice takes. -/
def Choice.consumed (state : State) (choice : Choice) : Text :=
  state.rest.take choice.lexeme.length

theorem Choice.consumed_eq {state : State} {choice : Choice} {found : Match}
    (success : choice.rule.pattern.find? state.rest = some found)
    (whole : choice.lexeme.length = found.text.length) : choice.consumed state = found.text := by
  rw [consumed, whole, (Pattern.find?_splitsOff success).take_length]

theorem Choice.token_text (setting : Setting) (state : State) (choice : Choice) :
    (choice.token setting state).text = choice.consumed state := by
  obtain ⟨inner, children, token⟩ := choice.token_eq setting state
  rw [token]
  rfl

theorem Choice.token_stop (setting : Setting) (state : State) (choice : Choice) :
    (choice.token setting state).stop =
      setting.offset + state.position + (choice.consumed state).length := by
  obtain ⟨inner, children, token⟩ := choice.token_eq setting state
  rw [token]
  rfl

namespace Choice.Applies

theorem length_consumed (applies : choice.Applies setting state) :
    (choice.consumed state).length = choice.lexeme.length :=
  List.length_take_of_le applies.length_le

/-- The part with markup of its own begins after the start of what is taken and ends with it or
before. -/
theorem inner_bounds (applies : choice.Applies setting state) (rules : setting.rules = Rule.ofMode)
    {span : Span} (marked : choice.lexeme.inner = some span) :
    0 < span.start ∧ span.start < span.stop ∧ span.stop ≤ choice.lexeme.length := by
  have member := applies.rule_mem_ofMode rules
  obtain ⟨found, success, lexeme⟩ := applies.found
  rw [lexeme] at marked ⊢
  exact ⟨Rule.inner_start_pos member success marked, Rule.lexeme_fits member success span marked⟩

/-- An inner text is not empty, and shorter than the text in which it stands. -/
theorem inner_length (applies : choice.Applies setting state) (rules : setting.rules = Rule.ofMode)
    (inside : state.Inside text) {span : Span} (marked : choice.lexeme.inner = some span) :
    0 < ((choice.consumed state).slice span).length ∧
      ((choice.consumed state).slice span).length < text.length := by
  obtain ⟨positive, nonempty, bounded⟩ := applies.inner_bounds rules marked
  have total := inside.position_add_rest
  have fits := applies.length_le
  rw [Text.length_slice (by rw [applies.length_consumed]; exact bounded)]
  omega

end Choice.Applies

/-- A setting with another limit on fronts and another way to read inner texts. -/
def Setting.withLimits (setting : Setting) (room : Nat)
    (reader : Option (Mode → Nat → Text → Outcome)) : Setting :=
  { setting with room := room, readInner := reader }

/-- Two settings read the inner texts of a text alike. -/
def Setting.ReadsAlike (text : Text) (left right : Setting) : Prop :=
  ∀ rule start inner, 0 < inner.length → inner.length < text.length →
    Scan.readInner left rule start inner = Scan.readInner right rule start inner

variable {room : Nat} {reader : Option (Mode → Nat → Text → Outcome)}

namespace State

theorem judge_refuse {rule : Rule} (refused : state.judge setting rule = .refuse) :
    rule.front = true ∧ setting.room ≤ state.frames.length ∧
      ∃ found, rule.pattern.find? state.rest = some found ∧
        Frame.pairing? rule (rule.lexeme found).arity state.frames = none := by
  unfold judge at refused
  split at refused
  · split at refused
    · contradiction
    · rename_i found success
      simp only at refused
      split at refused
      · contradiction
      · unfold judgeLexeme at refused
        split at refused
        · contradiction
        · rename_i unpaired
          split at refused
          · rename_i isFront
            split at refused
            · rename_i full
              exact ⟨isFront, full, found, success, unpaired⟩
            · contradiction
          · split at refused <;> contradiction
  · contradiction

theorem choose_spares (fewer : state.frames.length < setting.room) (rules : List Rule) :
    (state.choose setting rules).1 = [] := by
  induction rules with
  | nil => rfl
  | cons rule rules induction =>
      rw [choose]
      cases judged : state.judge setting rule with
      | skip => exact induction
      | refuse =>
          have full := (judge_refuse judged).2.1
          omega
      | accept lexeme pairing => rfl

section WithLimits

variable (noTighter : room ≤ state.frames.length → setting.room ≤ state.frames.length)
include noTighter

theorem judgeLexeme_withLimits {rule : Rule} {lexeme : Lexeme}
    (spared : state.judgeLexeme setting rule lexeme ≠ .refuse) :
    state.judgeLexeme (setting.withLimits room reader) rule lexeme =
      state.judgeLexeme setting rule lexeme := by
  unfold judgeLexeme at spared ⊢
  cases paired : Frame.pairing? rule lexeme.arity state.frames with
  | some pairing => rfl
  | none =>
      simp only [paired] at spared ⊢
      by_cases isFront : rule.front = true
      · have fits : ¬setting.room ≤ state.frames.length := by
          intro full
          rw [if_pos isFront, if_pos full] at spared
          exact spared rfl
        have alsoFits : ¬room ≤ state.frames.length := mt noTighter fits
        rw [if_pos isFront, if_pos isFront, if_neg fits]
        exact if_neg alsoFits
      · rw [if_neg isFront, if_neg isFront]

theorem judge_withLimits {rule : Rule} (spared : state.judge setting rule ≠ .refuse) :
    state.judge (setting.withLimits room reader) rule = state.judge setting rule := by
  unfold judge at spared ⊢
  change (if state.admits setting rule = true then _ else _) = _
  split
  · rename_i admitted
    rw [if_pos admitted] at spared
    cases success : rule.pattern.find? state.rest with
    | none => rfl
    | some found =>
        rw [success] at spared
        simp only at spared ⊢
        split
        · rfl
        · rename_i fits
          rw [if_neg fits] at spared
          exact judgeLexeme_withLimits noTighter spared
  · rfl

theorem choose_withLimits {rules : List Rule} (spared : (state.choose setting rules).1 = []) :
    state.choose (setting.withLimits room reader) rules = state.choose setting rules := by
  induction rules with
  | nil => rfl
  | cons rule rules induction =>
      rw [choose] at spared
      have notRefused : state.judge setting rule ≠ .refuse := by
        intro refused
        simp [refused] at spared
      rw [choose, choose, judge_withLimits noTighter notRefused]
      cases judged : state.judge setting rule with
      | skip =>
          rw [judged] at spared
          exact induction spared
      | refuse => contradiction
      | accept lexeme pairing => rfl

end WithLimits

theorem accept_withLimits
    (alike : ∀ span, choice.lexeme.inner = some span → setting.fold = true →
      Scan.readInner (setting.withLimits room reader) choice.rule
          (setting.offset + state.position + span.start) ((choice.consumed state).slice span) =
        Scan.readInner setting choice.rule (setting.offset + state.position + span.start)
          ((choice.consumed state).slice span)) :
    state.accept (setting.withLimits room reader) choice = state.accept setting choice := by
  have made : makeToken (setting.withLimits room reader) choice.rule choice.lexeme
      (setting.offset + state.position) (choice.consumed state) =
        makeToken setting choice.rule choice.lexeme (setting.offset + state.position)
          (choice.consumed state) := by
    unfold makeToken
    cases marked : choice.lexeme.inner with
    | none => rfl
    | some span =>
        by_cases fold : setting.fold = true
        · simp only [alike span marked fold]
          rfl
        · simp only [Setting.withLimits, fold]
          rfl
  have token : choice.token (setting.withLimits room reader) state = choice.token setting state :=
    congrArg Prod.fst made
  have advanced : state.advance (setting.withLimits room reader) choice =
      state.advance setting choice := by
    have events := congrArg Prod.snd made
    unfold Choice.consumed at events
    unfold advance
    simp only [Setting.withLimits] at events ⊢
    rw [events]
    rfl
  rw [accept_eq, accept_eq, token, advanced]
  rfl

/-- Where nothing is refused and the inner text of what is chosen is read alike, limits do not
matter to a step. -/
theorem step_withLimits
    (noTighter : room ≤ state.frames.length → setting.room ≤ state.frames.length)
    (spared : (state.choose setting (setting.rules (state.mode setting))).1 = [])
    (alike : ∀ choice, state.choice? setting = some choice → ∀ span,
      choice.lexeme.inner = some span → setting.fold = true →
        Scan.readInner (setting.withLimits room reader) choice.rule
            (setting.offset + state.position + span.start) ((choice.consumed state).slice span) =
          Scan.readInner setting choice.rule (setting.offset + state.position + span.start)
            ((choice.consumed state).slice span)) :
    state.step (setting.withLimits room reader) = state.step setting := by
  have chosen : state.choose (setting.withLimits room reader)
      ((setting.withLimits room reader).rules (state.mode (setting.withLimits room reader))) =
        state.choose setting (setting.rules (state.mode setting)) :=
    choose_withLimits noTighter spared
  have choice : state.choice? (setting.withLimits room reader) = state.choice? setting :=
    congrArg Prod.snd chosen
  have noted : state.noted (setting.withLimits room reader) = state.noted setting := by
    unfold State.noted
    rw [chosen]
    rfl
  rw [step_eq_noted, step_eq_noted, choice, noted]
  cases applied : state.choice? setting with
  | none => rfl
  | some choice => exact accept_withLimits (alike choice applied)

theorem run_withLimits (rules : setting.rules = Rule.ofMode) (inside : state.Inside text)
    (left : text.length ≤ setting.room) (right : text.length ≤ room)
    (alike : Setting.ReadsAlike text (setting.withLimits room reader) setting) (bound : Nat) :
    state.run (setting.withLimits room reader) bound = state.run setting bound := by
  apply inside_kept.stepwise.run_eq _ inside
  intro state inside ahead
  have fewer := inside.frames_lt ahead
  apply step_withLimits (by omega) (choose_spares (by omega) _)
  intro choice chosen span marked _
  obtain ⟨positive, shorter⟩ := (choice?_applies chosen).inner_length rules inside marked
  exact alike choice.rule _ _ positive shorter

end State

/-- Limits do not matter to a scan as long as they allow as many fronts as there are characters. -/
theorem scanText_withLimits (rules : setting.rules = Rule.ofMode)
    (left : text.length ≤ setting.room) (right : text.length ≤ room)
    (alike : Setting.ReadsAlike text (setting.withLimits room reader) setting) :
    scanText (setting.withLimits room reader) text = scanText setting text := by
  unfold scanText
  rw [State.run_withLimits rules (.initial text) left right alike]
  rfl

/-- Reads a text and all its inner texts.  Only inner texts that are shorter than the text are read,
so the reading ends without a limit on nesting. -/
def readFreely (fold : Bool) (place : Text) (mode : Mode) (beginsLine : Bool) (offset : Nat)
    (text : Text) : Outcome :=
  scanText
    { rules := Rule.ofMode, fold, place, mode, beginsLine, offset
      room := text.length
      horizon := .ofText text
      readInner := some fun innerMode innerOffset inner =>
        if inner.length < text.length then
          readFreely fold place innerMode false innerOffset inner
        else ⟨[], []⟩ }
    text
termination_by text.length

/-- With as much room as a text has characters, a reading never meets the limit. -/
theorem read_eq_readFreely (fold : Bool) (place : Text) {room : Nat} (mode : Mode)
    (beginsLine : Bool) (offset : Nat) {text : Text} (enough : text.length ≤ room) :
    read Rule.ofMode fold place room mode beginsLine offset text =
      readFreely fold place mode beginsLine offset text := by
  induction size : text.length using Nat.strongRecOn generalizing room mode beginsLine offset text
  rename_i size induction
  subst size
  rw [read_eq, readFreely]
  symm
  apply @scanText_withLimits (readSetting Rule.ofMode fold place room mode beginsLine offset text)
    _ _ _ rfl enough (Nat.le_refl _)
  intro rule start inner positive shorter
  have more : ¬room ≤ 1 := by omega
  have roomy : inner.length ≤ room - 1 := by omega
  simp only [readInner, Setting.withLimits, readSetting, if_pos shorter, if_neg more]
  exact (induction inner.length shorter _ _ _ roomy rfl).symm

end Scan

end PassageMarkup
