import PassageMarkup.Proofs.Rule.Settled
import PassageMarkup.Proofs.Scan.Formation
import PassageMarkup.Proofs.Scan.Prefilter
import PassageMarkup.Proofs.Scan.Room
import PassageMarkup.Proofs.Scan.Writes

/-!
# Scans with enough room

Where the limit on nesting cannot be met, no rule is ever refused: what is decided about a rule
depends only on what its pattern finds, on what comes before the place and on the open fronts.
-/

namespace PassageMarkup

namespace Scan

variable {setting : Setting} {state : State} {text place : Text} {rule : Rule} {choice : Choice}

/-- A text is read in a setting without meeting the limit on nesting. -/
structure Setting.Free (place text : Text) (setting : Setting) : Prop where
  rules_eq : setting.rules = Rule.ofMode
  fold_eq : setting.fold = true
  place_eq : setting.place = place
  room_ge : text.length ≤ setting.room
  horizon_eq : setting.horizon = .ofText text
  readInner_eq : ∀ rule start inner, inner.length < text.length →
    Scan.readInner setting rule start inner =
      readFreely true place (rule.innerMode.getD .prose) false start inner
  readsFormed : setting.ReadsFormed

/-- The setting in which a text is read without a limit. -/
def freeSetting (place : Text) (mode : Mode) (beginsLine : Bool) (offset : Nat) (text : Text) :
    Setting where
  rules := Rule.ofMode
  fold := true
  place := place
  mode := mode
  beginsLine := beginsLine
  offset := offset
  room := text.length
  horizon := .ofText text
  readInner := some fun innerMode innerOffset inner =>
    if inner.length < text.length then
      readFreely true place innerMode false innerOffset inner
    else ⟨[], []⟩

theorem readFreely_eq (mode : Mode) (beginsLine : Bool) (offset : Nat) :
    readFreely true place mode beginsLine offset text =
      scanText (freeSetting place mode beginsLine offset text) text := by
  rw [readFreely]
  rfl

theorem readFreely_formed (mode : Mode) (beginsLine : Bool) (offset : Nat) :
    ∀ token ∈ (readFreely true place mode beginsLine offset text).tokens,
      ∃ mode, Token.Formed mode token := by
  rw [← read_eq_readFreely true place mode beginsLine offset (Nat.le_refl text.length)]
  exact read_formed place _ mode beginsLine offset text

theorem freeSetting_free (mode : Mode) (beginsLine : Bool) (offset : Nat) :
    (freeSetting place mode beginsLine offset text).Free place text where
  rules_eq := rfl
  fold_eq := rfl
  place_eq := rfl
  room_ge := Nat.le_refl _
  horizon_eq := rfl
  readInner_eq := by
    intro rule start inner shorter
    simp only [readInner, freeSetting, if_pos shorter]
  readsFormed := by
    intro read present innerMode innerOffset inner token member
    cases present
    simp only at member
    split at member
    · exact readFreely_formed innerMode false innerOffset token member
    · contradiction

/-- A scan of a text stands at a state. -/
structure Runs (place text : Text) (setting : Setting) (state : State) : Prop where
  free : setting.Free place text
  inside : state.Inside text
  formed : state.Formed setting

namespace Runs

theorem initial (free : setting.Free place text) : Runs place text setting (.initial text) :=
  ⟨free, .initial text, .initial text⟩

theorem step (runs : Runs place text setting state) :
    Runs place text setting (state.step setting) :=
  ⟨runs.free, inside_kept.step runs.inside,
    (formed_kept runs.free.rules_eq runs.free.fold_eq runs.free.readsFormed).step runs.formed⟩

theorem withEvents (runs : Runs place text setting state) (events : List Event) :
    Runs place text setting { state with events } :=
  ⟨runs.free, runs.inside.withEvents events, runs.formed⟩

theorem frames_lt (runs : Runs place text setting state) (ahead : state.rest ≠ []) :
    state.frames.length < setting.room :=
  Nat.lt_of_lt_of_le (runs.inside.frames_lt ahead) runs.free.room_ge

end Runs

namespace State

theorem admits_of_found {found : Match} (runs : Runs place text setting state) {mode : Mode}
    (member : rule ∈ Rule.ofMode mode)
    (success : rule.pattern.find? state.rest = some found) :
    state.admits setting rule =
      ((!rule.beginsLine || (state.preceding setting).beginsLine) &&
        (!rule.cannotFollowText || state.pending.isEmpty)) := by
  have ahead : rule.closer.all (fun closer => setting.horizon.isAhead closer state.position) =
      true := by
    cases has : rule.closer with
    | none => rfl
    | some closer =>
        rw [runs.inside.rest_eq] at success
        rw [Option.all_some, runs.free.horizon_eq, Horizon.isAhead_iff]
        exact Rule.closer_occurs member has success
  rw [admits, ahead, Bool.and_true]

theorem judgeLexeme_of_room (room : state.frames.length < setting.room) (lexeme : Lexeme) :
    state.judgeLexeme setting rule lexeme =
      match Frame.pairing? rule lexeme.arity state.frames with
      | some pairing => .accept lexeme (some pairing)
      | none =>
        if rule.front = true ∨ rule.closes = [] then .accept lexeme none else .skip := by
  unfold judgeLexeme
  cases Frame.pairing? rule lexeme.arity state.frames with
  | some pairing => rfl
  | none => cases rule.front <;> simp [Nat.not_le_of_lt room]

/-- What is decided about a rule that is tried and finds something depends on the lexeme only. -/
theorem judge_of_admitted {found : Match} {mode : Mode} (member : rule ∈ Rule.ofMode mode)
    (success : rule.pattern.find? state.rest = some found)
    (admitted : state.admits setting rule = true) :
    state.judge setting rule = state.judgeLexeme setting rule (rule.lexeme found) := by
  obtain ⟨within, fits⟩ := Rule.lexeme_length member success
  have positive := (Pattern.find?_splitsOff success).length_pos
  have bounds :
      ¬((rule.lexeme found).length = 0 ∨ state.rest.length < (rule.lexeme found).length) := by
    omega
  simp only [judge, admitted, success]
  simp [bounds]

theorem judge_of_found {found : Match} (runs : Runs place text setting state) {mode : Mode}
    (member : rule ∈ Rule.ofMode mode)
    (success : rule.pattern.find? state.rest = some found) :
    state.judge setting rule =
      if (!rule.beginsLine || (state.preceding setting).beginsLine) &&
        (!rule.cannotFollowText || state.pending.isEmpty) then
        state.judgeLexeme setting rule (rule.lexeme found)
      else .skip := by
  rw [← admits_of_found runs member success]
  split
  · rename_i admitted
    exact judge_of_admitted member success admitted
  · rename_i notAdmitted
    exact if_neg notAdmitted

theorem judge_ne_refuse (room : state.frames.length < setting.room) :
    state.judge setting rule ≠ .refuse := by
  intro refused
  unfold judge at refused
  split at refused
  · split at refused
    · contradiction
    · simp only at refused
      split at refused
      · contradiction
      · rw [judgeLexeme_of_room room] at refused
        split at refused
        · contradiction
        · split at refused <;> contradiction
  · contradiction

theorem skipped_of_chosen {rules : List Rule} (room : state.frames.length < setting.room)
    (chosen : (state.choose setting rules).2 = some choice) :
    ∀ other ∈ rules.takeWhile (·.kind != choice.rule.kind), state.judge setting other = .skip := by
  induction rules with
  | nil => contradiction
  | cons rule rules induction =>
      rw [choose] at chosen
      rw [List.takeWhile_cons]
      cases judged : state.judge setting rule with
      | skip =>
          rw [judged] at chosen
          split
          · rw [List.forall_mem_cons]
            exact ⟨judged, induction chosen⟩
          · simp
      | refuse => exact absurd judged (judge_ne_refuse room)
      | accept lexeme pairing =>
          rw [judged] at chosen
          cases chosen
          simp

theorem skipped_of_none {rules : List Rule} (room : state.frames.length < setting.room)
    (nothing : (state.choose setting rules).2 = none) :
    ∀ rule ∈ rules, state.judge setting rule = .skip := by
  induction rules with
  | nil => simp
  | cons rule rules induction =>
      rw [choose] at nothing
      rw [List.forall_mem_cons]
      cases judged : state.judge setting rule with
      | skip =>
          rw [judged] at nothing
          exact ⟨rfl, induction nothing⟩
      | refuse => exact absurd judged (judge_ne_refuse room)
      | accept lexeme pairing =>
          rw [judged] at nothing
          contradiction

end State

def Choice.frame (setting : Setting) (state : State) (choice : Choice) : Frame :=
  ⟨choice.rule, choice.lexeme.arity, choice.token setting state, (state.flush setting).siblings⟩

/-- The pair that a step folds when it takes a back. -/
def Pairing.pair (setting : Setting) (state : State) (pairing : Pairing) (back : Token) : Token :=
  foldPair pairing.kind pairing.frame.front
    (Token.coalesce (Frame.unwind (state.flush setting).siblings pairing.abandoned).reverse) back

namespace State

theorem step_of_none (nothing : state.choice? setting = none) :
    ∃ events, state.step setting = skipChar { state with events } := by
  obtain ⟨events, step⟩ := step_eq setting state
  rw [nothing] at step
  exact ⟨events, step⟩

theorem step_of_some (chosen : state.choice? setting = some choice) :
    ∃ events, state.step setting =
      add setting (advance setting { state with events } choice) choice
        (choice.token setting state) := by
  obtain ⟨events, step⟩ := step_eq setting state
  rw [chosen] at step
  exact ⟨events, step⟩

theorem step_rest_of_some (chosen : state.choice? setting = some choice) :
    (state.step setting).rest = state.rest.drop choice.lexeme.length := by
  obtain ⟨events, step⟩ := step_of_some chosen
  rw [step, add_rest]
  rfl

theorem step_position_of_none (ahead : state.rest ≠ []) (nothing : state.choice? setting = none) :
    (state.step setting).position = state.position + 1 := by
  obtain ⟨events, step⟩ := step_of_none nothing
  rw [step, skipChar]
  cases rest : state.rest with
  | nil => contradiction
  | cons c others => rfl

theorem step_position_of_some (chosen : state.choice? setting = some choice) :
    (state.step setting).position = state.position + choice.lexeme.length := by
  obtain ⟨events, step⟩ := step_of_some chosen
  rw [step, add_position]
  rfl

theorem step_rest_suffix : (state.step setting).rest <:+ state.rest := by
  cases chosen : state.choice? setting with
  | none =>
      obtain ⟨events, step⟩ := step_of_none chosen
      rw [step, skipChar]
      cases state.rest with
      | nil => exact List.suffix_refl []
      | cons c rest => exact List.suffix_cons c rest
  | some choice =>
      rw [step_rest_of_some chosen]
      exact List.drop_suffix _ _

theorem step_passes (nothing : state.choice? setting = none) :
    (state.step setting).siblings = state.siblings ∧
      (state.step setting).frames = state.frames := by
  obtain ⟨events, step⟩ := step_of_none nothing
  rw [step, skipChar]
  split <;> exact ⟨rfl, rfl⟩

theorem step_stands (chosen : state.choice? setting = some choice)
    (unpaired : choice.pairing = none) (notFront : choice.rule.front = false) :
    (state.step setting).siblings =
        choice.token setting state :: (state.flush setting).siblings ∧
      (state.step setting).frames = state.frames := by
  obtain ⟨events, step⟩ := step_of_some chosen
  rw [step]
  simp only [add, unpaired, notFront, Bool.false_eq_true, if_false, advance,
    flush_siblings_withEvents, flush_frames, and_self]

theorem step_opens_front (chosen : state.choice? setting = some choice)
    (unpaired : choice.pairing = none) (isFront : choice.rule.front = true) :
    (state.step setting).siblings = [] ∧
      (state.step setting).frames = choice.frame setting state :: state.frames := by
  obtain ⟨events, step⟩ := step_of_some chosen
  rw [step]
  simp only [add, unpaired, isFront, if_true, advance, flush_siblings_withEvents, flush_frames,
    true_and]
  rfl

theorem step_folds {pairing : Pairing} (fold : setting.fold = true)
    (chosen : state.choice? setting = some choice) (paired : choice.pairing = some pairing) :
    (state.step setting).siblings =
        pairing.pair setting state (choice.token setting state) :: pairing.frame.before ∧
      (state.step setting).frames = pairing.outer := by
  obtain ⟨events, step⟩ := step_of_some chosen
  rw [step]
  simp only [add, paired, close, fold, if_true, advance, flush_siblings_withEvents, and_true]
  rfl

end State

end Scan

end PassageMarkup
