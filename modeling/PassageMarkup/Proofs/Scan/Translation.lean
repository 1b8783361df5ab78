import PassageMarkup.Proofs.Scan.Recast
import PassageMarkup.Proofs.Token.Shift

/-!
# Readings at other places

A scan looks at nothing but its text and its own tokens, and offsets are only written down.  So a
text that stands at another place gives the same tokens and events, shifted.
-/

namespace PassageMarkup

/-- The same event at another place. -/
def Event.shift (distance : Nat) : Event → Event
  | opened kind start => opened kind (distance + start)
  | refused kind offset => refused kind (distance + offset)
  | unread offset => unread (distance + offset)
  | demoted kind start => demoted kind (distance + start)
  | closed front frontStart back backStart pair =>
    closed front (distance + frontStart) back (distance + backStart) pair

namespace Scan

variable {setting : Setting} {state : State} {distance : Nat}

def Outcome.shift (distance : Nat) (outcome : Outcome) : Outcome where
  tokens := outcome.tokens.map (Token.shift distance)
  events := outcome.events.map (Event.shift distance)

def Frame.shift (distance : Nat) (frame : Frame) : Frame :=
  { frame with
    front := frame.front.shift distance
    before := frame.before.map (Token.shift distance) }

def Pairing.shift (distance : Nat) (pairing : Pairing) : Pairing where
  abandoned := pairing.abandoned.map (Frame.shift distance)
  frame := pairing.frame.shift distance
  outer := pairing.outer.map (Frame.shift distance)
  kind := pairing.kind

def Verdict.shift (distance : Nat) : Verdict → Verdict
  | skip => skip
  | refuse => refuse
  | accept lexeme pairing => accept lexeme (pairing.map (Pairing.shift distance))

def Choice.shift (distance : Nat) (choice : Choice) : Choice :=
  { choice with pairing := choice.pairing.map (Pairing.shift distance) }

def Setting.shift (distance : Nat) (setting : Setting) : Setting :=
  { setting with offset := distance + setting.offset }

def State.shift (distance : Nat) (state : State) : State :=
  { state with
    siblings := state.siblings.map (Token.shift distance)
    frames := state.frames.map (Frame.shift distance)
    events := state.events.map (Event.shift distance) }

/-- The change of tokens and events at another place. -/
def Recast.shift (distance : Nat) : Recast where
  token := Token.shift distance
  event := Event.shift distance

theorem shift_unseen (distance : Nat) : (Recast.shift distance).Unseen where
  kind := Token.shift_kind
  isPlainText := Token.shift_isPlainText
  demote := Token.shift_demote
  join := by simp [Recast.shift, Token.shift_eq]
  foldPair := by
    intro kind front children back
    simp [Recast.shift, foldPair, Token.shift_eq front, Token.shift_eq back,
      Token.shift_eq (Token.mk ..)]
  opened := by simp [Recast.shift, Event.shift]
  demoted := by simp [Recast.shift, Event.shift]
  closed := by simp [Recast.shift, Event.shift]

namespace State

theorem preceding_shift :
    (state.shift distance).preceding (setting.shift distance) = state.preceding setting :=
  preceding_recast (shift_unseen distance)

theorem mode_shift : (state.shift distance).mode (setting.shift distance) = state.mode setting :=
  @mode_recast (.shift distance) setting state

theorem judge_shift (rule : Rule) :
    (state.shift distance).judge (setting.shift distance) rule =
      (state.judge setting rule).shift distance := by
  have admits : (state.shift distance).admits (setting.shift distance) rule =
      state.admits setting rule := by
    rw [State.admits, preceding_shift]
    rfl
  have lexeme : ∀ lexeme,
      (state.shift distance).judgeLexeme (setting.shift distance) rule lexeme =
        (state.judgeLexeme setting rule lexeme).shift distance := by
    intro lexeme
    have open_ : (state.shift distance).frames.length = state.frames.length := List.length_map _
    have room : (setting.shift distance).room = setting.room := rfl
    have pairings : Frame.pairing? rule lexeme.arity (state.shift distance).frames =
        (Frame.pairing? rule lexeme.arity state.frames).map (Pairing.shift distance) :=
      Frame.pairing?_recast (shift_unseen distance) rule lexeme.arity state.frames
    rw [judgeLexeme, judgeLexeme, open_, room, pairings]
    cases Frame.pairing? rule lexeme.arity state.frames with
    | some pairing => rfl
    | none =>
        cases rule.front with
        | true => by_cases full : setting.room ≤ state.frames.length <;> simp [full, Verdict.shift]
        | false => cases rule.closes.isEmpty <;> rfl
  rw [judge, judge, admits]
  simp only [lexeme]
  split
  · have rest : (state.shift distance).rest = state.rest := rfl
    rw [rest]
    split
    · rfl
    · split <;> rfl
  · rfl

theorem choose_shift (rules : List Rule) :
    (state.shift distance).choose (setting.shift distance) rules =
      ((state.choose setting rules).1,
        (state.choose setting rules).2.map (Choice.shift distance)) := by
  induction rules with
  | nil => rfl
  | cons rule rules induction =>
      rw [choose, choose, judge_shift]
      cases state.judge setting rule with
      | skip => exact induction
      | refuse => simp [Verdict.shift, induction]
      | accept lexeme pairing => rfl

end State

/-- The inner texts of a scan are read alike wherever they stand. -/
def Setting.ReadsShifted (distance : Nat) (setting : Setting) : Prop :=
  ∀ read, setting.readInner = some read → ∀ mode offset inner,
    read mode (distance + offset) inner = (read mode offset inner).shift distance

theorem readInner_shift (reads : setting.ReadsShifted distance) (rule : Rule) (start : Nat)
    (inner : Text) :
    readInner (setting.shift distance) rule (distance + start) inner =
      (readInner setting rule start inner).shift distance := by
  have same : (setting.shift distance).readInner = setting.readInner := rfl
  unfold readInner
  rw [same]
  split
  · rename_i read present
    exact reads read present _ _ _
  · simp [Outcome.shift, Event.shift, Setting.shift]

theorem makeToken_shift (reads : setting.ReadsShifted distance) (rule : Rule) (lexeme : Lexeme)
    (start : Nat) (text : Text) :
    makeToken (setting.shift distance) rule lexeme (distance + start) text =
      ((makeToken setting rule lexeme start text).1.shift distance,
        (makeToken setting rule lexeme start text).2.map (Event.shift distance)) := by
  have fold : (setting.shift distance).fold = setting.fold := rfl
  have place : (setting.shift distance).place = setting.place := rfl
  unfold makeToken
  cases lexeme.inner with
  | none => simp [Token.shift_eq, Token.leaf, Nat.add_assoc, place]
  | some span =>
      simp only [fold, Nat.add_assoc, readInner_shift reads, place]
      split
      · simp [Token.shift_eq, Token.leaf, Nat.add_assoc, Outcome.shift]
      · simp [Token.shift_eq, Token.leaf, Nat.add_assoc]

namespace State

theorem flush_shift :
    (state.shift distance).flush (setting.shift distance) =
      (state.flush setting).shift distance := by
  have pending : (state.shift distance).pending = state.pending := rfl
  unfold flush
  rw [pending]
  split
  · rfl
  · simp [State.shift, Setting.shift, Nat.add_assoc]

theorem accept_shift (reads : setting.ReadsShifted distance) (choice : Choice) :
    (state.shift distance).accept (setting.shift distance) (choice.shift distance) =
      (state.accept setting choice).shift distance := by
  have made := makeToken_shift reads choice.rule choice.lexeme (setting.offset + state.position)
    (state.rest.take choice.lexeme.length)
  rw [← Nat.add_assoc] at made
  have token : (choice.shift distance).token (setting.shift distance) (state.shift distance) =
      (choice.token setting state).shift distance := congrArg Prod.fst made
  have advanced : (state.shift distance).advance (setting.shift distance) (choice.shift distance) =
      (state.advance setting choice).shift distance := by
    have events := congrArg Prod.snd made
    simp only [advance, flush_shift]
    simp only [State.shift, Setting.shift, Choice.shift] at events ⊢
    rw [events, ← List.map_append]
  rw [accept_eq, accept_eq, token, advanced]
  exact add_recast (shift_unseen distance) choice (choice.shift distance) rfl rfl rfl _

theorem step_shift (reads : setting.ReadsShifted distance) :
    (state.shift distance).step (setting.shift distance) =
      (state.step setting).shift distance := by
  have rules : (setting.shift distance).rules = setting.rules := rfl
  have chosen := @choose_shift setting state distance (setting.rules (state.mode setting))
  have choice : (state.shift distance).choice? (setting.shift distance) =
      (state.choice? setting).map (Choice.shift distance) := by
    rw [choice?, mode_shift, rules, chosen]
    rfl
  have noted : (state.shift distance).noted (setting.shift distance) =
      (state.noted setting).shift distance := by
    simp only [State.noted, mode_shift, rules, chosen]
    simp [State.shift, Setting.shift, Event.shift, Nat.add_assoc, Function.comp_def]
  rw [step_eq_noted, step_eq_noted, choice, noted]
  cases state.choice? setting with
  | some choice => exact accept_shift reads choice
  | none =>
      simp only [Option.map_none, skipChar]
      have rest : ((state.noted setting).shift distance).rest = (state.noted setting).rest := rfl
      rw [rest]
      split <;> rfl

theorem run_shift (reads : setting.ReadsShifted distance) (bound : Nat) :
    (state.shift distance).run (setting.shift distance) bound =
      (state.run setting bound).shift distance := by
  have lockstep : Lockstep (setting.shift distance) setting fun shifted state =>
      shifted = state.shift distance := by
    constructor
    · rintro _ state rfl
      rfl
    · rintro _ state rfl _
      exact step_shift reads
  exact lockstep.run rfl bound

theorem finish_shift :
    (state.shift distance).finish (setting.shift distance) =
      (state.finish setting).shift distance := by
  unfold finish
  simp only [flush_shift]
  obtain ⟨tokens, events⟩ := giveUp_recast (shift_unseen distance) (state.flush setting)
  exact congrArg₂ Outcome.mk tokens events

end State

/-- A reading of a text at another place returns the same, shifted.  The induction is on the room,
since inner texts are read with room for one less. -/
theorem read_shift (rules : Mode → List Rule) (fold : Bool) (place : Text) (room : Nat)
    (mode : Mode) (beginsLine : Bool) (offset : Nat) (text : Text) :
    read rules fold place room mode beginsLine (distance + offset) text =
      (read rules fold place room mode beginsLine offset text).shift distance := by
  have scanText_shift : ∀ {setting : Setting}, setting.ReadsShifted distance → ∀ text,
      scanText (setting.shift distance) text = (scanText setting text).shift distance := by
    intro setting reads text
    have initial : State.initial text = (State.initial text).shift distance := rfl
    rw [scanText, scanText, ← State.finish_shift, ← State.run_shift reads, ← initial]
  induction room generalizing mode beginsLine offset text with
  | zero =>
      rw [read_eq, read_eq]
      apply @scanText_shift (readSetting rules fold place 0 mode beginsLine offset text)
      intro inner present
      have more := (readSetting_readInner present).1
      contradiction
  | succ room induction =>
      rw [read_eq, read_eq]
      apply @scanText_shift (readSetting rules fold place (room + 1) mode beginsLine offset text)
      intro inner present innerMode innerOffset innerText
      rw [(readSetting_readInner present).2]
      exact induction innerMode false innerOffset innerText

end Scan

end PassageMarkup
