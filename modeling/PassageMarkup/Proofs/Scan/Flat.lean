import Mathlib.Data.List.Forall2
import PassageMarkup.Proofs.Scan.Formation
import PassageMarkup.Proofs.Token.Unfold

/-!
# Scans with and without folding

A scan that folds pairs and one that does not make the same decision at every place: both see the
same text ahead, the same open fronts, and the same line begin.  So their tokens stay in the
relation `Token.Unfolds`, and in the end the tokens of the second scan are those of the first with
all pairs taken apart.
-/

namespace PassageMarkup

namespace Scan

open Token

/-- The same setting for a scan that does not fold pairs. -/
def Setting.flat (setting : Setting) (readInner : Option (Mode → Nat → Text → Outcome)) :
    Setting :=
  { setting with fold := false, readInner }

variable {setting : Setting} {inner : Option (Mode → Nat → Text → Outcome)}
  {folded flat : State}

/-- The same open front in both scans. -/
structure Frame.Mirrors (folded flat : Frame) : Prop where
  rule_eq : flat.rule = folded.rule
  arity_eq : flat.arity = folded.arity
  front_eq : flat.front = folded.front
  before : Unfolds folded.before flat.before

/-- The same place in both scans. -/
structure State.Mirrors (folded flat : State) : Prop where
  rest_eq : flat.rest = folded.rest
  position_eq : flat.position = folded.position
  pending_eq : flat.pending = folded.pending
  siblings : Unfolds folded.siblings flat.siblings
  frames : List.Forall₂ Frame.Mirrors folded.frames flat.frames

structure Pairing.Mirrors (folded flat : Pairing) : Prop where
  abandoned : List.Forall₂ Frame.Mirrors folded.abandoned flat.abandoned
  frame : Frame.Mirrors folded.frame flat.frame
  outer : List.Forall₂ Frame.Mirrors folded.outer flat.outer
  kind_eq : flat.kind = folded.kind

inductive Verdict.Mirrors : Verdict → Verdict → Prop where
  | skip : Mirrors .skip .skip
  | refuse : Mirrors .refuse .refuse
  | accept {lexeme : Lexeme} {folded flat : Option Pairing} :
      Option.Rel Pairing.Mirrors folded flat →
      Mirrors (.accept lexeme folded) (.accept lexeme flat)

structure Choice.Mirrors (folded flat : Choice) : Prop where
  rule_eq : flat.rule = folded.rule
  lexeme_eq : flat.lexeme = folded.lexeme
  pairing : Option.Rel Pairing.Mirrors folded.pairing flat.pairing

namespace Frame

theorem pairing?_mirrors {foldedFrames flatFrames : List Frame}
    (frames : List.Forall₂ Mirrors foldedFrames flatFrames) (rule : Rule) (arity : Nat) :
    Option.Rel Pairing.Mirrors (pairing? rule arity foldedFrames)
      (pairing? rule arity flatFrames) := by
  induction frames with
  | nil => exact .none
  | cons mirrors outer induction =>
      rw [pairing?, pairing?, mirrors.rule_eq, mirrors.arity_eq, mirrors.front_eq]
      split
      · exact .some ⟨.nil, mirrors, outer, rfl⟩
      · split
        · exact .none
        · revert induction
          cases pairing? rule arity _ <;> cases pairing? rule arity _
          all_goals intro induction
          all_goals cases induction
          · exact .none
          · rename_i later
            exact .some ⟨.cons mirrors later.abandoned, later.frame, later.outer, later.kind_eq⟩

theorem demotedTokens_mirrors {foldedFrames flatFrames : List Frame}
    (frames : List.Forall₂ Mirrors foldedFrames flatFrames) :
    Unfolds (demotedTokens foldedFrames) (demotedTokens flatFrames) := by
  induction frames with
  | nil => exact .nil
  | @cons foldedFrame flatFrame foldedOuter flatOuter mirrors outer induction =>
      have demoted : foldedFrame.front.demote.Unpaired := ⟨rfl, fun _ => rfl⟩
      have left : Unfolds (foldedFrame.front.demote :: foldedFrame.before)
          (flatFrame.front.demote :: flatFrame.before) := by
        rw [mirrors.front_eq]
        exact .unpaired demoted mirrors.before
      exact left.append induction

end Frame

namespace State.Mirrors

theorem mode_eq (mirrors : folded.Mirrors flat) :
    flat.mode (setting.flat inner) = folded.mode setting := by
  have frames := mirrors.frames
  unfold State.mode
  revert frames
  generalize folded.frames = foldedFrames
  generalize flat.frames = flatFrames
  intro frames
  cases frames with
  | nil => rfl
  | cons frame outer => simp [frame.rule_eq, Setting.flat]

theorem preceding_beginsLine (mirrors : folded.Mirrors flat) :
    (flat.preceding (setting.flat inner)).beginsLine =
      (folded.preceding setting).beginsLine := by
  have siblings := mirrors.siblings
  have frames := mirrors.frames
  unfold State.preceding
  revert siblings frames
  generalize folded.siblings = foldedSiblings
  generalize flat.siblings = flatSiblings
  generalize folded.frames = foldedFrames
  generalize flat.frames = flatFrames
  intro siblings frames
  cases siblings with
  | nil =>
      cases frames with
      | nil => rfl
      | cons frame outer => simp only [frame.front_eq]
  | unpaired unpaired older => rfl
  | pair matched between older => exact matched.beginsLine

theorem admits_eq (mirrors : folded.Mirrors flat) (rule : Rule) :
    flat.admits (setting.flat inner) rule = folded.admits setting rule := by
  unfold State.admits
  rw [mirrors.preceding_beginsLine, mirrors.pending_eq, mirrors.position_eq]
  rfl

theorem judgeLexeme (mirrors : folded.Mirrors flat) (rule : Rule) (lexeme : Lexeme) :
    Verdict.Mirrors (folded.judgeLexeme setting rule lexeme)
      (flat.judgeLexeme (setting.flat inner) rule lexeme) := by
  have pairings := Frame.pairing?_mirrors mirrors.frames rule lexeme.arity
  have length := mirrors.frames.length_eq
  have room : (setting.flat inner).room = setting.room := rfl
  unfold State.judgeLexeme
  rw [room, ← length]
  revert pairings
  cases Frame.pairing? rule lexeme.arity folded.frames <;>
    cases Frame.pairing? rule lexeme.arity flat.frames
  all_goals intro pairings
  all_goals cases pairings
  · simp only
    split
    · split
      · exact .refuse
      · exact .accept .none
    · split
      · exact .accept .none
      · exact .skip
  · rename_i pairing
    exact .accept (.some pairing)

theorem judge (mirrors : folded.Mirrors flat) (rule : Rule) :
    Verdict.Mirrors (folded.judge setting rule) (flat.judge (setting.flat inner) rule) := by
  unfold State.judge
  rw [mirrors.admits_eq, mirrors.rest_eq]
  split
  · split
    · exact .skip
    · simp only
      split
      · exact .skip
      · exact mirrors.judgeLexeme rule _
  · exact .skip

theorem choose (mirrors : folded.Mirrors flat) (rules : List Rule) :
    Option.Rel Choice.Mirrors (folded.choose setting rules).2
      (flat.choose (setting.flat inner) rules).2 := by
  induction rules with
  | nil => exact .none
  | cons rule rules induction =>
      have verdict : Verdict.Mirrors (folded.judge setting rule)
          (flat.judge (setting.flat inner) rule) := mirrors.judge rule
      rw [State.choose, State.choose]
      revert verdict
      cases folded.judge setting rule <;> cases flat.judge (setting.flat inner) rule
      all_goals intro verdict
      all_goals cases verdict
      · exact induction
      · exact induction
      · rename_i pairing
        exact .some ⟨rfl, rfl, pairing⟩

end State.Mirrors

theorem makeToken_flat (rule : Rule) (lexeme : Lexeme) (start : Nat) (text : Text) :
    (makeToken (setting.flat inner) rule lexeme start text).1 =
      (makeToken setting rule lexeme start text).1.bare := by
  unfold makeToken
  split
  · rfl
  · simp only [Setting.flat, Bool.false_eq_true, if_false]
    split <;> rfl

theorem Choice.token_flat {choice flatChoice : Choice} (mirrors : folded.Mirrors flat)
    (same : choice.Mirrors flatChoice) :
    flatChoice.token (setting.flat inner) flat = (choice.token setting folded).bare := by
  unfold Choice.token
  rw [same.rule_eq, same.lexeme_eq, mirrors.rest_eq, mirrors.position_eq]
  exact makeToken_flat ..

namespace State.Mirrors

theorem withEvents (mirrors : folded.Mirrors flat) (foldedEvents flatEvents : List Event) :
    State.Mirrors { folded with events := foldedEvents } { flat with events := flatEvents } :=
  ⟨mirrors.rest_eq, mirrors.position_eq, mirrors.pending_eq, mirrors.siblings, mirrors.frames⟩

theorem flush (mirrors : folded.Mirrors flat) :
    (folded.flush setting).Mirrors (flat.flush (setting.flat inner)) := by
  unfold State.flush
  rw [mirrors.pending_eq]
  split
  · exact mirrors
  · refine ⟨mirrors.rest_eq, mirrors.position_eq, rfl, ?_, mirrors.frames⟩
    rw [mirrors.position_eq]
    exact .unpaired ⟨rfl, fun _ => rfl⟩ mirrors.siblings

theorem skipChar (mirrors : folded.Mirrors flat) : folded.skipChar.Mirrors flat.skipChar := by
  unfold State.skipChar
  rw [mirrors.rest_eq]
  split
  · exact mirrors
  · refine ⟨rfl, ?_, ?_, mirrors.siblings, mirrors.frames⟩
    · rw [mirrors.position_eq]
    · rw [mirrors.pending_eq]

theorem advance {choice flatChoice : Choice} (mirrors : folded.Mirrors flat)
    (same : choice.Mirrors flatChoice) :
    (folded.advance setting choice).Mirrors (flat.advance (setting.flat inner) flatChoice) := by
  have flushed : (folded.flush setting).Mirrors (flat.flush (setting.flat inner)) := mirrors.flush
  refine ⟨?_, ?_, flushed.pending_eq, flushed.siblings, flushed.frames⟩
  · simp only [State.advance, mirrors.rest_eq, same.lexeme_eq]
  · simp only [State.advance, mirrors.position_eq, same.lexeme_eq]

theorem close {pairing flatPairing : Pairing} {back : Token} (fold : setting.fold = true)
    (mirrors : folded.Mirrors flat) (same : pairing.Mirrors flatPairing)
    (matched : Matched pairing.kind pairing.frame.front back) :
    (folded.close setting back pairing).Mirrors
      (flat.close (setting.flat inner) back flatPairing) := by
  have between : Unfolds (Frame.unwind folded.siblings pairing.abandoned)
      (Frame.unwind flat.siblings flatPairing.abandoned) := by
    rw [Frame.unwind_eq, Frame.unwind_eq]
    exact mirrors.siblings.append (Frame.demotedTokens_mirrors same.abandoned)
  refine ⟨mirrors.rest_eq, mirrors.position_eq, mirrors.pending_eq, ?_, same.outer⟩
  simp only [State.close, fold, if_true, Setting.flat, Bool.false_eq_true, if_false]
  rw [same.frame.front_eq]
  exact .pair matched between same.frame.before

theorem accept {choice flatChoice : Choice} (rules : setting.rules = Rule.ofMode)
    (fold : setting.fold = true) (formed : folded.Formed setting)
    (applies : choice.Applies setting folded) (mirrors : folded.Mirrors flat)
    (same : choice.Mirrors flatChoice) :
    (folded.accept setting choice).Mirrors (flat.accept (setting.flat inner) flatChoice) := by
  obtain ⟨current, nested, _⟩ := formed
  have member := applies.rule_mem_ofMode rules
  have advanced : (folded.advance setting choice).Mirrors
      (flat.advance (setting.flat inner) flatChoice) := mirrors.advance same
  rw [accept_eq, accept_eq, Choice.token_flat mirrors same]
  have pairings := same.pairing
  unfold add
  cases paired : choice.pairing with
  | some pairing =>
      rw [paired] at pairings
      cases flatPaired : flatChoice.pairing with
      | none =>
          rw [flatPaired] at pairings
          contradiction
      | some flatPairing =>
          rw [flatPaired] at pairings
          cases pairings with
          | some samePairing =>
              have matched := (applies.encloses rules nested paired).matched
              rw [matched.bare_back]
              exact advanced.close fold samePairing matched
  | none =>
      rw [paired] at pairings
      cases flatPaired : flatChoice.pairing with
      | some flatPairing =>
          rw [flatPaired] at pairings
          contradiction
      | none =>
          simp only [same.rule_eq, same.lexeme_eq]
          rcases applies.unpaired paired with ⟨isFront, _⟩ | ⟨notFront, closesNothing⟩
          · rw [if_pos isFront, if_pos isFront]
            obtain ⟨name, text, written, _⟩ := applies.token_front rules isFront
            have bare : (choice.token setting folded).bare = choice.token setting folded := by
              rw [written]
              rfl
            rw [bare]
            exact ⟨advanced.rest_eq, advanced.position_eq, advanced.pending_eq, .nil,
              .cons ⟨rfl, rfl, rfl, advanced.siblings⟩ advanced.frames⟩
          · rw [if_neg (by simp [notFront]), if_neg (by simp [notFront])]
            refine ⟨advanced.rest_eq, advanced.position_eq, advanced.pending_eq, ?_,
              advanced.frames⟩
            refine .unpaired ⟨?_, fun isText => ?_⟩ advanced.siblings
            · rw [Choice.token_kind]
              exact (Rule.alone_kind member notFront closesNothing).1
            · rw [Choice.token_kind] at isText
              exact absurd isText (Rule.kind_ne_text member)

theorem choice? (mirrors : folded.Mirrors flat) :
    Option.Rel Choice.Mirrors (folded.choice? setting) (flat.choice? (setting.flat inner)) := by
  unfold State.choice?
  rw [mirrors.mode_eq]
  exact mirrors.choose _

theorem step (rules : setting.rules = Rule.ofMode) (fold : setting.fold = true)
    (formed : folded.Formed setting) (mirrors : folded.Mirrors flat) :
    (folded.step setting).Mirrors (flat.step (setting.flat inner)) := by
  obtain ⟨foldedEvents, foldedStep⟩ := step_eq setting folded
  obtain ⟨flatEvents, flatStep⟩ := step_eq (setting.flat inner) flat
  have choices : Option.Rel Choice.Mirrors (folded.choice? setting)
      (flat.choice? (setting.flat inner)) := mirrors.choice?
  have noted := mirrors.withEvents foldedEvents flatEvents
  rw [foldedStep, flatStep]
  cases chosen : folded.choice? setting with
  | none =>
      rw [chosen] at choices
      generalize flat.choice? (setting.flat inner) = flatChosen at choices
      cases choices
      exact noted.skipChar
  | some choice =>
      have applies := (choice?_applies chosen).withEvents foldedEvents
      rw [chosen] at choices
      generalize flat.choice? (setting.flat inner) = flatChosen at choices
      cases choices with
      | some same => exact noted.accept rules fold formed applies same

theorem run (rules : setting.rules = Rule.ofMode) (fold : setting.fold = true)
    (reads : setting.ReadsFormed) {bound : Nat} (formed : folded.Formed setting)
    (mirrors : folded.Mirrors flat) :
    (folded.run setting bound).Mirrors (flat.run (setting.flat inner) bound) := by
  have lockstep : Lockstep setting (setting.flat inner) fun folded flat =>
      folded.Formed setting ∧ folded.Mirrors flat := by
    constructor
    · intro folded flat ⟨_, mirrors⟩
      rw [mirrors.rest_eq]
    · intro folded flat ⟨formed, mirrors⟩ _
      exact ⟨(formed_kept rules fold reads).step formed, mirrors.step rules fold formed⟩
  exact (lockstep.run ⟨formed, mirrors⟩ bound).2

/-- In the end the flat tokens are the folded ones with all pairs taken apart. -/
theorem finish (mirrors : folded.Mirrors flat) :
    (flat.finish (setting.flat inner)).tokens =
      unfoldList (folded.finish setting).tokens := by
  have flushed : (folded.flush setting).Mirrors (flat.flush (setting.flat inner)) := mirrors.flush
  have unwound : Unfolds
      (Frame.unwind (folded.flush setting).siblings (folded.flush setting).frames)
      (Frame.unwind (flat.flush (setting.flat inner)).siblings
        (flat.flush (setting.flat inner)).frames) := by
    rw [Frame.unwind_eq, Frame.unwind_eq]
    exact flushed.siblings.append (Frame.demotedTokens_mirrors flushed.frames)
  exact unwound.coalesce_reverse

end State.Mirrors

theorem scanText_flat (rules : setting.rules = Rule.ofMode) (fold : setting.fold = true)
    (reads : setting.ReadsFormed) (text : Text) :
    (scanText (setting.flat inner) text).tokens = unfoldList (scanText setting text).tokens := by
  have formed : (State.initial text).Formed setting := .initial text
  have initial : (State.initial text).Mirrors (State.initial text) :=
    ⟨rfl, rfl, rfl, .nil, .nil⟩
  exact (initial.run rules fold reads formed).finish

/-- Without folding, a reading returns the same tokens with all pairs taken apart. -/
theorem read_flat (place : Text) (room : Nat) (mode : Mode) (beginsLine : Bool) (offset : Nat)
    (text : Text) :
    (read Rule.ofMode false place room mode beginsLine offset text).tokens =
      unfoldList (read Rule.ofMode true place room mode beginsLine offset text).tokens := by
  let setting := readSetting Rule.ofMode true place room mode beginsLine offset text
  have reads : setting.ReadsFormed :=
    readSetting_readsFormed place room mode beginsLine offset text
  rw [read_eq, read_eq]
  exact @scanText_flat setting _ rfl rfl reads text

end Scan

namespace Lex

/-- Without folding, the tokens of a passage are those of its folded tree with all pairs taken
apart. -/
theorem lex_flat (options : Options) (source : Text) :
    (lex { options with fold := false } source).children =
      Token.unfoldList (lex { options with fold := true } source).children :=
  Scan.read_flat options.place _ options.mode true 0 source

example :
    (lex { fold := false } "|a>[(b: 1)]".toList).children.map Token.kind =
      [.hookPrependedFront, .macroFront, .whitespace, .number, .groupingBack, .hookBack] := by
  decide +kernel

end Lex

end PassageMarkup
