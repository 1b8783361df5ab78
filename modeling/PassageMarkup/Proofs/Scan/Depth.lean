import PassageMarkup.Proofs.Rule.Lexeme
import PassageMarkup.Proofs.Scan.Formation
import PassageMarkup.Proofs.Token.Depth

/-!
# The limit on nesting bounds each level

A scan opens no more fronts than it has room for, so its pairs stand inside fewer pairs than that,
and the scan of an inner text has room for one less.  Fronts that are open around an inner text are
not counted in it: the limit bounds the inner texts around a pair plus the pairs around it in the
innermost of them, and not all tokens around it.
-/

namespace PassageMarkup

namespace Scan

open Token

variable {setting : Setting} {state : State} {choice : Choice} {room : Nat}

/-- Open fronts have room, and the tokens on the left of each fit inside the fronts around it. -/
def Frame.Fit (room : Nat) : List Frame → Prop
  | [] => True
  | frame :: outer =>
    outer.length < room ∧ (∀ token ∈ frame.before, Fits room outer.length token) ∧ Fit room outer

namespace Frame

theorem Fit.of_append {inner outer : List Frame} (fit : Fit room (inner ++ outer)) :
    Fit room outer := by
  induction inner with
  | nil => exact fit
  | cons frame inner induction => exact induction fit.2.2

theorem Fit.demotedTokens {inner outer : List Frame} (fit : Fit room (inner ++ outer)) :
    ∀ token ∈ Frame.demotedTokens inner, Fits room outer.length token := by
  induction inner with
  | nil => simp [Frame.demotedTokens]
  | cons frame inner induction =>
      obtain ⟨_, before, deeper⟩ := fit
      have fewer : outer.length ≤ (inner ++ outer).length := by simp
      intro token member
      rcases mem_demotedTokens_cons.mp member with rfl | left | right
      · exact .demote _
      · exact (before token left).mono fewer
      · exact induction deeper token right

end Frame

/-- The tokens after the last open front and the fronts of a state fit into the room of a scan. -/
structure State.Fit (setting : Setting) (state : State) : Prop where
  frames : Frame.Fit setting.room state.frames
  siblings : ∀ token ∈ state.siblings, Fits setting.room state.frames.length token

def Setting.ReadsFit (setting : Setting) : Prop :=
  setting.Reads (Fits (setting.room - 1) 0)

/-- The token of a rule that neither opens nor closes a pair fits anywhere. -/
theorem Choice.Applies.token_fits (applies : choice.Applies setting state)
    (rules : setting.rules = Rule.ofMode) (fold : setting.fold = true) (reads : setting.ReadsFit)
    (notFront : choice.rule.front = false) (closesNothing : choice.rule.closes = [])
    (inside : Nat) : Fits setting.room inside (choice.token setting state) := by
  have member := applies.rule_mem_ofMode rules
  have notPair := (Rule.alone_kind member notFront closesNothing).1
  rw [← choice.token_kind setting state] at notPair
  rcases Rule.inner_eq_none_or_hasInnerText member with unmarked | hasInner
  · obtain ⟨found, takes⟩ := applies.token_takes fold
    exact .leaf notPair (takes.childless (unmarked found))
  · rw [← choice.token_kind setting state] at hasInner
    exact .inner notPair hasInner (applies.children_each rules reads fun _ _ _ => .leaf rfl rfl)

namespace State

theorem flush_fit (fit : state.Fit setting) :
    ∀ token ∈ (state.flush setting).siblings, Fits setting.room state.frames.length token := by
  unfold flush
  split
  · exact fit.siblings
  · rw [List.forall_mem_cons]
    exact ⟨.leaf rfl rfl, fit.siblings⟩

/-- A pair that is folded fits inside the fronts around it, because its front had room. -/
theorem Fit.close {back : Token} {pairing : Pairing} (fold : setting.fold = true)
    (frames : state.frames = pairing.abandoned ++ pairing.frame :: pairing.outer)
    (isPair : pairing.kind.isPair = true) (fit : state.Fit setting) :
    (state.close setting back pairing).Fit setting := by
  obtain ⟨framesFit, siblings⟩ := fit
  rw [frames] at framesFit siblings
  have given := framesFit.demotedTokens
  obtain ⟨bounded, before, outer⟩ := framesFit.of_append
  refine ⟨outer, ?_⟩
  simp only [State.close, fold, if_true, List.forall_mem_cons]
  refine ⟨.pair isPair bounded (Fits.coalesce ?_), before⟩
  intro token enclosed
  rw [List.mem_reverse, Frame.unwind_eq, List.mem_append] at enclosed
  rcases enclosed with sibling | left
  · exact (siblings token sibling).mono (by simp)
  · exact given token left

theorem Fit.accept (rules : setting.rules = Rule.ofMode) (fold : setting.fold = true)
    (reads : setting.ReadsFit) (applies : choice.Applies setting state)
    (formed : state.Formed setting) (fit : state.Fit setting) :
    (state.accept setting choice).Fit setting := by
  have flushed : (state.advance setting choice).Fit setting := by
    constructor
    · rw [advance_frames]
      exact fit.frames
    · rw [advance_frames]
      exact flush_fit fit
  rw [accept_eq, add]
  split
  · rename_i pairing paired
    obtain ⟨current, nested, _⟩ := formed
    have encloses := applies.encloses rules nested paired
    rw [applies.pairing_eq] at paired
    refine flushed.close fold ?_ encloses.matched.isPair
    rw [advance_frames]
    exact (Frame.pairing?_pairs paired).frames_eq
  · rename_i unpaired
    rcases applies.unpaired unpaired with ⟨isFront, bounded⟩ | ⟨notFront, closesNothing⟩
    · rw [if_pos isFront]
      rw [← state.advance_frames choice] at bounded
      exact ⟨⟨bounded, flushed.siblings, flushed.frames⟩, by simp⟩
    · rw [if_neg (by simp [notFront])]
      refine ⟨flushed.frames, ?_⟩
      rw [List.forall_mem_cons]
      exact ⟨applies.token_fits rules fold reads notFront closesNothing _, flushed.siblings⟩

theorem Fit.finish (fit : state.Fit setting) :
    ∀ token ∈ (state.finish setting).tokens, Fits setting.room 0 token := by
  have given : ∀ token ∈ Frame.demotedTokens state.frames, Fits setting.room 0 token := by
    have frames := fit.frames
    rw [← List.append_nil state.frames] at frames
    exact frames.demotedTokens
  unfold State.finish
  apply Fits.coalesce
  intro token member
  rw [List.mem_reverse, Frame.unwind_eq, List.mem_append, flush_frames] at member
  rcases member with sibling | left
  · exact (flush_fit fit token sibling).mono (Nat.zero_le _)
  · exact given token left

end State

theorem fit_kept (rules : setting.rules = Rule.ofMode) (fold : setting.fold = true)
    (formedInner : setting.ReadsFormed) (reads : setting.ReadsFit) :
    Kept setting fun state => state.Formed setting ∧ state.Fit setting where
  withEvents := fun _ _ ⟨formed, fit⟩ => ⟨formed, fit.frames, fit.siblings⟩
  skipChar := fun state ⟨formed, fit⟩ => by
    refine ⟨formed.skipChar, ?_⟩
    unfold State.skipChar
    split <;> exact ⟨fit.frames, fit.siblings⟩
  accept := fun _ _ applies ⟨formed, fit⟩ =>
    ⟨formed.accept rules fold formedInner applies, fit.accept rules fold reads applies formed⟩

theorem scanText_fit {text : Text} (rules : setting.rules = Rule.ofMode)
    (fold : setting.fold = true) (formedInner : setting.ReadsFormed) (reads : setting.ReadsFit) :
    ∀ token ∈ (scanText setting text).tokens, Fits setting.room 0 token := by
  obtain ⟨final, ⟨_, fit⟩, _, equal⟩ :=
    (fit_kept rules fold formedInner reads).scanText ⟨.initial text, trivial, by simp [State.initial]⟩
  rw [equal]
  exact fit.finish

/-- The tokens that a reading returns when it folds pairs fit into its room. -/
theorem read_fit (place : Text) (room : Nat) (mode : Mode) (beginsLine : Bool) (offset : Nat)
    (text : Text) :
    ∀ token ∈ (read Rule.ofMode true place room mode beginsLine offset text).tokens,
      Fits room 0 token := by
  -- The room changes from a text to its inner texts, so the induction is on it.
  induction room generalizing mode beginsLine offset text with
  | zero =>
      rw [read_eq]
      apply scanText_fit rfl rfl (readSetting_readsFormed place 0 mode beginsLine offset text)
      unfold Setting.ReadsFit
      exact readSetting_readsInto fun more => by contradiction
  | succ room induction =>
      rw [read_eq]
      apply scanText_fit rfl rfl (readSetting_readsFormed place _ mode beginsLine offset text)
      unfold Setting.ReadsFit
      exact readSetting_readsInto fun _ innerMode => induction innerMode false

end Scan

namespace Lex

open Token

/-- The inner texts around a pair and the pairs around it in the innermost of them are together
fewer than the limit on nesting. -/
theorem pair_nesting_lt (options : Options) (source : Text) {around : List Token} {token : Token}
    (below : Below (lex { options with fold := true } source) around token)
    (isPair : token.kind.isPair = true) :
    innerTexts around + sinceInnerText around < options.maxDepth := by
  have fit : ∀ child ∈ (lex { options with fold := true } source).children,
      Fits options.maxDepth 0 child :=
    Scan.read_fit options.place _ options.mode true 0 source
  exact (below.fits fit).pair_lt isPair

theorem collapsed_in_heading_link_nesting :
    ∃ around token, Below (lex { maxDepth := 3 } "# \x7b[[\x7bx\x7d]]\x7d".toList) around token ∧
      token.kind.isPair = true ∧ token.text = "\x7bx\x7d".toList ∧ innerTexts around = 2 ∧
        innerTexts around + sinceInnerText around < 3 := by
  have below : Below (lex { maxDepth := 3, fold := true } "# \x7b[[\x7bx\x7d]]\x7d".toList) _ _ :=
    .deeper (.deeper (.deeper (.child (.head _)) (.head _)) (.head _)) (.head _)
  exact ⟨_, _, below, rfl, rfl, rfl, pair_nesting_lt { maxDepth := 3 } _ below rfl⟩

/-- The limit does not bound the number of all tokens around a pair: collapsed markup that is open
around a link does not count inside the link. -/
theorem pair_inside_collapsed_link :
    ¬∀ (options : Options) (source : Text) (around : List Token) (token : Token),
      Below (lex { options with fold := true } source) around token → token.kind.isPair = true →
        around.length < options.maxDepth := by
  intro bounded
  have below : Below (lex { maxDepth := 2, fold := true } "\x7b[[\x7bx\x7d]]\x7d".toList) _ _ :=
    .deeper (.deeper (.child (.head _)) (.head _)) (.head _)
  have fewer := bounded { maxDepth := 2 } _ _ _ below rfl
  exact absurd fewer (by decide)

end Lex

end PassageMarkup
