import PassageMarkup.Proofs.Scan.Nesting
import PassageMarkup.Proofs.Scan.Tokens

/-!
# Scans make formed tokens

When a scan folds pairs, the tokens after its innermost front are formed in the mode there, and so
are those on the left of each front.  So the tree of a passage is formed, which tells how its pairs
are written and what can be inside them.
-/

namespace PassageMarkup

namespace Scan

open Token

variable {setting : Setting} {state : State}

def Setting.ReadsFormed (setting : Setting) : Prop :=
  setting.Reads fun token => ∃ mode, Formed mode token

namespace Choice.Applies

variable {choice : Choice}

theorem token_takes (applies : choice.Applies setting state) (fold : setting.fold = true) :
    ∃ found, choice.rule.Takes state.rest found (choice.token setting state) := by
  obtain ⟨found, success, lexemeEq⟩ := applies.found
  have inside := applies.length_le
  rw [lexemeEq] at inside
  refine ⟨found, ?_⟩
  unfold Choice.token makeToken
  simp only [lexemeEq, fold, if_true]
  split
  · rename_i unmarked
    exact ⟨success, inside, rfl, rfl, rfl, rfl, by simp [unmarked, leaf], fun _ => rfl⟩
  · rename_i span marked
    exact ⟨success, inside, rfl, rfl, rfl, rfl, by simp [marked, leaf], by simp [marked]⟩

/-- The token of a rule that neither opens nor closes a pair is formed. -/
theorem token_formed (applies : choice.Applies setting state)
    (rules : setting.rules = Rule.ofMode) (fold : setting.fold = true)
    (reads : setting.ReadsFormed) (notFront : choice.rule.front = false)
    (closesNothing : choice.rule.closes = []) :
    Formed (state.mode setting) (choice.token setting state) := by
  have member := applies.rule_mem_ofMode rules
  obtain ⟨found, takes⟩ := applies.token_takes fold
  have children := applies.children_each rules reads fun _ _ _ => ⟨.prose, .text rfl⟩
  obtain ⟨modeOf, formed⟩ := exists_modeOf children
  exact .alone modeOf member notFront closesNothing takes formed

end Choice.Applies

theorem Pairing.Encloses.children_formed {pairing : Pairing} {place : Text}
    {outside inside : Mode} {back : Token} {siblings : List Token}
    (encloses : pairing.Encloses place outside inside back)
    (formed : ∀ token ∈ siblings, Formed inside token) :
    ∀ child ∈ pairing.children siblings, Formed inside child := by
  apply Formed.coalesce
  intro token member
  rw [List.mem_reverse, Frame.unwind_eq, List.mem_append] at member
  rcases member with sibling | left
  · exact formed token sibling
  · exact encloses.abandoned token left

namespace State

/-- The open fronts of a state nest, and the tokens after them are formed in the mode inside. -/
def Formed (setting : Setting) (state : State) : Prop :=
  ∃ current, Frame.Nested setting.place setting.mode state.frames current ∧
    ∀ token ∈ state.siblings, Token.Formed current token

theorem flush_formed {current : Mode}
    (formed : ∀ token ∈ state.siblings, Token.Formed current token) :
    ∀ token ∈ (state.flush setting).siblings, Token.Formed current token := by
  unfold flush
  split
  · exact formed
  · rw [List.forall_mem_cons]
    exact ⟨.text rfl, formed⟩

theorem close_formed {back : Token} {pairing : Pairing} {inside : Mode}
    (fold : setting.fold = true)
    (siblings : ∀ token ∈ state.siblings, Token.Formed inside token)
    (encloses : pairing.Encloses setting.place setting.mode inside back) :
    (state.close setting back pairing).Formed setting := by
  obtain ⟨around, nested, before, opened⟩ := encloses.opened
  refine ⟨around, nested, ?_⟩
  simp only [close, fold, if_true, List.forall_mem_cons]
  refine ⟨?_, before⟩
  exact .pair opened.rule_mem opened.isFront opened.kind_eq.symm encloses.pairMode_eq
    encloses.matched (encloses.children_formed siblings)

theorem Formed.accept {choice : Choice} (rules : setting.rules = Rule.ofMode)
    (fold : setting.fold = true) (reads : setting.ReadsFormed)
    (applies : choice.Applies setting state) (formed : state.Formed setting) :
    (state.accept setting choice).Formed setting := by
  obtain ⟨current, nested, siblings⟩ := formed
  have mode := nested.mode_eq
  have member := applies.rule_mem
  rw [rules, mode] at member
  have flushed : ∀ token ∈ (state.advance setting choice).siblings, Token.Formed current token :=
    flush_formed siblings
  rw [accept_eq, add]
  split
  · rename_i pairing paired
    exact close_formed fold flushed (applies.encloses rules nested paired)
  · rename_i unpaired
    rcases applies.unpaired unpaired with ⟨isFront, _⟩ | ⟨notFront, closesNothing⟩
    · rw [if_pos isFront]
      obtain ⟨inside, innerMode⟩ := Rule.front_innerMode member isFront
      obtain ⟨name, text, written, opens⟩ := applies.token_front rules isFront
      have opened : Frame.Opened setting.place current inside
          ⟨choice.rule, choice.lexeme.arity, choice.token setting state,
            (state.advance setting choice).siblings⟩ :=
        ⟨member, isFront, innerMode, name, text, _, written, opens⟩
      refine ⟨inside, .cons ?_ flushed opened, by simp⟩
      rw [advance_frames]
      exact nested
    · rw [if_neg (by simp [notFront])]
      refine ⟨current, ?_, ?_⟩
      · rw [advance_frames]
        exact nested
      · rw [List.forall_mem_cons]
        refine ⟨?_, flushed⟩
        rw [← mode]
        exact applies.token_formed rules fold reads notFront closesNothing

end State

theorem State.Formed.finish (formed : state.Formed setting) :
    ∀ token ∈ (state.finish setting).tokens, ∃ mode, Token.Formed mode token := by
  obtain ⟨current, nested, siblings⟩ := formed
  unfold State.finish
  apply forall_mem_coalesce
  · intro token next plain _ ⟨mode, first⟩ _
    exact ⟨mode, first.joined next plain⟩
  · intro token member
    rw [List.mem_reverse, Frame.unwind_eq, List.mem_append] at member
    rcases member with sibling | left
    · exact ⟨current, State.flush_formed siblings token sibling⟩
    · rw [State.flush_frames] at left
      exact nested.demotedTokens_formed token left

theorem State.Formed.initial (text : Text) : (State.initial text).Formed setting :=
  ⟨setting.mode, .nil, by simp [State.initial]⟩

theorem State.Formed.skipChar (formed : state.Formed setting) : state.skipChar.Formed setting := by
  unfold State.skipChar
  split <;> exact formed

theorem formed_kept (rules : setting.rules = Rule.ofMode) (fold : setting.fold = true)
    (reads : setting.ReadsFormed) : Kept setting (State.Formed setting) where
  withEvents := fun _ _ formed => formed
  skipChar := fun _ formed => formed.skipChar
  accept := fun _ _ applies formed => formed.accept rules fold reads applies

theorem scanText_formed {text : Text} (rules : setting.rules = Rule.ofMode)
    (fold : setting.fold = true) (reads : setting.ReadsFormed) :
    ∀ token ∈ (scanText setting text).tokens, ∃ mode, Formed mode token := by
  obtain ⟨final, formed, _, equal⟩ := (formed_kept rules fold reads).scanText (.initial text)
  rw [equal]
  exact formed.finish

/-- The tokens that a reading returns when it folds pairs are formed. -/
theorem read_formed (place : Text) (room : Nat) (mode : Mode) (beginsLine : Bool) (offset : Nat)
    (text : Text) :
    ∀ token ∈ (read Rule.ofMode true place room mode beginsLine offset text).tokens,
      ∃ mode, Formed mode token :=
  read_induction (fun _ _ _ outcome => ∀ token ∈ outcome.tokens, ∃ mode, Formed mode token)
    (fun _ _ _ _ _ readsInner => scanText_formed rfl rfl readsInner)
    room mode beginsLine offset text

theorem readSetting_readsFormed (place : Text) (room : Nat) (mode : Mode) (beginsLine : Bool)
    (offset : Nat) (text : Text) :
    (readSetting Rule.ofMode true place room mode beginsLine offset text).ReadsFormed := by
  unfold Setting.ReadsFormed
  exact readSetting_readsInto fun _ innerMode => read_formed place _ innerMode false

end Scan

namespace Lex

open Token

theorem children_formed (options : Options) (source : Text) :
    ∀ token ∈ (lex { options with fold := true } source).children, ∃ mode, Formed mode token :=
  Scan.read_formed options.place _ options.mode true 0 source

/-- In a folded tree no delimiter stands alone, and every pair is its inner text between a front and
a back that belong together. -/
theorem lex_delimited (options : Options) (source : Text) :
    (lex { options with fold := true } source).Everywhere Delimited := by
  refine everywhere_iff.mpr ⟨⟨rfl, fun isPair => by contradiction⟩, fun child member => ?_⟩
  obtain ⟨mode, formed⟩ := children_formed options source child member
  exact formed.delimited

/-- In a folded tree every token inside a pair is one that the mode inside the pair can make. -/
theorem lex_pureIn (options : Options) (source : Text) :
    (lex { options with fold := true } source).Everywhere fun pair =>
      ∀ mode, pair.kind.pairMode = some mode → ∀ child ∈ pair.children, child.PureIn mode := by
  refine everywhere_iff.mpr ⟨fun mode pairMode => by contradiction, fun child member => ?_⟩
  obtain ⟨mode, formed⟩ := children_formed options source child member
  exact formed.pureIn

end Lex

end PassageMarkup
