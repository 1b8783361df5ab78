import PassageMarkup.Proofs.Rule.Lexeme
import PassageMarkup.Proofs.Scan.Pairing
import PassageMarkup.Proofs.Scan.Steps
import PassageMarkup.Proofs.Token.Laid

/-!
# Tokens cover the text

At each place of a scan the tokens so far are laid over what was read, up to the text that no rule
has taken yet.  So the tokens of a whole passage cover it, and every token of the tree has the text,
the range and the inner text that the passage gives it.
-/

namespace PassageMarkup

namespace Scan

open Token

variable {source : Text} {setting : Setting} {length : Nat} {state : State}

/-- The tokens of a state are laid up to `covered`, and the source goes on there with the pending
text and the text ahead. -/
structure State.Covers (source : Text) (setting : Setting) (length : Nat) (state : State)
    (covered : Nat) : Prop where
  laid : Laid source setting.offset state.tokens.reverse covered
  ahead : source.Stands covered (state.pending.reverse ++ state.rest)
  position_eq : setting.offset + state.position = covered + state.pending.length
  length_eq : state.position + state.rest.length = length

namespace State.Covers

theorem initial {text : Text} (stands : source.Stands setting.offset text) :
    (State.initial text).Covers source setting text.length setting.offset :=
  ⟨rfl, stands, rfl, Nat.zero_add _⟩

theorem skipChar {covered : Nat} (covers : state.Covers source setting length covered) :
    state.skipChar.Covers source setting length covered := by
  have ahead := covers.ahead
  have position := covers.position_eq
  have total := covers.length_eq
  unfold State.skipChar
  split
  · exact covers
  · rename_i c rest next
    rw [next] at ahead total
    refine ⟨covers.laid, ?_, ?_, ?_⟩
    · simpa using ahead
    · simp only [List.length_cons]
      omega
    · simp only [List.length_cons] at total ⊢
      omega

theorem flush {covered : Nat} (covers : state.Covers source setting length covered) :
    (state.flush setting).Covers source setting length (setting.offset + state.position) := by
  have ahead := covers.ahead
  have position := covers.position_eq
  unfold State.flush
  split
  · rename_i empty
    have nothing : state.pending = [] := List.isEmpty_iff.mp empty
    rw [nothing] at position
    rw [position]
    exact covers
  · have start : setting.offset + (state.position - state.pending.length) = covered := by
      have forward := covers.laid.le
      omega
    obtain ⟨here, next⟩ := Text.stands_append.mp ahead
    rw [List.length_reverse, ← position] at next
    have placed : Placed source (leaf .text covered state.pending.reverse setting.place) :=
      .leaf here
    refine ⟨?_, next, rfl, covers.length_eq⟩
    simp only [State.tokens, start, List.cons_append, laid_reverse_cons]
    refine ⟨covers.laid, everywhere_of_children_eq_nil rfl placed, ?_⟩
    rw [placed.stop_eq, position]
    simp [leaf]

theorem stands_rest {covered : Nat} (covers : state.Covers source setting length covered) :
    source.Stands (setting.offset + state.position) state.rest := by
  have ahead := (Text.stands_append.mp covers.ahead).2
  rw [List.length_reverse, ← covers.position_eq] at ahead
  exact ahead

end State.Covers

/-- The inner texts of a scan are read into tokens that are laid over them. -/
def Setting.ReadsInner (source : Text) (setting : Setting) : Prop :=
  setting.ReadsInto fun _ offset inner outcome => source.Stands offset inner →
    Laid source offset outcome.tokens (offset + inner.length)

theorem readInner_laid {start : Nat} {inner : Text} (reads : setting.ReadsInner source)
    (rule : Rule) (stands : source.Stands start inner) :
    Laid source start (readInner setting rule start inner).tokens (start + inner.length) := by
  apply reads.readInner rule _ stands
  intro stands
  exact ⟨rfl, everywhere_of_children_eq_nil rfl (.leaf stands), rfl⟩

/-- The token of a lexeme is placed where its text stands. -/
theorem makeToken_placed {lexeme : Lexeme} {start : Nat} {text : Text}
    (reads : setting.ReadsInner source) (rule : Rule) (fits : lexeme.Fits)
    (length : text.length = lexeme.length) (stands : source.Stands start text) :
    (makeToken setting rule lexeme start text).1.Everywhere (Placed source) ∧
      (makeToken setting rule lexeme start text).1.start = start ∧
      (makeToken setting rule lexeme start text).1.stop = start + text.length := by
  have bare : ∀ fields fault,
      Placed source { leaf rule.kind start text setting.place with fields, fault } :=
    fun _ _ => .ofBare stands rfl rfl rfl
  unfold makeToken
  cases marked : lexeme.inner with
  | none => exact ⟨everywhere_of_children_eq_nil rfl (bare _ _), rfl, rfl⟩
  | some span =>
      simp only
      split
      · obtain ⟨nonempty, bounded⟩ := fits span marked
        rw [← length] at bounded
        have standsInner : source.Stands (start + span.start) (Text.slice text span) :=
          stands.slice (by omega)
        have laid := readInner_laid reads rule standsInner
        obtain ⟨standsRead, sameEnd⟩ :=
          laid.stands (Text.stands_append.mp (by simpa using standsInner)).1
        refine ⟨everywhere_iff.mpr ⟨⟨stands, rfl, ?_, ?_⟩, laid.placed⟩, rfl, rfl⟩
        · exact standsRead.eq_of_length_eq standsInner (Nat.add_left_cancel sameEnd).symm
        · refine ⟨_, _, laid.tiles, Nat.le_add_right _ _, ?_⟩
          simp only [Text.length_slice bounded, leaf]
          omega
      · exact ⟨everywhere_of_children_eq_nil rfl (bare _ _), rfl, rfl⟩

/-- A folded pair is placed when its front and its back are and its children lie between them. -/
theorem foldPair_placed {kind : Kind} {front back : Token} {children : List Token}
    (frontPlaced : front.Everywhere (Placed source))
    (backPlaced : back.Everywhere (Placed source))
    (laid : Laid source front.stop children back.start) :
    (foldPair kind front children back).Everywhere (Placed source) := by
  have frontHere := frontPlaced.here
  have backHere := backPlaced.here
  have frontStop := frontHere.stop_eq
  have backStop := backHere.stop_eq
  have betweenStart : source.Stands front.stop [] := by
    rw [frontStop]
    exact (Text.stands_append.mp (by simpa using frontHere.stands)).2
  obtain ⟨standsInner, backStart⟩ := laid.stands betweenStart
  have stands : source.Stands front.start (front.text ++ textOf children ++ back.text) := by
    refine Text.stands_append.mpr ⟨Text.stands_append.mpr ⟨frontHere.stands, ?_⟩, ?_⟩
    · rw [← frontStop]
      exact standsInner
    · rw [List.length_append, ← Nat.add_assoc, ← frontStop, ← backStart]
      exact backHere.stands
  refine everywhere_iff.mpr ⟨⟨stands, ?_, rfl, ?_⟩, laid.placed⟩
  · simp only [foldPair, List.length_append]
    omega
  · refine ⟨front.stop, back.start, laid.tiles, ?_, ?_⟩
    · simp only [foldPair]
      omega
    · simp only [foldPair]
      omega

theorem Frame.demotedTokens_laid {frames : List Frame} {first last : Nat}
    (laid : Laid source first (Frame.tokens frames).reverse last) :
    Laid source first (Frame.demotedTokens frames).reverse last := by
  induction frames generalizing last with
  | nil => exact laid
  | cons frame outer induction =>
      simp only [Frame.tokens_cons, List.cons_append, laid_reverse_cons,
        laid_reverse_append] at laid
      obtain ⟨⟨middle, outerLaid, beforeLaid⟩, placed, stop⟩ := laid
      simp only [Frame.demotedTokens, List.flatMap_cons, List.cons_append, laid_reverse_cons,
        laid_reverse_append]
      exact ⟨⟨middle, induction outerLaid, beforeLaid⟩,
        everywhere_of_children_eq_nil rfl placed.here.demote, stop⟩

theorem Frame.unwind_laid {siblings : List Token} {frames : List Frame} {first last : Nat}
    (laid : Laid source first (siblings ++ Frame.tokens frames).reverse last) :
    Laid source first (Frame.unwind siblings frames).reverse last := by
  rw [Frame.unwind_eq, laid_reverse_append]
  obtain ⟨middle, framesLaid, siblingsLaid⟩ := laid_reverse_append.mp laid
  exact ⟨middle, demotedTokens_laid framesLaid, siblingsLaid⟩

namespace State

/-- Closing a pair keeps the tokens laid, whether the pair is folded or not. -/
theorem close_laid {back : Token} {pairing : Pairing}
    (frames : state.frames = pairing.abandoned ++ pairing.frame :: pairing.outer)
    (laid : Laid source setting.offset state.tokens.reverse back.start)
    (placed : back.Everywhere (Placed source)) :
    Laid source setting.offset (state.close setting back pairing).tokens.reverse back.stop := by
  rw [tokens, frames, Frame.tokens_append, Frame.tokens_cons, ← List.append_assoc,
    laid_reverse_append] at laid
  obtain ⟨middle, outside, inside⟩ := laid
  rw [List.cons_append, laid_reverse_cons] at outside
  obtain ⟨beforeLaid, frontPlaced, rfl⟩ := outside
  have between := Frame.unwind_laid inside
  simp only [close, tokens]
  split
  · rw [List.cons_append, laid_reverse_cons]
    exact ⟨beforeLaid, foldPair_placed frontPlaced placed between.coalesce, rfl⟩
  · rw [List.append_assoc, List.cons_append, laid_reverse_cons]
    refine ⟨?_, placed, rfl⟩
    rw [laid_reverse_append]
    refine ⟨_, ?_, between⟩
    rw [List.cons_append, laid_reverse_cons]
    exact ⟨beforeLaid, frontPlaced, rfl⟩

theorem add_laid {choice : Choice} {token : Token}
    (pairs : ∀ pairing, choice.pairing = some pairing →
      state.frames = pairing.abandoned ++ pairing.frame :: pairing.outer)
    (laid : Laid source setting.offset state.tokens.reverse token.start)
    (placed : token.Everywhere (Placed source)) :
    Laid source setting.offset (state.add setting choice token).tokens.reverse token.stop := by
  have added : Laid source setting.offset (token :: state.tokens).reverse token.stop :=
    laid_reverse_cons.mpr ⟨laid, placed, rfl⟩
  unfold add
  split
  · rename_i pairing paired
    exact close_laid (pairs pairing paired) laid placed
  · split
    · simpa [tokens] using added
    · simpa [tokens] using added

theorem Covers.accept {covered : Nat} {choice : Choice} (rules : setting.rules = Rule.ofMode)
    (reads : setting.ReadsInner source) (applies : choice.Applies setting state)
    (covers : state.Covers source setting length covered) :
    ∃ reached, (state.accept setting choice).Covers source setting length reached := by
  obtain ⟨found, success, lexemeEq⟩ := applies.found
  have member := applies.rule_mem_ofMode rules
  have fits : choice.lexeme.Fits := by
    rw [lexemeEq]
    exact Rule.lexeme_fits member success
  have flushed := covers.flush
  have total := covers.length_eq
  have inside := applies.length_le
  have ahead : source.Stands (setting.offset + state.position)
      (state.rest.take choice.lexeme.length ++ state.rest.drop choice.lexeme.length) := by
    rw [List.take_append_drop]
    exact covers.stands_rest
  have taken : (state.rest.take choice.lexeme.length).length = choice.lexeme.length :=
    List.length_take_of_le inside
  obtain ⟨here, next⟩ := Text.stands_append.mp ahead
  obtain ⟨placed, start, stop⟩ := makeToken_placed reads choice.rule fits taken here
  have laid : Laid source setting.offset (state.advance setting choice).tokens.reverse
      (choice.token setting state).start := by
    rw [Choice.token, start]
    exact flushed.laid
  rw [taken] at next stop
  rw [accept_eq]
  refine ⟨(choice.token setting state).stop, add_laid ?_ laid placed, ?_, ?_, ?_⟩
  · intro pairing paired
    rw [applies.pairing_eq] at paired
    rw [advance_frames]
    exact (Frame.pairing?_pairs paired).frames_eq
  · rw [Choice.token, stop]
    simpa [advance] using next
  · rw [Choice.token, stop]
    simp [advance, Nat.add_assoc]
  · simp only [add_position, add_rest, advance, List.length_drop]
    omega

end State

theorem covers_kept (rules : setting.rules = Rule.ofMode) (reads : setting.ReadsInner source) :
    Kept setting fun state => ∃ covered, state.Covers source setting length covered where
  withEvents := fun _ _ ⟨covered, covers⟩ =>
    ⟨covered, covers.laid, covers.ahead, covers.position_eq, covers.length_eq⟩
  skipChar := fun _ ⟨covered, covers⟩ => ⟨covered, covers.skipChar⟩
  accept := fun _ _ applies ⟨_, covers⟩ => covers.accept rules reads applies

theorem scanText_laid {text : Text} (rules : setting.rules = Rule.ofMode)
    (reads : setting.ReadsInner source) (stands : source.Stands setting.offset text) :
    Laid source setting.offset (scanText setting text).tokens
      (setting.offset + text.length) := by
  obtain ⟨final, ⟨covered, covers⟩, ended, equal⟩ :=
    (covers_kept rules reads).scanText ⟨setting.offset, .initial stands⟩
  have whole := covers.length_eq
  rw [ended, List.length_nil, Nat.add_zero] at whole
  rw [equal, ← whole]
  exact (Frame.unwind_laid covers.flush.laid).coalesce

/-- The tokens that a reading returns are laid over its text. -/
theorem read_laid (fold : Bool) (place : Text) (room : Nat) (mode : Mode) (beginsLine : Bool)
    {offset : Nat} {text : Text} (stands : source.Stands offset text) :
    Laid source offset (read Rule.ofMode fold place room mode beginsLine offset text).tokens
      (offset + text.length) := by
  refine read_induction
    (fun _ offset text outcome =>
      source.Stands offset text → Laid source offset outcome.tokens (offset + text.length))
    ?_ room mode beginsLine offset text stands
  intro room mode beginsLine offset text readsInner stands
  exact scanText_laid rfl readsInner stands

theorem readSetting_readsInner (source : Text) (fold : Bool) (place : Text) (room : Nat)
    (mode : Mode) (beginsLine : Bool) (offset : Nat) (text : Text) :
    (readSetting Rule.ofMode fold place room mode beginsLine offset text).ReadsInner source :=
  readSetting_readsInto fun _ innerMode _ _ => read_laid fold place _ innerMode false

end Scan

namespace Lex

open Token

/-- Every token of a passage's tree is faithful to the passage, and the tokens below the root cover
all of it from its start to its end. -/
theorem lex_faithful (options : Options) (source : Text) :
    (lex options source).Everywhere (Faithful source) ∧
      Tiles 0 (lex options source).children source.length ∧
      textOf (lex options source).children = source := by
  have laid : Laid source 0 (lex options source).children (0 + source.length) :=
    Scan.read_laid options.fold options.place _ options.mode true (Text.stands_self source)
  have start : source.Stands 0 [] := ⟨[], source, rfl, rfl⟩
  obtain ⟨stands, sameEnd⟩ := laid.stands start
  have inner : textOf (lex options source).children = source :=
    stands.eq_of_length_eq (Text.stands_self source) (by omega)
  have placed : Placed source (lex options source) :=
    ⟨Text.stands_self source, rfl, inner, 0, _, laid.tiles, Nat.le_refl _, Nat.le_refl _⟩
  rw [Nat.zero_add] at laid
  exact ⟨everywhere_faithful (everywhere_iff.mpr ⟨placed, laid.placed⟩), laid.tiles, inner⟩

end Lex

end PassageMarkup
