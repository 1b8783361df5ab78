import PassageMarkup.Proofs.Scan.Coverage
import PassageMarkup.Proofs.Scan.Progress

/-!
# Text stays text

A character that a scan has gone past, or that lies in a text token, lies in a text token of the
tree in the end: joining texts, folding pairs and giving up fronts lose no text.
-/

namespace PassageMarkup

namespace Token

/-- The character at an offset lies in a text token of a list of trees. -/
def InText (tokens : List Token) (offset : Nat) : Prop :=
  ∃ token ∈ nodesList tokens, token.kind = .text ∧ token.start ≤ offset ∧ offset < token.stop

/-- A property that some token in laid trees has is not lost where neighbouring texts are joined. -/
def Lasting (source : Text) (property : Token → Prop) : Prop :=
  ∀ (first last : Nat) (tokens : List Token), Laid source first tokens last →
    Somewhere property tokens → Somewhere property (coalesce tokens)

variable {source : Text} {property : Token → Prop} {tokens others : List Token} {offset : Nat}
  {token : Token}

theorem InText.mono (inText : InText tokens offset) (subset : tokens ⊆ others) :
    InText others offset :=
  Somewhere.mono inText subset

theorem inText_cons : InText (token :: others) offset ↔
    InText [token] offset ∨ InText others offset :=
  somewhere_cons

theorem InText.ofChildren (inText : InText token.children offset) : InText [token] offset :=
  Somewhere.ofChildren inText

theorem inText_plain (plain : token.isPlainText = true) :
    InText [token] offset ↔ token.start ≤ offset ∧ offset < token.stop := by
  obtain ⟨isText, childless⟩ := isPlainText_iff.mp plain
  have alone : nodesList [token] = [token] := by
    rw [nodesList, nodes_eq, childless]
    rfl
  simp [InText, alone, isText]

/-- Joining neighbouring texts loses no text. -/
theorem InText.coalesce {first last : Nat} (laid : Laid source first tokens last)
    (inText : InText tokens offset) : InText (Token.coalesce tokens) offset := by
  induction tokens generalizing first with
  | nil => exact inText
  | cons token rest induction =>
      obtain ⟨rfl, placed, restLaid⟩ := laid
      have stop := placed.here.stop_eq
      have joined := restLaid.coalesce
      have kept : InText [token] offset ∨ InText (Token.coalesce rest) offset :=
        (inText_cons.mp inText).imp_right (induction restLaid)
      simp only [Token.coalesce]
      split
      · rename_i empty
        rw [empty] at kept
        rcases kept with here | ⟨_, member, _⟩
        · exact here
        · contradiction
      · rename_i next others split
        rw [split] at kept joined
        obtain ⟨adjacent, nextPlaced, _⟩ := joined
        have nextStop := nextPlaced.here.stop_eq
        replace kept := kept.imp_right inText_cons.mp
        split
        · rename_i plain
          rw [Bool.and_eq_true] at plain
          rw [inText_plain plain.1, inText_plain plain.2] at kept
          have isPlain : isPlainText
              { token with text := token.text ++ next.text, stop := next.stop } = true := plain.1
          rw [inText_cons, inText_plain isPlain]
          rcases kept with here | inNext | later
          · exact .inl ⟨here.1, by simp only; omega⟩
          · exact .inl ⟨by simp only; omega, inNext.2⟩
          · exact .inr later
        · exact inText_cons.mpr (kept.imp_right inText_cons.mpr)

theorem inText_lasting (source : Text) (offset : Nat) :
    Lasting source fun token => token.kind = .text ∧ token.start ≤ offset ∧ offset < token.stop :=
  fun _ _ _ laid inText => InText.coalesce laid inText

theorem lasting_of_not_text (notText : ∀ token, property token → token.kind ≠ .text) :
    Lasting source property := by
  rintro first last tokens - ⟨node, member, here⟩
  refine ⟨node, ?_, here⟩
  have alone : ∀ token : Token, token.isPlainText = true → node ∉ token.nodes := by
    intro token plain inside
    obtain ⟨isText, childless⟩ := isPlainText_iff.mp plain
    rw [nodes_eq, childless, nodesList, List.mem_singleton] at inside
    exact notText node here (inside ▸ isText)
  induction tokens with
  | nil => exact member
  | cons token rest induction =>
      rw [nodesList, List.mem_append] at member
      replace member := member.imp_right induction
      simp only [coalesce]
      split
      · rename_i empty
        rw [empty] at member
        exact List.mem_append.mpr member
      · rename_i next others joined
        rw [joined] at member
        split
        · rename_i plain
          rw [Bool.and_eq_true] at plain
          rcases member with inToken | inRest
          · exact absurd inToken (alone token plain.1)
          · rcases List.mem_append.mp inRest with inNext | later
            · exact absurd inNext (alone next plain.2)
            · exact List.mem_append_right _ later
        · exact List.mem_append.mpr member

end Token

namespace Scan

open Token

variable {source : Text} {property : Token → Prop} {setting : Setting} {state : State}
  {length offset : Nat}

/-- The tokens of a state without its open fronts, the newest first. -/
def State.closedTokens (state : State) : List Token :=
  state.siblings ++ state.frames.flatMap Frame.before

theorem Frame.append_before_subset_unwind (siblings : List Token) (frames : List Frame) :
    siblings ++ frames.flatMap Frame.before ⊆ Frame.unwind siblings frames := by
  rw [Frame.unwind_eq, List.append_subset]
  refine ⟨List.subset_append_left _ _, fun token member => ?_⟩
  obtain ⟨frame, inside, before⟩ := List.mem_flatMap.mp member
  apply List.mem_append_right
  exact List.mem_flatMap.mpr ⟨frame, inside, List.mem_cons_of_mem _ before⟩

/-- The character at an offset is text at a state: it is pending or lies in a text token. -/
def State.HoldsText (setting : Setting) (state : State) (offset : Nat) : Prop :=
  InText state.closedTokens offset ∨
    setting.offset + (state.position - state.pending.length) ≤ offset ∧
      offset < setting.offset + state.position

namespace State

theorem HoldsText.flush {covered : Nat} (covers : state.Covers source setting length covered)
    (holds : state.HoldsText setting offset) :
    InText (state.flush setting).closedTokens offset := by
  have forward := covers.laid.le
  have position := covers.position_eq
  unfold State.flush
  split
  · rename_i empty
    rcases holds with inText | range
    · exact inText
    · rw [List.isEmpty_iff.mp empty, List.length_nil] at range
      omega
  · rcases holds with inText | range
    · exact inText.mono (List.subset_cons_self _ _)
    · refine inText_cons.mpr (.inl ((inText_plain rfl).mpr ⟨range.1, ?_⟩))
      simp only [leaf, List.length_reverse]
      omega

/-- What stands between a front and its back stays when the pair is closed, folded or not. -/
theorem somewhere_between {back : Token} {pairing : Pairing} {last : Nat}
    (lasting : Lasting source property)
    (frames : state.frames = pairing.abandoned ++ pairing.frame :: pairing.outer)
    (laid : Laid source setting.offset state.tokens.reverse last)
    (inside : Somewhere property (Frame.unwind state.siblings pairing.abandoned)) :
    Somewhere property (state.close setting back pairing).closedTokens := by
  rw [tokens, frames, Frame.tokens_append, ← List.append_assoc, laid_reverse_append] at laid
  obtain ⟨first, _, between⟩ := laid
  simp only [close, closedTokens]
  split
  · rw [List.cons_append, somewhere_cons]
    left
    exact (lasting _ _ _ (Frame.unwind_laid between) (inside.mono (by simp))).ofChildren
  · exact inside.mono (by simp)

theorem somewhere_close {back : Token} {pairing : Pairing} {last : Nat}
    (lasting : Lasting source property)
    (frames : state.frames = pairing.abandoned ++ pairing.frame :: pairing.outer)
    (laid : Laid source setting.offset state.tokens.reverse last)
    (holds : Somewhere property state.closedTokens) :
    Somewhere property (state.close setting back pairing).closedTokens := by
  rw [closedTokens, frames, List.flatMap_append, List.flatMap_cons, ← List.append_assoc,
    somewhere_append] at holds
  rcases holds with inside | outside
  · apply somewhere_between lasting frames laid
    exact inside.mono (Frame.append_before_subset_unwind _ _)
  · apply outside.mono
    simp only [close, closedTokens]
    intro token member
    split
    · exact List.mem_cons_of_mem _ member
    · simp only [List.mem_append, List.mem_cons] at member ⊢
      tauto

theorem somewhere_add {choice : Choice} {token : Token} {last : Nat}
    (lasting : Lasting source property)
    (pairs : ∀ pairing, choice.pairing = some pairing →
      state.frames = pairing.abandoned ++ pairing.frame :: pairing.outer)
    (laid : Laid source setting.offset state.tokens.reverse last)
    (holds : Somewhere property state.closedTokens) :
    Somewhere property (state.add setting choice token).closedTokens := by
  unfold add
  split
  · rename_i pairing paired
    exact somewhere_close lasting (pairs pairing paired) laid holds
  · split
    · exact holds
    · exact somewhere_cons.mpr (.inr holds)

/-- Taking a rule loses nothing that is there when the pending text is a token. -/
theorem somewhere_accept {covered : Nat} {choice : Choice} (lasting : Lasting source property)
    (applies : choice.Applies setting state) (covers : state.Covers source setting length covered)
    (flushed : Somewhere property (state.flush setting).closedTokens) :
    Somewhere property (state.accept setting choice).closedTokens := by
  have advanced : Somewhere property (state.advance setting choice).closedTokens := flushed
  have laid : Laid source setting.offset (state.advance setting choice).tokens.reverse
      (setting.offset + state.position) := covers.flush.laid
  rw [accept_eq]
  apply somewhere_add lasting _ laid advanced
  intro pairing paired
  rw [advance_frames]
  exact (applies.pairs paired).frames_eq

/-- Giving up the fronts that are still open at the end loses nothing else. -/
theorem somewhere_finish {covered : Nat} (lasting : Lasting source property)
    (covers : state.Covers source setting length covered)
    (holds : Somewhere property ((state.flush setting).siblings ++
      Frame.demotedTokens (state.flush setting).frames)) :
    Somewhere property (state.finish setting).tokens := by
  have laid := Frame.unwind_laid covers.flush.laid
  rw [← Frame.unwind_eq] at holds
  exact lasting _ _ _ laid (holds.mono (by simp))

theorem closedTokens_subset :
    state.closedTokens ⊆ state.siblings ++ Frame.demotedTokens state.frames := by
  rw [← Frame.unwind_eq]
  exact Frame.append_before_subset_unwind _ _

theorem closedTokens_subset_flush : state.closedTokens ⊆ (state.flush setting).closedTokens := by
  unfold State.flush
  split
  · exact List.Subset.refl _
  · exact List.subset_cons_self _ _

theorem HoldsText.accept {covered : Nat} {choice : Choice}
    (applies : choice.Applies setting state) (covers : state.Covers source setting length covered)
    (holds : state.HoldsText setting offset) :
    (state.accept setting choice).HoldsText setting offset :=
  .inl (somewhere_accept (inText_lasting source offset) applies covers (holds.flush covers))

theorem HoldsText.skipChar (holds : state.HoldsText setting offset) :
    state.skipChar.HoldsText setting offset := by
  unfold State.skipChar
  split
  · exact holds
  · apply holds.imp_right
    simp only [List.length_cons]
    omega

theorem HoldsText.finish {covered : Nat} (covers : state.Covers source setting length covered)
    (holds : state.HoldsText setting offset) : InText (state.finish setting).tokens offset :=
  somewhere_finish (inText_lasting source offset) covers
    ((holds.flush covers).mono closedTokens_subset)

end State

theorem holdsText_kept (rules : setting.rules = Rule.ofMode) (reads : setting.ReadsInner source) :
    Kept setting fun state => (∃ covered, state.Covers source setting length covered) ∧
      state.HoldsText setting offset where
  withEvents := fun state events ⟨covers, holds⟩ =>
    ⟨(covers_kept rules reads).withEvents state events covers, holds⟩
  skipChar := fun state ⟨covers, holds⟩ =>
    ⟨(covers_kept rules reads).skipChar state covers, holds.skipChar⟩
  accept := fun _ _ applies ⟨⟨_, covers⟩, holds⟩ =>
    ⟨covers.accept rules reads applies, holds.accept applies covers⟩

namespace State

theorem holdsText_of_passed (ahead : state.rest ≠ []) (nothing : state.choice? setting = none) :
    (state.step setting).HoldsText setting (setting.offset + state.position) := by
  obtain ⟨events, step⟩ := step_eq setting state
  obtain ⟨c, rest, ahead⟩ := List.exists_cons_of_ne_nil ahead
  rw [step, nothing]
  right
  simp only [State.skipChar, ahead, List.length_cons]
  omega

end State

end Scan

end PassageMarkup
