import Mathlib.Logic.Relation
import PassageMarkup.Proofs.Scan.Room
import PassageMarkup.Proofs.Text.Bytes

/-!
# Readings are safe

A reading cuts its text only inside its bounds and between characters, finds every open front among
its tokens, and comes to the end of its text.  The inner texts that it comes upon are shorter than
the text, so all of this holds at every depth.
-/

namespace PassageMarkup

namespace Scan

variable {setting : Setting} {state : State} {choice : Choice} {text : Text}

/-- The place of a front among the tokens, the oldest of which has place zero. -/
def Frame.place (frame : Frame) (outer : List Frame) : Nat :=
  (frame.before ++ Frame.tokens outer).length

theorem State.tokens_getElem?_place {inner outer : List Frame} {frame : Frame}
    (frames : state.frames = inner ++ frame :: outer) :
    state.tokens.reverse[frame.place outer]? = some frame.front := by
  have split : state.tokens.reverse =
      (frame.before ++ Frame.tokens outer).reverse ++
        frame.front :: (state.siblings ++ Frame.tokens inner).reverse := by
    rw [State.tokens, frames]
    simp
  rw [split, Frame.place, ← List.length_reverse, List.getElem?_append_right (Nat.le_refl _)]
  simp

/-- What the token of a choice is cut from: the text ahead, and for its inner text the part that is
taken. -/
structure Choice.Safe (text : Text) (setting : Setting) (state : State) (choice : Choice) :
    Prop where
  nonempty : 0 < Text.byteLength (choice.consumed state)
  length_eq : (choice.consumed state).length = choice.lexeme.length
  consumed_slice : Text.sliceBytes? state.rest 0 (Text.byteLength (choice.consumed state)) =
    some (choice.consumed state)
  inner_slice : ∀ span, choice.lexeme.inner = some span →
    Text.sliceBytes? (choice.consumed state)
        (Text.byteLength ((choice.consumed state).take span.start))
        (Text.byteLength ((choice.consumed state).take span.stop)) =
      some ((choice.consumed state).slice span)
  inner_bounds : ∀ span, choice.lexeme.inner = some span →
    span.start < span.stop ∧ span.stop ≤ choice.lexeme.length ∧
      ((choice.consumed state).slice span).length < text.length
  /-- The newest token is the back, and under the tokens between lies the front. -/
  pair_found : ∀ pairing, choice.pairing = some pairing →
    choice.token setting state :: (state.advance setting choice).tokens =
      choice.token setting state ::
        ((state.advance setting choice).siblings ++ Frame.tokens pairing.abandoned) ++
          pairing.frame.front :: (pairing.frame.before ++ Frame.tokens pairing.outer)

theorem Choice.Applies.safe (applies : choice.Applies setting state)
    (rules : setting.rules = Rule.ofMode) (inside : state.Inside text) :
    choice.Safe text setting state := by
  have length := applies.length_consumed
  have positive := applies.length_pos
  constructor
  · apply Text.byteLength_pos
    intro empty
    rw [empty, List.length_nil] at length
    omega
  · exact length
  · exact Text.sliceBytes?_take (Nat.zero_le choice.lexeme.length)
  · intro span marked
    exact Text.sliceBytes?_take (applies.inner_bounds rules marked).2.1.le
  · intro span marked
    have bounds := applies.inner_bounds rules marked
    exact ⟨bounds.2.1, bounds.2.2, (applies.inner_length rules inside marked).2⟩
  · intro pairing paired
    rw [State.tokens, State.advance_frames, (applies.pairs paired).frames_eq]
    simp

end Scan

open Scan

/-- A text that is read, with the mode and the place in which it stands. -/
structure Reading where
  mode : Mode
  beginsLine : Bool
  /-- The number of inner texts around it. -/
  depth : Nat
  offset : Nat
  text : Text

namespace Reading

variable {options : Options} {limit : Nat} {reading inner : Reading} {state : State}

def setting (options : Options) (reading : Reading) : Setting :=
  readSetting Rule.ofMode options.fold options.place (options.maxDepth - reading.depth)
    reading.mode reading.beginsLine reading.offset reading.text

/-- A reading comes to a state. -/
inductive Passes (options : Options) (reading : Reading) : State → Prop where
  | initial : Passes options reading (.initial reading.text)
  | step {state : State} :
      Passes options reading state →
      state.rest ≠ [] →
      Passes options reading (state.step (reading.setting options))

/-- A reading comes upon an inner text, whether or not the nesting limit lets it be read. -/
inductive Meets (options : Options) (reading : Reading) : Reading → Prop where
  | intro {state : State} {choice : Choice} {span : Span} :
      Passes options reading state →
      state.choice? (reading.setting options) = some choice →
      choice.lexeme.inner = some span →
      Meets options reading
        { mode := choice.rule.innerMode.getD .prose
          beginsLine := false
          depth := reading.depth + 1
          offset := reading.offset + state.position + span.start
          text := (choice.consumed state).slice span }

/-- Nothing fails at a state: the cursor and the pending text are slices of the text, open fronts
are among the tokens, matches and their groups are parts of the text ahead, numbers stay within a
limit, and what is chosen is safe too. -/
structure Safe (options : Options) (limit : Nat) (reading : Reading) (state : State) : Prop where
  rest_slice : Text.sliceBytes? reading.text (Text.byteLength (reading.text.take state.position))
    (Text.byteLength reading.text) = some state.rest
  pending_slice : Text.sliceBytes? reading.text
    (Text.byteLength (reading.text.take (state.position - state.pending.length)))
    (Text.byteLength (reading.text.take state.position)) = some state.pending.reverse
  fronts_found : ∀ inner frame outer, state.frames = inner ++ frame :: outer →
    state.tokens.reverse[frame.place outer]? = some frame.front
  matches_split : ∀ pattern : Pattern, ∀ found, pattern.find? state.rest = some found →
    found.SplitsOff state.rest
  offset_le : reading.offset + state.position + state.rest.length ≤ limit
  nesting_le : reading.depth + state.frames.length ≤ limit
  choice_safe : ∀ choice, state.choice? (reading.setting options) = some choice →
    choice.Safe reading.text (reading.setting options) state

theorem Passes.stepwise {property : State → Prop} (passes : reading.Passes options state)
    (stepwise : Stepwise (reading.setting options) property)
    (initial : property (.initial reading.text)) : property state := by
  induction passes with
  | initial => exact initial
  | step _ ahead induction => exact stepwise _ induction ahead

theorem Passes.kept {property : State → Prop} (passes : reading.Passes options state)
    (kept : Kept (reading.setting options) property) (initial : property (.initial reading.text)) :
    property state :=
  passes.stepwise kept.stepwise initial

theorem Passes.inside (passes : reading.Passes options state) : state.Inside reading.text :=
  passes.kept inside_kept (.initial reading.text)

/-- A reading whose numbers can count to the end of its text is safe at every state. -/
theorem Passes.safe (offsets : reading.offset + reading.text.length ≤ limit)
    (depths : reading.depth + reading.text.length ≤ limit)
    (passes : reading.Passes options state) : reading.Safe options limit state := by
  have inside := passes.inside
  have total := inside.position_add_rest
  have fronts := inside.frames_le
  have ordered : state.position ≤ reading.text.length := by omega
  constructor
  · have whole := @Text.sliceBytes?_take reading.text _ _ ordered
    rw [List.take_length] at whole
    rw [whole, inside.rest_eq, Text.slice, Span.length, List.take_of_length_le (by simp)]
  · rw [Text.sliceBytes?_take (Nat.sub_le _ _)]
    obtain ⟨before, equal, position⟩ := inside.split
    have start : state.position - state.pending.length = before.length := by omega
    have stop : state.position = before.length + state.pending.reverse.length := by simpa
    rw [start, stop, equal, Text.slice_between]
  · intro inner frame outer frames
    exact State.tokens_getElem?_place frames
  · intro pattern found success
    exact Pattern.find?_splitsOff success
  · omega
  · omega
  · intro choice chosen
    exact (State.choice?_applies chosen).safe rfl inside

/-- An inner text is shorter than the text, and its numbers stay within the same limit. -/
theorem Meets.bounds (meets : reading.Meets options inner)
    (offsets : reading.offset + reading.text.length ≤ limit)
    (depths : reading.depth + reading.text.length ≤ limit) :
    inner.text.length < reading.text.length ∧ inner.offset + inner.text.length ≤ limit ∧
      inner.depth + inner.text.length ≤ limit := by
  obtain ⟨passes, chosen, marked⟩ := meets
  rename_i state choice span
  have inside := passes.inside
  have applies := State.choice?_applies chosen
  have bounds := applies.inner_bounds rfl marked
  have shorter := (applies.inner_length rfl inside marked).2
  have total := inside.position_add_rest
  have fits := applies.length_le
  have length : ((choice.consumed state).slice span).length = span.stop - span.start :=
    Text.length_slice (by rw [applies.length_consumed]; exact bounds.2.2)
  simp only
  omega

end Reading

namespace Lex

/-- Reading a text is safe at every state, and so is the reading of every inner text at any depth.
Each reading comes to the end of its text, inner texts are shorter than the text around them, and
with enough room the nesting limit plays no part. -/
theorem tokenize_safe (options : Options) (offset depth limit : Nat) (beginsLine : Bool)
    (text : Text) (offsets : offset + text.length ≤ limit) (depths : depth + text.length ≤ limit) :
    (∀ reading, Relation.ReflTransGen (Reading.Meets options)
        ⟨options.mode, beginsLine, depth, offset, text⟩ reading →
      (∀ state, reading.Passes options state → reading.Safe options limit state) ∧
        (∀ inner, reading.Meets options inner → inner.text.length < reading.text.length) ∧
        ((State.initial reading.text).run (reading.setting options) reading.text.length).rest =
          []) ∧
      (text.length ≤ options.maxDepth - depth →
        readAt options offset depth beginsLine text =
          readFreely options.fold options.place options.mode beginsLine offset text) := by
  constructor
  · intro reading reached
    have bounds : reading.offset + reading.text.length ≤ limit ∧
        reading.depth + reading.text.length ≤ limit := by
      induction reached with
      | refl => exact ⟨offsets, depths⟩
      | tail _ meets induction => exact (meets.bounds induction.1 induction.2).2
    refine ⟨?_, ?_, ?_⟩
    · intro state passes
      exact passes.safe bounds.1 bounds.2
    · intro inner meets
      exact (meets.bounds bounds.1 bounds.2).1
    · exact State.run_rest (Nat.le_refl _)
  · intro enough
    exact read_eq_readFreely options.fold options.place options.mode beginsLine offset enough

theorem heading_with_link_safe :
    3 + "# [[é->b]]".toList.length ≤ 0xffffffffffffffff ∧
      1 + "# [[é->b]]".toList.length ≤ 0xffffffffffffffff ∧
      (∀ state, Reading.Passes {} ⟨.prose, true, 1, 3, "# [[é->b]]".toList⟩ state →
        Reading.Safe {} 0xffffffffffffffff ⟨.prose, true, 1, 3, "# [[é->b]]".toList⟩ state) ∧
      readAt {} 3 1 true "# [[é->b]]".toList =
        readFreely true [] .prose true 3 "# [[é->b]]".toList := by
  have offsets : 3 + "# [[é->b]]".toList.length ≤ 0xffffffffffffffff := by decide
  have depths : 1 + "# [[é->b]]".toList.length ≤ 0xffffffffffffffff := by decide
  have safe := tokenize_safe {} 3 1 0xffffffffffffffff true "# [[é->b]]".toList offsets depths
  exact ⟨offsets, depths, (safe.1 _ .refl).1, safe.2 (by decide)⟩

end Lex

end PassageMarkup
