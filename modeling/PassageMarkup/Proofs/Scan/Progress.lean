import PassageMarkup.Proofs.Scan.Pairing
import PassageMarkup.Proofs.Scan.Steps

/-!
# The progress of a scan

A state of a scan splits the text into a part that the tokens cover, the pending text and the text
ahead.  Every open front takes at least one character, so there are never more open fronts than
characters read.
-/

namespace PassageMarkup

namespace Scan

variable {setting : Setting} {state : State} {text : Text}

/-- A state is a place in a text. -/
structure State.Inside (text : Text) (state : State) : Prop where
  split : ∃ before, text = before ++ state.pending.reverse ++ state.rest ∧
    state.position = before.length + state.pending.length
  frames_le : state.frames.length ≤ state.position

namespace State.Inside

theorem rest_eq (inside : state.Inside text) : state.rest = text.drop state.position := by
  obtain ⟨before, equal, position⟩ := inside.split
  have length : (before ++ state.pending.reverse).length = state.position := by
    simp [position]
  rw [equal, ← length, List.drop_left]

theorem position_add_rest (inside : state.Inside text) :
    state.position + state.rest.length = text.length := by
  obtain ⟨before, equal, position⟩ := inside.split
  rw [equal, position]
  simp only [List.length_append, List.length_reverse]

theorem pending_le (inside : state.Inside text) : state.pending.length ≤ state.position := by
  obtain ⟨before, _, position⟩ := inside.split
  omega

theorem frames_lt (inside : state.Inside text) (ahead : state.rest ≠ []) :
    state.frames.length < text.length := by
  have frames := inside.frames_le
  have total := inside.position_add_rest
  have positive := List.length_pos_iff.mpr ahead
  omega

theorem initial (text : Text) : (State.initial text).Inside text := by
  constructor
  · exact ⟨[], rfl, rfl⟩
  · exact Nat.le_refl 0

theorem withEvents (inside : state.Inside text) (events : List Event) :
    State.Inside text { state with events } :=
  ⟨inside.split, inside.frames_le⟩

theorem skipChar (inside : state.Inside text) : state.skipChar.Inside text := by
  obtain ⟨⟨before, equal, position⟩, frames⟩ := inside
  unfold State.skipChar
  split
  · exact ⟨⟨before, equal, position⟩, frames⟩
  · rename_i c rest ahead
    constructor
    · refine ⟨before, ?_, ?_⟩
      · rw [equal, ahead]
        simp
      · simp only [position, List.length_cons]
        omega
    · simp only
      omega

end State.Inside

theorem State.add_frames_le {choice : Choice} (token : Token)
    (pairs : ∀ pairing, choice.pairing = some pairing →
      state.frames = pairing.abandoned ++ pairing.frame :: pairing.outer) :
    (state.add setting choice token).frames.length ≤ state.frames.length + 1 := by
  unfold State.add
  split
  · rename_i pairing paired
    rw [pairs pairing paired]
    simp only [State.close, List.length_append, List.length_cons]
    omega
  · split <;> simp

theorem Choice.Applies.pairs {choice : Choice} (applies : choice.Applies setting state)
    {pairing : Pairing} (paired : choice.pairing = some pairing) :
    Frame.Pairs choice.rule choice.lexeme.arity state.frames pairing := by
  apply Frame.pairing?_pairs
  rw [← applies.pairing_eq, paired]

theorem State.Inside.accept {choice : Choice} (applies : choice.Applies setting state)
    (inside : state.Inside text) : (state.accept setting choice).Inside text := by
  obtain ⟨⟨before, equal, position⟩, frames⟩ := inside
  have positive := applies.length_pos
  have taken : (state.rest.take choice.lexeme.length).length = choice.lexeme.length :=
    List.length_take_of_le applies.length_le
  rw [State.accept_eq]
  constructor
  · refine ⟨before ++ state.pending.reverse ++ state.rest.take choice.lexeme.length, ?_, ?_⟩
    · simp only [State.add_pending, State.add_rest, State.advance, State.flush_pending]
      simp [equal]
    · simp only [State.add_position, State.add_pending, State.advance, State.flush_pending]
      simp only [List.length_append, List.length_reverse, taken, List.length_nil]
      omega
  · have grown : (State.add setting (state.advance setting choice) choice
        (choice.token setting state)).frames.length ≤
          (state.advance setting choice).frames.length + 1 := by
      apply State.add_frames_le
      intro pairing paired
      rw [State.advance_frames]
      exact (applies.pairs paired).frames_eq
    have moved : (state.advance setting choice).position =
        state.position + choice.lexeme.length := rfl
    rw [State.advance_frames] at grown
    rw [State.add_position, moved]
    omega

theorem inside_kept : Kept setting (State.Inside text) where
  withEvents := fun _ events inside => inside.withEvents events
  skipChar := fun _ inside => inside.skipChar
  accept := fun _ _ applies inside => inside.accept applies

end Scan

end PassageMarkup
