import PassageMarkup.Proofs.Document.Plain
import PassageMarkup.Proofs.Scan.Writes

/-!
# Reading the parts of documents

A scan that comes to a run that no rule takes makes it a text, and a scan that reads the inside of a
pair between the pair's front and back folds the pair.
-/

namespace PassageMarkup

namespace Scan

namespace State

variable {setting : Setting} {state : State} {text tail : Text}

theorem choice?_eq_none (rules : setting.rules = Rule.ofMode)
    (skipped : ∀ rule ∈ Rule.ofMode (state.mode setting), state.judge setting rule = .skip) :
    state.choice? setting = none := by
  have chosen := @choose_append setting state _ [] skipped
  rw [List.append_nil] at chosen
  rw [choice?, rules, chosen]
  rfl

/-- Characters that no rule takes become pending one after the other. -/
theorem exists_skipped (ahead : state.rest = text ++ tail)
    (nothing : ∀ later : State, later.frames = state.frames → ∀ c rest, c :: rest <:+ text →
      later.rest = c :: rest ++ tail → later.choice? setting = none) :
    ∃ later : State, later.remaining setting = state.remaining setting ∧ later.rest = tail ∧
      later.position = state.position + text.length ∧
      later.pending = text.reverse ++ state.pending ∧ later.siblings = state.siblings ∧
      later.frames = state.frames := by
  induction text generalizing state with
  | nil => exact ⟨state, rfl, ahead, rfl, rfl, rfl, rfl⟩
  | cons c rest induction =>
      have here := nothing state rfl c rest (List.suffix_refl _) ahead
      obtain ⟨events, skipped⟩ := step_skips ahead here
      have remaining := @remaining_step setting state (by simp [ahead])
      rw [skipped] at remaining
      obtain ⟨later, sameRemaining, restEq, position, pending, siblings, frames⟩ :=
        @induction ⟨rest ++ tail, state.position + 1, c :: state.pending, state.siblings,
          state.frames, events⟩ rfl fun later frames d more suffix =>
            nothing later frames d more (suffix.trans (List.suffix_cons c rest))
      refine ⟨later, sameRemaining.trans remaining, restEq, ?_, ?_, siblings, frames⟩
      · rw [position, List.length_cons, Nat.add_assoc, Nat.add_comm 1]
      · rw [pending, List.reverse_cons, List.append_assoc, List.singleton_append]

theorem exists_writes_text (ahead : state.rest = text ++ tail) (nonempty : text ≠ [])
    (settled : state.pending = [])
    (nothing : ∀ later : State, later.frames = state.frames → ∀ c rest, c :: rest <:+ text →
      later.rest = c :: rest ++ tail → later.choice? setting = none) :
    ∃ later, state.Writes setting text
      [.leaf .text (setting.offset + state.position) text setting.place] later := by
  obtain ⟨later, remaining, restEq, position, pending, siblings, frames⟩ :=
    exists_skipped ahead nothing
  refine ⟨later, remaining, by rw [restEq, ahead], position, frames, ?_⟩
  simp [flush, position, pending, settled, nonempty, siblings]

theorem exists_writes_delimiter {mode : Mode} {rule : Rule} {name : Option Text}
    (rules : setting.rules = Rule.ofMode) (current : state.mode setting = mode)
    (ahead : state.rest = text ++ tail) (reads : Reads mode rule name text tail)
    (notFront : rule.front = false) (closesNothing : rule.closes = []) :
    ∃ later, state.Writes setting text
      [.delimiter rule.kind (setting.offset + state.position) text setting.place name] later ∧
        later.pending = [] := by
  obtain ⟨events, step⟩ := step_adds rules current ahead reads notFront closesNothing
  have remaining := @remaining_step setting state (by rw [ahead]; exact reads.append_ne_nil)
  rw [step] at remaining
  exact ⟨_, ⟨remaining, ahead, rfl, rfl, rfl⟩, rfl⟩

theorem foldPair_delimiters {kind frontKind backKind : Kind} {start backStart : Nat}
    {front inner back place : Text} {name : Option Text} {children : Nat → List Token}
    (covers : Token.textOf (children (start + front.length)) = inner)
    (ends : backStart = start + front.length + inner.length) :
    foldPair kind (.delimiter frontKind start front place name)
      (children (start + front.length)) (.delimiter backKind backStart back place none) =
      .ofPair kind name place start front inner back children := by
  simp [foldPair, Token.ofPair, Token.delimiter, Token.leaf, Fields.mergeMissing, covers, ends,
    Nat.add_assoc]

/-- A front, what is written inside, and the back that belongs to the front are read as a pair. -/
theorem exists_writes_pair {inside : Mode} {frontRule backRule : Rule} {kind : Kind}
    {name : Option Text} {front inner back : Text} {children : Nat → List Token}
    (rules : setting.rules = Rule.ofMode) (fold : setting.fold = true)
    (ahead : state.rest = front ++ inner ++ back ++ tail)
    (readsFront : Reads (state.mode setting) frontRule name front (inner ++ (back ++ tail)))
    (isFront : frontRule.front = true) (closesNothing : frontRule.closes = [])
    (innerMode : frontRule.innerMode = some inside) (room : state.frames.length < setting.room)
    (readsBack : Reads inside backRule none back tail)
    (resolves : backRule.resolves frontRule.kind frontRule.aka 0 0 = some kind)
    (joined : ∀ start, Token.coalesce (children start) = children start)
    (covers : ∀ start, Token.textOf (children start) = inner)
    (between : ∀ opened, state.Opens setting frontRule name front (inner ++ (back ++ tail)) opened →
      ∃ later, opened.Writes setting inner (children (setting.offset + opened.position)) later) :
    ∃ later, state.Writes setting (front ++ inner ++ back)
      [.ofPair kind name setting.place (setting.offset + state.position) front inner back children]
      later ∧ later.pending = [] := by
  have frontAhead : state.rest = front ++ (inner ++ (back ++ tail)) := by
    simp [ahead]
  have opens := step_opens rules rfl frontAhead readsFront isFront closesNothing room
  have remainingOpens := @remaining_step setting state
    (by rw [frontAhead]; exact readsFront.append_ne_nil)
  obtain ⟨reached, writes⟩ := between _ opens
  have backAhead : reached.rest = back ++ tail :=
    List.append_cancel_left (writes.rest_eq.symm.trans opens.rest_eq)
  obtain ⟨events, stepCloses⟩ := step_closes rules fold
    (writes.mode_eq.trans (opens.mode_eq innerMode)) backAhead readsBack
    (writes.frames_eq.trans opens.frames_eq) resolves
  have remainingCloses := @remaining_step setting reached
    (by rw [backAhead]; exact readsBack.append_ne_nil)
  have inside : setting.offset + (state.step setting).position =
      setting.offset + state.position + front.length := by
    rw [opens.position_eq, Nat.add_assoc]
  have siblings : (reached.flush setting).siblings.reverse =
      children (setting.offset + state.position + front.length) := by
    rw [writes.siblings_eq, ← inside]
    simp [flush, opens.pending_eq, opens.siblings_eq]
  have ends : setting.offset + reached.position =
      setting.offset + state.position + front.length + inner.length := by
    rw [writes.position_eq, ← inside, Nat.add_assoc]
  rw [stepCloses, siblings, joined, foldPair_delimiters (covers _) ends] at remainingCloses
  have remaining := remainingCloses.trans (writes.remaining_eq.trans remainingOpens)
  refine ⟨_, ⟨remaining, ahead, ?_, rfl, rfl⟩, rfl⟩
  rw [writes.position_eq, opens.position_eq]
  simp [Nat.add_assoc]

end State

end Scan

end PassageMarkup
