import PassageMarkup.Scan.State

/-!
# Pairings

The front that a back closes is the innermost one that resolves, and the search for it does not
pass a front at which it has to stop.  Giving up fronts leaves all tokens in their order.
-/

namespace PassageMarkup

namespace Scan

namespace Frame

/-- What the search for a front to close finds. -/
structure Pairs (rule : Rule) (arity : Nat) (frames : List Frame) (pairing : Pairing) : Prop where
  frames_eq : frames = pairing.abandoned ++ pairing.frame :: pairing.outer
  resolves_eq : rule.resolves pairing.frame.front.kind pairing.frame.rule.aka pairing.frame.arity
    arity = some pairing.kind
  passes : ∀ frame ∈ pairing.abandoned,
    rule.resolves frame.front.kind frame.rule.aka frame.arity arity = none ∧
      rule.stopsAt frame.front.kind frame.rule.aka = false

theorem pairing?_pairs {rule : Rule} {arity : Nat} {frames : List Frame} {pairing : Pairing}
    (found : pairing? rule arity frames = some pairing) : Pairs rule arity frames pairing := by
  induction frames generalizing pairing with
  | nil => simp [pairing?] at found
  | cons frame outer induction =>
      unfold pairing? at found
      split at found
      · rename_i kind resolves
        cases found
        exact ⟨rfl, resolves, by simp⟩
      · rename_i unresolved
        split at found
        · contradiction
        · rename_i passable
          obtain ⟨inner, later, rfl⟩ := Option.map_eq_some_iff.mp found
          have pairs := induction later
          refine ⟨?_, pairs.resolves_eq, ?_⟩
          · rw [List.cons_append, ← pairs.frames_eq]
          · rw [List.forall_mem_cons]
            exact ⟨⟨unresolved, by simpa using passable⟩, pairs.passes⟩

theorem Pairs.pairing?_eq {rule : Rule} {arity : Nat} {frames : List Frame} {pairing : Pairing}
    (pairs : Pairs rule arity frames pairing) : pairing? rule arity frames = some pairing := by
  obtain ⟨abandoned, frame, outer, kind⟩ := pairing
  obtain ⟨rfl, resolves, passes⟩ := pairs
  induction abandoned with
  | nil =>
      rw [List.nil_append, pairing?]
      simp only at resolves
      rw [resolves]
  | cons first abandoned induction =>
      rw [List.forall_mem_cons] at passes
      rw [List.cons_append, pairing?, passes.1.1, passes.1.2, induction resolves passes.2]
      rfl

theorem pairing?_of_closes_eq_nil {rule : Rule} (closesNothing : rule.closes = [])
    (arity : Nat) (frames : List Frame) : pairing? rule arity frames = none := by
  induction frames with
  | nil => rfl
  | cons frame outer induction =>
      have unresolved : rule.resolves frame.front.kind frame.rule.aka frame.arity arity = none := by
        simp [Rule.resolves, closesNothing]
      rw [pairing?, unresolved, induction]
      simp

/-- A pair that is closed leaves the outermost front open, unless it is the pair of that front. -/
theorem Pairs.frame_suffix {rule : Rule} {arity : Nat} {frames : List Frame} {pairing : Pairing}
    {frame : Frame} (pairs : Pairs rule arity frames pairing) (outermost : [frame] <:+ frames)
    (other : pairing.frame ≠ frame) : [frame] <:+ pairing.outer := by
  have inside : pairing.outer <:+ frames := by
    rw [pairs.frames_eq]
    exact (List.suffix_cons _ _).trans (List.suffix_append _ _)
  by_cases last : pairing.outer = []
  · rw [pairs.frames_eq, last] at outermost
    have same := List.suffix_of_suffix_length_le outermost (List.suffix_append _ _) (Nat.le_refl 1)
    exact absurd (List.cons_eq_cons.mp (same.eq_of_length rfl)).1.symm other
  · exact List.suffix_of_suffix_length_le outermost inside (List.length_pos_iff.mpr last)

/-- The tokens on the left of the innermost front and that front, the newest first. -/
def tokens (frames : List Frame) : List Token :=
  frames.flatMap fun frame => frame.front :: frame.before

@[simp] theorem tokens_cons (frame : Frame) (outer : List Frame) :
    tokens (frame :: outer) = frame.front :: frame.before ++ tokens outer := by
  simp [tokens]

@[simp] theorem tokens_append (inner outer : List Frame) :
    tokens (inner ++ outer) = tokens inner ++ tokens outer := by
  simp [tokens]

/-- The same tokens with every front given up. -/
def demotedTokens (frames : List Frame) : List Token :=
  frames.flatMap fun frame => frame.front.demote :: frame.before

theorem mem_demotedTokens_cons {token : Token} {frame : Frame} {outer : List Frame} :
    token ∈ demotedTokens (frame :: outer) ↔
      token = frame.front.demote ∨ token ∈ frame.before ∨ token ∈ demotedTokens outer := by
  simp [demotedTokens]

theorem unwind_eq (siblings : List Token) (frames : List Frame) :
    unwind siblings frames = siblings ++ demotedTokens frames := by
  induction frames generalizing siblings with
  | nil => simp [unwind, demotedTokens]
  | cons frame outer induction =>
      rw [unwind, induction]
      simp [demotedTokens]

end Frame

/-- The children of the pair that is closed after the given tokens. -/
def Pairing.children (pairing : Pairing) (siblings : List Token) : List Token :=
  Token.coalesce (Frame.unwind siblings pairing.abandoned).reverse

/-- All tokens of a state, the newest first. -/
def State.tokens (state : State) : List Token :=
  state.siblings ++ Frame.tokens state.frames

end Scan

end PassageMarkup
