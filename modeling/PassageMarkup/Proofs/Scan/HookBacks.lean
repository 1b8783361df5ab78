import PassageMarkup.Proofs.Scan.Nesting
import PassageMarkup.Proofs.Scan.Safety

/-!
# Which hook a back closes

A back without a name closes the innermost open hook.  A back with a name closes only hooks without
one, and the search for its front passes the fronts of hooks with a name: these are given up when
they are open inside the hook that it closes.
-/

namespace PassageMarkup

/-- Tells whether a kind is one of fronts of hooks, with a name or without. -/
def Kind.isHookFront : Kind → Bool
  | hookFront | hookPrependedFront => true
  | _ => false

namespace Scan

variable {setting : Setting} {state : State} {choice : Choice} {place : Text}

/-- A pairing closes the innermost open hook: its front is the front of a hook, and no front of a
hook is given up inside the pair. -/
structure Pairing.ClosesInnermostHook (pairing : Pairing) : Prop where
  front : pairing.frame.front.kind.isHookFront = true
  abandoned : ∀ frame ∈ pairing.abandoned, frame.front.kind.isHookFront = false

/-- Every open front is one that a rule of the table opens. -/
def State.Fronted (setting : Setting) (state : State) : Prop :=
  ∀ frame ∈ state.frames, ∃ around inside, frame.Opened setting.place around inside

theorem State.Fronted.accept (rules : setting.rules = Rule.ofMode)
    (applies : choice.Applies setting state) (fronted : state.Fronted setting) :
    (state.accept setting choice).Fronted setting := by
  have member := applies.rule_mem_ofMode rules
  have advanced : (state.advance setting choice).Fronted setting := by
    intro frame open_
    rw [advance_frames] at open_
    exact fronted frame open_
  rw [accept_eq, add]
  split
  · rename_i pairing paired
    intro frame outer
    apply advanced
    rw [advance_frames, (applies.pairs paired).frames_eq]
    exact List.mem_append_right _ (List.mem_cons_of_mem _ outer)
  · split
    · rename_i isFront
      obtain ⟨inside, innerMode⟩ := Rule.front_innerMode member isFront
      obtain ⟨name, text, written, opens⟩ := applies.token_front rules isFront
      intro frame open_
      rcases List.mem_cons.mp open_ with rfl | earlier
      · exact ⟨_, inside, member, isFront, innerMode, name, text, _, written, opens⟩
      · exact advanced frame earlier
    · exact advanced

theorem fronted_kept (rules : setting.rules = Rule.ofMode) :
    Kept setting (State.Fronted setting) where
  withEvents := fun _ _ fronted => fronted
  skipChar := fun state fronted => by
    unfold State.skipChar
    split <;> exact fronted
  accept := fun _ _ applies fronted => fronted.accept rules applies

end Scan

theorem Opens.arity_eq_zero {kind : Kind} {arity : Nat} {name : Option Text} {text : Text}
    (opens : Opens kind arity name text) (hook : kind.isHookFront = true) : arity = 0 := by
  cases opens <;> first | rfl | contradiction

namespace Rule

variable {mode : Mode} {rule : Rule}

theorem eq_of_hookBack (member : rule ∈ ofMode mode)
    (back : rule.kind = .hookBack ∨ rule.kind = .hookAppendedBack) :
    rule = hookBack ∨ rule = hookAppendedBack := by
  cases mode <;> fin_cases member
  all_goals first
    | exact .inl rfl
    | exact .inr rfl
    | rcases back with same | same <;> contradiction

theorem isHookFront_of_closes {front pair : Kind} (back : rule = hookBack ∨ rule = hookAppendedBack)
    (closes : (front, pair) ∈ rule.closes) : front.isHookFront = true := by
  rcases back with rfl | rfl
  · rcases List.mem_cons.mp closes with plain | named
    · cases plain
      rfl
    · cases List.mem_singleton.mp named
      rfl
  · cases List.mem_singleton.mp closes
    rfl

/-- A rule closes every front whose kind it names, whatever else the front counts as. -/
theorem resolves_ne_none {front pair : Kind} (closes : (front, pair) ∈ rule.closes)
    (aka : Option Kind) (arity : Nat) : rule.resolves front aka arity arity ≠ none := by
  simp only [resolves, if_true, ne_eq, Option.map_eq_none_iff, List.find?_eq_none, not_forall]
  exact ⟨(front, pair), closes, by simp⟩

end Rule

namespace Scan

variable {setting : Setting} {state : State} {choice : Choice} {pairing : Pairing}

/-- The front of a hook that a back passes is not one that the back closes. -/
theorem Frame.Opened.not_closed {frame : Frame} {place : Text} {around inside : Mode} {rule : Rule}
    (opened : frame.Opened place around inside) (hook : frame.front.kind.isHookFront = true)
    (passed : rule.resolves frame.front.kind frame.rule.aka frame.arity 0 = none) (pair : Kind) :
    (frame.front.kind, pair) ∉ rule.closes := by
  intro closes
  obtain ⟨name, text, start, _, opens⟩ := opened.front_eq
  rw [← opened.kind_eq] at opens
  rw [opens.arity_eq_zero hook] at passed
  exact Rule.resolves_ne_none closes _ 0 passed

theorem Choice.Applies.closes_front (applies : choice.Applies setting state)
    (rules : setting.rules = Rule.ofMode) (fronted : state.Fronted setting)
    (paired : choice.pairing = some pairing) :
    (pairing.frame.front.kind, pairing.kind) ∈ choice.rule.closes ∧
      pairing.frame.arity = choice.lexeme.arity ∧
        ∃ around inside, pairing.frame.Opened setting.place around inside := by
  have pairs := applies.pairs paired
  have resolves := pairs.resolves_eq
  obtain ⟨around, inside, opened⟩ := fronted pairing.frame (by simp [pairs.frames_eq])
  rw [opened.kind_eq] at resolves ⊢
  obtain ⟨closes, arity⟩ :=
    Rule.closes_of_resolves (applies.rule_mem_ofMode rules) opened.rule_mem resolves
  exact ⟨closes, arity, around, inside, opened⟩

/-- What is taken as a back is written as a back of the front that it closes. -/
theorem Choice.Applies.closes_text (applies : choice.Applies setting state)
    (rules : setting.rules = Rule.ofMode) (paired : choice.pairing = some pairing) {mode : Mode}
    (member : pairing.frame.rule ∈ Rule.ofMode mode)
    (kind : pairing.frame.front.kind = pairing.frame.rule.kind) :
    ∃ name, Closes choice.rule.kind pairing.frame.front.kind pairing.kind choice.lexeme.arity name
      (choice.token setting state).text := by
  have resolves := (applies.pairs paired).resolves_eq
  rw [kind] at resolves ⊢
  obtain ⟨closes, _⟩ :=
    Rule.closes_of_resolves (applies.rule_mem_ofMode rules) member resolves
  obtain ⟨name, text, token, back⟩ := applies.token_back rules closes
  rw [token]
  exact ⟨name, back⟩

/-- A back of a hook closes the front of a hook, and the only fronts of hooks that it gives up are
those with a name, which a back with a name passes. -/
theorem Choice.Applies.closes_hook (applies : choice.Applies setting state)
    (rules : setting.rules = Rule.ofMode) (fronted : state.Fronted setting)
    (back : choice.rule.kind = .hookBack ∨ choice.rule.kind = .hookAppendedBack)
    (paired : choice.pairing = some pairing) :
    pairing.frame.front.kind.isHookFront = true ∧
      ∀ frame ∈ pairing.abandoned, frame.front.kind.isHookFront = true →
        choice.rule.kind = .hookAppendedBack ∧ frame.front.kind = .hookPrependedFront := by
  have member := applies.rule_mem_ofMode rules
  obtain ⟨found, _, lexeme⟩ := applies.found
  have pairs := applies.pairs paired
  have listed := Rule.eq_of_hookBack member back
  have arity : choice.lexeme.arity = 0 := by
    rw [lexeme]
    rcases listed with same | same <;> rw [same] <;> rfl
  rw [arity] at pairs
  constructor
  · exact Rule.isHookFront_of_closes listed (applies.closes_front rules fronted paired).1
  · intro frame given hook
    obtain ⟨around, inside, opened⟩ := fronted frame (by simp [pairs.frames_eq, given])
    have notClosed := opened.not_closed hook (pairs.passes frame given).1 .hook
    generalize frame.front.kind = kind at hook notClosed
    rcases listed with same | same
    · rw [same] at notClosed
      cases kind <;> contradiction
    · rw [same] at notClosed ⊢
      cases kind <;> first | contradiction | exact ⟨rfl, rfl⟩

end Scan

namespace Reading

open Scan

variable {options : Options} {reading : Reading} {state : State} {choice : Choice}
  {pairing : Pairing}

theorem Passes.fronted (passes : reading.Passes options state) :
    state.Fronted (reading.setting options) :=
  passes.kept (fronted_kept rfl) (by simp [State.Fronted, State.initial])

/-- At every step of a reading, a back of a hook closes the innermost open hook, unless a back with
a name passes hooks with a name; these are then the only hooks that it gives up. -/
theorem hook_back_closes_innermost (passes : reading.Passes options state)
    (chosen : state.choice? (reading.setting options) = some choice)
    (paired : choice.pairing = some pairing)
    (back : choice.rule.kind = .hookBack ∨ choice.rule.kind = .hookAppendedBack) :
    (pairing.ClosesInnermostHook ↔ choice.rule.kind = .hookBack ∨
      ∀ frame ∈ pairing.abandoned, frame.front.kind ≠ .hookPrependedFront) ∧
      pairing.frame.front.kind.isHookFront = true ∧
      ∀ frame ∈ pairing.abandoned, frame.front.kind ≠ .hookFront := by
  have applies := State.choice?_applies chosen
  obtain ⟨front, given⟩ := applies.closes_hook rfl passes.fronted back paired
  refine ⟨⟨?_, ?_⟩, front, ?_⟩
  · rintro ⟨_, innermost⟩
    right
    intro frame member named
    have notHook := innermost frame member
    rw [named] at notHook
    contradiction
  · intro unnamed
    refine ⟨front, fun frame member => ?_⟩
    by_contra hook
    obtain ⟨appended, named⟩ := given frame member (by simpa using hook)
    rcases unnamed with plain | passesNone
    · rw [plain] at appended
      contradiction
    · exact passesNone frame member named
  · intro frame member plain
    have named := (given frame member (by rw [plain]; rfl)).2
    rw [plain] at named
    contradiction

theorem emphasis_in_hook_given_up :
    ∃ state choice pairing,
      Passes {} ⟨.prose, true, 0, 0, "[|x>[b]*a]<y|".toList⟩ state ∧
        state.choice? (setting {} ⟨.prose, true, 0, 0, "[|x>[b]*a]<y|".toList⟩) = some choice ∧
        choice.pairing = some pairing ∧ choice.rule.kind = .hookAppendedBack ∧
        pairing.abandoned.map (·.front.kind) = [.emphasis .em] ∧ pairing.ClosesInnermostHook := by
  have passes : Passes {} ⟨.prose, true, 0, 0, "[|x>[b]*a]<y|".toList⟩ _ :=
    .step (.step (.step (.step (.step (.step .initial (by decide)) (by decide)) (by decide))
      (by decide)) (by decide)) (by decide)
  refine ⟨_, _, _, passes, rfl, rfl, rfl, rfl, ?_⟩
  apply (hook_back_closes_innermost passes rfl rfl (.inr rfl)).1.mpr
  right
  rw [List.forall_mem_singleton]
  decide

/-- A back with a name passes a hook with a name that is open inside the hook that it closes. -/
theorem named_hook_inside_given_up :
    ∃ state choice pairing,
      Passes {} ⟨.prose, true, 0, 0, "[a|x>[b]<y|".toList⟩ state ∧
        state.choice? (setting {} ⟨.prose, true, 0, 0, "[a|x>[b]<y|".toList⟩) = some choice ∧
        choice.rule.kind = .hookAppendedBack ∧ choice.pairing = some pairing ∧
        ¬pairing.ClosesInnermostHook := by
  have passes : Passes {} ⟨.prose, true, 0, 0, "[a|x>[b]<y|".toList⟩ _ :=
    .step (.step (.step (.step .initial (by decide)) (by decide)) (by decide)) (by decide)
  refine ⟨_, _, _, passes, rfl, rfl, rfl, ?_⟩
  intro innermost
  have notHook := innermost.abandoned _ (.head _)
  contradiction

end Reading

end PassageMarkup
