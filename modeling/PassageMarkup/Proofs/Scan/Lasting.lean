import PassageMarkup.Proofs.Scan.Origin
import PassageMarkup.Proofs.Scan.Writes

/-!
# What stays in a tree

A token other than a text stays in what a reading gives once the reading has made it.  So the tokens
that the reading of an inner text gives stand in the tree of the passage.
-/

namespace PassageMarkup

open Scan Token

namespace Scan

variable {source : Text} {property : Token → Prop} {setting : Setting} {length : Nat}

theorem somewhere_kept (lasting : Lasting source property) (rules : setting.rules = Rule.ofMode)
    (reads : setting.ReadsInner source) :
    Kept setting fun state => (∃ covered, state.Covers source setting length covered) ∧
      Somewhere property state.closedTokens where
  withEvents := fun state events ⟨covers, holds⟩ =>
    ⟨(covers_kept rules reads).withEvents state events covers, holds⟩
  skipChar := fun state ⟨covers, holds⟩ => by
    refine ⟨(covers_kept rules reads).skipChar state covers, ?_⟩
    unfold State.skipChar
    split <;> exact holds
  accept := fun _ _ applies ⟨⟨_, covers⟩, holds⟩ =>
    ⟨covers.accept rules reads applies,
      State.somewhere_accept lasting applies covers (holds.mono State.closedTokens_subset_flush)⟩

end Scan

namespace Reading

variable {options : Options} {reading inner : Reading} {state : State} {choice : Choice}
  {property : Token → Prop} {token : Token}

/-- The tokens of a reading are laid over any source in which its text stands. -/
theorem Passes.exists_covers (passes : reading.Passes options state) :
    ∃ source, (reading.setting options).ReadsInner source ∧ ∃ covered,
      state.Covers source (reading.setting options) reading.text.length covered := by
  obtain ⟨source, stands⟩ := Text.exists_stands reading.offset reading.text
  have reads : (reading.setting options).ReadsInner source :=
    readSetting_readsInner source _ _ _ _ _ _ _
  exact ⟨source, reads, passes.kept (covers_kept rfl reads) ⟨_, .initial stands⟩⟩

/-- At each state of a reading the rest of the scan gives what the reading gives. -/
theorem Passes.remaining_eq (passes : reading.Passes options state) :
    state.remaining (reading.setting options) = (reading.outcome options).tokens := by
  induction passes with
  | initial =>
      rw [outcome, read_eq]
      rfl
  | step _ ahead induction => rw [State.remaining_step ahead, induction]

theorem Passes.somewhere_ended (passes : reading.Passes options state)
    (lasting : ∀ source, Lasting source property) (ended : state.rest = [])
    (holds : Somewhere property ((state.flush (reading.setting options)).siblings ++
      Frame.demotedTokens (state.flush (reading.setting options)).frames)) :
    Somewhere property (reading.outcome options).tokens := by
  obtain ⟨source, _, _, covers⟩ := passes.exists_covers
  rw [← passes.remaining_eq, State.remaining, State.run_of_ended _ ended]
  exact State.somewhere_finish (lasting source) covers holds

/-- What some token of a state has, some token of what the reading gives has too. -/
theorem Passes.somewhere_outcome (passes : reading.Passes options state)
    (lasting : ∀ source, Lasting source property)
    (holds : Somewhere property state.closedTokens) :
    Somewhere property (reading.outcome options).tokens := by
  obtain ⟨source, reads, covers⟩ := passes.exists_covers
  let final := state.run (reading.setting options) state.rest.length
  have lasts : Somewhere property final.closedTokens :=
    ((somewhere_kept (lasting source) rfl reads).run ⟨covers, holds⟩).2
  apply (passes.run state.rest.length).somewhere_ended lasting (State.run_rest (Nat.le_refl _))
  exact (lasts.mono State.closedTokens_subset_flush).mono State.closedTokens_subset

theorem Passes.mem_outcome (passes : reading.Passes options state)
    (member : token ∈ nodesList state.closedTokens) (notText : token.kind ≠ .text) :
    token ∈ nodesList (reading.outcome options).tokens := by
  have lasting : ∀ source, Lasting source (· = token) := by
    intro source
    apply lasting_of_not_text
    rintro _ rfl
    exact notText
  obtain ⟨_, inside, rfl⟩ := passes.somewhere_outcome lasting ⟨token, member, rfl⟩
  exact inside

theorem Passes.token_mem_outcome (passes : reading.Passes options state)
    (chosen : state.choice? (reading.setting options) = some choice)
    (unpaired : choice.pairing = none) (notFront : choice.rule.front = false) :
    choice.token (reading.setting options) state ∈ nodesList (reading.outcome options).tokens := by
  have applies := State.choice?_applies chosen
  apply (passes.step applies.rest_ne_nil).mem_outcome
  · rw [State.closedTokens, (State.step_stands chosen unpaired notFront).1]
    exact mem_nodesList_of_mem List.mem_cons_self
  · rw [choice.token_kind]
    exact Rule.kind_ne_text applies.rule_mem

/-- Unless the limit keeps it unread, an inner text gives its tokens to the text around it. -/
theorem Meets.nodesList_subset (meets : reading.Meets options inner) (fold : options.fold = true)
    (within : inner.depth < options.maxDepth) :
    nodesList (inner.outcome options).tokens ⊆ nodesList (reading.outcome options).tokens := by
  obtain ⟨passes, chosen, marked⟩ := meets
  rename_i state choice span
  have applies := State.choice?_applies chosen
  obtain ⟨notFront, alone⟩ := applies.alone_of_marked rfl marked
  have children := (applies.marks rfl fold marked).children_eq
  have room : ¬options.maxDepth - reading.depth ≤ 1 := by
    simp only at within
    omega
  have read : (reading.setting options).readInner = some fun innerMode =>
      Scan.read Rule.ofMode options.fold options.place (options.maxDepth - reading.depth - 1)
        innerMode false := if_neg room
  rw [readInner, read, Nat.sub_sub] at children
  have stays := nodesList_children_subset (passes.token_mem_outcome chosen alone notFront)
  rw [children] at stays
  exact stays

theorem nodesList_subset_of_reached (reached : Relation.ReflTransGen (Meets options) reading inner)
    (fold : options.fold = true) (within : inner.depth < options.maxDepth) :
    nodesList (inner.outcome options).tokens ⊆ nodesList (reading.outcome options).tokens := by
  induction reached with
  | refl => exact List.Subset.refl _
  | @tail outer inner _ meets induction =>
      have deeper : inner.depth = outer.depth + 1 := by
        cases meets
        rfl
      exact List.Subset.trans (meets.nodesList_subset fold within) (induction (by omega))

end Reading

end PassageMarkup
