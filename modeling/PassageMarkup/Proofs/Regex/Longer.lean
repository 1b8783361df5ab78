import PassageMarkup.Proofs.Pattern
import PassageMarkup.Proofs.Regex.Results

/-!
# Longer texts

When a text goes on for longer, an expression leads to more places, but only to places past the old
end, and the others keep their order.  So what a pattern finds in the longer text, if it lies before
the old end, it finds in the shorter one.
-/

namespace PassageMarkup

namespace Regex

variable {r : Regex} {cursor later : Cursor} {body : Cursor → List Cursor} {text suffix : Text}
  {margin : Nat}

/-- The same place when more text is ahead. -/
def Cursor.extend (cursor : Cursor) (suffix : Text) : Cursor :=
  { cursor with rest := cursor.rest ++ suffix }

/-- Tells whether a number of characters is still ahead. -/
def Cursor.leaves (count : Nat) (cursor : Cursor) : Bool :=
  count ≤ cursor.rest.length

theorem Cursor.leaves_extend :
    (cursor.extend suffix).leaves (suffix.length + margin) = cursor.leaves margin := by
  simp [leaves, extend, Nat.add_comm suffix.length]

/-- A way to match leads to the same places when more text is ahead, as long as a number of
characters is left before the old end. -/
def Extends (suffix : Text) (margin : Nat) (body : Cursor → List Cursor) (cursor : Cursor) : Prop :=
  (body (cursor.extend suffix)).filter (Cursor.leaves (suffix.length + margin)) =
    ((body cursor).filter (Cursor.leaves margin)).map (·.extend suffix)

private theorem filter_flatMap {count : Nat} {others : Cursor → List Cursor}
    (forward : ∀ cursor, ∀ later ∈ others cursor, later.rest.length ≤ cursor.rest.length)
    (cursors : List Cursor) :
    (cursors.flatMap others).filter (Cursor.leaves count) =
      (cursors.filter (Cursor.leaves count)).flatMap fun cursor =>
        (others cursor).filter (Cursor.leaves count) := by
  induction cursors with
  | nil => rfl
  | cons cursor cursors induction =>
      rw [List.flatMap_cons, List.filter_append, induction]
      by_cases enough : cursor.leaves count = true
      · rw [List.filter_cons_of_pos enough, List.flatMap_cons]
      · rw [List.filter_cons_of_neg enough]
        have none : (others cursor).filter (Cursor.leaves count) = [] := by
          rw [List.filter_eq_nil_iff]
          intro later member
          have shorter := forward cursor later member
          simp only [Cursor.leaves, decide_eq_true_eq] at enough ⊢
          omega
        rw [none, List.nil_append]

theorem Extends.flatMap {others : Cursor → List Cursor}
    (forward : ∀ cursor, ∀ later ∈ others cursor, later.rest.length ≤ cursor.rest.length)
    (first : Extends suffix margin body cursor)
    (second : ∀ later ∈ body cursor, Extends suffix margin others later) :
    Extends suffix margin (fun cursor => (body cursor).flatMap others) cursor := by
  unfold Extends at first second ⊢
  rw [filter_flatMap forward, filter_flatMap forward, first, List.flatMap_map, List.map_flatMap]
  apply List.flatMap_congr
  intro later member
  exact second later (List.mem_of_mem_filter member)

theorem Extends.here (cursor : Cursor) : Extends suffix margin (fun cursor => [cursor]) cursor := by
  simp only [Extends, List.filter_cons, Cursor.leaves_extend]
  split <;> rfl

theorem Extends.preferring {more : Cursor → List Cursor} (greedy : Bool)
    (others : Extends suffix margin more cursor) :
    Extends suffix margin (fun cursor => Regex.preferring greedy (more cursor) cursor) cursor := by
  have here : Extends suffix margin (fun cursor => [cursor]) cursor := .here cursor
  unfold Extends at others here ⊢
  cases greedy
  · simp only [Regex.preferring, Bool.false_eq_true, if_false, List.filter_append, List.map_append,
      others, here]
  · simp only [Regex.preferring, if_true, List.filter_append, List.map_append, others, here]

theorem Extends.onward {others : Cursor → List Cursor} (forward : Forward others)
    (first : Extends suffix margin body cursor)
    (second : ∀ later ∈ body cursor, cursor.passed < later.passed →
      Extends suffix margin others later) :
    Extends suffix margin (Regex.onward body others) cursor := by
  let moved : Cursor → List Cursor :=
    fun later => if cursor.passed < later.passed then others later else []
  have shorter : ∀ later, ∀ last ∈ moved later, last.rest.length ≤ later.rest.length := by
    intro later last member
    simp only [moved] at member
    split at member
    · exact forward.rest_length_le member
    · contradiction
  have same : ∀ later ∈ body cursor, Extends suffix margin moved later := by
    intro later member
    have passed : (later.extend suffix).passed = later.passed := rfl
    simp only [Extends, moved, passed]
    split
    · rename_i ahead
      exact second later member ahead
    · rfl
  exact first.flatMap shorter same

theorem Extends.repeated {greedy : Bool} (forward : Forward body)
    (repeatedForward : Forward (Regex.repeated greedy body))
    (each : ∀ cursor, Extends suffix margin body cursor) (cursor : Cursor) :
    Extends suffix margin (Regex.repeated greedy body) cursor := by
  induction size : cursor.rest.length using Nat.strongRecOn generalizing cursor
  rename_i size induction
  subst size
  have others : Extends suffix margin (Regex.onward body (Regex.repeated greedy body)) cursor := by
    apply (each cursor).onward repeatedForward
    intro later member moved
    exact induction _ (forward.rest_length_lt member moved) later rfl
  rw [forward.repeated_eq]
  exact others.preferring greedy

theorem Extends.set (accepts : Char → Bool) (cursor : Cursor) :
    Extends suffix margin (Regex.set accepts).results cursor := by
  simp only [Extends, results, setThen]
  cases ahead : cursor.rest with
  | nil =>
      have extended : (cursor.extend suffix).rest = suffix := by
        simp [Cursor.extend, ahead]
      rw [extended]
      cases suffix with
      | nil => rfl
      | cons c rest =>
          simp only
          split
          · have past : ¬(rest.length + 1 + margin ≤ rest.length) := by omega
            simp [Cursor.leaves, past]
          · rfl
  | cons c rest =>
      have extended : (cursor.extend suffix).rest = c :: (rest ++ suffix) := by
        simp [Cursor.extend, ahead]
      rw [extended]
      simp only
      split
      · exact Extends.here { cursor with before := some c, rest, passed := cursor.passed + 1 }
      · rfl

/-- A condition on the neighbours of a place can change only at the end of the text. -/
theorem Extends.assertion (positive : 0 < margin) {test : Cursor → Bool}
    (same : cursor.rest ≠ [] → test (cursor.extend suffix) = test cursor) :
    Extends suffix margin (fun cursor => if test cursor then [cursor] else []) cursor := by
  by_cases ended : cursor.rest = []
  · have here : cursor.leaves margin = false := by
      simp only [Cursor.leaves, ended, List.length_nil, decide_eq_false_iff_not]
      omega
    have extended : (cursor.extend suffix).leaves (suffix.length + margin) = false := by
      rw [Cursor.leaves_extend, here]
    have none : ∀ (cursor : Cursor) (count : Nat), cursor.leaves count = false →
        (if test cursor then [cursor] else []).filter (Cursor.leaves count) = [] := by
      intro cursor count few
      split <;> simp [few]
    unfold Extends
    rw [none _ _ here, none _ _ extended]
    rfl
  · simp only [Extends, same ended]
    split
    · exact Extends.here cursor
    · rfl

theorem Cursor.head?_extend (ahead : cursor.rest ≠ []) :
    (cursor.extend suffix).rest.head? = cursor.rest.head? :=
  List.head?_append_of_ne_nil _ ahead

/-- Tells whether an expression asks nothing about the neighbours of a place. -/
def assertionFree : Regex → Bool
  | .seq left right => left.assertionFree && right.assertionFree
  | .alt left right => left.assertionFree && right.assertionFree
  | .star body => body.assertionFree
  | .lazyStar body => body.assertionFree
  | .group _ body => body.assertionFree
  | .wordBoundary => false
  | .lineEnd => false
  | _ => true

/-- More text behind the end changes no result before the end.  A result at the end stays as well,
unless the expression asks what is ahead there. -/
theorem results_extends {r : Regex} (free : r.assertionFree = true ∨ 0 < margin)
    (cursor : Cursor) : Extends suffix margin r.results cursor := by
  induction r generalizing cursor with
  | empty => exact .here cursor
  | set accepts => exact .set accepts cursor
  | seq left right leftExtends rightExtends =>
      rw [assertionFree, Bool.and_eq_true] at free
      apply Extends.flatMap
      · exact fun _ _ member => (results_forward right).rest_length_le member
      · exact leftExtends (free.imp_left And.left) cursor
      · exact fun later _ => rightExtends (free.imp_left And.right) later
  | alt left right leftExtends rightExtends =>
      rw [assertionFree, Bool.and_eq_true] at free
      have first := leftExtends (free.imp_left And.left) cursor
      have second := rightExtends (free.imp_left And.right) cursor
      unfold Extends at first second ⊢
      simp only [results, List.filter_append, List.map_append, first, second]
  | star body bodyExtends =>
      exact Extends.repeated (results_forward body) (results_forward (.star body))
        (bodyExtends free) cursor
  | lazyStar body bodyExtends =>
      exact Extends.repeated (results_forward body) (results_forward (.lazyStar body))
        (bodyExtends free) cursor
  | group name body bodyExtends =>
      have inner := bodyExtends free cursor
      have kept : ∀ (later : Cursor) (start count : Nat),
          (later.keep name start).leaves count = later.leaves count := by
        cases name <;> exact fun _ _ _ => rfl
      have extended : ∀ (later : Cursor) (start : Nat),
          (later.extend suffix).keep name start = (later.keep name start).extend suffix := by
        cases name <;> exact fun _ _ => rfl
      unfold Extends at inner ⊢
      simp only [results, List.filter_map, Function.comp_def, kept, inner, List.map_map, extended]
      rfl
  | wordBoundary =>
      apply Extends.assertion (free.resolve_left (by simp [assertionFree]))
      intro ahead
      simp only [Cursor.atWordBoundary, Cursor.head?_extend ahead]
      rfl
  | lineEnd =>
      apply Extends.assertion (free.resolve_left (by simp [assertionFree]))
      intro ahead
      simp only [Cursor.atLineEnd, Cursor.head?_extend ahead]

/-- The end of a text does not matter to an expression, since it asks nothing there or does not get
there. -/
def Settled (r : Regex) (text : Text) : Prop :=
  r.assertionFree = true ∨ ¬r.Denotes text

theorem Matches.exists_passed (matched : Matches r (.atStart text) later) :
    ∃ passed, text = passed ++ later.rest ∧ later.passed = passed.length ∧ r.Denotes passed := by
  obtain ⟨passed, passes, denotes⟩ := matched.passes
  refine ⟨passed, passes.rest_eq, ?_, denotes⟩
  rw [passes.passed_eq]
  exact Nat.zero_add _

theorem Matches.passed_le_length (matched : Matches r (.atStart text) later) :
    later.passed ≤ text.length := by
  obtain ⟨passed, split, length, _⟩ := matched.exists_passed
  rw [length, split, List.length_append]
  exact Nat.le_add_right _ _

theorem Settled.results_append (settled : r.Settled text) (suffix : Text) :
    ∃ inside : Cursor → Bool,
      (r.results (.atStart (text ++ suffix))).filter inside =
        (r.results (.atStart text)).map (·.extend suffix) ∧
      ∀ later ∈ r.results (.atStart (text ++ suffix)), later.passed ≤ text.length →
        inside later = true := by
  obtain ⟨margin, free, few, partly⟩ :
      ∃ margin, (r.assertionFree = true ∨ 0 < margin) ∧ margin ≤ 1 ∧
        (0 < margin → ¬r.Denotes text) := by
    rcases settled with free | partly
    · exact ⟨0, .inl free, Nat.zero_le 1, by simp⟩
    · exact ⟨1, .inr Nat.one_pos, Nat.le_refl 1, fun _ => partly⟩
  have inside : ∀ suffix, ∀ later ∈ r.results (.atStart (text ++ suffix)),
      later.passed ≤ text.length → later.leaves (suffix.length + margin) = true := by
    intro suffix later member within
    obtain ⟨passed, split, length, denotes⟩ := (matches_of_mem_results member).exists_passed
    have total := congrArg List.length split
    rw [List.length_append, List.length_append] at total
    rw [Cursor.leaves, decide_eq_true_eq]
    by_cases short : passed.length < text.length
    · omega
    · -- The result is at the end of the text, where an expression that asks something never gets.
      have whole : passed = text :=
        (List.append_inj_left split (by omega)).symm
      rw [whole] at denotes
      have noMargin : ¬0 < margin := fun positive => partly positive denotes
      omega
  refine ⟨Cursor.leaves (suffix.length + margin), ?_, inside suffix⟩
  have all : (r.results (.atStart text)).filter (Cursor.leaves margin) =
      r.results (.atStart text) := by
    rw [← List.append_nil text]
    apply List.filter_eq_self.mpr
    intro later member
    have before := (matches_of_mem_results member).passed_le_length
    rw [List.append_nil] at before
    simpa using inside [] later member before
  have start : Cursor.atStart (text ++ suffix) = (Cursor.atStart text).extend suffix := rfl
  rw [start, results_extends free, all]

theorem Settled.matchStart_of_append (settled : r.Settled text)
    (success : r.matchStart (text ++ suffix) = some later) (within : later.passed ≤ text.length) :
    ∃ same, r.matchStart text = some same ∧ later = same.extend suffix := by
  obtain ⟨inside, same, before⟩ := settled.results_append suffix
  rw [matchStart_eq] at success ⊢
  obtain ⟨others, results⟩ := List.head?_eq_some_iff.mp success
  rw [results] at same before
  rw [List.filter_cons_of_pos (before later (by simp) within)] at same
  obtain ⟨first, rest, results, extended, _⟩ := List.map_eq_cons_iff.mp same.symm
  exact ⟨first, by rw [results]; rfl, extended.symm⟩

/-- What an expression matches in a text, it also matches in a longer text, or it matches more. -/
theorem Settled.exists_matchStart_append (settled : r.Settled text)
    (success : r.matchStart text = some cursor) (suffix : Text) :
    ∃ later, r.matchStart (text ++ suffix) = some later ∧
      (later.passed ≤ text.length → later = cursor.extend suffix) := by
  obtain ⟨inside, same, _⟩ := settled.results_append suffix
  cases reached : r.matchStart (text ++ suffix) with
  | none =>
      rw [matchStart_eq] at success reached
      rw [List.head?_eq_none_iff.mp reached, List.filter_nil] at same
      rw [List.map_eq_nil_iff.mp same.symm] at success
      contradiction
  | some later =>
      refine ⟨later, rfl, ?_⟩
      intro within
      obtain ⟨other, reachedToo, extended⟩ := settled.matchStart_of_append reached within
      rw [success] at reachedToo
      cases reachedToo
      exact extended

end Regex

end PassageMarkup
