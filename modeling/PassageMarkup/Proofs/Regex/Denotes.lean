import PassageMarkup.Proofs.Regex.Matches
import PassageMarkup.Proofs.Text.Uncased

/-!
# Texts of expressions

Which texts the usual expressions denote.  A character without case denotes itself alone, so
written punctuation denotes only what is written.
-/

namespace PassageMarkup

namespace Regex

/-- Tells whether no other character folds to a character. -/
def isCaseless (c : Char) : Bool :=
  foldCase c == c && !c.isLower

theorem eq_of_foldCase_eq {c d : Char} (caseless : isCaseless c = true)
    (same : foldCase d = foldCase c) : d = c := by
  simp only [isCaseless, Bool.and_eq_true, beq_iff_eq, Bool.not_eq_true'] at caseless
  obtain ⟨fixed, notLower⟩ := caseless
  rw [fixed] at same
  unfold foldCase at same
  split at same
  · subst same
    contradiction
  · split at same
    · subst same
      contradiction
    · rcases toLower_eq_or_mem_capitals d with small | capital
      · exact small.symm.trans same
      · have small : (capitals.all fun c => c.toLower.isLower) = true := by decide
        rw [← same, List.all_eq_true.mp small d capital] at notLower
        exact Bool.noConfusion notLower

theorem Denotes.of_set {accepts : Char → Bool} {text : Text}
    (denotes : Denotes (.set accepts) text) : ∃ c, text = [c] ∧ accepts c = true := by
  cases denotes with
  | set accepted => exact ⟨_, rfl, accepted⟩

theorem Denotes.of_char {c : Char} {text : Text} (caseless : isCaseless c = true)
    (denotes : Denotes (char c) text) : text = [c] := by
  obtain ⟨d, rfl, folded⟩ := denotes.of_set
  have same : foldCase d = foldCase c := by simpa using folded
  rw [eq_of_foldCase_eq caseless same]

theorem Denotes.of_literal {written text : Text} (caseless : written.all isCaseless = true)
    (denotes : Denotes (literal written) text) : text = written := by
  induction written generalizing text with
  | nil =>
      cases denotes
      rfl
  | cons c rest induction =>
      rw [List.all_cons, Bool.and_eq_true] at caseless
      cases rest with
      | nil => exact denotes.of_char caseless.1
      | cons next others =>
          cases denotes with
          | seq first second =>
              rw [first.of_char caseless.1, induction caseless.2 second]
              rfl

theorem Denotes.length_of_literal {written text : Text} (denotes : Denotes (literal written) text) :
    text.length = written.length := by
  induction written generalizing text with
  | nil =>
      cases denotes
      rfl
  | cons c rest induction =>
      cases rest with
      | nil =>
          obtain ⟨d, rfl, _⟩ := denotes.of_set
          rfl
      | cons next others =>
          cases denotes with
          | seq first second =>
              obtain ⟨d, rfl, _⟩ := first.of_set
              simp only [List.length_append, induction second, List.length_cons, List.length_nil]
              omega

private theorem Denotes.all_of_star {body : Regex} {text : Text} {accepts : Char → Bool}
    (denotes : Denotes body text) (star : body = .star (.set accepts)) :
    ∀ c ∈ text, accepts c = true := by
  induction denotes with
  | starStop => simp
  | starMore one _ _ induction =>
      cases star
      obtain ⟨c, rfl, accepted⟩ := one.of_set
      intro d member
      rcases List.mem_append.mp member with here | later
      · rw [List.mem_singleton.mp here]
        exact accepted
      · exact induction rfl d later
  | _ => contradiction

theorem Denotes.of_many1 {accepts : Char → Bool} {text : Text}
    (denotes : Denotes (many1 (.set accepts)) text) :
    text ≠ [] ∧ ∀ c ∈ text, accepts c = true := by
  cases denotes with
  | seq one more =>
      obtain ⟨c, rfl, accepted⟩ := one.of_set
      refine ⟨by simp, ?_⟩
      intro d member
      rcases List.mem_append.mp member with here | later
      · rw [List.mem_singleton.mp here]
        exact accepted
      · exact more.all_of_star rfl d later

theorem inOrder_cons {first : Regex} {others : List Regex} (more : others ≠ []) :
    inOrder (first :: others) = .seq first (inOrder others) := by
  cases others with
  | nil => contradiction
  | cons next rest => rfl

theorem Denotes.exists_append_of_inOrder {written text : Text} {others : List Regex}
    (denotes : Denotes (inOrder (literal written :: others)) text)
    (caseless : written.all isCaseless = true) : ∃ after, text = written ++ after := by
  cases others with
  | nil => exact ⟨[], by rw [denotes.of_literal caseless, List.append_nil]⟩
  | cons next more =>
      cases denotes with
      | seq first second => exact ⟨_, by rw [first.of_literal caseless]⟩

theorem Denotes.suffix_of_inOrder {written text : Text} (caseless : written.all isCaseless = true)
    (before : List Regex) (denotes : Denotes (inOrder (before ++ [literal written])) text) :
    written <:+ text := by
  induction before generalizing text with
  | nil =>
      obtain rfl : text = written := denotes.of_literal caseless
      exact List.suffix_refl text
  | cons first others induction =>
      rw [List.cons_append, inOrder_cons (by simp)] at denotes
      cases denotes with
      | seq _ second => exact (induction second).trans (List.suffix_append _ _)

end Regex

end PassageMarkup
