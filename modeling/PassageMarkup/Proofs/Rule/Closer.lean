import Mathlib.Tactic.FinCases
import PassageMarkup.Rule.Table
import PassageMarkup.Proofs.Pattern

/-!
# Closers of the rules

The pattern of a rule with a closer ends with the closer, so the rule finds nothing in a text in
which the closer does not occur.
-/

namespace PassageMarkup

namespace Rule

variable {mode : Mode} {rule : Rule} {closer : Closer} {remaining : Text} {found : Match}

theorem closer_caseless (closer : Closer) : closer.text.all Regex.isCaseless = true := by
  cases closer <;> decide

theorem closer_cases (member : rule ∈ ofMode mode) (has : rule.closer = some closer) :
    rule ∈ [comment, scriptStyleTag, tag, legacyMacro, link] := by
  cases mode <;> fin_cases member
  all_goals first
    | contradiction
    | simp

theorem pattern_of_closer (member : rule ∈ ofMode mode) (has : rule.closer = some closer) :
    ∃ before, rule.pattern = .regex (.inOrder (before ++ [.literal closer.text])) none := by
  have listed := closer_cases member has
  fin_cases listed
  all_goals cases has
  · exact ⟨[_, _], rfl⟩
  · exact ⟨[_, _, _], rfl⟩
  · exact ⟨[_, _, _, _, _, _], rfl⟩
  · exact ⟨[_, _, _], rfl⟩
  · exact ⟨[_, _], rfl⟩

theorem closer_occurs (member : rule ∈ ofMode mode) (has : rule.closer = some closer)
    (success : rule.pattern.find? remaining = some found) : closer.text <:+: remaining := by
  obtain ⟨before, pattern⟩ := pattern_of_closer member has
  rw [pattern] at success
  obtain ⟨splits, denotes⟩ := Pattern.find?_regex_splitsOff success
  have ending := denotes.suffix_of_inOrder (closer_caseless closer) before
  rw [splits.remaining_eq]
  exact ending.isInfix.trans (List.prefix_append _ _).isInfix

end Rule

end PassageMarkup
