import PassageMarkup.Pattern
import PassageMarkup.Proofs.Regex.Denotes
import PassageMarkup.Proofs.Text

/-!
# What a pattern finds

A pattern that is found at the start of a text splits it into the match and what follows.  The
groups of the match lie in it, and the match is a text that the pattern's expression denotes.
-/

namespace PassageMarkup

/-- A match and what follows it make up the text that was searched. -/
structure Match.SplitsOff (found : Match) (remaining : Text) : Prop where
  remaining_eq : remaining = found.text ++ found.following
  nonempty : found.text ≠ []
  within : ∀ span, found.first = some span ∨ found.second = some span →
    span.start ≤ span.stop ∧ span.stop ≤ found.text.length

namespace Match.SplitsOff

theorem length_pos {found : Match} {remaining : Text} (splits : found.SplitsOff remaining) :
    0 < found.text.length :=
  List.length_pos_iff.mpr splits.nonempty

@[simp] theorem take_length {found : Match} {remaining : Text}
    (splits : found.SplitsOff remaining) :
    remaining.take found.text.length = found.text := by
  rw [splits.remaining_eq]
  simp

end Match.SplitsOff

namespace Pattern

theorem find?_plain {text remaining : Text} {found : Match}
    (success : (plain text).find? remaining = some found) :
    found.SplitsOff remaining ∧ found.text = text := by
  simp only [find?] at success
  split at success
  · contradiction
  · rename_i following separated
    split at success
    · contradiction
    · rename_i nonempty
      cases success
      refine ⟨⟨?_, ?_, ?_⟩, rfl⟩
      · exact (List.isPrefixOf?_eq_some_iff_append_eq.mp separated).symm
      · simpa using nonempty
      · simp

theorem first_of_find?_plain {text remaining : Text} {found : Match}
    (success : (plain text).find? remaining = some found) : found.first = none := by
  simp only [find?] at success
  split at success
  · contradiction
  · split at success
    · contradiction
    · cases success
      rfl

theorem find?_regex {r : Regex} {lookahead : Option Lookahead} {remaining : Text} {found : Match}
    (success : (regex r lookahead).find? remaining = some found) :
    ∃ later, Regex.Matches r (.atStart remaining) later ∧ later.passed ≠ 0 ∧
      found = ⟨remaining.take later.passed, later.first, later.second, later.rest⟩ := by
  simp only [find?] at success
  split at success
  · contradiction
  · rename_i later reached
    split at success
    · contradiction
    · rename_i allowed
      cases success
      simp only [Bool.or_eq_true, decide_eq_true_eq, not_or] at allowed
      exact ⟨later, Regex.matchStart_matches reached, allowed.1, rfl⟩

private theorem take_passes {remaining text : Text} {later : Regex.Cursor}
    (passes : (Regex.Cursor.atStart remaining).Passes text later) :
    remaining.take later.passed = text ∧ later.passed = text.length := by
  have length : later.passed = text.length := by
    simpa [Regex.Cursor.atStart] using passes.passed_eq
  have ahead : remaining = text ++ later.rest := passes.rest_eq
  rw [length, ahead]
  simp

theorem find?_regex_splitsOff {r : Regex} {lookahead : Option Lookahead} {remaining : Text}
    {found : Match} (success : (regex r lookahead).find? remaining = some found) :
    found.SplitsOff remaining ∧ r.Denotes found.text := by
  obtain ⟨later, matched, moved, rfl⟩ := find?_regex success
  obtain ⟨text, passes, denotes⟩ := matched.passes
  obtain ⟨taken, length⟩ := take_passes passes
  have kept : later.KeepsWithin :=
    matched.keepsWithin (by simp [Regex.Cursor.KeepsWithin, Regex.Cursor.atStart])
  rw [taken]
  refine ⟨⟨passes.rest_eq, ?_, ?_⟩, denotes⟩
  · intro empty
    have noText : text = [] := empty
    exact moved (by rw [length, noText]; rfl)
  · intro span member
    have bounds := kept span member
    rw [length] at bounds
    exact bounds

theorem find?_splitsOff {pattern : Pattern} {remaining : Text} {found : Match}
    (success : pattern.find? remaining = some found) : found.SplitsOff remaining := by
  cases pattern with
  | plain text => exact (find?_plain success).1
  | regex r lookahead => exact (find?_regex_splitsOff success).1

/-- A pattern of three parts, of which the middle one is kept as the first group. -/
theorem find?_between {left body right : Regex} {remaining : Text} {found : Match}
    (success : (ofRegex (.inOrder [left, .group .first body, right])).find? remaining = some found)
    (groupless : right.groupless = true) :
    ∃ before kept after,
      left.Denotes before ∧ body.Denotes kept ∧ right.Denotes after ∧
        found.text = before ++ kept ++ after ∧
        found.first = some ⟨before.length, before.length + kept.length⟩ := by
  obtain ⟨later, matched, moved, rfl⟩ := find?_regex success
  obtain ⟨before, kept, after, leftDenotes, bodyDenotes, rightDenotes, passes, first⟩ :=
    matched.firstBetween groupless
  refine ⟨before, kept, after, leftDenotes, bodyDenotes, rightDenotes, (take_passes passes).1, ?_⟩
  simpa [Regex.Cursor.atStart] using first

theorem find?_secondLast {mark gap rest : Regex} {remaining : Text} {found : Match}
    (success : (ofRegex (.inOrder [.group .first mark, gap, .group .second rest])).find? remaining =
      some found) :
    ∃ marked between kept, mark.Denotes marked ∧ gap.Denotes between ∧
      found.text = marked ++ between ++ kept ∧
        found.second = some ⟨(marked ++ between).length, found.text.length⟩ := by
  obtain ⟨later, matched, _, rfl⟩ := find?_regex success
  obtain ⟨marked, between, kept, markDenotes, gapDenotes, passes, second⟩ := matched.secondLast
  have text := (take_passes passes).1
  refine ⟨marked, between, kept, markDenotes, gapDenotes, text, ?_⟩
  rw [second, text]
  simp [Regex.Cursor.atStart]

theorem find?_firstSecond {left right : Regex} {remaining : Text} {found : Match}
    (success : (ofRegex (.toBoundary (.seq (.group .first left) (.group .second right)))).find?
      remaining = some found)
    (groupless : right.groupless = true) :
    ∃ before after, left.Denotes before ∧ right.Denotes after ∧ found.text = before ++ after ∧
      found.firstText = before ∧ found.secondText = after := by
  obtain ⟨later, matched, _, rfl⟩ := find?_regex success
  obtain ⟨before, after, leftDenotes, rightDenotes, passes, first, second⟩ :=
    matched.firstSecond groupless
  have text := (take_passes passes).1
  refine ⟨before, after, leftDenotes, rightDenotes, text, ?_, ?_⟩
  · simp only [Match.firstText, text, first, Regex.Cursor.atStart, Option.elim]
    exact Text.slice_between [] before after
  · simp only [Match.secondText, text, second, Regex.Cursor.atStart, Option.elim, Nat.zero_add]
    have whole := Text.slice_between before after []
    rw [List.append_nil] at whole
    exact whole

theorem find?_firstBetween {left body right : Regex} {remaining : Text} {found : Match}
    (success : (ofRegex (.inOrder [left, .group .first body, right])).find? remaining = some found)
    (groupless : right.groupless = true) :
    ∃ before kept after,
      left.Denotes before ∧ body.Denotes kept ∧ right.Denotes after ∧
        found.text = before ++ kept ++ after ∧ found.firstText = kept := by
  obtain ⟨before, kept, after, leftDenotes, bodyDenotes, rightDenotes, text, first⟩ :=
    find?_between success groupless
  refine ⟨before, kept, after, leftDenotes, bodyDenotes, rightDenotes, text, ?_⟩
  simp only [Match.firstText, first, text, Option.elim]
  exact Text.slice_between before kept after

end Pattern

end PassageMarkup
