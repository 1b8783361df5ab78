import Mathlib.Data.List.TakeWhile
import PassageMarkup.Proofs.Regex.Greedy
import PassageMarkup.Proofs.Rule.Lexeme
import PassageMarkup.Proofs.Rule.Settled

/-!
# Markup of whole lines and links

What the rules for whole lines take has no line break in it and ends where a line ends.  What the
rule for links takes ends with the first closing bracket, so its inner text has none.
-/

namespace PassageMarkup

namespace Regex

variable {α : Type} {next : Cursor → Option α} {cursor later : Cursor} {result : α}

/-- Tells whether an expression takes no text with a character in it. -/
def avoids (c : Char) : Regex → Bool
  | .set accepts => !accepts c
  | .seq left right => left.avoids c && right.avoids c
  | .alt left right => left.avoids c && right.avoids c
  | .star body => body.avoids c
  | .lazyStar body => body.avoids c
  | .group _ body => body.avoids c
  | _ => true

theorem over_of_avoids {r : Regex} {c : Char} (avoids : r.avoids c = true) :
    r.Over fun d => d != c := by
  induction r with
  | set accepts =>
      intro d accepted
      rw [bne_iff_ne]
      rintro rfl
      simp [Regex.avoids, accepted] at avoids
  | seq left right leftOver rightOver =>
      rw [Regex.avoids, Bool.and_eq_true] at avoids
      exact ⟨leftOver avoids.1, rightOver avoids.2⟩
  | alt left right leftOver rightOver =>
      rw [Regex.avoids, Bool.and_eq_true] at avoids
      exact ⟨leftOver avoids.1, rightOver avoids.2⟩
  | star body induction => exact induction avoids
  | lazyStar body induction => exact induction avoids
  | group name body induction => exact induction avoids
  | _ => trivial

theorem Denotes.not_mem_of_avoids {r : Regex} {text : Text} {c : Char} (denotes : Denotes r text)
    (avoids : r.avoids c = true) : c ∉ text := by
  intro member
  have other := denotes.all_of_over (over_of_avoids avoids) c member
  simp at other

/-- The last of the expressions that follow each other in an expression. -/
def final : Regex → Regex
  | .seq _ right => right.final
  | r => r

theorem matchThen_final {r : Regex} (success : r.matchThen next cursor = some result) :
    ∃ middle, r.final.matchThen next middle = some result := by
  induction r generalizing cursor with
  | seq left right _ induction =>
      obtain ⟨middle, _, others⟩ := matchThen_finds left _ _ _ success
      exact induction others
  | _ => exact ⟨cursor, success⟩

/-- A repetition of a set takes all it can when any place will do, so it stops at a character that
is not in the set, or at the end. -/
theorem matchThen_star_set (accepts : Char → Bool) (cursor : Cursor)
    (always : ∀ place, ∃ result, next place = some result) :
    ∃ run result, (star (.set accepts)).matchThen next cursor = some result ∧
      next (cursor.pass run) = some result ∧
        ∀ c, (cursor.pass run).rest.head? = some c → accepts c = false := by
  have split : cursor.rest = cursor.rest.takeWhile accepts ++ cursor.rest.dropWhile accepts :=
    List.takeWhile_append_dropWhile.symm
  have stops : ∀ c, (cursor.rest.dropWhile accepts).head? = some c → accepts c = false := by
    intro c head
    have stopped := List.head?_dropWhile_not accepts cursor.rest
    rw [head] at stopped
    exact stopped
  have inside : ∀ c ∈ cursor.rest.takeWhile accepts, accepts c = true :=
    fun c member => List.mem_takeWhile_imp member
  obtain ⟨result, handed⟩ := always (cursor.pass (cursor.rest.takeWhile accepts))
  refine ⟨_, result, ?_, handed, ?_⟩
  · exact starThen_set_eq_some (List.takeWhile_sublist _).length_le split inside stops handed
  · rw [Cursor.pass_rest split]
    exact stops

theorem matchThen_restOfLine (success : Terminal.restOfLine.matchThen some cursor = some later) :
    later.atLineEnd = true := by
  obtain ⟨run, kept, whole, handed, stops⟩ :=
    @matchThen_star_set _ (fun place => some (place.keep .second cursor.passed))
      (fun c => !"\n".toList.contains c) cursor (fun _ => ⟨_, rfl⟩)
  cases handed
  rw [Option.some.inj (success.symm.trans whole), Cursor.atLineEnd, Cursor.keep_rest]
  cases head : (cursor.pass run).rest.head? with
  | none => rfl
  | some c =>
      have stopped := stops c head
      simpa using stopped

end Regex

namespace Match

/-- What follows a match is a line break or nothing. -/
def EndsLine (found : Match) : Prop :=
  ∀ c, found.following.head? = some c → c = '\n'

end Match

namespace Pattern

/-- A pattern whose last part is the end of a line, or the rest of a line, takes a line to its
end. -/
theorem find?_endsLine {r : Regex} {remaining : Text} {found : Match}
    (final : r.final = .lineEnd ∨ r.final = Terminal.restOfLine)
    (success : (ofRegex r).find? remaining = some found) : found.EndsLine := by
  obtain ⟨cursor, reached, _, _, rfl⟩ := find?_regex_iff.mp success
  obtain ⟨middle, last⟩ := Regex.matchThen_final reached
  have atEnd : cursor.atLineEnd = true := by
    rcases final with lineEnd | restOfLine
    · rw [lineEnd, Regex.matchThen] at last
      split at last
      · cases last
        assumption
      · contradiction
    · rw [restOfLine] at last
      exact Regex.matchThen_restOfLine last
  intro c head
  rw [Regex.Cursor.atLineEnd, head] at atEnd
  simpa using atEnd

end Pattern

namespace Rule

variable {mode : Mode} {rule : Rule} {remaining : Text} {found : Match}

theorem block_cases (member : rule ∈ ofMode mode) (isBlock : rule.kind.isBlock = true) :
    rule ∈ [horizontalRule, heading, bulleted, numbered, align, column] := by
  cases mode <;> fin_cases member
  all_goals first
    | contradiction
    | simp

theorem block_line (member : rule ∈ ofMode mode) (isBlock : rule.kind.isBlock = true) :
    rule.beginsLine = true ∧ rule.cannotFollowText = true ∧
      (∀ found, (rule.lexeme found).length = found.text.length) ∧
      ∃ r, rule.pattern = .ofRegex r ∧ r.avoids '\n' = true ∧
        (r.final = .lineEnd ∨ r.final = Terminal.restOfLine) := by
  have listed := block_cases member isBlock
  fin_cases listed
  · exact ⟨rfl, rfl, fun _ => rfl, _, rfl, by decide, .inl rfl⟩
  · exact ⟨rfl, rfl, fun _ => Lexeme.withInner_length _ _, _, rfl, by decide, .inr rfl⟩
  · exact ⟨rfl, rfl, fun _ => Lexeme.withInner_length _ _, _, rfl, by decide, .inr rfl⟩
  · exact ⟨rfl, rfl, fun _ => Lexeme.withInner_length _ _, _, rfl, by decide, .inr rfl⟩
  · exact ⟨rfl, rfl, fun _ => rfl, _, rfl, by decide, .inl rfl⟩
  · exact ⟨rfl, rfl, fun _ => rfl, _, rfl, by decide, .inl rfl⟩

/-- Markup of a whole line has no line break in it and reaches to the end of the line. -/
theorem block_found (member : rule ∈ ofMode mode) (isBlock : rule.kind.isBlock = true)
    (success : rule.pattern.find? remaining = some found) :
    '\n' ∉ found.text ∧ found.EndsLine := by
  obtain ⟨_, _, _, r, pattern, avoids, final⟩ := block_line member isBlock
  rw [pattern] at success
  obtain ⟨_, denotes⟩ := Pattern.find?_regex_splitsOff success
  exact ⟨denotes.not_mem_of_avoids avoids, Pattern.find?_endsLine final success⟩

theorem lineBreak_found (member : rule ∈ ofMode mode) (isLineBreak : rule.kind = .lineBreak)
    (success : rule.pattern.find? remaining = some found) :
    found.text = ['\n'] ∧ (rule.lexeme found).length = found.text.length := by
  have listed : rule = lineBreak := by
    cases mode <;> fin_cases member
    all_goals first
      | rfl
      | contradiction
  subst listed
  exact ⟨(Pattern.find?_plain success).2, rfl⟩

theorem kind_eq_link (member : rule ∈ ofMode mode) (isLink : rule.kind = .link) : rule = link := by
  cases mode <;> fin_cases member
  all_goals first
    | rfl
    | contradiction

theorem link_found (success : link.pattern.find? remaining = some found) : ']' ∈ found.text := by
  obtain ⟨_, _, after, _, _, closing, text, _⟩ := Pattern.find?_between success rfl
  rw [text, closing.of_literal (by decide)]
  simp

theorem link_inner {span : Span} (success : link.pattern.find? remaining = some found)
    (marked : (link.lexeme found).inner = some span) : ']' ∉ found.text.slice span := by
  obtain ⟨before, kept, after, _, body, _, text, first⟩ := Pattern.find?_between success rfl
  have firstText : found.firstText = kept := by
    simp only [Match.firstText, first, text, Option.elim]
    exact Text.slice_between before kept after
  change (Lexeme.link found).inner = some span at marked
  rw [Lexeme.link_eq] at marked
  have same := Lexeme.withInner_inner rfl marked
  simp only [first, firstText, Option.map_some, Option.getD_some] at same
  intro member
  rw [text, same, Text.slice_inside (Lexeme.linkParts_le kept)] at member
  exact body.not_mem_of_avoids (by decide) (Text.mem_of_mem_slice member)

theorem kind_of_marked (special : rule ∈ [heading, bulleted, numbered, link]) :
    rule.kind.isBlock = true ∨ rule = link := by
  fin_cases special
  · exact .inl rfl
  · exact .inl rfl
  · exact .inl rfl
  · exact .inr rfl

theorem length_of_marked (special : rule ∈ [heading, bulleted, numbered, link]) (found : Match) :
    (rule.lexeme found).length = found.text.length := by
  fin_cases special <;> exact Lexeme.withInner_length _ _

end Rule

end PassageMarkup
