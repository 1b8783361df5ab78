import PassageMarkup.Proofs.Rule.Block
import PassageMarkup.Proofs.Rule.Word
import PassageMarkup.Proofs.Token.Outline

/-!
# Names that rules give

A rule takes the name of its token from the first group of its expression, or makes a word of the
match lower case.  Neither has blanks or line feeds in it.
-/

namespace PassageMarkup

namespace Regex

/-- Tells whether an expression keeps no first group with a character in it. -/
def firstAvoids (c : Char) : Regex → Bool
  | .seq left right => left.firstAvoids c && right.firstAvoids c
  | .alt left right => left.firstAvoids c && right.firstAvoids c
  | .star body => body.firstAvoids c
  | .lazyStar body => body.firstAvoids c
  | .group .first body => body.avoids c
  | .group .second body => body.firstAvoids c
  | _ => true

/-- A place in a text to which a character has not got into the first group. -/
structure Cursor.FirstLacks (source : Text) (c : Char) (cursor : Cursor) : Prop where
  rest_eq : cursor.rest = source.drop cursor.passed
  lacks : ∀ span, cursor.first = some span → c ∉ source.slice span

variable {r : Regex} {source text : Text} {c : Char} {cursor later : Cursor}

theorem Cursor.Passes.slice_eq (passes : cursor.Passes text later)
    (before : cursor.rest = source.drop cursor.passed) :
    later.rest = source.drop later.passed ∧
      source.slice ⟨cursor.passed, later.passed⟩ = text := by
  have length : later.passed - cursor.passed = text.length := by
    rw [passes.passed_eq, Nat.add_sub_cancel_left]
  constructor
  · rw [passes.passed_eq, ← List.drop_drop, ← before, passes.rest_eq, List.drop_left]
  · rw [Text.slice, ← before, passes.rest_eq, Span.length, length, List.take_left]

theorem Matches.firstLacks (matched : Matches r cursor later) (avoids : r.firstAvoids c = true)
    (before : cursor.FirstLacks source c) : later.FirstLacks source c := by
  induction matched with
  | empty => exact before
  | set ahead accepted =>
      obtain ⟨_, passes, _⟩ := (Matches.set ahead accepted).passes
      exact ⟨(passes.slice_eq before.rest_eq).1, before.lacks⟩
  | seq _ _ left right =>
      rw [firstAvoids, Bool.and_eq_true] at avoids
      exact right avoids.2 (left avoids.1 before)
  | altLeft _ induction =>
      rw [firstAvoids, Bool.and_eq_true] at avoids
      exact induction avoids.1 before
  | altRight _ induction =>
      rw [firstAvoids, Bool.and_eq_true] at avoids
      exact induction avoids.2 before
  | starStop => exact before
  | starMore _ _ one more => exact more avoids (one avoids before)
  | lazyStop => exact before
  | lazyMore _ _ one more => exact more avoids (one avoids before)
  | @group name body cursor later inner induction =>
      cases name with
      | first =>
          obtain ⟨text, passes, denotes⟩ := inner.passes
          obtain ⟨rest, inside⟩ := passes.slice_eq before.rest_eq
          constructor
          · exact rest
          · rintro span kept
            cases kept
            rw [inside]
            exact denotes.not_mem_of_avoids avoids
      | second =>
          have known := induction avoids before
          exact ⟨known.rest_eq, known.lacks⟩
  | wordBoundary => exact before
  | lineEnd => exact before

end Regex

namespace Pattern

theorem find?_firstText {pattern : Pattern} {remaining : Text} {found : Match} {c : Char}
    (avoids : pattern.toRegex.firstAvoids c = true)
    (success : pattern.find? remaining = some found) : c ∉ found.firstText := by
  cases pattern with
  | plain text =>
      rw [Match.firstText, first_of_find?_plain success]
      exact List.not_mem_nil
  | regex r lookahead =>
      obtain ⟨later, matched, _, rfl⟩ := find?_regex success
      have start : (Regex.Cursor.atStart remaining).FirstLacks remaining c := by
        refine ⟨rfl, ?_⟩
        intro span kept
        contradiction
      have lacks := (matched.firstLacks avoids start).lacks
      rw [Match.firstText]
      cases kept : later.first with
      | none => exact List.not_mem_nil
      | some span =>
          intro member
          obtain ⟨place, first, last, here⟩ := Text.mem_slice_iff.mp member
          rw [List.getElem?_take] at here
          split at here
          · exact lacks span kept (Text.mem_slice_iff.mpr ⟨place, first, last, here⟩)
          · contradiction

end Pattern

namespace Text

theorem solid_of_letters {text : Text} (letters : text.all foldsToLetter = true) :
    ∀ c ∈ text.lowerCase, isSolid c = true := by
  intro c member
  have folded : foldsToLetter c = true := by
    have all : text.lowerCase.folded.all Char.isLower = true := by
      rw [folded_lowerCase letters, folded, List.all_map]
      exact letters
    rw [folded, List.all_map] at all
    exact List.all_eq_true.mp all c member
  rw [isSolid_iff]
  constructor
  · rintro rfl
    contradiction
  · rintro rfl
    contradiction

end Text

namespace Rule

variable {mode : Mode} {rule : Rule} {remaining : Text} {found : Match}

theorem solid_named (avoids : rule.pattern.toRegex.firstAvoids ' ' = true)
    (avoidsFeed : rule.pattern.toRegex.firstAvoids '\n' = true)
    (success : rule.pattern.find? remaining = some found) :
    ∀ name ∈ (Lexeme.named found).fields.name, ∀ c ∈ name, Text.isSolid c = true := by
  intro name present c member
  cases present
  rw [Text.isSolid_iff]
  constructor
  · rintro rfl
    exact Pattern.find?_firstText avoids success member
  · rintro rfl
    exact Pattern.find?_firstText avoidsFeed success member

theorem solid_lowerNamed {words : List String}
    (small : words.all (·.toList.all Char.isLower) = true)
    (success : (Pattern.ofRegex (Regex.toBoundary (Regex.either (words.map Regex.text)))).find?
      remaining = some found) :
    ∀ name ∈ (Lexeme.lowerNamed found).fields.name, ∀ c ∈ name, Text.isSolid c = true := by
  obtain ⟨_, _, folds, letters⟩ := Pattern.find?_word small success
  intro name present
  cases present
  exact Text.solid_of_letters (Text.all_foldsToLetter folds letters)

/-- The name that a rule gives has no blanks and line feeds in it. -/
theorem solid_name (member : rule ∈ ofMode mode)
    (success : rule.pattern.find? remaining = some found) :
    ∀ name ∈ (rule.lexeme found).fields.name, ∀ c ∈ name, Text.isSolid c = true := by
  have unset {fields : Fields} (none : fields.name = none) :
      ∀ name ∈ fields.name, ∀ c ∈ name, Text.isSolid c = true := by
    intro name present
    rw [none] at present
    contradiction
  cases mode <;> fin_cases member
  all_goals first
    | exact unset rfl
    | exact unset (congrArg Fields.name (Lexeme.withInner_fields _ _))
    | exact solid_named (by decide +kernel) (by decide +kernel) success
    | exact @solid_lowerNamed _ _ ["true", "false"] (by decide) success
    | exact @solid_lowerNamed _ _ Terminal.datatypeNames (by decide) success
    | exact @solid_lowerNamed _ _ Terminal.identifierNames (by decide) success

end Rule

end PassageMarkup
