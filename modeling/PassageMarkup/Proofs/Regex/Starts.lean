import PassageMarkup.Proofs.Regex.Matches
import PassageMarkup.Proofs.Pattern

/-!
# First and last characters of matches

Which characters a match of an expression can begin or end with is computed from the expression.  A
pattern finds nothing in a text that begins with another character.
-/

namespace PassageMarkup

namespace Regex

/-- Tells whether an expression can match without passing a character. -/
def nullable : Regex → Bool
  | .empty => true
  | .set _ => false
  | .seq left right => left.nullable && right.nullable
  | .alt left right => left.nullable || right.nullable
  | .star _ => true
  | .lazyStar _ => true
  | .group _ body => body.nullable
  | .wordBoundary => true
  | .lineEnd => true

/-- The sets of characters with which the text of a match can begin. -/
def heads : Regex → List (Char → Bool)
  | .empty => []
  | .set accepts => [accepts]
  | .seq left right => if left.nullable then left.heads ++ right.heads else left.heads
  | .alt left right => left.heads ++ right.heads
  | .star body => body.heads
  | .lazyStar body => body.heads
  | .group _ body => body.heads
  | .wordBoundary => []
  | .lineEnd => []

/-- Tells whether a character stands for another one, in either case. -/
def sameAs (expected c : Char) : Bool :=
  foldCase c == foldCase expected

theorem eq_of_sameAs {expected c : Char} (caseless : isCaseless expected = true)
    (same : sameAs expected c = true) : c = expected :=
  eq_of_foldCase_eq caseless (by simpa [sameAs] using same)

/-- Tells whether the text of a match can begin with a character. -/
def starts (r : Regex) (c : Char) : Bool :=
  r.heads.any fun accepts => accepts c

theorem Denotes.literal (written : Text) : Denotes (literal written) written := by
  induction written with
  | nil => exact .empty
  | cons c rest induction =>
      have here : Denotes (char c) [c] := .set (beq_self_eq_true _)
      cases rest with
      | nil => exact here
      | cons next others => exact .seq here induction

theorem Denotes.nullable_of_nil {r : Regex} {text : Text} (denotes : Denotes r text)
    (empty : text = []) : r.nullable = true := by
  induction denotes with
  | set => contradiction
  | seq _ _ left right =>
      obtain ⟨before, after⟩ := List.append_eq_nil_iff.mp empty
      simp [nullable, left before, right after]
  | altLeft _ induction => simp [nullable, induction empty]
  | altRight _ induction => simp [nullable, induction empty]
  | group _ induction => exact induction empty
  | _ => rfl

theorem starts_seq {left right : Regex} {c : Char} :
    (seq left right).starts c = (left.starts c || left.nullable && right.starts c) := by
  cases nullable : left.nullable <;> simp [starts, heads, nullable]

theorem starts_alt {left right : Regex} {c : Char} :
    (alt left right).starts c = (left.starts c || right.starts c) :=
  List.any_append

theorem Denotes.starts_of_head {r : Regex} {text : Text} {c : Char} (denotes : Denotes r text)
    (head : text.head? = some c) : r.starts c = true := by
  induction denotes with
  | set accepted =>
      cases head
      simp [starts, heads, accepted]
  | @seq _ _ before after first _ left right =>
      rw [starts_seq]
      cases before with
      | nil => simp [first.nullable_of_nil rfl, right head]
      | cons d others => simp [left head]
  | altLeft _ induction => simp [starts_alt, induction head]
  | altRight _ induction => simp [starts_alt, induction head]
  | @starMore _ before after _ _ one more =>
      cases before with
      | nil => exact more head
      | cons d others => exact one head
  | @lazyMore _ before after _ _ one more =>
      cases before with
      | nil => exact more head
      | cons d others => exact one head
  | group _ induction => exact induction head
  | _ => contradiction

/-- A match that has to begin with written characters begins with one of them. -/
theorem Denotes.exists_head {r : Regex} {text : Text} (denotes : Denotes r text)
    (written : List Char) (solid : r.nullable = false) (heads : r.heads = written.map sameAs)
    (caseless : written.all isCaseless = true) : ∃ c rest, text = c :: rest ∧ c ∈ written := by
  cases text with
  | nil =>
      rw [denotes.nullable_of_nil rfl] at solid
      contradiction
  | cons c rest =>
      have begins := denotes.starts_of_head rfl
      rw [starts, heads, List.any_map, List.any_eq_true] at begins
      obtain ⟨d, member, same⟩ := begins
      rw [eq_of_sameAs (List.all_eq_true.mp caseless d member) same]
      exact ⟨d, rest, rfl, member⟩

/-- The sets of characters with which the text of a match can end. -/
def lasts : Regex → List (Char → Bool)
  | .empty => []
  | .set accepts => [accepts]
  | .seq left right => if right.nullable then left.lasts ++ right.lasts else right.lasts
  | .alt left right => left.lasts ++ right.lasts
  | .star body => body.lasts
  | .lazyStar body => body.lasts
  | .group _ body => body.lasts
  | .wordBoundary => []
  | .lineEnd => []

def ends (r : Regex) (c : Char) : Bool :=
  r.lasts.any fun accepts => accepts c

theorem ends_seq {left right : Regex} {c : Char} :
    (seq left right).ends c = (right.ends c || right.nullable && left.ends c) := by
  cases nullable : right.nullable <;> simp [ends, lasts, nullable, Bool.or_comm]

theorem ends_alt {left right : Regex} {c : Char} :
    (alt left right).ends c = (left.ends c || right.ends c) :=
  List.any_append

private theorem getLast?_append_cases {before after : Text} {c : Char}
    (last : (before ++ after).getLast? = some c) :
    after.getLast? = some c ∨ after = [] ∧ before.getLast? = some c := by
  cases after with
  | nil => exact .inr ⟨rfl, by simpa using last⟩
  | cons d others => exact .inl (by simpa [List.getLast?_append] using last)

theorem Denotes.ends_of_getLast? {r : Regex} {text : Text} {c : Char} (denotes : Denotes r text)
    (last : text.getLast? = some c) : r.ends c = true := by
  induction denotes with
  | set accepted =>
      cases last
      simp [ends, lasts, accepted]
  | seq _ second left right =>
      rw [ends_seq]
      rcases getLast?_append_cases last with later | ⟨nothing, earlier⟩
      · simp [right later]
      · simp [second.nullable_of_nil nothing, left earlier]
  | altLeft _ induction => simp [ends_alt, induction last]
  | altRight _ induction => simp [ends_alt, induction last]
  | starMore _ _ one more => exact (getLast?_append_cases last).elim more fun other => one other.2
  | lazyMore _ _ one more => exact (getLast?_append_cases last).elim more fun other => one other.2
  | group _ induction => exact induction last
  | _ => contradiction

theorem Denotes.exists_getLast? {r : Regex} {text : Text} {c : Char} (denotes : Denotes r text)
    (solid : r.nullable = false) (notLast : r.ends c = false) :
    ∃ d, text.getLast? = some d ∧ d ≠ c := by
  cases last : text.getLast? with
  | none =>
      rw [denotes.nullable_of_nil (List.getLast?_eq_none_iff.mp last)] at solid
      contradiction
  | some d =>
      refine ⟨d, rfl, ?_⟩
      rintro rfl
      rw [denotes.ends_of_getLast? last] at notLast
      contradiction

/-- Every set of an expression has only characters of a kind. -/
def Over (kind : Char → Bool) : Regex → Prop
  | .set accepts => ∀ c, accepts c = true → kind c = true
  | .seq left right => left.Over kind ∧ right.Over kind
  | .alt left right => left.Over kind ∧ right.Over kind
  | .star body => body.Over kind
  | .lazyStar body => body.Over kind
  | .group _ body => body.Over kind
  | _ => True

theorem Denotes.all_of_over {r : Regex} {text : Text} {kind : Char → Bool}
    (denotes : Denotes r text) (sets : r.Over kind) : ∀ c ∈ text, kind c = true := by
  induction denotes with
  | set accepted => simpa using sets _ accepted
  | seq _ _ left right => simpa [or_imp, forall_and] using ⟨left sets.1, right sets.2⟩
  | altLeft _ induction => exact induction sets.1
  | altRight _ induction => exact induction sets.2
  | starMore _ _ one more => simpa [or_imp, forall_and] using ⟨one sets, more sets⟩
  | lazyMore _ _ one more => simpa [or_imp, forall_and] using ⟨one sets, more sets⟩
  | group _ induction => exact induction sets
  | _ => simp

end Regex

theorem Match.SplitsOff.head?_eq {found : Match} {c : Char} {rest remaining : Text}
    (splits : found.SplitsOff remaining) (begins : remaining = c :: rest) :
    found.text.head? = some c := by
  have head := congrArg List.head? (begins.symm.trans splits.remaining_eq)
  cases text : found.text with
  | nil => exact absurd text splits.nonempty
  | cons d others =>
      rw [text] at head
      exact head.symm

namespace Pattern

theorem find?_denotes {pattern : Pattern} {remaining : Text} {found : Match}
    (success : pattern.find? remaining = some found) :
    found.SplitsOff remaining ∧ pattern.toRegex.Denotes found.text := by
  cases pattern with
  | plain text =>
      obtain ⟨splits, same⟩ := find?_plain success
      rw [same]
      exact ⟨splits, .literal text⟩
  | regex r lookahead => exact find?_regex_splitsOff success

/-- A pattern finds nothing in a text whose first character it cannot begin with. -/
theorem find?_eq_none_of_starts {pattern : Pattern} {c : Char} {rest : Text}
    (cannot : pattern.toRegex.starts c = false) : pattern.find? (c :: rest) = none := by
  cases result : pattern.find? (c :: rest) with
  | none => rfl
  | some found =>
      obtain ⟨splits, denotes⟩ := find?_denotes result
      rw [denotes.starts_of_head (splits.head?_eq rfl)] at cannot
      contradiction

end Pattern

end PassageMarkup
