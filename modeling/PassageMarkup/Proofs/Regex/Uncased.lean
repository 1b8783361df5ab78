import PassageMarkup.Pattern
import PassageMarkup.Proofs.Text.Uncased

/-!
# Matching without case

An expression whose sets of characters do not tell capital letters from small ones matches in the
same places when a text loses its case.  So does a pattern made of such expressions or of marks.
-/

namespace PassageMarkup

namespace Regex

variable {α β : Type}

/-- Tells whether no set in an expression tells capital letters from small ones. -/
def ignoresCase : Regex → Bool
  | .empty | .wordBoundary | .lineEnd => true
  | .set accepts => capitals.all fun c => accepts c.toLower == accepts c
  | .seq left right | .alt left right => left.ignoresCase && right.ignoresCase
  | .star body | .lazyStar body | .group _ body => body.ignoresCase

namespace Cursor

def uncased (cursor : Cursor) : Cursor :=
  { cursor with before := cursor.before.map Char.toLower, rest := cursor.rest.uncased }

theorem uncased_keep (cursor : Cursor) (name : Group) (start : Nat) :
    (cursor.keep name start).uncased = cursor.uncased.keep name start := by
  cases name <;> rfl

theorem atWordBoundary_uncased (cursor : Cursor) :
    cursor.uncased.atWordBoundary = cursor.atWordBoundary := by
  have word : IgnoresCase Unicode.isWord := .of_capitals (by decide +kernel)
  have neighbour : ∀ c : Option Char, (c.map Char.toLower).elim false Unicode.isWord =
      c.elim false Unicode.isWord := by
    intro c
    cases c with
    | none => rfl
    | some c => exact word c
  have head : cursor.uncased.rest.head? = cursor.rest.head?.map Char.toLower := List.head?_map
  rw [atWordBoundary, atWordBoundary, head, neighbour]
  exact congrArg (· != _) (neighbour cursor.before)

theorem atLineEnd_uncased (cursor : Cursor) : cursor.uncased.atLineEnd = cursor.atLineEnd := by
  have feed : IgnoresCase (· == '\n') := .of_capitals (by decide)
  have head : cursor.uncased.rest.head? = cursor.rest.head?.map Char.toLower := List.head?_map
  rw [atLineEnd, atLineEnd, head]
  cases cursor.rest.head? with
  | none => rfl
  | some c => exact feed c

end Cursor

variable {next : Cursor → Option α} {next' : Cursor → Option β} {f : α → β}
  {body : (Cursor → Option α) → Cursor → Option α} {body' : (Cursor → Option β) → Cursor → Option β}

theorem setThen_uncased {accepts : Char → Bool} (ignores : IgnoresCase accepts)
    (same : ∀ cursor, (next cursor).map f = next' cursor.uncased) (cursor : Cursor) :
    (setThen accepts next cursor).map f = setThen accepts next' cursor.uncased := by
  unfold setThen
  have rest : cursor.uncased.rest = cursor.rest.uncased := rfl
  rw [rest]
  cases cursor.rest with
  | nil => rfl
  | cons c rest =>
      simp only [Text.uncased_cons, ignores c]
      split
      · exact same _
      · rfl

theorem starThen_uncased
    (bodies : ∀ {next : Cursor → Option α} {next' : Cursor → Option β},
      (∀ cursor, (next cursor).map f = next' cursor.uncased) →
        ∀ cursor, (body next cursor).map f = body' next' cursor.uncased)
    (same : ∀ cursor, (next cursor).map f = next' cursor.uncased) (bound : Nat) (cursor : Cursor) :
    (starThen body next bound cursor).map f = starThen body' next' bound cursor.uncased := by
  induction bound generalizing cursor with
  | zero => exact same cursor
  | succ bound induction =>
      have once : (body (fun later =>
          if cursor.passed < later.passed then starThen body next bound later else none)
            cursor).map f =
          body' (fun later =>
            if cursor.uncased.passed < later.passed then starThen body' next' bound later
            else none) cursor.uncased := by
        apply bodies
        intro later
        rw [apply_ite (Option.map f), induction]
        rfl
      rw [starThen, starThen, ← once]
      split <;> rename_i result
      · rw [result]
        rfl
      · rw [result]
        exact same cursor

theorem lazyStarThen_uncased
    (bodies : ∀ {next : Cursor → Option α} {next' : Cursor → Option β},
      (∀ cursor, (next cursor).map f = next' cursor.uncased) →
        ∀ cursor, (body next cursor).map f = body' next' cursor.uncased)
    (same : ∀ cursor, (next cursor).map f = next' cursor.uncased) (bound : Nat) (cursor : Cursor) :
    (lazyStarThen body next bound cursor).map f =
      lazyStarThen body' next' bound cursor.uncased := by
  induction bound generalizing cursor with
  | zero => exact same cursor
  | succ bound induction =>
      rw [lazyStarThen, lazyStarThen, ← same]
      cases next cursor with
      | some result => rfl
      | none =>
          apply bodies
          intro later
          rw [apply_ite (Option.map f), induction]
          rfl

/-- An expression that ignores case matches alike in a text without case, as long as what follows
does. -/
theorem matchThen_uncased {r : Regex} (ignores : r.ignoresCase = true)
    (same : ∀ cursor, (next cursor).map f = next' cursor.uncased) (cursor : Cursor) :
    (r.matchThen next cursor).map f = r.matchThen next' cursor.uncased := by
  induction r generalizing next next' cursor with
  | empty => exact same cursor
  | set accepts =>
      have alike : IgnoresCase accepts := by
        apply IgnoresCase.of_capitals
        simpa [ignoresCase] using ignores
      exact setThen_uncased alike same cursor
  | seq left right first second =>
      rw [ignoresCase, Bool.and_eq_true] at ignores
      exact first ignores.1 (fun later => second ignores.2 same later) cursor
  | alt left right first second =>
      rw [ignoresCase, Bool.and_eq_true] at ignores
      have onLeft := first ignores.1 same cursor
      have onRight := second ignores.2 same cursor
      rw [matchThen, matchThen, ← onLeft, ← onRight]
      cases left.matchThen next cursor <;> rfl
  | star body induction =>
      have bound : cursor.uncased.rest.length = cursor.rest.length := Text.length_uncased _
      rw [matchThen, matchThen, bound]
      exact starThen_uncased (fun alike later => induction ignores alike later) same _ cursor
  | lazyStar body induction =>
      have bound : cursor.uncased.rest.length = cursor.rest.length := Text.length_uncased _
      rw [matchThen, matchThen, bound]
      exact lazyStarThen_uncased (fun alike later => induction ignores alike later) same _ cursor
  | group name body induction =>
      apply induction ignores
      intro later
      rw [same, Cursor.uncased_keep]
      rfl
  | wordBoundary =>
      rw [matchThen, matchThen, Cursor.atWordBoundary_uncased, apply_ite (Option.map f), same]
      rfl
  | lineEnd =>
      rw [matchThen, matchThen, Cursor.atLineEnd_uncased, apply_ite (Option.map f), same]
      rfl

theorem matchStart_uncased {r : Regex} (ignores : r.ignoresCase = true) (text : Text) :
    r.matchStart text.uncased = (r.matchStart text).map Cursor.uncased :=
  (matchThen_uncased ignores (fun _ => rfl) (.atStart text)).symm

end Regex

def Match.uncased (found : Match) : Match :=
  { found with text := found.text.uncased, following := found.following.uncased }

namespace Match

variable (found : Match)

theorem firstText_uncased : found.uncased.firstText = found.firstText.uncased := by
  have span : found.uncased.first = found.first := rfl
  rw [firstText, firstText, span]
  cases found.first with
  | none => rfl
  | some span => exact (Text.uncased_slice _ _).symm

theorem secondText_uncased : found.uncased.secondText = found.secondText.uncased := by
  have span : found.uncased.second = found.second := rfl
  rw [secondText, secondText, span]
  cases found.second with
  | none => rfl
  | some span => exact (Text.uncased_slice _ _).symm

end Match

namespace Pattern

def ignoresCase : Pattern → Bool
  | plain text => text.isLetterless
  | regex r lookahead => r.ignoresCase && lookahead.all (·.regex.ignoresCase)

theorem find?_uncased {pattern : Pattern} (ignores : pattern.ignoresCase = true) (text : Text) :
    pattern.find? text.uncased = (pattern.find? text).map Match.uncased := by
  cases pattern with
  | plain written =>
      rw [find?, find?, Text.isPrefixOf?_uncased ignores]
      cases written.isPrefixOf? text with
      | none => rfl
      | some following =>
          simp only [Option.map_some]
          split
          · rfl
          · simp [Match.uncased, Text.uncased_eq_self ignores]
  | regex r lookahead =>
      rw [ignoresCase, Bool.and_eq_true] at ignores
      have condition : ∀ following : Text, lookahead.all (·.allows following.uncased) =
          lookahead.all (·.allows following) := by
        intro following
        cases lookahead with
        | none => rfl
        | some ahead =>
            have same := Regex.matchStart_uncased ignores.2 following
            simp only [Option.all_some, Lookahead.allows]
            rw [same, Option.isSome_map]
      rw [find?, find?, Regex.matchStart_uncased ignores.1]
      cases r.matchStart text with
      | none => rfl
      | some cursor =>
          have passed : cursor.uncased.passed = cursor.passed := rfl
          have rest : cursor.uncased.rest = cursor.rest.uncased := rfl
          simp only [Option.map_some, passed, rest, condition]
          split
          · rfl
          · simp [Match.uncased, Regex.Cursor.uncased, Text.uncased_take]

end Pattern

end PassageMarkup
