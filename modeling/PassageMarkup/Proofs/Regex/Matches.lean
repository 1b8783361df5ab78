import PassageMarkup.Regex.Match

/-!
# Matches as a relation

`Regex.Matches` relates the places between which an expression matches, and leaves the order of
preference aside.  Every result of the matcher comes from such a match, and `Regex.Denotes` says
which texts a match can pass.
-/

namespace PassageMarkup

namespace Regex

/-- An expression matches from one place to another. -/
inductive Matches : Regex → Cursor → Cursor → Prop where
  | empty (cursor : Cursor) : Matches .empty cursor cursor
  | set {accepts : Char → Bool} {cursor : Cursor} {c : Char} {rest : Text} :
      cursor.rest = c :: rest →
      accepts c = true →
      Matches (.set accepts) cursor
        { cursor with before := some c, rest, passed := cursor.passed + 1 }
  | seq {left right : Regex} {cursor middle later : Cursor} :
      Matches left cursor middle →
      Matches right middle later →
      Matches (.seq left right) cursor later
  | altLeft {left right : Regex} {cursor later : Cursor} :
      Matches left cursor later →
      Matches (.alt left right) cursor later
  | altRight {left right : Regex} {cursor later : Cursor} :
      Matches right cursor later →
      Matches (.alt left right) cursor later
  | starStop (body : Regex) (cursor : Cursor) : Matches (.star body) cursor cursor
  | starMore {body : Regex} {cursor middle later : Cursor} :
      Matches body cursor middle →
      Matches (.star body) middle later →
      Matches (.star body) cursor later
  | lazyStop (body : Regex) (cursor : Cursor) : Matches (.lazyStar body) cursor cursor
  | lazyMore {body : Regex} {cursor middle later : Cursor} :
      Matches body cursor middle →
      Matches (.lazyStar body) middle later →
      Matches (.lazyStar body) cursor later
  | group {name : Group} {body : Regex} {cursor later : Cursor} :
      Matches body cursor later →
      Matches (.group name body) cursor (later.keep name cursor.passed)
  | wordBoundary {cursor : Cursor} :
      cursor.atWordBoundary = true → Matches .wordBoundary cursor cursor
  | lineEnd {cursor : Cursor} :
      cursor.atLineEnd = true → Matches .lineEnd cursor cursor

variable {α : Type}

/-- A way to match finds matches of an expression: what it hands on, it reached by one. -/
def Finds (run : (Cursor → Option α) → Cursor → Option α) (r : Regex) : Prop :=
  ∀ (next : Cursor → Option α) (cursor : Cursor) (result : α),
    run next cursor = some result →
      ∃ later, Matches r cursor later ∧ next later = some result

theorem setThen_finds (accepts : Char → Bool) :
    Finds (α := α) (setThen accepts) (.set accepts) := by
  intro next cursor result success
  unfold setThen at success
  split at success
  · contradiction
  · rename_i c rest ahead
    split at success
    · rename_i accepted
      exact ⟨_, .set ahead accepted, success⟩
    · contradiction

theorem starThen_finds {run : (Cursor → Option α) → Cursor → Option α} {body : Regex}
    (finds : Finds run body) (bound : Nat) :
    Finds (fun next => starThen run next bound) (.star body) := by
  induction bound with
  | zero =>
      intro next cursor result success
      exact ⟨cursor, .starStop body cursor, success⟩
  | succ bound induction =>
      intro next cursor result success
      simp only [starThen] at success
      split at success
      · rename_i passed
        obtain ⟨middle, first, others⟩ := finds _ _ _ passed
        split at others
        · obtain ⟨later, more, handed⟩ := induction _ _ _ others
          cases success
          exact ⟨later, .starMore first more, handed⟩
        · contradiction
      · exact ⟨cursor, .starStop body cursor, success⟩

theorem lazyStarThen_finds {run : (Cursor → Option α) → Cursor → Option α} {body : Regex}
    (finds : Finds run body) (bound : Nat) :
    Finds (fun next => lazyStarThen run next bound) (.lazyStar body) := by
  induction bound with
  | zero =>
      intro next cursor result success
      exact ⟨cursor, .lazyStop body cursor, success⟩
  | succ bound induction =>
      intro next cursor result success
      simp only [lazyStarThen] at success
      split at success
      · rename_i stopped
        cases success
        exact ⟨cursor, .lazyStop body cursor, stopped⟩
      · obtain ⟨middle, first, others⟩ := finds _ _ _ success
        split at others
        · obtain ⟨later, more, handed⟩ := induction _ _ _ others
          exact ⟨later, .lazyMore first more, handed⟩
        · contradiction

theorem matchThen_finds (r : Regex) : Finds (α := α) r.matchThen r := by
  induction r with
  | empty =>
      intro next cursor result success
      exact ⟨cursor, .empty cursor, success⟩
  | set accepts => exact setThen_finds accepts
  | seq left right leftFinds rightFinds =>
      intro next cursor result success
      obtain ⟨middle, first, handed⟩ := leftFinds _ _ _ success
      obtain ⟨later, second, result⟩ := rightFinds _ _ _ handed
      exact ⟨later, .seq first second, result⟩
  | alt left right leftFinds rightFinds =>
      intro next cursor result success
      simp only [matchThen] at success
      split at success
      · rename_i taken
        cases success
        obtain ⟨later, first, handed⟩ := leftFinds _ _ _ taken
        exact ⟨later, .altLeft first, handed⟩
      · obtain ⟨later, second, handed⟩ := rightFinds _ _ _ success
        exact ⟨later, .altRight second, handed⟩
  | star body finds =>
      intro next cursor result success
      exact starThen_finds finds cursor.rest.length next cursor result success
  | lazyStar body finds =>
      intro next cursor result success
      exact lazyStarThen_finds finds cursor.rest.length next cursor result success
  | group name body finds =>
      intro next cursor result success
      obtain ⟨later, inner, handed⟩ := finds _ _ _ success
      exact ⟨later.keep name cursor.passed, .group inner, handed⟩
  | wordBoundary =>
      intro next cursor result success
      simp only [matchThen] at success
      split at success
      · rename_i boundary
        exact ⟨cursor, .wordBoundary boundary, success⟩
      · contradiction
  | lineEnd =>
      intro next cursor result success
      simp only [matchThen] at success
      split at success
      · rename_i boundary
        exact ⟨cursor, .lineEnd boundary, success⟩
      · contradiction

theorem matchStart_matches {r : Regex} {text : Text} {later : Cursor}
    (success : r.matchStart text = some later) :
    Matches r (.atStart text) later := by
  obtain ⟨reached, matched, handed⟩ := matchThen_finds r _ _ _ success
  cases handed
  exact matched

/-- A text stands between two places. -/
structure Cursor.Passes (cursor : Cursor) (text : Text) (later : Cursor) : Prop where
  rest_eq : cursor.rest = text ++ later.rest
  passed_eq : later.passed = cursor.passed + text.length

namespace Cursor.Passes

theorem refl (cursor : Cursor) : cursor.Passes [] cursor :=
  ⟨rfl, rfl⟩

theorem trans {cursor middle later : Cursor} {left right : Text}
    (first : cursor.Passes left middle) (second : middle.Passes right later) :
    cursor.Passes (left ++ right) later := by
  constructor
  · rw [first.rest_eq, second.rest_eq, List.append_assoc]
  · rw [second.passed_eq, first.passed_eq, List.length_append, Nat.add_assoc]

theorem keep {cursor later : Cursor} {text : Text} (passes : cursor.Passes text later)
    (name : Group) (start : Nat) : cursor.Passes text (later.keep name start) := by
  cases name <;> exact ⟨passes.rest_eq, passes.passed_eq⟩

end Cursor.Passes

/-- The texts that an expression describes when conditions on the neighbours are left aside. -/
inductive Denotes : Regex → Text → Prop where
  | empty : Denotes .empty []
  | set {accepts : Char → Bool} {c : Char} : accepts c = true → Denotes (.set accepts) [c]
  | seq {left right : Regex} {before after : Text} :
      Denotes left before → Denotes right after → Denotes (.seq left right) (before ++ after)
  | altLeft {left right : Regex} {text : Text} :
      Denotes left text → Denotes (.alt left right) text
  | altRight {left right : Regex} {text : Text} :
      Denotes right text → Denotes (.alt left right) text
  | starStop (body : Regex) : Denotes (.star body) []
  | starMore {body : Regex} {before after : Text} :
      Denotes body before → Denotes (.star body) after →
      Denotes (.star body) (before ++ after)
  | lazyStop (body : Regex) : Denotes (.lazyStar body) []
  | lazyMore {body : Regex} {before after : Text} :
      Denotes body before → Denotes (.lazyStar body) after →
      Denotes (.lazyStar body) (before ++ after)
  | group {name : Group} {body : Regex} {text : Text} :
      Denotes body text → Denotes (.group name body) text
  | wordBoundary : Denotes .wordBoundary []
  | lineEnd : Denotes .lineEnd []

theorem Matches.passes {r : Regex} {cursor later : Cursor} (matched : Matches r cursor later) :
    ∃ text, cursor.Passes text later ∧ Denotes r text := by
  induction matched with
  | empty cursor => exact ⟨[], .refl cursor, .empty⟩
  | set ahead accepted => exact ⟨[_], ⟨ahead, rfl⟩, .set accepted⟩
  | seq _ _ left right =>
      obtain ⟨before, first, described⟩ := left
      obtain ⟨after, second, describedToo⟩ := right
      exact ⟨before ++ after, first.trans second, .seq described describedToo⟩
  | altLeft _ induction =>
      obtain ⟨text, passes, described⟩ := induction
      exact ⟨text, passes, .altLeft described⟩
  | altRight _ induction =>
      obtain ⟨text, passes, described⟩ := induction
      exact ⟨text, passes, .altRight described⟩
  | starStop body cursor => exact ⟨[], .refl cursor, .starStop body⟩
  | starMore _ _ one more =>
      obtain ⟨before, first, described⟩ := one
      obtain ⟨after, second, describedToo⟩ := more
      exact ⟨before ++ after, first.trans second, .starMore described describedToo⟩
  | lazyStop body cursor => exact ⟨[], .refl cursor, .lazyStop body⟩
  | lazyMore _ _ one more =>
      obtain ⟨before, first, described⟩ := one
      obtain ⟨after, second, describedToo⟩ := more
      exact ⟨before ++ after, first.trans second, .lazyMore described describedToo⟩
  | group _ induction =>
      obtain ⟨text, passes, described⟩ := induction
      exact ⟨text, passes.keep _ _, .group described⟩
  | wordBoundary _ => exact ⟨[], .refl _, .wordBoundary⟩
  | lineEnd _ => exact ⟨[], .refl _, .lineEnd⟩

theorem Matches.passed_le {r : Regex} {cursor later : Cursor}
    (matched : Matches r cursor later) : cursor.passed ≤ later.passed := by
  obtain ⟨text, passes, _⟩ := matched.passes
  rw [passes.passed_eq]
  exact Nat.le_add_right _ _

/-- The groups kept so far lie in the text passed so far. -/
def Cursor.KeepsWithin (cursor : Cursor) : Prop :=
  ∀ span, cursor.first = some span ∨ cursor.second = some span →
    span.start ≤ span.stop ∧ span.stop ≤ cursor.passed

theorem Matches.keepsWithin {r : Regex} {cursor later : Cursor}
    (matched : Matches r cursor later) (within : cursor.KeepsWithin) : later.KeepsWithin := by
  induction matched with
  | empty => exact within
  | set =>
      intro span kept
      have bounds := within span kept
      exact ⟨bounds.1, Nat.le_succ_of_le bounds.2⟩
  | seq _ _ left right => exact right (left within)
  | altLeft _ induction => exact induction within
  | altRight _ induction => exact induction within
  | starStop => exact within
  | starMore _ _ one more => exact more (one within)
  | lazyStop => exact within
  | lazyMore _ _ one more => exact more (one within)
  | @group name body cursor later inner induction =>
      have bounds := induction within
      have forward := inner.passed_le
      intro span kept
      cases name with
      | first =>
          rcases kept with new | old
          · cases new
            exact ⟨forward, Nat.le_refl _⟩
          · exact bounds span (.inr old)
      | second =>
          rcases kept with old | new
          · exact bounds span (.inl old)
          · cases new
            exact ⟨forward, Nat.le_refl _⟩
  | wordBoundary => exact within
  | lineEnd => exact within

def groupless : Regex → Bool
  | .seq left right => left.groupless && right.groupless
  | .alt left right => left.groupless && right.groupless
  | .star body => body.groupless
  | .lazyStar body => body.groupless
  | .group _ _ => false
  | _ => true

theorem Matches.first_eq {r : Regex} {cursor later : Cursor} (matched : Matches r cursor later)
    (noGroup : r.groupless = true) : later.first = cursor.first := by
  induction matched with
  | seq _ _ left right =>
      simp only [groupless, Bool.and_eq_true] at noGroup
      rw [right noGroup.2, left noGroup.1]
  | altLeft _ induction =>
      simp only [groupless, Bool.and_eq_true] at noGroup
      exact induction noGroup.1
  | altRight _ induction =>
      simp only [groupless, Bool.and_eq_true] at noGroup
      exact induction noGroup.2
  | starMore _ _ one more => rw [more noGroup, one noGroup]
  | lazyMore _ _ one more => rw [more noGroup, one noGroup]
  | group => simp [groupless] at noGroup
  | _ => rfl

theorem Matches.firstBetween {left body right : Regex} {cursor later : Cursor}
    (matched : Matches (inOrder [left, .group .first body, right]) cursor later)
    (groupless : right.groupless = true) :
    ∃ before kept after,
      Denotes left before ∧ Denotes body kept ∧ Denotes right after ∧
        cursor.Passes (before ++ kept ++ after) later ∧
        later.first = some
          ⟨cursor.passed + before.length, cursor.passed + before.length + kept.length⟩ := by
  cases matched with
  | seq first others =>
      cases others with
      | seq grouped last =>
          cases grouped with
          | group middle =>
              obtain ⟨before, passesBefore, leftDenotes⟩ := first.passes
              obtain ⟨kept, passesKept, bodyDenotes⟩ := middle.passes
              obtain ⟨after, passesAfter, rightDenotes⟩ := last.passes
              refine ⟨before, kept, after, leftDenotes, bodyDenotes, rightDenotes,
                (passesBefore.trans (passesKept.keep _ _)).trans passesAfter, ?_⟩
              rw [last.first_eq groupless]
              simp [Cursor.keep, passesKept.passed_eq, passesBefore.passed_eq]

theorem Matches.firstSecond {left right : Regex} {cursor later : Cursor}
    (matched : Matches (toBoundary (.seq (.group .first left) (.group .second right))) cursor later)
    (groupless : right.groupless = true) :
    ∃ before after, Denotes left before ∧ Denotes right after ∧
      cursor.Passes (before ++ after) later ∧
        later.first = some ⟨cursor.passed, cursor.passed + before.length⟩ ∧
        later.second = some
          ⟨cursor.passed + before.length, cursor.passed + before.length + after.length⟩ := by
  cases matched with
  | seq parts boundary =>
      cases boundary
      cases parts with
      | seq first second =>
          cases first with
          | group left =>
              cases second with
              | group right =>
                  obtain ⟨before, passesLeft, leftDenotes⟩ := left.passes
                  obtain ⟨after, passesRight, rightDenotes⟩ := right.passes
                  have kept := passesLeft.keep .first cursor.passed
                  refine ⟨before, after, leftDenotes, rightDenotes,
                    (kept.trans passesRight).keep _ _, ?_, ?_⟩
                  · simp only [Cursor.keep, right.first_eq groupless, passesLeft.passed_eq]
                  · have passed := passesRight.passed_eq
                    rw [kept.passed_eq] at passed
                    simp only [Cursor.keep, passed, passesLeft.passed_eq]

theorem Matches.secondLast {mark gap rest : Regex} {cursor later : Cursor}
    (matched : Matches (inOrder [.group .first mark, gap, .group .second rest]) cursor later) :
    ∃ marked between kept, Denotes mark marked ∧ Denotes gap between ∧
      cursor.Passes (marked ++ between ++ kept) later ∧
        later.second = some ⟨cursor.passed + (marked ++ between).length,
          cursor.passed + (marked ++ between ++ kept).length⟩ := by
  cases matched with
  | seq first others =>
      cases others with
      | seq middle last =>
          cases first with
          | group first =>
              cases last with
              | group last =>
                  obtain ⟨marked, passesMark, markDenotes⟩ := first.passes
                  obtain ⟨between, passesGap, gapDenotes⟩ := middle.passes
                  obtain ⟨kept, passesKept, _⟩ := last.passes
                  have before := (passesMark.keep .first cursor.passed).trans passesGap
                  have whole := before.trans passesKept
                  refine ⟨marked, between, kept, markDenotes, gapDenotes, whole.keep _ _, ?_⟩
                  simp only [Cursor.keep, before.passed_eq, whole.passed_eq]

end Regex

end PassageMarkup
