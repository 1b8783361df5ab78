import Mathlib.Data.List.Basic
import PassageMarkup.Proofs.Regex.Matches

/-!
# All results of a match

`Regex.results` lists the places to which an expression leads, the preferred one first, and the
matcher tries them in this order.  A repetition goes on with itself: the bound that the matcher
gives it is always enough.
-/

namespace PassageMarkup

namespace Regex

variable {α : Type} {r : Regex} {cursor later : Cursor}

/-- The places after one repetition and then others.  A repetition has to pass a character. -/
def onward (body others : Cursor → List Cursor) (cursor : Cursor) : List Cursor :=
  (body cursor).flatMap fun later => if cursor.passed < later.passed then others later else []

/-- The place itself, after or before those that more repetitions lead to. -/
def preferring (greedy : Bool) (more : List Cursor) (cursor : Cursor) : List Cursor :=
  if greedy then more ++ [cursor] else [cursor] ++ more

/-- The results of repeating `body` at most `bound` times. -/
def repeatResults (greedy : Bool) (body : Cursor → List Cursor) : Nat → Cursor → List Cursor
  | 0, cursor => [cursor]
  | bound + 1, cursor =>
    preferring greedy (onward body (repeatResults greedy body bound) cursor) cursor

def repeated (greedy : Bool) (body : Cursor → List Cursor) (cursor : Cursor) : List Cursor :=
  repeatResults greedy body cursor.rest.length cursor

/-- The places to which an expression leads from a place, in the order of preference. -/
def results : Regex → Cursor → List Cursor
  | .empty, cursor => [cursor]
  | .set accepts, cursor => (setThen accepts some cursor).toList
  | .seq left right, cursor => (left.results cursor).flatMap right.results
  | .alt left right, cursor => left.results cursor ++ right.results cursor
  | .star body, cursor => repeated true body.results cursor
  | .lazyStar body, cursor => repeated false body.results cursor
  | .group name body, cursor => (body.results cursor).map (·.keep name cursor.passed)
  | .wordBoundary, cursor => if cursor.atWordBoundary then [cursor] else []
  | .lineEnd, cursor => if cursor.atLineEnd then [cursor] else []

private theorem findSome?_flatMap {β γ : Type} (items : List β) (f : β → List γ)
    (next : γ → Option α) :
    (items.flatMap f).findSome? next = items.findSome? fun item => (f item).findSome? next := by
  induction items with
  | nil => rfl
  | cons item items induction =>
      rw [List.flatMap_cons, List.findSome?_append, induction, List.findSome?_cons]
      cases (f item).findSome? next <;> rfl

/-- A way to match tries the results of an expression in their order. -/
def Tries (run : (Cursor → Option α) → Cursor → Option α) (results : Cursor → List Cursor) : Prop :=
  ∀ next cursor, run next cursor = (results cursor).findSome? next

variable {run : (Cursor → Option α) → Cursor → Option α} {body : Cursor → List Cursor}

theorem Tries.onward {others : Cursor → List Cursor} (tries : Tries run body)
    {again next : Cursor → Option α}
    (same : ∀ later, again later = (others later).findSome? next) (cursor : Cursor) :
    run (fun later => if cursor.passed < later.passed then again later else none) cursor =
      (onward body others cursor).findSome? next := by
  rw [tries, Regex.onward, findSome?_flatMap]
  congr 1
  funext later
  rw [same]
  split <;> rfl

theorem starThen_tries (tries : Tries run body) (bound : Nat) :
    Tries (fun next => starThen run next bound) (repeatResults true body bound) := by
  induction bound with
  | zero =>
      intro next cursor
      simp [starThen, repeatResults]
  | succ bound induction =>
      intro next cursor
      have more := tries.onward (induction next) cursor
      simp only at more
      simp only [starThen, repeatResults, preferring, if_true, List.findSome?_append, more]
      cases (Regex.onward body (repeatResults true body bound) cursor).findSome? next with
      | some result => rfl
      | none => simp

theorem lazyStarThen_tries (tries : Tries run body) (bound : Nat) :
    Tries (fun next => lazyStarThen run next bound) (repeatResults false body bound) := by
  induction bound with
  | zero =>
      intro next cursor
      simp [lazyStarThen, repeatResults]
  | succ bound induction =>
      intro next cursor
      have more := tries.onward (induction next) cursor
      simp only at more
      simp only [lazyStarThen, repeatResults, preferring, Bool.false_eq_true, if_false,
        List.findSome?_append, more]
      cases found : next cursor <;> simp [found]

theorem matchThen_tries (r : Regex) : Tries (α := α) r.matchThen r.results := by
  induction r with
  | empty =>
      intro next cursor
      simp [matchThen, results]
  | set accepts =>
      intro next cursor
      simp only [matchThen, results, setThen]
      split
      · rfl
      · split <;> simp
  | seq left right leftTries rightTries =>
      intro next cursor
      rw [matchThen, results, findSome?_flatMap, leftTries]
      congr 1
      funext later
      exact rightTries next later
  | alt left right leftTries rightTries =>
      intro next cursor
      rw [matchThen, results, List.findSome?_append, leftTries, rightTries]
      cases (left.results cursor).findSome? next <;> rfl
  | star body tries =>
      intro next cursor
      exact starThen_tries tries cursor.rest.length next cursor
  | lazyStar body tries =>
      intro next cursor
      exact lazyStarThen_tries tries cursor.rest.length next cursor
  | group name body tries =>
      intro next cursor
      rw [matchThen, results, List.findSome?_map, tries]
      rfl
  | wordBoundary =>
      intro next cursor
      simp only [matchThen, results]
      split <;> simp
  | lineEnd =>
      intro next cursor
      simp only [matchThen, results]
      split <;> simp

theorem matchStart_eq (r : Regex) (text : Text) :
    r.matchStart text = (r.results (.atStart text)).head? := by
  rw [matchStart, matchThen_tries]
  cases r.results (.atStart text) <;> rfl

theorem matches_of_mem_results (member : later ∈ r.results cursor) : Matches r cursor later := by
  classical
  let next : Cursor → Option Unit := fun other => if other = later then some () else none
  have success : (r.results cursor).findSome? next = some () := by
    have found : ((r.results cursor).findSome? next).isSome = true :=
      List.findSome?_isSome_iff.mpr ⟨later, member, by simp [next]⟩
    obtain ⟨_, equal⟩ := Option.isSome_iff_exists.mp found
    exact equal
  rw [← matchThen_tries] at success
  obtain ⟨other, matched, handed⟩ := matchThen_finds r next cursor () success
  simp only [next] at handed
  split at handed
  · rename_i same
    rw [← same]
    exact matched
  · contradiction

/-- Every place that a way to match leads to lies ahead. -/
def Forward (body : Cursor → List Cursor) : Prop :=
  ∀ cursor, ∀ later ∈ body cursor, ∃ text, cursor.Passes text later

theorem results_forward (r : Regex) : Forward r.results := by
  intro cursor later member
  obtain ⟨text, passes, _⟩ := (matches_of_mem_results member).passes
  exact ⟨text, passes⟩

namespace Forward

variable (forward : Forward body)
include forward

theorem rest_length_le (member : later ∈ body cursor) :
    later.rest.length ≤ cursor.rest.length := by
  obtain ⟨text, passes⟩ := forward cursor later member
  rw [passes.rest_eq, List.length_append]
  exact Nat.le_add_left _ _

theorem rest_length_lt (member : later ∈ body cursor) (moved : cursor.passed < later.passed) :
    later.rest.length < cursor.rest.length := by
  obtain ⟨text, passes⟩ := forward cursor later member
  have passed := passes.passed_eq
  rw [passes.rest_eq, List.length_append]
  omega

theorem onward_congr {others same : Cursor → List Cursor}
    (equal : ∀ later : Cursor, later.rest.length < cursor.rest.length → others later = same later) :
    onward body others cursor = onward body same cursor := by
  apply List.flatMap_congr
  intro later member
  split
  · rename_i moved
    exact equal later (forward.rest_length_lt member moved)
  · rfl

/-- The length of the text bounds the repetitions, so a larger bound changes nothing. -/
theorem repeatResults_succ (greedy : Bool) {bound : Nat} (enough : cursor.rest.length ≤ bound) :
    repeatResults greedy body (bound + 1) cursor = repeatResults greedy body bound cursor := by
  induction bound generalizing cursor with
  | zero =>
      have none : ∀ later ∈ body cursor, ¬cursor.passed < later.passed := by
        intro later member moved
        have shorter := forward.rest_length_lt member moved
        omega
      have nothing : onward body (repeatResults greedy body 0) cursor = [] := by
        apply List.flatMap_eq_nil_iff.mpr
        intro later member
        exact if_neg (none later member)
      rw [repeatResults.eq_2, nothing]
      cases greedy <;> rfl
  | succ bound induction =>
      rw [repeatResults, repeatResults, forward.onward_congr]
      intro later shorter
      exact induction (by omega)

theorem repeatResults_eq (greedy : Bool) {bound : Nat} (enough : cursor.rest.length ≤ bound) :
    repeatResults greedy body bound cursor = repeated greedy body cursor := by
  induction enough with
  | refl => rfl
  | step enough induction => rw [forward.repeatResults_succ greedy enough, induction]

theorem repeated_eq (greedy : Bool) :
    repeated greedy body =
      fun cursor => preferring greedy (onward body (repeated greedy body) cursor) cursor := by
  funext cursor
  rw [repeated, ← forward.repeatResults_succ greedy (Nat.le_refl _), repeatResults,
    forward.onward_congr]
  intro later shorter
  exact forward.repeatResults_eq greedy (Nat.le_of_lt shorter)

end Forward

end Regex

end PassageMarkup
