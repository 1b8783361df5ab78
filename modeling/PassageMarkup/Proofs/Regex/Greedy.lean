import PassageMarkup.Proofs.Regex.Denotes
import PassageMarkup.Terminal

/-!
# Greedy matches

Where the text ahead is known, a match can be followed forwards.  A repetition goes on to the end of
a run of its characters, and the name of a value takes the whole run, whichever of its characters
makes it more than a number.
-/

namespace PassageMarkup

namespace Regex

variable {α : Type} {accepts : Char → Bool} {next : Cursor → Option α} {cursor : Cursor}
  {run rest : Text} {result : α}

/-- The place after a text that is passed without keeping groups. -/
def Cursor.pass (cursor : Cursor) : Text → Cursor
  | [] => cursor
  | c :: text =>
    pass { cursor with
      before := some c, rest := cursor.rest.tail, passed := cursor.passed + 1 } text

namespace Cursor

@[simp] theorem pass_passed (text : Text) :
    (cursor.pass text).passed = cursor.passed + text.length := by
  induction text generalizing cursor with
  | nil => rfl
  | cons c text induction =>
      rw [pass, induction, List.length_cons, Nat.add_assoc, Nat.add_comm 1]

@[simp] theorem pass_first (text : Text) : (cursor.pass text).first = cursor.first := by
  induction text generalizing cursor with
  | nil => rfl
  | cons c text induction => rw [pass, induction]

@[simp] theorem pass_second (text : Text) : (cursor.pass text).second = cursor.second := by
  induction text generalizing cursor with
  | nil => rfl
  | cons c text induction => rw [pass, induction]

theorem pass_rest {text : Text} (ahead : cursor.rest = text ++ rest) :
    (cursor.pass text).rest = rest := by
  induction text generalizing cursor with
  | nil => exact ahead
  | cons c text induction =>
      apply induction
      rw [ahead]
      rfl

@[simp] theorem keep_rest (name : Group) (start : Nat) :
    (cursor.keep name start).rest = cursor.rest := by
  cases name <;> rfl

@[simp] theorem keep_passed (name : Group) (start : Nat) :
    (cursor.keep name start).passed = cursor.passed := by
  cases name <;> rfl

end Cursor

theorem matchThen_set {c : Char} (ahead : cursor.rest = c :: rest) (accepted : accepts c = true) :
    (set accepts).matchThen next cursor = next (cursor.pass [c]) := by
  rw [matchThen, setThen, ahead]
  simp [accepted, Cursor.pass, ahead]

theorem matchThen_set_of_rejected (rejected : ∀ c, cursor.rest.head? = some c → accepts c = false) :
    (set accepts).matchThen next cursor = none := by
  rw [matchThen, setThen]
  cases ahead : cursor.rest with
  | nil => rfl
  | cons c others =>
      rw [ahead] at rejected
      simp [rejected c rfl]

theorem matchThen_spelled {written spelled : Text} (ahead : cursor.rest = spelled ++ rest)
    (same : spelled.map foldCase = written.map foldCase) :
    (literal written).matchThen next cursor = next (cursor.pass spelled) := by
  induction written generalizing cursor spelled with
  | nil =>
      rw [List.map_eq_nil_iff.mp same]
      rfl
  | cons c others induction =>
      obtain ⟨d, more, rfl, here, later⟩ := List.map_eq_cons_iff.mp same
      have first : ∀ next : Cursor → Option α,
          (char c).matchThen next cursor = next (cursor.pass [d]) :=
        fun next => matchThen_set ahead (beq_iff_eq.mpr here)
      cases others with
      | nil =>
          rw [List.map_eq_nil_iff.mp later]
          exact first next
      | cons e others =>
          rw [literal, matchThen, first, induction (Cursor.pass_rest ahead) later]
          · rfl
          · simp

theorem matchThen_literal {written : Text} (ahead : cursor.rest = written ++ rest) :
    (literal written).matchThen next cursor = next (cursor.pass written) :=
  matchThen_spelled ahead rfl

private theorem starThen_set_succ {c : Char} (bound : Nat) (ahead : cursor.rest = c :: rest)
    (accepted : accepts c = true) :
    starThen (set accepts).matchThen next (bound + 1) cursor =
      (starThen (set accepts).matchThen next bound (cursor.pass [c])).or (next cursor) := by
  rw [starThen, matchThen_set ahead accepted, Cursor.pass_passed, if_pos (by simp)]
  cases starThen (set accepts).matchThen next bound (cursor.pass [c]) <;> rfl

theorem starThen_set_eq_some {bound : Nat} (enough : run.length ≤ bound)
    (ahead : cursor.rest = run ++ rest) (all : ∀ c ∈ run, accepts c = true)
    (ends : ∀ c, rest.head? = some c → accepts c = false)
    (success : next (cursor.pass run) = some result) :
    starThen (set accepts).matchThen next bound cursor = some result := by
  induction run generalizing bound cursor with
  | nil =>
      cases bound with
      | zero => exact success
      | succ bound =>
          rw [starThen, matchThen_set_of_rejected (by rw [ahead]; exact ends)]
          exact success
  | cons c run induction =>
      obtain ⟨bound, rfl⟩ := Nat.exists_eq_add_one_of_ne_zero (Nat.ne_zero_of_lt enough)
      rw [List.forall_mem_cons] at all
      have later : (cursor.pass [c]).rest = run ++ rest := Cursor.pass_rest ahead
      rw [starThen_set_succ bound ahead all.1,
        induction (Nat.le_of_succ_le_succ enough) later all.2 success, Option.some_or]

theorem starThen_set_eq_none {bound : Nat} (ahead : cursor.rest = run ++ rest)
    (all : ∀ c ∈ run, accepts c = true)
    (ends : ∀ c, rest.head? = some c → accepts c = false)
    (failure : ∀ before after, run = before ++ after → next (cursor.pass before) = none) :
    starThen (set accepts).matchThen next bound cursor = none := by
  induction run generalizing bound cursor with
  | nil =>
      have here : next cursor = none := failure [] [] rfl
      cases bound with
      | zero => exact here
      | succ bound =>
          rw [starThen, matchThen_set_of_rejected (by rw [ahead]; exact ends)]
          exact here
  | cons c run induction =>
      have here : next cursor = none := failure [] (c :: run) rfl
      rw [List.forall_mem_cons] at all
      cases bound with
      | zero => exact here
      | succ bound =>
          have later : (cursor.pass [c]).rest = run ++ rest := Cursor.pass_rest ahead
          have failed : starThen (set accepts).matchThen next bound (cursor.pass [c]) = none := by
            apply induction later all.2
            intro before after split
            exact failure (c :: before) after (by rw [split, List.cons_append])
          rw [starThen_set_succ bound ahead all.1, failed, here, Option.none_or]

theorem matchThen_many1 (nonempty : run ≠ []) (ahead : cursor.rest = run ++ rest)
    (all : ∀ c ∈ run, accepts c = true)
    (ends : ∀ c, rest.head? = some c → accepts c = false)
    (success : next (cursor.pass run) = some result) :
    (many1 (set accepts)).matchThen next cursor = some result := by
  cases run with
  | nil => contradiction
  | cons c run =>
      rw [List.forall_mem_cons] at all
      have later : (cursor.pass [c]).rest = run ++ rest := Cursor.pass_rest ahead
      rw [many1, matchThen, matchThen_set ahead all.1]
      exact starThen_set_eq_some (by simp [later]) later all.2 ends success

private theorem starThen_name_eq_none {bound : Nat} (ahead : cursor.rest = run ++ rest)
    (all : ∀ c ∈ run, Terminal.isNameChar c = true)
    (ends : ∀ c, rest.head? = some c → Terminal.isNameChar c = false)
    (noLetter : ∀ c ∈ run, Terminal.isNameLetter c = false) :
    starThen (set Terminal.isNameChar).matchThen
      ((inOrder [set Terminal.isNameLetter, many (set Terminal.isNameChar)]).matchThen next)
      bound cursor = none := by
  apply starThen_set_eq_none ahead all ends
  intro before after split
  apply matchThen_set_of_rejected
  intro c head
  have afterwards : (cursor.pass before).rest = after ++ rest :=
    Cursor.pass_rest (by rw [ahead, split, List.append_assoc])
  rw [afterwards] at head
  cases after with
  | nil =>
      have notNameChar := ends c head
      rw [Terminal.isNameChar, Bool.or_eq_false_iff] at notNameChar
      exact notNameChar.1
  | cons d others =>
      cases head
      exact noLetter c (by simp [split])

private theorem starThen_name {bound : Nat} (enough : run.length ≤ bound)
    (ahead : cursor.rest = run ++ rest) (all : ∀ c ∈ run, Terminal.isNameChar c = true)
    (ends : ∀ c, rest.head? = some c → Terminal.isNameChar c = false)
    (letter : ∃ c ∈ run, Terminal.isNameLetter c = true)
    (success : next (cursor.pass run) = some result) :
    starThen (set Terminal.isNameChar).matchThen
      ((inOrder [set Terminal.isNameLetter, many (set Terminal.isNameChar)]).matchThen next)
      bound cursor = some result := by
  induction run generalizing bound cursor with
  | nil =>
      obtain ⟨c, member, _⟩ := letter
      exact absurd member List.not_mem_nil
  | cons c run induction =>
      obtain ⟨bound, rfl⟩ := Nat.exists_eq_add_one_of_ne_zero (Nat.ne_zero_of_lt enough)
      rw [List.forall_mem_cons] at all
      have later : (cursor.pass [c]).rest = run ++ rest := Cursor.pass_rest ahead
      rw [starThen_set_succ bound ahead all.1]
      by_cases more : ∃ d ∈ run, Terminal.isNameLetter d = true
      · rw [induction (Nat.le_of_succ_le_succ enough) later all.2 more success, Option.some_or]
      · -- No later character can be the letter, so the repetition has to give back all of them.
        have noLetter : ∀ d ∈ run, Terminal.isNameLetter d = false := by
          intro d member
          rw [← Bool.not_eq_true]
          intro accepted
          exact more ⟨d, member, accepted⟩
        have isLetter : Terminal.isNameLetter c = true := by
          obtain ⟨d, member, accepted⟩ := letter
          rcases List.mem_cons.mp member with same | other
          · rw [← same]
            exact accepted
          · exact absurd ⟨d, other, accepted⟩ more
        rw [starThen_name_eq_none later all.2 ends noLetter, Option.none_or]
        rw [inOrder_cons (by simp), matchThen, matchThen_set ahead isLetter]
        exact starThen_set_eq_some (by simp [later]) later all.2 ends success

/-- The name of a value takes a whole run of the characters of names. -/
theorem matchThen_name (ahead : cursor.rest = run ++ rest)
    (all : ∀ c ∈ run, Terminal.isNameChar c = true)
    (ends : ∀ c, rest.head? = some c → Terminal.isNameChar c = false)
    (letter : ∃ c ∈ run, Terminal.isNameLetter c = true)
    (success : next (cursor.pass run) = some result) :
    Terminal.name.matchThen next cursor = some result := by
  have enough : run.length ≤ cursor.rest.length := by simp [ahead]
  exact starThen_name enough ahead all ends letter success

end Regex

end PassageMarkup
