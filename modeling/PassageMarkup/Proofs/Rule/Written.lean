import PassageMarkup.Proofs.Regex.Greedy
import PassageMarkup.Proofs.Regex.Starts
import PassageMarkup.Proofs.Rule.Delimiter

/-!
# Written delimiters and variables

What the rules find where a delimiter or a variable is written.  The first character leaves only a
few rules of a mode to try.
-/

namespace PassageMarkup

namespace Pattern

variable {rest : Text}

theorem find?_plain_append {text : Text} (nonempty : text ≠ []) :
    (plain text).find? (text ++ rest) = some ⟨text, none, none, rest⟩ := by
  have separated : text.isPrefixOf? (text ++ rest) = some rest :=
    List.isPrefixOf?_eq_some_iff_append_eq.mpr rfl
  rw [find?, separated]
  simp [nonempty]

theorem find?_ofRegex {r : Regex} {remaining : Text} {cursor : Regex.Cursor}
    (reached : r.matchStart remaining = some cursor) (moved : cursor.passed ≠ 0) :
    (ofRegex r).find? remaining =
      some ⟨remaining.take cursor.passed, cursor.first, cursor.second, cursor.rest⟩ := by
  simp [ofRegex, find?, reached, moved]

theorem find?_enclosed {accepts : Char → Bool} {before run after : Text} (notEmpty : run ≠ [])
    (all : ∀ c ∈ run, accepts c = true)
    (ends : ∀ c, (after ++ rest).head? = some c → accepts c = false) (nonempty : before ≠ []) :
    (ofRegex (.inOrder [.literal before, .group .first (.many1 (.set accepts)),
      .literal after])).find? (before ++ run ++ after ++ rest) =
        some ⟨before ++ run ++ after, some ⟨before.length, before.length + run.length⟩, none,
          rest⟩ := by
  let start := Regex.Cursor.atStart (before ++ run ++ after ++ rest)
  let kept := ((start.pass before).pass run).keep .first before.length
  have ahead : start.rest = before ++ (run ++ (after ++ rest)) := by
    simp [start, Regex.Cursor.atStart]
  have afterBefore : (start.pass before).rest = run ++ (after ++ rest) :=
    Regex.Cursor.pass_rest ahead
  have afterRun : kept.rest = after ++ rest := by
    rw [Regex.Cursor.keep_rest, Regex.Cursor.pass_rest afterBefore]
  have reached : (Regex.inOrder [.literal before, .group .first (.many1 (.set accepts)),
      .literal after]).matchStart (before ++ run ++ after ++ rest) = some (kept.pass after) := by
    have passed : (start.pass before).passed = before.length := by
      simp [start, Regex.Cursor.atStart]
    rw [Regex.inOrder_cons (by simp), Regex.inOrder_cons (by simp), Regex.inOrder,
      Regex.matchStart, Regex.matchThen, Regex.matchThen_literal ahead, Regex.matchThen,
      Regex.matchThen, passed]
    exact Regex.matchThen_many1 notEmpty afterBefore all ends (Regex.matchThen_literal afterRun)
  have passed : (kept.pass after).passed = (before ++ run ++ after).length := by
    simp [kept, start, Regex.Cursor.atStart, Nat.add_assoc]
  have moved : (kept.pass after).passed ≠ 0 := by
    rw [passed]
    simp [nonempty]
  rw [find?_ofRegex reached moved, passed, List.take_left, Regex.Cursor.pass_rest afterRun]
  simp [kept, start, Regex.Cursor.keep, Regex.Cursor.atStart]

end Pattern

/-- A name that a variable or property can have. -/
def IsValueName (name : Text) : Prop :=
  (∀ c ∈ name, Terminal.isNameChar c = true) ∧ ∃ c ∈ name, Terminal.isNameLetter c = true

namespace Rule

variable {rest : Text}

theorem find?_unclosedHook {text : Text} {found : Match}
    (success : unclosedHook.pattern.find? text = some found) :
    text = ['[', '='] ++ found.following ∨
      ∃ name, IsCallName name ∧ text = ['|'] ++ name ++ ['>', '[', '='] ++ found.following := by
  obtain ⟨splits, denotes⟩ := Pattern.find?_denotes success
  rw [splits.remaining_eq]
  generalize found.text = taken at denotes
  cases denotes with
  | seq optional bracket =>
      rw [bracket.of_literal (by decide)]
      cases optional with
      | altRight absent =>
          cases absent
          exact .inl rfl
      | altLeft named =>
          right
          cases named with
          | seq bar others =>
              cases others with
              | @seq _ _ name _ grouped close =>
                  cases grouped with
                  | group inner =>
                      refine ⟨name, inner.of_many1, ?_⟩
                      rw [bar.of_char (by decide), close.of_char (by decide)]
                      simp

theorem finds_hookPrependedFront {name : Text} (called : IsCallName name) :
    hookPrependedFront.pattern.find? (['|'] ++ name ++ ['>', '['] ++ rest) =
      some ⟨['|'] ++ name ++ ['>', '['], some ⟨1, 1 + name.length⟩, none, rest⟩ := by
  apply @Pattern.find?_enclosed _ _ ['|'] _ ['>', '['] called.1 called.2 _ (by simp)
  intro c head
  cases head
  decide

theorem finds_macroFront {name : Text} (called : IsCallName name) :
    macroFront.pattern.find? (['('] ++ name ++ [':'] ++ rest) =
      some ⟨['('] ++ name ++ [':'], some ⟨1, 1 + name.length⟩, none, rest⟩ := by
  apply @Pattern.find?_enclosed _ _ ['('] _ [':'] called.1 called.2 _ (by simp)
  intro c head
  cases head
  decide

theorem finds_hookFront (notEquals : ∀ c, rest.head? = some c → c ≠ '=') :
    hookFront.pattern.find? ('[' :: rest) = some ⟨['['], none, none, rest⟩ := by
  have reached : Terminal.hookFront.matchStart ('[' :: rest) =
      some ((Regex.Cursor.atStart ('[' :: rest)).pass ['[']) :=
    @Regex.matchThen_set _ _ _ _ rest _ rfl (by decide)
  have allowed : Terminal.equals.matchStart rest = none := by
    apply Regex.matchThen_set_of_rejected
    intro c head
    rw [beq_eq_false_iff_ne]
    intro folded
    exact notEquals c head (Regex.eq_of_foldCase_eq (by decide) folded)
  have hookFrontRegex : (Pattern.ofRegex Terminal.hookFront).toRegex = Terminal.hookFront := rfl
  simp [hookFront, Pattern.notFollowedBy, Pattern.find?, hookFrontRegex, reached, allowed,
    Lookahead.allows, Regex.Cursor.pass, Regex.Cursor.atStart]

theorem finds_storyVariable {name : Text} (named : IsValueName name)
    (ends : ∀ c, rest.head? = some c → Terminal.isNameChar c = false) :
    storyVariable.pattern.find? ('$' :: name ++ rest) =
      some ⟨'$' :: name, some ⟨1, 1 + name.length⟩, none, rest⟩ := by
  let start := Regex.Cursor.atStart ('$' :: name ++ rest)
  have afterSign : (start.pass ['$']).rest = name ++ rest := rfl
  have reached : Terminal.storyVariable.matchStart ('$' :: name ++ rest) =
      some (((start.pass ['$']).pass name).keep .first 1) := by
    have sign : ∀ next : Regex.Cursor → Option Regex.Cursor,
        (Regex.char '$').matchThen next start = next (start.pass ['$']) :=
      fun _ => @Regex.matchThen_set _ _ _ _ (name ++ rest) _ rfl (by decide)
    rw [Terminal.storyVariable, Regex.inOrder_cons (by simp), Regex.inOrder, Regex.matchStart,
      Regex.matchThen, sign, Terminal.keptName, Regex.matchThen]
    exact Regex.matchThen_name afterSign named.1 ends named.2 rfl
  have moved : (((start.pass ['$']).pass name).keep .first 1).passed ≠ 0 := by
    simp
  have passed : (((start.pass ['$']).pass name).keep .first 1).passed = ('$' :: name).length := by
    simp [start, Regex.Cursor.atStart, Nat.add_comm]
  rw [storyVariable, Pattern.find?_ofRegex reached moved, passed, List.take_left,
    Regex.Cursor.keep_rest, Regex.Cursor.pass_rest afterSign]
  simp [start, Regex.Cursor.keep, Regex.Cursor.atStart]

/-- The rules of a mode that can find something in a text with a given first character. -/
def live (mode : Mode) (c : Char) : List Rule :=
  (ofMode mode).filter fun rule => rule.pattern.toRegex.starts c

end Rule

end PassageMarkup
