import PassageMarkup.Proofs.Rule.Ending
import PassageMarkup.Proofs.Text.Runs

/-!
# Backticks around what rules take

A rule that is tried where runs of backticks count, or that leads to such a place, never stops in
the middle of a run.  Neither end of a part with markup of its own is in the middle of one.
-/

namespace PassageMarkup

/-- Tells whether runs of backticks are markup in a mode. -/
def Mode.countsRuns : Mode → Bool
  | prose | verbatim => true
  | expression | string => false

namespace Lexeme

theorem endOfFirst_getLast? {r : Regex} {c : Char} {text : Text} {stop : Nat}
    (solid : r.nullable = false) (notLast : r.ends c = false)
    (success : endOfFirst r text = some stop) :
    ∃ d, (text.take stop).getLast? = some d ∧ d ≠ c := by
  have here : ∀ {text : Text} {cursor : Regex.Cursor}, r.matchStart text = some cursor →
      ∃ d, (text.take cursor.passed).getLast? = some d ∧ d ≠ c := by
    intro text cursor reached
    obtain ⟨passed, split, length, denotes⟩ := (Regex.matchStart_matches reached).exists_passed
    rw [split, length, List.take_left]
    exact denotes.exists_getLast? solid notLast
  induction text generalizing stop with
  | nil =>
      rcases endOfFirst_cases success with ⟨cursor, reached, rfl⟩ | ⟨_, d, rest, later, equal, _⟩
      · exact here reached
      · contradiction
  | cons first rest induction =>
      rcases endOfFirst_cases success with
        ⟨cursor, reached, rfl⟩ | ⟨_, d, others, later, equal, found, rfl⟩
      · exact here reached
      · cases equal
        obtain ⟨d, last, differs⟩ := induction found
        refine ⟨d, ?_, differs⟩
        rw [List.take_succ_cons, List.getLast?_cons, last, Option.getD_some]

/-- A script ends with its closing tag or with the text. -/
theorem scriptStyle_clear {found : Match} {remaining : Text} (splits : found.SplitsOff remaining) :
    remaining.Clear (scriptStyle found).length := by
  have solid : (closingTag found.firstText).nullable = false := by
    unfold closingTag
    split <;> rfl
  have notLast : (closingTag found.firstText).ends '\x60' = false := by
    unfold closingTag
    split <;> decide
  rw [splits.remaining_eq, scriptStyle]
  cases ended : endOfFirst (closingTag found.firstText) found.following with
  | none =>
      rw [Option.getD_none, ← List.length_append]
      exact Text.clear_length _
  | some stop =>
      obtain ⟨d, last, differs⟩ := endOfFirst_getLast? solid notLast ended
      let script := found.text ++ found.following.take stop
      have length : script.length = found.text.length + stop := by
        rw [List.length_append, List.length_take_of_le (endOfFirst_le ended)]
      have clear : (script ++ found.following.drop stop).Clear script.length := by
        apply Text.clear_append_of_getLast?
        rw [List.getLast?_append, last]
        simpa using differs
      rw [length, List.append_assoc, List.take_append_drop] at clear
      exact clear

theorem levelled_clear {mark gap rest : Regex} {remaining : Text} {found : Match} {span : Span}
    {width : Nat} (markAvoids : mark.avoids '\x60' = true) (gapAvoids : gap.avoids '\x60' = true)
    (success : (Pattern.ofRegex (.inOrder [.group .first mark, gap, .group .second rest])).find?
      remaining = some found)
    (endsLine : found.EndsLine) (inner : (levelled width found).inner = some span) :
    remaining.Clear span.start ∧ remaining.Clear span.stop := by
  obtain ⟨marked, between, kept, markDenotes, gapDenotes, text, second⟩ :=
    Pattern.find?_secondLast success
  have same := withInner_inner rfl inner
  rw [second, Option.getD_some] at same
  rw [same, (Pattern.find?_splitsOff success).remaining_eq]
  constructor
  · rw [text, List.append_assoc]
    apply Text.clear_append_of_getLast?
    intro last
    rcases List.mem_append.mp (List.mem_of_getLast? last) with inMark | inGap
    · exact markDenotes.not_mem_of_avoids markAvoids inMark
    · exact gapDenotes.not_mem_of_avoids gapAvoids inGap
  · apply Text.clear_append_of_head?
    intro head
    have feed := endsLine _ head
    contradiction

/-- The text of a link begins after an arrow or with the body, and ends before an arrow or with the
body. -/
theorem linkParts_clear (body : Text) :
    body.Clear (linkParts body).2.start ∧ body.Clear (linkParts body).2.stop := by
  unfold linkParts
  split
  · rename_i text passage split
    refine ⟨body.clear_zero, ?_⟩
    rw [Text.splitLast_eq_some split, List.append_assoc]
    exact Text.clear_append_of_head? (by simp)
  · split
    · rename_i passage text split
      have start : (passage ++ ['<', '-']).length = passage.length + 2 := List.length_append
      refine ⟨?_, body.clear_length⟩
      rw [Text.splitFirst_eq_some split]
      simp only [← start]
      exact Text.clear_append_of_getLast? (by simp)
    · exact ⟨body.clear_zero, body.clear_length⟩

theorem link_clear {remaining : Text} {found : Match} {span : Span}
    (success : Rule.link.pattern.find? remaining = some found)
    (inner : (link found).inner = some span) :
    remaining.Clear span.start ∧ remaining.Clear span.stop := by
  obtain ⟨before, body, after, opening, _, closing, text, first⟩ :=
    Pattern.find?_between success rfl
  have splits := Pattern.find?_splitsOff success
  have nonempty := (link_fits splits span inner).1
  have firstText : found.firstText = body := by
    simp only [Match.firstText, first, text, Option.elim]
    exact Text.slice_between before body after
  rw [link_eq] at inner
  have same := withInner_inner rfl inner
  simp only [first, firstText, Option.map_some, Option.getD_some] at same
  rw [same] at nonempty ⊢
  have stops := linkParts_le body
  have opens : before.getLast? ≠ some '\x60' := by
    rw [opening.of_literal (by decide)]
    decide
  have closes : (after ++ found.following).head? ≠ some '\x60' := by
    rw [closing.of_literal (by decide)]
    simp
  rw [splits.remaining_eq, text, List.append_assoc _ after]
  obtain ⟨clearStart, clearStop⟩ := linkParts_clear body
  constructor
  · apply Text.clear_between opens closes _ clearStart
    simp only at nonempty
    omega
  · exact Text.clear_between opens closes stops clearStop

end Lexeme

namespace Rule

variable {mode : Mode} {rule : Rule} {remaining : Text} {found : Match} {span : Span}

theorem eq_verbatimOpener (member : rule ∈ ofMode mode) (opener : rule.kind = .verbatimOpener) :
    rule = verbatimOpener := by
  cases mode <;> fin_cases member
  all_goals first
    | rfl
    | contradiction

theorem verbatimOpener_mem (counts : mode.countsRuns = true) : verbatimOpener ∈ ofMode mode := by
  cases mode
  case prose => simp [ofMode, prose]
  case verbatim => exact List.mem_singleton_self _
  all_goals contradiction

theorem finds_verbatim (rest : Text) :
    ∃ found, verbatimOpener.pattern.find? ('\x60' :: rest) = some found := by
  let next := (Regex.Cursor.atStart ('\x60' :: rest)).pass ['\x60']
  obtain ⟨run, cursor, whole, handed, _⟩ :=
    Regex.matchThen_star_set (fun c => Regex.foldCase c == Regex.foldCase '\x60') next
      (fun place => ⟨place, rfl⟩)
  have reached : Terminal.verbatim.matchStart ('\x60' :: rest) = some cursor := by
    rw [Regex.matchStart, Terminal.verbatim, Regex.many1, Regex.matchThen, Regex.char,
      Regex.matchThen_set rfl (by decide)]
    exact whole
  cases handed
  exact ⟨_, Pattern.find?_ofRegex reached (by simp [next])⟩

theorem countsRuns_of_verbatimOpener (member : rule ∈ ofMode mode)
    (opener : rule.kind = .verbatimOpener) : mode.countsRuns = true := by
  have table : ∀ rule ∈ ofMode mode, rule.kind = .verbatimOpener → mode.countsRuns = true := by
    cases mode <;> decide
  exact table rule member opener

theorem clear_cases (member : rule ∈ ofMode mode)
    (counts : mode.countsRuns = true ∨ rule.front = true ∨ rule.closes ≠ []) :
    rule.lexeme = Lexeme.scriptStyle ∨ rule.kind.isBlock = true ∨
      (rule = url ∨ rule = verbatimOpener) ∨ rule.pattern.toRegex.ends '\x60' = false := by
  cases mode <;> fin_cases member
  all_goals first
    | exact .inl rfl
    | exact .inr (.inl rfl)
    | exact .inr (.inr (.inr (by decide)))
    | exact .inr (.inr (.inl (.inl rfl)))
    | exact .inr (.inr (.inl (.inr rfl)))
    | rcases counts with counts | counts | counts <;> contradiction

theorem find?_following_ne (listed : rule = url ∨ rule = verbatimOpener)
    (success : rule.pattern.find? remaining = some found) :
    found.following.head? ≠ some '\x60' := by
  rcases listed with rfl | rfl
  · exact Pattern.find?_greedy rfl (by decide) success
  · exact Pattern.find?_greedy rfl (by decide) success

/-- What a rule takes does not end in the middle of a run. -/
theorem lexeme_clear (member : rule ∈ ofMode mode)
    (counts : mode.countsRuns = true ∨ rule.front = true ∨ rule.closes ≠ [])
    (success : rule.pattern.find? remaining = some found) :
    remaining.Clear (rule.lexeme found).length := by
  have splits := Pattern.find?_splitsOff success
  have ofScript (script : rule.lexeme = Lexeme.scriptStyle) :
      remaining.Clear (rule.lexeme found).length := by
    rw [script]
    exact Lexeme.scriptStyle_clear splits
  rcases clear_cases member counts with script | others
  · exact ofScript script
  · rcases lexeme_cases member with whole | script
    · rw [(whole found).1, splits.remaining_eq]
      rcases others with isBlock | listed | notLast
      · apply Text.clear_append_of_head?
        intro head
        have feed := (block_found member isBlock success).2 _ head
        contradiction
      · exact Text.clear_append_of_head? (find?_following_ne listed success)
      · exact Text.clear_append_of_getLast? (Pattern.find?_getLast? notLast success)
    · exact ofScript script

theorem inner_clear (member : rule ∈ ofMode mode)
    (success : rule.pattern.find? remaining = some found)
    (inner : (rule.lexeme found).inner = some span) :
    remaining.Clear span.start ∧ remaining.Clear span.stop := by
  rcases inner_eq_none_or member with unmarked | special
  · rw [unmarked found] at inner
    contradiction
  · have endsLine (isBlock : rule.kind.isBlock = true) : found.EndsLine :=
      (block_found member isBlock success).2
    fin_cases special
    · exact Lexeme.levelled_clear (by decide) (by decide) success (endsLine rfl) inner
    · exact Lexeme.levelled_clear (by decide) (by decide) success (endsLine rfl) inner
    · exact Lexeme.levelled_clear (by decide) (by decide) success (endsLine rfl) inner
    · exact Lexeme.link_clear success inner

end Rule

end PassageMarkup
