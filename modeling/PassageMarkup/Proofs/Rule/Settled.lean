import PassageMarkup.Proofs.Regex.Longer
import PassageMarkup.Proofs.Rule.Written

/-!
# Rules in longer texts

A text that ends with the back of a pair can go on without changing what the rules take before its
end: no pattern both ends there and asks what follows, and a script ends with its first closing tag.
-/

namespace PassageMarkup

namespace Pattern

variable {pattern : Pattern} {r : Regex} {lookahead : Option Lookahead} {text suffix : Text}
  {found : Match}

theorem find?_regex_iff :
    (regex r lookahead).find? text = some found ↔
      ∃ cursor, r.matchStart text = some cursor ∧ cursor.passed ≠ 0 ∧
        lookahead.all (·.allows cursor.rest) = true ∧
        found = ⟨text.take cursor.passed, cursor.first, cursor.second, cursor.rest⟩ := by
  constructor
  · intro success
    simp only [find?] at success
    split at success
    · contradiction
    · rename_i cursor reached
      split at success
      · contradiction
      · rename_i allowed
        simp only [Bool.or_eq_true, decide_eq_true_eq, Bool.not_eq_true', not_or,
          Bool.not_eq_false] at allowed
        exact ⟨cursor, reached, allowed.1, allowed.2, (Option.some.inj success).symm⟩
  · rintro ⟨cursor, reached, moved, allowed, rfl⟩
    simp [find?, reached, moved, allowed]

/-- The end of a text does not matter to a pattern.  A pattern with a condition on what follows does
not get to the end and asks about one character only. -/
inductive Settled (text : Text) : Pattern → Prop where
  | plain (written : Text) : Settled text (plain written)
  | ofRegex {r : Regex} : r.Settled text → Settled text (.ofRegex r)
  | lookahead {written : Text} {accepts : Char → Bool} {negated : Bool} :
      ¬(Regex.literal written).Denotes text →
      Settled text (.regex (.literal written) (some ⟨.set accepts, negated⟩))

theorem Settled.lookahead_append {accepts : Char → Bool} {negated : Bool} (nonempty : text ≠ []) :
    (Lookahead.mk (.set accepts) negated).allows (text ++ suffix) =
      (Lookahead.mk (.set accepts) negated).allows text := by
  cases text with
  | nil => contradiction
  | cons c rest =>
      simp only [Lookahead.allows, Regex.matchStart, Regex.matchThen, Regex.setThen,
        Regex.Cursor.atStart, List.cons_append]
      split <;> rfl

private theorem rest_ne_nil {cursor : Regex.Cursor} (short : ¬r.Denotes text)
    (reached : r.matchStart text = some cursor) : cursor.rest ≠ [] := by
  obtain ⟨passed, split, _, denotes⟩ := (Regex.matchStart_matches reached).exists_passed
  intro ended
  rw [split, ended, List.append_nil] at short
  exact short denotes

theorem Settled.isSome_append (settled : pattern.Settled text)
    (success : pattern.find? text = some found) (suffix : Text) :
    (pattern.find? (text ++ suffix)).isSome = true := by
  rw [Option.isSome_iff_exists]
  cases settled with
  | plain written =>
      obtain ⟨splits, same⟩ := find?_plain success
      have nonempty := splits.nonempty
      rw [same] at nonempty
      rw [splits.remaining_eq, same, List.append_assoc]
      exact ⟨_, find?_plain_append nonempty⟩
  | ofRegex settled =>
      obtain ⟨cursor, reached, moved, _, _⟩ := find?_regex_iff.mp success
      obtain ⟨later, longer, same⟩ := settled.exists_matchStart_append reached suffix
      refine ⟨_, find?_regex_iff.mpr ⟨later, longer, ?_, rfl, rfl⟩⟩
      intro stays
      have extended := same (by omega)
      rw [extended] at stays
      exact moved stays
  | lookahead short =>
      obtain ⟨cursor, reached, moved, allowed, _⟩ := find?_regex_iff.mp success
      obtain ⟨later, longer, same⟩ :=
        Regex.Settled.exists_matchStart_append (.inr short) reached suffix
      obtain ⟨passed, split, length, denotes⟩ := (Regex.matchStart_matches reached).exists_passed
      obtain ⟨more, _, lengthToo, denotesToo⟩ := (Regex.matchStart_matches longer).exists_passed
      have sameLength : later.passed = passed.length := by
        rw [lengthToo, denotesToo.length_of_literal, denotes.length_of_literal]
      have extended : later = cursor.extend suffix := by
        apply same
        rw [sameLength, split, List.length_append]
        exact Nat.le_add_right _ _
      refine ⟨_, find?_regex_iff.mpr ⟨later, longer, ?_, ?_, rfl⟩⟩
      · rw [extended]
        exact moved
      · rw [extended]
        exact (lookahead_append (rest_ne_nil short reached)).trans allowed

private theorem matchStart_of_find?_append (settled : r.Settled text)
    (success : (regex r lookahead).find? (text ++ suffix) = some found)
    (within : found.text.length ≤ text.length) :
    ∃ cursor, r.matchStart text = some cursor ∧ cursor.passed ≠ 0 ∧
      lookahead.all (·.allows (cursor.rest ++ suffix)) = true ∧
      found = ⟨text.take cursor.passed, cursor.first, cursor.second, cursor.rest ++ suffix⟩ := by
  obtain ⟨later, longer, moved, allowed, rfl⟩ := find?_regex_iff.mp success
  obtain ⟨passed, split, length, _⟩ := (Regex.matchStart_matches longer).exists_passed
  have total := congrArg List.length split
  simp only [List.length_append] at total
  simp only [List.length_take, List.length_append] at within
  have before : later.passed ≤ text.length := by omega
  obtain ⟨cursor, reached, rfl⟩ := settled.matchStart_of_append longer before
  refine ⟨cursor, reached, moved, allowed, ?_⟩
  rw [List.take_append_of_le_length before]
  rfl

theorem Settled.find?_of_append (settled : pattern.Settled text)
    (success : pattern.find? (text ++ suffix) = some found)
    (within : found.text.length ≤ text.length) :
    ∃ following, found.following = following ++ suffix ∧
      pattern.find? text = some { found with following } := by
  cases settled with
  | plain written =>
      obtain ⟨splits, same⟩ := find?_plain success
      have nonempty := splits.nonempty
      rw [same] at nonempty within
      have begins : written <+: text ++ suffix := by
        rw [splits.remaining_eq, same]
        exact List.prefix_append written found.following
      obtain ⟨following, rfl⟩ := List.prefix_of_prefix_length_le begins
        (List.prefix_append text suffix) within
      rw [List.append_assoc, find?_plain_append nonempty] at success
      cases success
      exact ⟨following, rfl, find?_plain_append nonempty⟩
  | ofRegex settled =>
      obtain ⟨cursor, reached, moved, _, rfl⟩ := matchStart_of_find?_append settled success within
      exact ⟨cursor.rest, rfl, find?_regex_iff.mpr ⟨cursor, reached, moved, rfl, rfl⟩⟩
  | lookahead short =>
      obtain ⟨cursor, reached, moved, allowed, rfl⟩ :=
        matchStart_of_find?_append (.inr short) success within
      refine ⟨cursor.rest, rfl, find?_regex_iff.mpr ⟨cursor, reached, moved, ?_, rfl⟩⟩
      exact (lookahead_append (rest_ne_nil short reached)).symm.trans allowed

end Pattern

/-- A text ends with the back of a pair. -/
def EndsWithBack (text : Text) : Prop :=
  ∃ back front pair arity name written,
    Closes back front pair arity name written ∧ written <:+ text

/-- The characters with which a back can end. -/
def backEnds : List Char :=
  ['\x60', ']', '|', '\x7d', '\'', '/', '*', '~', '^', '_', ')', '"']

theorem Closes.getLast?_mem {back front pair : Kind} {arity : Nat} {name : Option Text}
    {text : Text} (closes : Closes back front pair arity name text) :
    ∃ c ∈ backEnds, text.getLast? = some c := by
  cases closes with
  | verbatim length => exact ⟨'\x60', by simp [backEnds], by simp [List.getLast?_replicate]⟩
  | hookNamed called => exact ⟨'|', by simp [backEnds], List.getLast?_concat ..⟩
  | emphasis emphasis => cases emphasis <;> exact ⟨_, by decide, rfl⟩
  | string quote => cases quote <;> exact ⟨_, by decide, rfl⟩
  | _ => exact ⟨_, by decide, rfl⟩

/-- Tells whether a character can be part of the bar of a column. -/
def isBarChar (c : Char) : Bool :=
  Terminal.isLineBlank c || c == '|' || c == '='

theorem Closes.exists_not_isBarChar {back front pair : Kind} {arity : Nat} {name : Option Text}
    {text : Text} (closes : Closes back front pair arity name text) :
    ∃ c ∈ text, isBarChar c = false := by
  cases closes with
  | verbatim length => exact ⟨'\x60', by simp, by decide⟩
  | hookNamed called => exact ⟨']', by simp, by decide⟩
  | emphasis emphasis => cases emphasis <;> exact ⟨_, List.mem_cons_self, by decide⟩
  | string quote => cases quote <;> exact ⟨_, List.mem_cons_self, by decide⟩
  | _ => exact ⟨_, List.mem_cons_self, by decide⟩

namespace EndsWithBack

variable {text : Text}

theorem append (ends : EndsWithBack text) (before : Text) : EndsWithBack (before ++ text) := by
  obtain ⟨back, front, pair, arity, name, written, closes, last⟩ := ends
  exact ⟨back, front, pair, arity, name, written, closes,
    last.trans (List.suffix_append before text)⟩

theorem getLast?_mem (ends : EndsWithBack text) : ∃ c ∈ backEnds, text.getLast? = some c := by
  obtain ⟨back, front, pair, arity, name, written, closes, before, rfl⟩ := ends
  obtain ⟨c, member, last⟩ := closes.getLast?_mem
  exact ⟨c, member, by simp [List.getLast?_append, last]⟩

theorem ne_nil (ends : EndsWithBack text) : text ≠ [] := by
  obtain ⟨c, _, last⟩ := ends.getLast?_mem
  intro empty
  rw [empty] at last
  contradiction

theorem not_denotes_of_ends (ends : EndsWithBack text) {r : Regex}
    (others : backEnds.all (fun c => !r.ends c) = true) : ¬r.Denotes text := by
  intro denotes
  obtain ⟨c, member, last⟩ := ends.getLast?_mem
  have cannot := List.all_eq_true.mp others c member
  rw [denotes.ends_of_getLast? last] at cannot
  contradiction

end EndsWithBack

namespace Rule

variable {mode : Mode} {rule : Rule} {text : Text}

theorem settled_cases (member : rule ∈ ofMode mode) :
    (∃ written, rule.pattern = .plain written) ∨
      (∃ r, rule.pattern = .ofRegex r ∧
        (r.assertionFree = true ∨ backEnds.all (fun c => !r.ends c) = true)) ∨
      rule ∈ [column, hookFront, possessiveOperator] := by
  cases mode <;> fin_cases member
  all_goals first
    | exact .inl ⟨_, rfl⟩
    | exact .inr (.inl ⟨_, rfl, .inl rfl⟩)
    | exact .inr (.inl ⟨_, rfl, .inr rfl⟩)
    | exact .inr (.inr (by simp))

theorem column_over : Terminal.column.Over isBarChar := by
  have bar : ∀ c, Regex.sameAs '|' c = true → isBarChar c = true := by
    intro c same
    rw [Regex.eq_of_sameAs (by decide) same]
    decide
  have equals : ∀ c, Regex.sameAs '=' c = true → isBarChar c = true := by
    intro c same
    rw [Regex.eq_of_sameAs (by decide) same]
    decide
  have blank : ∀ c, Terminal.isLineBlank c = true → isBarChar c = true := by
    intro c blank
    simp [isBarChar, blank]
  exact ⟨blank, ⟨⟨⟨bar, bar⟩, ⟨equals, equals⟩, bar⟩, ⟨equals, equals⟩, bar, bar⟩, blank, trivial⟩

theorem arity_of_back (member : rule ∈ ofMode mode) (notFront : rule.front = false)
    (closes : rule.closes ≠ []) (found : Match) : (rule.lexeme found).arity = 0 := by
  rcases back_cases member closes with listed | ⟨emphasis, rfl⟩ | ⟨quote, rfl⟩
  · fin_cases listed
    · contradiction
    all_goals rfl
  · contradiction
  · rfl

/-- A rule finds the same things in a text that ends with a back as when the text goes on there. -/
theorem pattern_settled (member : rule ∈ ofMode mode) (ends : EndsWithBack text) :
    rule.pattern.Settled text := by
  rcases settled_cases member with ⟨written, plain⟩ | ⟨r, regex, settled⟩ | special
  · rw [plain]
    exact .plain written
  · rw [regex]
    exact .ofRegex (settled.imp_right ends.not_denotes_of_ends)
  · fin_cases special
    · -- The back of a named hook ends with a bar, but it has a bracket too.
      apply Pattern.Settled.ofRegex
      right
      intro denotes
      obtain ⟨back, front, pair, arity, name, written, closes, last⟩ := ends
      obtain ⟨c, inside, other⟩ := closes.exists_not_isBarChar
      have bar := denotes.all_of_over column_over c (last.subset inside)
      rw [bar] at other
      contradiction
    · exact @Pattern.Settled.lookahead _ ['['] _ _ (ends.not_denotes_of_ends rfl)
    · exact @Pattern.Settled.lookahead _ ['\'', 's'] _ _ (ends.not_denotes_of_ends rfl)

end Rule

namespace Lexeme

theorem endOfFirst_cases {r : Regex} {text : Text} {stop : Nat}
    (success : endOfFirst r text = some stop) :
    (∃ cursor, r.matchStart text = some cursor ∧ stop = cursor.passed) ∨
      r.matchStart text = none ∧
        ∃ c rest later, text = c :: rest ∧ endOfFirst r rest = some later ∧ stop = later + 1 := by
  cases reached : r.matchStart text with
  | some cursor =>
      rw [endOfFirst.eq_def, reached] at success
      exact .inl ⟨cursor, rfl, (Option.some.inj success).symm⟩
  | none =>
      rw [endOfFirst.eq_def, reached] at success
      cases text with
      | nil => contradiction
      | cons c rest =>
          obtain ⟨later, found, same⟩ := Option.map_eq_some_iff.mp success
          exact .inr ⟨rfl, c, rest, later, rfl, found, same.symm⟩

theorem endOfFirst_le {r : Regex} {text : Text} {stop : Nat}
    (success : endOfFirst r text = some stop) : stop ≤ text.length := by
  induction text generalizing stop with
  | nil =>
      rcases endOfFirst_cases success with ⟨cursor, reached, rfl⟩ | ⟨_, c, rest, later, equal, _⟩
      · exact (Regex.matchStart_matches reached).passed_le_length
      · contradiction
  | cons c rest induction =>
      rcases endOfFirst_cases success with
        ⟨cursor, reached, rfl⟩ | ⟨_, d, others, later, equal, found, rfl⟩
      · exact (Regex.matchStart_matches reached).passed_le_length
      · cases equal
        exact Nat.succ_le_succ (induction found)

theorem endOfFirst_of_append {r : Regex} (free : r.assertionFree = true) {text suffix : Text}
    {stop : Nat} (success : endOfFirst r (text ++ suffix) = some stop)
    (within : stop ≤ text.length) : endOfFirst r text = some stop := by
  have here : ∀ {text : Text} {cursor : Regex.Cursor},
      r.matchStart (text ++ suffix) = some cursor → cursor.passed ≤ text.length →
      endOfFirst r text = some cursor.passed := by
    intro text cursor longer before
    obtain ⟨same, reached, rfl⟩ := Regex.Settled.matchStart_of_append (.inl free) longer before
    rw [endOfFirst.eq_def, reached]
    rfl
  induction text generalizing stop with
  | nil =>
      rcases endOfFirst_cases success with
        ⟨cursor, longer, rfl⟩ | ⟨_, c, rest, later, _, _, rfl⟩
      · exact here longer within
      · contradiction
  | cons c rest induction =>
      rcases endOfFirst_cases success with
        ⟨cursor, longer, rfl⟩ | ⟨longer, d, others, later, equal, found, rfl⟩
      · exact here longer within
      · cases equal
        have nothing : r.matchStart (c :: rest) = none := by
          cases reached : r.matchStart (c :: rest) with
          | none => rfl
          | some cursor =>
              obtain ⟨later, more, _⟩ :=
                Regex.Settled.exists_matchStart_append (.inl free) reached suffix
              exact absurd (longer.symm.trans more) (by simp)
        rw [endOfFirst.eq_def, nothing]
        simp only [induction found (Nat.le_of_succ_le_succ within), Option.map_some]

theorem withInner_length (lexeme : Lexeme) (inner : Span) :
    (lexeme.withInner inner).length = lexeme.length := by
  unfold withInner
  split <;> rfl

theorem scriptStyle_of_append {found : Match} {following suffix : Text}
    (longer : found.following = following ++ suffix)
    (within : (scriptStyle found).length ≤ found.text.length + following.length) :
    scriptStyle { found with following } = scriptStyle found := by
  have free : (closingTag found.firstText).assertionFree = true := by
    unfold closingTag
    split <;> rfl
  have name : Match.firstText { found with following } = found.firstText := rfl
  unfold scriptStyle at within ⊢
  simp only [name, longer] at within ⊢
  cases ended : endOfFirst (closingTag found.firstText) (following ++ suffix) with
  | some stop =>
      rw [ended, Option.getD_some] at within
      rw [endOfFirst_of_append free ended (by omega), Option.getD_some, Option.getD_some]
  | none =>
      rw [ended, Option.getD_none, List.length_append] at within
      have nothing : suffix = [] := List.length_eq_zero_iff.mp (by omega)
      rw [nothing, List.append_nil] at ended ⊢
      rw [ended]

end Lexeme

namespace Rule

variable {mode : Mode} {rule : Rule} {text suffix : Text} {found : Match}

theorem lexeme_cases (member : rule ∈ ofMode mode) :
    (∀ found, (rule.lexeme found).length = found.text.length ∧
        ∀ following, rule.lexeme { found with following } = rule.lexeme found) ∨
      rule.lexeme = Lexeme.scriptStyle := by
  cases mode <;> fin_cases member
  all_goals first
    | exact .inr rfl
    | exact .inl fun _ => ⟨rfl, fun _ => rfl⟩
    | exact .inl fun _ => ⟨Lexeme.withInner_length _ _, fun _ => rfl⟩

theorem find?_eq_none_of_append (member : rule ∈ ofMode mode) (ends : EndsWithBack text)
    (nothing : rule.pattern.find? (text ++ suffix) = none) : rule.pattern.find? text = none := by
  cases success : rule.pattern.find? text with
  | none => rfl
  | some found =>
      have more := (pattern_settled member ends).isSome_append success suffix
      rw [nothing] at more
      contradiction

theorem lexeme_length (member : rule ∈ ofMode mode)
    (success : rule.pattern.find? text = some found) :
    found.text.length ≤ (rule.lexeme found).length ∧ (rule.lexeme found).length ≤ text.length := by
  have total := congrArg List.length (Pattern.find?_splitsOff success).remaining_eq
  rw [List.length_append] at total
  rcases lexeme_cases member with whole | script
  · rw [(whole found).1]
    omega
  · rw [script]
    simp only [Lexeme.scriptStyle]
    cases ended : Lexeme.endOfFirst (Lexeme.closingTag found.firstText) found.following with
    | some stop =>
        have bounded := Lexeme.endOfFirst_le ended
        rw [Option.getD_some]
        omega
    | none =>
        rw [Option.getD_none]
        omega

/-- What a rule takes, if it ends with a back or before it, the rule also takes when the text goes
on after the back. -/
theorem find?_of_append (member : rule ∈ ofMode mode) (ends : EndsWithBack text)
    (success : rule.pattern.find? (text ++ suffix) = some found)
    (within : (rule.lexeme found).length ≤ text.length) :
    ∃ same, rule.pattern.find? text = some same ∧ rule.lexeme same = rule.lexeme found := by
  have inside := (lexeme_length member success).1
  obtain ⟨following, longer, reached⟩ :=
    (pattern_settled member ends).find?_of_append success (Nat.le_trans inside within)
  refine ⟨_, reached, ?_⟩
  rcases lexeme_cases member with whole | script
  · exact (whole found).2 following
  · have length := congrArg List.length (Pattern.find?_splitsOff reached).remaining_eq
    simp only [List.length_append] at length
    rw [script] at within ⊢
    exact Lexeme.scriptStyle_of_append longer (by omega)

end Rule

end PassageMarkup
