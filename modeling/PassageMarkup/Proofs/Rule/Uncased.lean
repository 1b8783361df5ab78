import Mathlib.Tactic.FinCases
import PassageMarkup.Proofs.Pattern
import PassageMarkup.Proofs.Regex.Denotes
import PassageMarkup.Proofs.Regex.Uncased
import PassageMarkup.Proofs.Rule.Lexeme
import PassageMarkup.Proofs.Token.Uncased
import PassageMarkup.Rule.Table

/-!
# Rules without case

No rule tells capital letters from small ones: every pattern finds the same in a text without case,
and what is taken from a match differs at most in the case of names, messages and passages.
-/

namespace PassageMarkup

namespace Decimal

variable {whole fraction : Text} (wholeDigits : ∀ c ∈ whole, c.isDigit = true)
include wholeDigits

theorem read_whole_exponent (exponent : Text) :
    read (whole ++ 'E' :: exponent) = read (whole ++ 'e' :: exponent) := by
  unfold read
  simp only [List.takeWhile_append_of_pos wholeDigits, List.dropWhile_append_of_pos wholeDigits]
  rfl

theorem read_fraction_exponent (fractionDigits : ∀ c ∈ fraction, c.isDigit = true)
    (exponent : Text) :
    read (whole ++ '.' :: (fraction ++ 'E' :: exponent)) =
      read (whole ++ '.' :: (fraction ++ 'e' :: exponent)) := by
  have point : ∀ rest : Text, ('.' :: rest).dropWhile Char.isDigit = '.' :: rest := fun _ => rfl
  unfold read
  simp only [List.dropWhile_append_of_pos wholeDigits, List.takeWhile_append_of_pos wholeDigits,
    point, List.takeWhile_append_of_pos fractionDigits,
    List.dropWhile_append_of_pos fractionDigits]
  rfl

end Decimal

namespace Text

theorem uncased_digits {digits : Text} (all : ∀ c ∈ digits, c.isDigit = true) :
    digits.uncased = digits :=
  uncased_of_all (by decide) all

theorem uncased_pointed {digits : Text} (all : ∀ c ∈ digits, c.isDigit = true) :
    uncased ('.' :: digits) = '.' :: digits := by
  rw [uncased_cons, uncased_digits all]
  rfl

end Text

namespace Regex

theorem eq_of_foldCase_e {c : Char} (folded : foldCase c = foldCase 'e') : c = 'e' ∨ c = 'E' := by
  have capital : (capitals.all fun c => c.toLower != 'e' || c == 'E') = true := by decide
  have same : foldCase c = 'e' := folded
  unfold foldCase at same
  split at same
  · exact absurd same (by decide)
  · split at same
    · exact absurd same (by decide)
    · rcases toLower_eq_or_mem_capitals c with small | member
      · exact .inl (small.symm.trans same)
      · right
        simpa [same] using List.all_eq_true.mp capital c member

theorem uncased_sign {c : Char} (listed : "+-".toList.contains c = true) :
    Text.uncased [c] = [c] :=
  congrArg (· :: []) (toLower_eq_self (by decide) listed)

theorem Denotes.of_pointed {text : Text}
    (denotes : Denotes (.seq (char '.') (many1 Terminal.digit)) text) :
    ∃ digits, text = '.' :: digits ∧ ∀ c ∈ digits, c.isDigit = true := by
  cases denotes with
  | seq point digits =>
      rw [point.of_char (by decide)]
      exact ⟨_, rfl, digits.of_many1.2⟩

theorem Denotes.of_fraction {text : Text}
    (denotes : Denotes (opt (.seq (char '.') (many1 Terminal.digit))) text) :
    text = [] ∨ ∃ digits, text = '.' :: digits ∧ ∀ c ∈ digits, c.isDigit = true := by
  cases denotes with
  | altLeft pointed => exact .inr pointed.of_pointed
  | altRight none =>
      cases none
      exact .inl rfl

theorem Denotes.number_parts {text : Text} (denotes : Terminal.number.Denotes text) :
    ∃ whole fraction exponent : Text, text = whole ++ (fraction ++ exponent) ∧
      (∀ c ∈ whole, c.isDigit = true) ∧
      (fraction = [] ∨ ∃ digits, fraction = '.' :: digits ∧ ∀ c ∈ digits, c.isDigit = true) ∧
      (exponent = [] ∨ ∃ (mark : Char) (rest : Text), exponent = mark :: rest ∧
        (mark = 'e' ∨ mark = 'E') ∧ rest.uncased = rest) := by
  cases denotes with
  | @seq _ _ whole _ first others =>
      cases others with
      | @seq _ _ fraction exponent second third =>
          refine ⟨whole, fraction, exponent, rfl, first.of_many1.2, ?_, ?_⟩
          · exact second.of_fraction
          · cases third with
            | altLeft marked =>
                right
                cases marked with
                | @seq _ _ _ rest mark others =>
                    obtain ⟨c, rfl, folded⟩ := mark.of_set
                    refine ⟨c, rest, rfl, eq_of_foldCase_e (by simpa using folded), ?_⟩
                    cases others with
                    | @seq _ _ sign digits signed third =>
                        rw [Text.uncased_append, Text.uncased_digits third.of_many1.2]
                        cases signed with
                        | altLeft one =>
                            obtain ⟨c, rfl, listed⟩ := one.of_set
                            rw [uncased_sign listed]
                        | altRight none =>
                            cases none
                            rfl
            | altRight none =>
                cases none
                exact .inl rfl

theorem uncased_amount {remaining : Text} {found : Match}
    (success : (Pattern.ofRegex Terminal.cssTime).find? remaining = some found) :
    found.firstText.uncased = found.firstText := by
  obtain ⟨amount, _, denotes, _, _, first, _⟩ := Pattern.find?_firstSecond success rfl
  rw [first]
  cases denotes with
  | altLeft numeral =>
      cases numeral with
      | seq whole fraction =>
          rw [Text.uncased_append, Text.uncased_digits whole.of_many1.2]
          rcases fraction.of_fraction with rfl | ⟨digits, rfl, all⟩
          · rfl
          · rw [Text.uncased_pointed all]
  | altRight pointed =>
      obtain ⟨digits, rfl, all⟩ := Denotes.of_pointed pointed
      exact Text.uncased_pointed all

end Regex

theorem Decimal.read_uncased {text : Text} (denotes : Terminal.number.Denotes text) :
    read text.uncased = read text := by
  obtain ⟨whole, fraction, exponent, rfl, digits, pointed, marked⟩ := denotes.number_parts
  have fractionSame : fraction.uncased = fraction := by
    rcases pointed with rfl | ⟨digits, rfl, all⟩
    · rfl
    · exact Text.uncased_pointed all
  rw [Text.uncased_append, Text.uncased_append, Text.uncased_digits digits, fractionSame]
  rcases marked with rfl | ⟨mark, rest, rfl, letter, restSame⟩
  · rfl
  · rw [Text.uncased_cons, restSame]
    rcases letter with rfl | rfl
    · rfl
    · rcases pointed with rfl | ⟨digits', rfl, all⟩
      · exact (read_whole_exponent digits rest).symm
      · exact (read_fraction_exponent digits all rest).symm

/-- The same lexeme without case. -/
def Lexeme.uncased (lexeme : Lexeme) : Lexeme :=
  { lexeme with fields := lexeme.fields.uncased, fault := lexeme.fault.map Fault.uncased }

namespace Lexeme

theorem eq_of_uncased_eq {lexeme changed : Lexeme} (same : changed.uncased = lexeme.uncased) :
    changed.length = lexeme.length ∧ changed.inner = lexeme.inner ∧
      changed.arity = lexeme.arity ∧ changed.fields.uncased = lexeme.fields.uncased ∧
      changed.fault.map Fault.uncased = lexeme.fault.map Fault.uncased := by
  simpa [uncased] using same

/-- What is taken from a match differs at most in case when the match loses its case. -/
def CaseBlind (take : Match → Lexeme) : Prop :=
  ∀ found, (take found.uncased).uncased = (take found).uncased

theorem uncased_withFields {fields fieldsToo : Fields} (same : fieldsToo.uncased = fields.uncased)
    (found : Match) :
    (withFields fieldsToo found.uncased).uncased = (withFields fields found).uncased := by
  have length : found.uncased.text.length = found.text.length := Text.length_uncased _
  simp only [withFields, uncased, same, length]

theorem uncased_withInner (lexeme : Lexeme) (inner : Span) :
    (lexeme.withInner inner).uncased = lexeme.uncased.withInner inner := by
  unfold withInner
  split <;> rfl

theorem whole_caseBlind : CaseBlind whole :=
  uncased_withFields rfl

theorem named_caseBlind : CaseBlind named := by
  intro found
  apply uncased_withFields
  simp [Fields.uncased, Match.firstText_uncased]

theorem lowerNamed_caseBlind : CaseBlind lowerNamed := by
  intro found
  apply uncased_withFields
  simp [Match.uncased, Text.lowerCase_uncased]

theorem operator_caseBlind (spelling : String) : CaseBlind (operator spelling) :=
  uncased_withFields rfl

theorem lowerOperator_caseBlind : CaseBlind lowerOperator := by
  intro found
  apply uncased_withFields
  simp [Match.uncased, Text.lowerCase_uncased]

theorem levelled_caseBlind (width : Nat) : CaseBlind (levelled width) := by
  intro found
  rw [levelled, levelled, uncased_withInner, uncased_withInner]
  congr 1
  apply uncased_withFields
  simp [Match.firstText_uncased]

theorem alignOf_uncased (arrow : Text) : alignOf arrow.uncased = alignOf arrow := by
  have tip : ∀ (mark : Char) (c : Option Char), mark.isAlpha = false →
      (c.map Char.toLower == some mark) = (c == some mark) := by
    intro mark c noLetter
    cases c with
    | none => rfl
    | some c =>
        have same : (mark == c.toLower) = (mark == c) := beq_ignoresCase noLetter c
        simp only [Option.map_some, Option.some_beq_some]
        rw [BEq.comm, same, BEq.comm]
  have head : arrow.uncased.head? = arrow.head?.map Char.toLower := List.head?_map
  have last : arrow.uncased.getLast? = arrow.getLast?.map Char.toLower := List.getLast?_map
  have middle : (Text.splitFirst ['>', '<'] arrow.uncased).isSome =
      (Text.splitFirst ['>', '<'] arrow).isSome := by
    rw [Text.splitFirst_uncased (by decide), Option.isSome_map]
  rw [alignOf, alignOf, head, last, middle, tip '<' _ (by decide), tip '>' _ (by decide)]

theorem align_caseBlind : CaseBlind align := by
  intro found
  apply uncased_withFields
  simp [Match.firstText_uncased, alignOf_uncased]

theorem column_caseBlind : CaseBlind column := by
  intro found
  have bar : IgnoresCase (· == '|') := .of_capitals (by decide)
  apply uncased_withFields
  simp only [Match.firstText_uncased, ← Text.uncased_reverse, ← Text.uncased_takeWhile bar,
    Text.length_uncased]

theorem endOfFirst_uncased {regex : Regex} (ignores : regex.ignoresCase = true) (text : Text) :
    endOfFirst regex text.uncased = endOfFirst regex text := by
  induction text with
  | nil => rfl
  | cons c rest induction =>
      unfold endOfFirst
      rw [Regex.matchStart_uncased ignores]
      cases regex.matchStart (c :: rest) with
      | some cursor => rfl
      | none => exact congrArg (Option.map (· + 1)) induction

theorem closingTag_uncased (name : Text) : closingTag name.uncased = closingTag name := by
  rw [closingTag, closingTag, Text.lowerCase_uncased]

theorem closingTag_ignoresCase (name : Text) : (closingTag name).ignoresCase = true := by
  unfold closingTag
  split <;> decide +kernel

theorem scriptStyle_caseBlind : CaseBlind scriptStyle := by
  intro found
  have following : found.uncased.following = found.following.uncased := rfl
  have text : found.uncased.text = found.text.uncased := rfl
  simp only [scriptStyle, Match.firstText_uncased, closingTag_uncased, following, text,
    endOfFirst_uncased (closingTag_ignoresCase _), Text.length_uncased]

theorem faulty_caseBlind {fault : Text → Fault}
    (same : ∀ text : Text, fault text.uncased = (fault text).uncased) :
    CaseBlind (faulty fault) := by
  intro found
  have text : fault found.uncased.text = (fault found.text).uncased := same found.text
  have length : found.uncased.text.length = found.text.length := Text.length_uncased _
  simp only [faulty, withFields, uncased, Fields.uncased, Option.map_some, text, length,
    Fault.uncased_message, Fault.uncased_uncased]

theorem run_caseBlind : CaseBlind run := by
  intro found
  have length : found.uncased.text.length = found.text.length := Text.length_uncased _
  simp only [run, whole, withFields, uncased, length]

theorem linkParts_uncased (body : Text) :
    linkParts body.uncased = ((linkParts body).1.uncased, (linkParts body).2) := by
  rw [linkParts, linkParts, Text.splitLast_uncased (by decide), Text.splitFirst_uncased (by decide)]
  cases Text.splitLast ['-', '>'] body with
  | some parts => simp
  | none => cases Text.splitFirst ['<', '-'] body <;> simp

theorem link_caseBlind : CaseBlind link := by
  intro found
  have first : found.uncased.first = found.first := rfl
  rw [link_eq, link_eq, uncased_withInner, uncased_withInner, Match.firstText_uncased,
    linkParts_uncased, first]
  congr 1
  apply uncased_withFields
  simp [Fields.uncased]

theorem colour_caseBlind : CaseBlind colour := by
  intro found
  have text : found.uncased.text = found.text.uncased := rfl
  apply uncased_withFields
  rw [text, Colour.resolve, Colour.resolve, Text.lowerCase_uncased]

/-- The amount of a time is read from digits alone. -/
theorem uncased_cssTime {found : Match} (amount : found.firstText.uncased = found.firstText) :
    (cssTime found.uncased).uncased = (cssTime found).uncased := by
  apply uncased_withFields
  rw [Match.firstText_uncased, Match.secondText_uncased, amount, Text.lowerCase_uncased]

theorem uncased_number {found : Match} (denotes : Terminal.number.Denotes found.text) :
    (number found.uncased).uncased = (number found).uncased := by
  have text : found.uncased.text = found.text.uncased := rfl
  apply uncased_withFields
  rw [text, Decimal.read_uncased denotes]

end Lexeme

namespace Rule

variable {mode : Mode} {rule : Rule}

theorem pattern_ignoresCase (member : rule ∈ ofMode mode) : rule.pattern.ignoresCase = true := by
  have table : (ofMode mode).all (·.pattern.ignoresCase) = true := by
    cases mode <;> decide +kernel
  exact List.all_eq_true.mp table rule member

theorem lexeme_caseBlind_or (member : rule ∈ ofMode mode) :
    Lexeme.CaseBlind rule.lexeme ∨
      rule.pattern = .ofRegex Terminal.cssTime ∧ rule.lexeme = Lexeme.cssTime ∨
      rule.pattern = .ofRegex Terminal.number ∧ rule.lexeme = Lexeme.number := by
  cases mode <;> fin_cases member
  all_goals first
    | exact .inl Lexeme.whole_caseBlind
    | exact .inl Lexeme.named_caseBlind
    | exact .inl (Lexeme.operator_caseBlind _)
    | exact .inl Lexeme.lowerNamed_caseBlind
    | exact .inl Lexeme.lowerOperator_caseBlind
    | exact .inl (Lexeme.levelled_caseBlind _)
    | exact .inl Lexeme.align_caseBlind
    | exact .inl Lexeme.column_caseBlind
    | exact .inl Lexeme.scriptStyle_caseBlind
    | exact .inl (Lexeme.faulty_caseBlind fun _ => rfl)
    | exact .inl Lexeme.run_caseBlind
    | exact .inl Lexeme.link_caseBlind
    | exact .inl Lexeme.colour_caseBlind
    | exact .inr (.inl ⟨rfl, rfl⟩)
    | exact .inr (.inr ⟨rfl, rfl⟩)

/-- What a rule takes from a match differs at most in case when the text loses its case. -/
theorem uncased_lexeme (member : rule ∈ ofMode mode) {remaining : Text} {found : Match}
    (success : rule.pattern.find? remaining = some found) :
    (rule.lexeme found.uncased).uncased = (rule.lexeme found).uncased := by
  rcases lexeme_caseBlind_or member with blind | ⟨pattern, time⟩ | ⟨pattern, number⟩
  · exact blind found
  · rw [pattern] at success
    rw [time]
    exact Lexeme.uncased_cssTime (Regex.uncased_amount success)
  · rw [pattern] at success
    rw [number]
    exact Lexeme.uncased_number (Pattern.find?_regex_splitsOff success).2

end Rule

end PassageMarkup
