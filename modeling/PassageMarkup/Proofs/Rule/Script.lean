import PassageMarkup.Proofs.Regex.Folding
import PassageMarkup.Proofs.Rule.Block

/-!
# Scripts and style sheets

A script or style sheet begins with its opening tag.  It ends with the first closing tag of one of
the two elements, or with the text when there is none: a sheet whose name is written without a long
s ends with a closing tag of its own element, and one with a long s ends as scripts do.
-/

namespace PassageMarkup

open Regex

namespace Text

/-- An opening tag: after the name of its element may come attributes, which begin with a blank. -/
def IsOpeningTag (tag name : Text) : Prop :=
  ∃ attributes, tag = '<' :: name ++ attributes ++ ['>'] ∧ '>' ∉ attributes ∧
    ∀ c, attributes.head? = some c → Unicode.isBlank c = true

/-- A closing tag of an element: the name is in any case, and blanks may come after it. -/
def IsClosingTag (tag element : Text) : Prop :=
  ∃ name blanks : Text, tag = '<' :: '/' :: name ++ blanks ++ ['>'] ∧ name.folded = element ∧
    ∀ c ∈ blanks, Unicode.isBlank c = true

/-- What an element takes from the text after its opening tag: all up to the end of the first
closing tag, or all of it when no closing tag is there. -/
inductive ElementBody (text element : Text) : Text → Prop where
  | closed {content tag after : Text} :
      text = content ++ (tag ++ after) →
      IsClosingTag tag element →
      (∀ before other rest, text = before ++ (other ++ rest) → IsClosingTag other element →
        content.length ≤ before.length) →
      ElementBody text element (content ++ tag)
  | unclosed :
      (∀ before tag after, text = before ++ (tag ++ after) → ¬IsClosingTag tag element) →
      ElementBody text element text

/-- The element whose closing tag ends a script or style sheet with a name. -/
def closedAs (name : Text) : Text :=
  if longS ∈ name then "script".toList else name.folded

/-- A text begins with a script or style sheet, from the opening tag to the end of the body.  Which
element's closing tag ends the body is told by the name in the opening tag. -/
def BeginsWithSheet (closer : Text → Text) (text sheet : Text) : Prop :=
  ∃ opening name following body, text = opening ++ following ∧ IsOpeningTag opening name ∧
    (name.folded = "script".toList ∨ name.folded = "style".toList) ∧
    ElementBody following (closer name) body ∧ sheet = opening ++ body

theorem folded_closedAs {name : Text}
    (named : name.folded = "script".toList ∨ name.folded = "style".toList) :
    name.closedAs.folded = name.closedAs := by
  unfold closedAs
  split
  · decide
  · rcases named with script | style
    · rw [script]
      decide
    · rw [style]
      decide

theorem ElementBody.isPrefix {text element body : Text} (takes : text.ElementBody element body) :
    body <+: text := by
  cases takes with
  | @closed content tag after split => exact ⟨after, by rw [split, List.append_assoc]⟩
  | unclosed => exact List.prefix_rfl

end Text

namespace Lexeme

variable {r : Regex} {text : Text} {stop : Nat}

theorem endOfFirst_eq_some (success : endOfFirst r text = some stop) :
    ∃ before rest cursor, text = before ++ rest ∧ r.matchStart rest = some cursor ∧
      stop = before.length + cursor.passed ∧
      ∀ earlier later, text = earlier ++ later → r.matchStart later ≠ none →
        before.length ≤ earlier.length := by
  induction text generalizing stop with
  | nil =>
      rcases endOfFirst_cases success with ⟨cursor, reached, rfl⟩ | ⟨_, c, rest, later, equal, _⟩
      · exact ⟨[], [], cursor, rfl, reached, (Nat.zero_add _).symm, by simp⟩
      · contradiction
  | cons c rest induction =>
      rcases endOfFirst_cases success with
        ⟨cursor, reached, rfl⟩ | ⟨nothing, d, others, later, equal, found, rfl⟩
      · exact ⟨[], c :: rest, cursor, rfl, reached, (Nat.zero_add _).symm, by simp⟩
      · cases equal
        obtain ⟨before, after, cursor, rfl, reached, rfl, first⟩ := induction found
        refine ⟨c :: before, after, cursor, rfl, reached, ?_, ?_⟩
        · rw [List.length_cons, Nat.add_right_comm]
        · intro earlier later split matching
          cases earlier with
          | nil =>
              rw [← show c :: (before ++ after) = later from split] at matching
              exact absurd nothing matching
          | cons e earlier =>
              rw [List.cons_append, List.cons.injEq] at split
              exact Nat.succ_le_succ (first earlier later split.2 matching)

theorem endOfFirst_eq_none (nothing : endOfFirst r text = none) {earlier later : Text}
    (split : text = earlier ++ later) : r.matchStart later = none := by
  induction earlier generalizing text with
  | nil =>
      rw [List.nil_append] at split
      subst split
      rw [endOfFirst.eq_def] at nothing
      split at nothing
      · contradiction
      · assumption
  | cons c earlier induction =>
      subst split
      rw [List.cons_append, endOfFirst.eq_def] at nothing
      split at nothing
      · contradiction
      · exact induction (Option.map_eq_none_iff.mp nothing) rfl

end Lexeme

namespace Terminal

variable {element text tag : Text}

def closing (element : Text) : Regex :=
  inOrder [literal ('<' :: '/' :: element), many (.set Unicode.isBlank), char '>']

theorem isClosingTag_of_denotes (denotes : Denotes (closing element) tag) :
    tag.IsClosingTag element.folded := by
  cases denotes with
  | seq opening others =>
      cases others with
      | @seq _ _ blanks _ inside ending =>
          obtain ⟨c, rest, rfl, first, more⟩ := List.map_eq_cons_iff.mp opening.folded_of_literal
          obtain ⟨d, name, rfl, second, folded⟩ := List.map_eq_cons_iff.mp more
          rw [eq_of_foldCase_eq (by decide) first, eq_of_foldCase_eq (by decide) second,
            Denotes.of_char (by decide) ending]
          refine ⟨name, blanks, by simp, folded, ?_⟩
          exact inside.all_of_over fun _ accepted => accepted

theorem matchStart_closing (isTag : tag.IsClosingTag element.folded) (after : Text) :
    (closing element).matchStart (tag ++ after) ≠ none := by
  obtain ⟨name, blanks, rfl, folded, all⟩ := isTag
  have same : ('<' :: '/' :: name).map foldCase = ('<' :: '/' :: element).map foldCase :=
    congrArg (fun folded => foldCase '<' :: foldCase '/' :: folded) folded
  have ahead : ('<' :: '/' :: name ++ blanks ++ ['>'] ++ after) =
      '<' :: '/' :: name ++ (blanks ++ '>' :: after) := by simp
  let named : Cursor := Cursor.pass (.atStart ('<' :: '/' :: name ++ (blanks ++ '>' :: after)))
    ('<' :: '/' :: name)
  have spaces : named.rest = blanks ++ '>' :: after := Cursor.pass_rest rfl
  have enough : blanks.length ≤ named.rest.length := by simp [spaces]
  have ends : ∀ c, ('>' :: after).head? = some c → Unicode.isBlank c = false := by
    rintro c ⟨⟩
    decide
  have close := @matchThen_set _ (fun c => foldCase c == foldCase '>') some _ after '>'
    (Cursor.pass_rest spaces) (beq_self_eq_true _)
  rw [ahead, matchStart, closing, inOrder_cons (by simp), matchThen, matchThen_spelled rfl same]
  exact ne_of_eq_of_ne (starThen_set_eq_some enough spaces all ends close) (Option.some_ne_none _)

theorem exists_elementBody (element text : Text) :
    ∃ body, text.ElementBody element.folded body ∧
      body.length = (Lexeme.endOfFirst (closing element) text).getD text.length := by
  cases ended : Lexeme.endOfFirst (closing element) text with
  | some stop =>
      obtain ⟨before, rest, cursor, rfl, reached, rfl, first⟩ := Lexeme.endOfFirst_eq_some ended
      obtain ⟨tag, rfl, length, denotes⟩ := (matchStart_matches reached).exists_passed
      refine ⟨before ++ tag, .closed rfl (isClosingTag_of_denotes denotes) ?_, ?_⟩
      · intro earlier other after split isTag
        exact first earlier _ split (matchStart_closing isTag after)
      · rw [List.length_append, length, Option.getD_some]
  | none =>
      refine ⟨text, .unclosed ?_, by rw [Option.getD_none]⟩
      intro before tag after split isTag
      exact matchStart_closing isTag after (Lexeme.endOfFirst_eq_none ended split)

theorem not_mem_attributes (denotes : Denotes attributes text) :
    '>' ∉ text ∧ ∀ c, text.head? = some c → Unicode.isBlank c = true := by
  refine ⟨denotes.not_mem_of_avoids (by decide), ?_⟩
  cases denotes with
  | altLeft denotes =>
      cases denotes with
      | seq blank _ =>
          obtain ⟨c, rfl, accepted⟩ := blank.of_set
          rintro _ ⟨⟩
          exact accepted
  | altRight denotes =>
      cases denotes
      simp

end Terminal

namespace Rule

variable {remaining : Text} {found : Match}

/-- The rule for scripts and style sheets finds an opening tag of one of the two elements. -/
theorem find?_scriptStyleTag (success : scriptStyleTag.pattern.find? remaining = some found) :
    found.text.IsOpeningTag found.firstText ∧
      (found.firstText.folded = "script".toList ∨ found.firstText.folded = "style".toList) := by
  obtain ⟨before, name, after, opening, named, ending, text, first⟩ :=
    Pattern.find?_firstBetween success rfl
  rw [first, text, opening.of_char (by decide)]
  constructor
  · cases ending with
    | seq inside close =>
        obtain ⟨noEnd, blank⟩ := Terminal.not_mem_attributes inside
        exact ⟨_, by rw [Denotes.of_char (by decide) close]; simp, noEnd, blank⟩
  · obtain ⟨word, listed, folded⟩ := @Denotes.of_words name ["script", "style"] named
    fin_cases listed
    · exact .inl (folded.trans (by decide))
    · exact .inr (folded.trans (by decide))

end Rule

namespace Lexeme

variable {found : Match}

theorem closingTag_eq {name : Text}
    (named : name.folded = "script".toList ∨ name.folded = "style".toList) :
    closingTag name = Terminal.closing name.closedAs := by
  have letters : name.all foldsToLetter = true := by
    rcases named with script | style
    · exact Text.all_foldsToLetter script (by decide)
    · exact Text.all_foldsToLetter style (by decide)
  have closes : name.lowerCase = "style".toList ↔
      name.folded = "style".toList ∧ Text.longS ∉ name :=
    Text.lowerCase_eq_iff letters (by decide)
  unfold closingTag Text.closedAs
  by_cases long : Text.longS ∈ name
  · rw [if_neg fun style => (closes.mp style).2 long, if_pos long]
    rfl
  · rw [if_neg long]
    rcases named with script | style
    · rw [if_neg fun style => absurd (script.symm.trans (closes.mp style).1) (by decide), script]
      rfl
    · rw [if_pos (closes.mpr ⟨style, long⟩), style]
      rfl

/-- A script or style sheet takes its opening tag and its body. -/
theorem scriptStyle_takes {remaining : Text}
    (success : Rule.scriptStyleTag.pattern.find? remaining = some found) :
    Text.BeginsWithSheet Text.closedAs remaining (remaining.take (scriptStyle found).length) := by
  obtain ⟨opening, named⟩ := Rule.find?_scriptStyleTag success
  obtain ⟨body, takes, length⟩ :=
    Terminal.exists_elementBody found.firstText.closedAs found.following
  rw [Text.folded_closedAs named] at takes
  have split := (Pattern.find?_splitsOff success).remaining_eq
  refine ⟨found.text, found.firstText, found.following, body, split, opening, named, takes, ?_⟩
  obtain ⟨after, following⟩ := takes.isPrefix
  rw [split, scriptStyle, closingTag_eq named, ← length, ← following, ← List.append_assoc,
    ← List.length_append, List.take_left']
  rfl

end Lexeme

end PassageMarkup
