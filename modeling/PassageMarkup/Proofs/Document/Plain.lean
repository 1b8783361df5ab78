import Mathlib.Tactic.FinCases
import PassageMarkup.Proofs.Document.Basic

/-!
# Plain text and the rules of prose

No rule of prose finds anything at a character of a plain run.  Most rules begin with punctuation.
A few can begin with plain characters, but they need punctuation after them that a document does not
have there.
-/

namespace PassageMarkup

namespace Text

/-- A text that has any character begins with one of a kind. -/
def Begins (kind : Char → Bool) (text : Text) : Prop :=
  ∀ c, text.head? = some c → kind c = true

/-- What can follow a plain run: the end, a bracket, or a bar before a name. -/
def FollowsPlain (text : Text) : Prop :=
  text = [] ∨ ∃ c rest, text = c :: rest ∧
    (c ∈ ['\x7b', '\x7d', '(', ']'] ∨ c = '|' ∧ ∃ d more, rest = d :: more ∧
      Terminal.isCallChar d = true)

/-- Punctuation by which rules go on that begin with plain characters. -/
def marksAfterPlain : List Char :=
  ['-', '.', '<', '=', ':']

/-- What rules that can begin with plain characters need after these. -/
def MarksPlain (text : Text) : Prop :=
  ∃ before c rest, text = before ++ c :: rest ∧ (∀ d ∈ before, isPlain d = true) ∧
    (c ∈ marksAfterPlain ∨ c = '|' ∧ ∃ d more, rest = d :: more ∧ d ∈ ['|', '='])

theorem run_unique {kind : Char → Bool} {left right leftRest rightRest : Text}
    (same : left ++ leftRest = right ++ rightRest) (leftAll : ∀ c ∈ left, kind c = true)
    (rightAll : ∀ c ∈ right, kind c = true) (leftEnds : leftRest.Begins fun c => !kind c)
    (rightEnds : rightRest.Begins fun c => !kind c) : left = right ∧ leftRest = rightRest := by
  induction left generalizing right with
  | nil =>
      cases right with
      | nil => exact ⟨rfl, same⟩
      | cons c others =>
          have ends := leftEnds c (congrArg List.head? same)
          simp [rightAll c (by simp)] at ends
  | cons c others induction =>
      rw [List.forall_mem_cons] at leftAll
      cases right with
      | nil =>
          have ends := rightEnds c (congrArg List.head? same.symm)
          simp [leftAll.1] at ends
      | cons d more =>
          rw [List.forall_mem_cons] at rightAll
          obtain ⟨rfl, tail⟩ := List.cons_eq_cons.mp same
          obtain ⟨rfl, rest⟩ := induction tail leftAll.2 rightAll.2
          exact ⟨rfl, rest⟩

theorem bracket_facts {c : Char} (bracket : c ∈ ['\x7b', '\x7d', '(', ']']) :
    isPlain c = false ∧ c ∉ marksAfterPlain ∧ c ≠ '|' := by
  fin_cases bracket <;> decide

theorem not_isPlain_of_mark {c : Char} (mark : c ∈ marksAfterPlain) : isPlain c = false := by
  fin_cases mark <;> rfl

theorem FollowsPlain.begins {text : Text} (follows : text.FollowsPlain) :
    text.Begins fun c => !isPlain c := by
  intro c head
  rcases follows with rfl | ⟨d, rest, rfl, bracket | ⟨rfl, _⟩⟩
  · contradiction
  · cases head
    simp [(bracket_facts bracket).1]
  · cases head
    decide

theorem FollowsPlain.not_marksPlain {run tail : Text} (follows : tail.FollowsPlain)
    (plain : ∀ c ∈ run, isPlain c = true) : ¬(run ++ tail).MarksPlain := by
  rintro ⟨before, c, rest, equal, beforePlain, mark⟩
  have markBegins : Begins (fun c => !isPlain c) (c :: rest) := by
    intro d head
    cases head
    rcases mark with mark | ⟨rfl, _⟩
    · simp [not_isPlain_of_mark mark]
    · decide
  have same := (run_unique equal plain beforePlain follows.begins markBegins).2
  rcases follows with rfl | ⟨d, others, rfl, bracket | ⟨rfl, e, more, rfl, named⟩⟩
  · contradiction
  · obtain ⟨rfl, rfl⟩ := List.cons_eq_cons.mp same
    rcases mark with mark | ⟨bar, _⟩
    · exact (bracket_facts bracket).2.1 mark
    · exact (bracket_facts bracket).2.2 bar
  · obtain ⟨rfl, rfl⟩ := List.cons_eq_cons.mp same
    rcases mark with mark | ⟨_, f, _, sameRest, mark⟩
    · revert mark
      decide
    · obtain ⟨rfl, _⟩ := List.cons_eq_cons.mp sameRest
      have notName : Terminal.isCallChar e = false := by
        fin_cases mark <;> rfl
      rw [notName] at named
      contradiction

namespace MarksPlain

theorem append {text : Text} (marks : text.MarksPlain) (after : Text) :
    (text ++ after).MarksPlain := by
  obtain ⟨before, c, rest, rfl, plain, mark⟩ := marks
  refine ⟨before, c, rest ++ after, by simp, plain, mark.imp_right ?_⟩
  rintro ⟨bar, d, more, rfl, next⟩
  exact ⟨bar, d, more ++ after, rfl, next⟩

theorem prepend {text : Text} (marks : text.MarksPlain) {before : Text}
    (plain : ∀ c ∈ before, isPlain c = true) : (before ++ text).MarksPlain := by
  obtain ⟨first, c, rest, rfl, firstPlain, mark⟩ := marks
  refine ⟨before ++ first, c, rest, by simp, ?_, mark⟩
  simpa [or_imp, forall_and] using ⟨plain, firstPlain⟩

theorem of_head {c : Char} (mark : c ∈ marksAfterPlain) (rest : Text) :
    MarksPlain (c :: rest) :=
  ⟨[], c, rest, rfl, by simp, .inl mark⟩

end MarksPlain

end Text

theorem isPlain_of_le {c : Char} (high : '\x7f' ≤ c) : isPlain c = true := by
  have value : 127 ≤ c.val.toNat := UInt32.le_iff_toNat_le.mp high
  have notLow : ∀ d : Char, d.val.toNat < 127 → ¬c ≤ d := by
    intro d low below
    have := UInt32.le_iff_toNat_le.mp below
    omega
  have notBreak : c ≠ '\n' := by
    rintro rfl
    exact absurd value (by decide)
  simp [isPlain, isPunctuation, notBreak, notLow '/' (by decide), notLow '@' (by decide),
    notLow '\x60' (by decide), notLow '~' (by decide)]

theorem isCaseless_of_not_isPlain {c : Char} (notPlain : isPlain c = false) :
    Regex.isCaseless c = true := by
  have table : ∀ n < 127, isPlain (Char.ofNat n) = false →
      Regex.isCaseless (Char.ofNat n) = true := by
    decide
  by_cases high : '\x7f' ≤ c
  · rw [isPlain_of_le high] at notPlain
    contradiction
  · have low : c.toNat < 127 := UInt32.lt_iff_toNat_lt.mp (Char.not_le.mp high)
    have same := Char.ofNat_toNat c
    rw [← same] at notPlain ⊢
    exact table c.toNat low notPlain

theorem isPlain_of_sameAs {c expected : Char} (plain : isPlain expected = true)
    (same : Regex.sameAs expected c = true) : isPlain c = true := by
  by_contra notPlain
  rw [Bool.not_eq_true] at notPlain
  have folded : Regex.foldCase expected = Regex.foldCase c := (beq_iff_eq.mp same).symm
  rw [Regex.eq_of_foldCase_eq (isCaseless_of_not_isPlain notPlain) folded, notPlain] at plain
  contradiction

theorem isPlain_of_isLineBlank {c : Char} (blank : Terminal.isLineBlank c = true) :
    isPlain c = true := by
  have table : " \x0c\t\x0b\u00a0\u1680\u180e\u202f\u205f\u3000\ufeff".toList.all isPlain = true := by
    decide
  rcases (Bool.or_eq_true _ _).mp blank with listed | range
  · exact List.all_eq_true.mp table c (by simpa using listed)
  · have high : '\u2000' ≤ c := by simpa using (Bool.and_eq_true_iff.mp range).1
    have above : '\x7f' ≤ '\u2000' := by decide
    exact isPlain_of_le (Char.le_trans above high)

namespace Regex

open Text (MarksPlain marksAfterPlain)

variable {r : Regex} {text : Text}

theorem over_char {c : Char} (plain : isPlain c = true) : (char c).Over isPlain :=
  fun _ same => isPlain_of_sameAs plain same

theorem over_literal {written : Text} (plain : written.all isPlain = true) :
    (literal written).Over isPlain := by
  induction written with
  | nil => trivial
  | cons c rest induction =>
      rw [List.all_cons, Bool.and_eq_true] at plain
      cases rest with
      | nil => exact over_char plain.1
      | cons next others => exact ⟨over_char plain.1, induction plain.2⟩

theorem Denotes.marksPlain (denotes : Denotes r text) (marks : List Char)
    (solid : r.nullable = false) (heads : r.heads = marks.map sameAs)
    (known : marks.all marksAfterPlain.contains = true) : text.MarksPlain := by
  rw [List.all_eq_true] at known
  have caseless : marks.all isCaseless = true := by
    rw [List.all_eq_true]
    intro c member
    exact isCaseless_of_not_isPlain
      (Text.not_isPlain_of_mark (List.contains_iff_mem.mp (known c member)))
  obtain ⟨c, rest, rfl, member⟩ := denotes.exists_head marks solid heads caseless
  exact .of_head (List.contains_iff_mem.mp (known c member)) rest

/-- Blanks may come before what a rule needs. -/
theorem Denotes.marksPlain_blanks {others : List Regex} (more : others ≠ [])
    (denotes : Denotes (inOrder (Terminal.blanks :: others)) text)
    (later : ∀ text, Denotes (inOrder others) text → text.MarksPlain) : text.MarksPlain := by
  rw [inOrder_cons more] at denotes
  cases denotes with
  | seq first second =>
      apply (later _ second).prepend
      exact first.all_of_over fun c blank => isPlain_of_isLineBlank blank

theorem Denotes.marksPlain_horizontalRule (denotes : Denotes Terminal.horizontalRule text) :
    text.MarksPlain := by
  apply denotes.marksPlain_blanks (by simp)
  intro text later
  exact later.marksPlain ['-'] rfl rfl (by decide)

theorem Denotes.marksPlain_align (denotes : Denotes Terminal.align text) : text.MarksPlain := by
  apply denotes.marksPlain_blanks (by simp)
  intro text later
  exact later.marksPlain ['<', '<', '=', '='] rfl rfl (by decide)

theorem Denotes.marksPlain_column (denotes : Denotes Terminal.column text) : text.MarksPlain := by
  apply denotes.marksPlain_blanks (by simp)
  intro text later
  cases later with
  | seq first second =>
      apply Text.MarksPlain.append
      cases first with
      | group bar =>
          cases bar with
          | altLeft both =>
              -- The bars come first, so the character after the first bar decides.
              cases both with
              | @seq _ _ before after bars more =>
                  obtain ⟨nonempty, all⟩ := bars.of_many1
                  have bar : ∀ c ∈ before, c = '|' := fun c member =>
                    eq_of_sameAs (by decide) (all c member)
                  obtain ⟨e, rest, rfl, equals⟩ := more.exists_head ['='] rfl rfl (by decide)
                  cases before with
                  | nil => contradiction
                  | cons c others =>
                      refine ⟨[], c, others ++ e :: rest, by simp, by simp, .inr ⟨?_, ?_⟩⟩
                      · exact bar c (by simp)
                      · cases others with
                        | nil => exact ⟨e, rest, rfl, by simp [equals]⟩
                        | cons d last => exact ⟨d, last ++ e :: rest, rfl, by simp [bar d]⟩
          | altRight right => exact right.marksPlain ['='] rfl rfl (by decide)

theorem Denotes.marksPlain_numbered (denotes : Denotes Terminal.numbered text) :
    text.MarksPlain := by
  rw [Terminal.numbered, inOrder_cons (by simp)] at denotes
  cases denotes with
  | seq first second =>
      apply Text.MarksPlain.append
      cases first with
      | group levels =>
          cases levels with
          | seq level more =>
              have written : _ = ['0', '.'] := level.of_literal (by decide)
              rw [written]
              exact @Text.MarksPlain.prepend _ (.of_head (by decide) _) ['0'] (by simp; decide)

theorem Denotes.marksPlain_url (denotes : Denotes Terminal.url text) : text.MarksPlain := by
  rw [Terminal.url, inOrder_cons (by simp)] at denotes
  cases denotes with
  | seq scheme others =>
      apply (others.marksPlain [':'] rfl rfl (by decide)).prepend
      apply scheme.all_of_over
      refine ⟨⟨?_, over_char (by decide), trivial⟩, ?_, ?_, ?_, ?_⟩
      all_goals exact over_literal (by decide)

end Regex

namespace Rule

/-- The rules of prose that can begin with a plain character. -/
def plainStarters : List Rule :=
  [horizontalRule, numbered, align, column, url]

def markStarters : List Rule :=
  prose.filter fun rule => !(plainStarters.map Rule.kind).contains rule.kind

theorem prose_cases {rule : Rule} (member : rule ∈ ofMode .prose) :
    rule ∈ plainStarters ∨ rule ∈ markStarters := by
  by_cases starter : (plainStarters.map Rule.kind).contains rule.kind = true
  · left
    fin_cases member
    all_goals first
      | contradiction
      | simp [plainStarters]
  · right
    exact List.mem_filter.mpr ⟨member, by simpa using starter⟩

theorem markStarters_heads :
    markStarters.flatMap (fun rule => rule.pattern.toRegex.heads) =
      "#*<<<\\\n\n<\x60[|[|[]]\x7b\x7d'/**~^_($".toList.map Regex.sameAs := by
  rfl

theorem not_isPlain_of_starts {rule : Rule} (member : rule ∈ markStarters) {c : Char}
    (starts : rule.pattern.toRegex.starts c = true) : isPlain c = false := by
  have table : "#*<<<\\\n\n<\x60[|[|[]]\x7b\x7d'/**~^_($".toList.all
      (fun c => Regex.isCaseless c && !isPlain c) = true := by
    decide
  obtain ⟨accepts, head, accepted⟩ := List.any_eq_true.mp starts
  have listed : accepts ∈ markStarters.flatMap fun rule => rule.pattern.toRegex.heads :=
    List.mem_flatMap.mpr ⟨rule, member, head⟩
  rw [markStarters_heads] at listed
  obtain ⟨mark, written, rfl⟩ := List.mem_map.mp listed
  have facts := List.all_eq_true.mp table mark written
  rw [Bool.and_eq_true, Bool.not_eq_true'] at facts
  rw [Regex.eq_of_sameAs facts.1 accepted]
  exact facts.2

theorem plainStarters_marksPlain {rule : Rule} (member : rule ∈ plainStarters) {text : Text}
    (denotes : rule.pattern.toRegex.Denotes text) : text.MarksPlain := by
  fin_cases member
  · exact denotes.marksPlain_horizontalRule
  · exact denotes.marksPlain_numbered
  · exact denotes.marksPlain_align
  · exact denotes.marksPlain_column
  · exact denotes.marksPlain_url

/-- No rule of prose finds anything at a character of a plain run. -/
theorem find?_plain_eq_none {rule : Rule} (member : rule ∈ ofMode .prose) {c : Char}
    {run tail : Text} (plain : ∀ d ∈ c :: run, isPlain d = true) (follows : tail.FollowsPlain) :
    rule.pattern.find? (c :: run ++ tail) = none := by
  cases result : rule.pattern.find? (c :: run ++ tail) with
  | none => rfl
  | some found =>
      obtain ⟨splits, denotes⟩ := Pattern.find?_denotes result
      rcases prose_cases member with starter | other
      · have marks := (plainStarters_marksPlain starter denotes).append found.following
        rw [← splits.remaining_eq] at marks
        exact absurd marks (follows.not_marksPlain plain)
      · have notPlain := not_isPlain_of_starts other (denotes.starts_of_head (splits.head?_eq rfl))
        rw [plain c (by simp)] at notPlain
        contradiction

end Rule

end PassageMarkup
