import Mathlib.Data.List.Basic
import PassageMarkup.Line

/-!
# Lines of a text

Every text is made of lines that end with a line feed, and of a last line that may have none.  The
line that holds an offset is found from these, and there is one for every offset of the text.
-/

namespace PassageMarkup

namespace Text

variable {text line after : Text} {earlier later : List Text}

/-- A line with its line feed. -/
def IsEndedLine (line : Text) : Prop :=
  ∃ body, '\n' ∉ body ∧ line = body ++ ['\n']

/-- A line by itself: a line feed can only be its last character. -/
structure IsLine (line : Text) : Prop where
  nonempty : line ≠ []
  single : '\n' ∉ line.dropLast

/-- A line stands before nothing, unless it has its line feed. -/
def EndsBefore (line after : Text) : Prop :=
  after ≠ [] → line.getLast? = some '\n'

theorem IsLine.ended (isLine : line.IsLine) (feed : line.getLast? = some '\n') :
    line.IsEndedLine :=
  ⟨line.dropLast, isLine.single, (List.dropLast_append_getLast? _ feed).symm⟩

theorem IsEndedLine.lines_append (ended : line.IsEndedLine) (after : Text) :
    lines (line ++ after) = line :: lines after := by
  obtain ⟨body, noFeed, rfl⟩ := ended
  induction body with
  | nil => simp [lines]
  | cons c body induction =>
      rw [List.mem_cons, not_or] at noFeed
      rw [List.cons_append, List.cons_append, lines, if_neg (Ne.symm noFeed.1),
        induction noFeed.2]

theorem lines_of_not_mem (noFeed : '\n' ∉ line) (nonempty : line ≠ []) : lines line = [line] := by
  induction line with
  | nil => contradiction
  | cons c line induction =>
      rw [List.mem_cons, not_or] at noFeed
      rw [lines, if_neg (Ne.symm noFeed.1)]
      cases line with
      | nil => rfl
      | cons d line => rw [induction noFeed.2 (by simp)]

theorem IsLine.lines_append (isLine : line.IsLine) (ends : line.EndsBefore after) :
    lines (line ++ after) = line :: lines after := by
  by_cases feed : line.getLast? = some '\n'
  · exact (isLine.ended feed).lines_append after
  · have nothing : after = [] := not_not.mp (mt ends feed)
    have noFeed : '\n' ∉ line := by
      rw [List.getLast?_eq_some_getLast isLine.nonempty, Option.some.injEq] at feed
      rw [← List.dropLast_concat_getLast isLine.nonempty]
      simp [isLine.single, Ne.symm feed]
    rw [nothing, List.append_nil, lines_of_not_mem noFeed isLine.nonempty]
    rfl

theorem eq_nil_of_lines (none : text.lines = []) : text = [] := by
  cases text with
  | nil => rfl
  | cons c rest =>
      rw [lines] at none
      split at none
      · contradiction
      · split at none <;> contradiction

theorem exists_of_lines_eq_cons (split : text.lines = line :: later) :
    ∃ after, text = line ++ after ∧ line.IsLine ∧ line.EndsBefore after ∧ after.lines = later := by
  induction text generalizing line with
  | nil => contradiction
  | cons c rest induction =>
      rw [lines] at split
      split at split
      · rename_i feed
        cases split
        exact ⟨rest, by rw [feed]; rfl, ⟨by simp, by simp⟩, fun _ => rfl, rfl⟩
      · rename_i noFeed
        split at split
        · rename_i none
          cases split
          rw [eq_nil_of_lines none]
          exact ⟨[], rfl, ⟨by simp, by simp⟩, fun more => absurd rfl more, rfl⟩
        · rename_i inner others some
          cases split
          obtain ⟨after, rfl, isLine, ends, rest⟩ := induction some
          have single : (c :: inner).dropLast = c :: inner.dropLast :=
            List.dropLast_cons_of_ne_nil isLine.nonempty
          refine ⟨after, rfl, ⟨by simp, ?_⟩, ?_, rest⟩
          · rw [single, List.mem_cons, not_or]
            exact ⟨Ne.symm noFeed, isLine.single⟩
          · intro more
            rw [List.getLast?_cons_of_ne_nil isLine.nonempty]
            exact ends more

/-- Where a line stands among the lines of a text is where it stands in the text: after lines with
their line feeds, and before nothing unless it has one too. -/
theorem lines_eq_append_iff :
    text.lines = earlier ++ line :: later ↔
      ∃ after, text = earlier.flatten ++ line ++ after ∧ (∀ other ∈ earlier, other.IsEndedLine) ∧
        line.IsLine ∧ line.EndsBefore after ∧ after.lines = later := by
  constructor
  · intro split
    induction earlier generalizing text with
    | nil =>
        obtain ⟨after, equal, isLine, ends, rest⟩ := exists_of_lines_eq_cons split
        exact ⟨after, equal, by simp, isLine, ends, rest⟩
    | cons first earlier induction =>
        obtain ⟨middle, equal, isFirst, ends, rest⟩ := exists_of_lines_eq_cons split
        obtain ⟨after, inner, ended, isLine, last, others⟩ := induction rest
        have more : middle ≠ [] := by
          rw [inner]
          simp [isLine.nonempty]
        refine ⟨after, by simp [equal, inner], ?_, isLine, last, others⟩
        rw [List.forall_mem_cons]
        exact ⟨isFirst.ended (ends more), ended⟩
  · rintro ⟨after, rfl, ended, isLine, ends, rfl⟩
    induction earlier with
    | nil => exact isLine.lines_append ends
    | cons first earlier induction =>
        rw [List.forall_mem_cons] at ended
        have others := induction ended.2
        simp only [List.append_assoc] at others
        simp only [List.flatten_cons, List.append_assoc, List.cons_append]
        rw [ended.1.lines_append, others]

@[simp] theorem flatten_lines (text : Text) : text.lines.flatten = text := by
  induction text with
  | nil => rfl
  | cons c rest induction =>
      rw [lines]
      split
      · rename_i feed
        rw [feed, List.flatten_cons, induction]
        rfl
      · split
        · rename_i none
          rw [eq_nil_of_lines none]
          rfl
        · rename_i line others some
          rw [some, List.flatten_cons] at induction
          rw [List.flatten_cons, List.cons_append, induction]

end Text

namespace Line

variable {content : Text} {offset number : Nat} {line : Line} {lines : List Text}

theorem find_eq_none_iff : find number lines offset = none ↔ lines.flatten.length ≤ offset := by
  induction lines generalizing number offset with
  | nil => simp [find]
  | cons first others induction =>
      rw [find, List.flatten_cons, List.length_append]
      split
      · simp only [reduceCtorEq, false_iff]
        omega
      · rw [induction]
        omega

theorem find_eq_some_iff :
    find number lines offset = some line ↔
      ∃ earlier later, lines = earlier ++ line.text :: later ∧
        line.number = number + earlier.length ∧ line.column < line.text.length ∧
          earlier.flatten.length + line.column = offset := by
  induction lines generalizing number offset with
  | nil => simp [find]
  | cons first others induction =>
      rw [find]
      split
      · rename_i inside
        constructor
        · rintro ⟨⟩
          exact ⟨[], others, rfl, rfl, inside, by simp⟩
        · rintro ⟨earlier, later, split, numbered, column, rfl⟩
          cases earlier with
          | nil =>
              cases split
              simp only [List.flatten_nil, List.length_nil, Nat.zero_add, Nat.add_zero] at numbered ⊢
              rw [← numbered]
          | cons other earlier =>
              cases split
              simp only [List.flatten_cons, List.length_append] at inside
              omega
      · rename_i outside
        rw [induction]
        constructor
        · rintro ⟨earlier, later, rfl, numbered, column, place⟩
          refine ⟨first :: earlier, later, rfl, ?_, column, ?_⟩
          · rw [numbered, List.length_cons]
            omega
          · rw [List.flatten_cons, List.length_append]
            omega
        · rintro ⟨earlier, later, split, numbered, column, place⟩
          cases earlier with
          | nil =>
              cases split
              simp only [List.flatten_nil, List.length_nil, Nat.zero_add] at place
              omega
          | cons other earlier =>
              cases split
              rw [List.flatten_cons, List.length_append] at place
              rw [List.length_cons] at numbered
              exact ⟨earlier, later, rfl, by omega, column, by omega⟩

/-- A line holds an offset of a text: before it stand ended lines, as many as its number tells, and
after it nothing unless it has its line feed; the column is counted from where it begins. -/
structure Holds (content : Text) (offset : Nat) (line : Line) (earlier : List Text)
    (after : Text) : Prop where
  content_eq : content = earlier.flatten ++ line.text ++ after
  number_eq : line.number = earlier.length + 1
  ended : ∀ other ∈ earlier, other.IsEndedLine
  single : '\n' ∉ line.text.dropLast
  last : after ≠ [] → line.text.getLast? = some '\n'
  column_lt : line.column < line.text.length
  offset_eq : earlier.flatten.length + line.column = offset

theorem ofOffset_eq_none_iff : ofOffset content offset = none ↔ content.length ≤ offset := by
  rw [ofOffset, find_eq_none_iff, Text.flatten_lines]

theorem ofOffset_eq_some_iff :
    ofOffset content offset = some line ↔
      ∃ earlier after, line.Holds content offset earlier after := by
  rw [ofOffset, find_eq_some_iff]
  constructor
  · rintro ⟨earlier, later, split, numbered, column, place⟩
    obtain ⟨after, equal, ended, isLine, last, _⟩ := Text.lines_eq_append_iff.mp split
    exact ⟨earlier, after, equal, by rw [numbered, Nat.add_comm], ended, isLine.single, last,
      column, place⟩
  · rintro ⟨earlier, after, holds⟩
    have nonempty : line.text ≠ [] :=
      List.length_pos_iff.mp (Nat.lt_of_le_of_lt (Nat.zero_le _) holds.column_lt)
    have split := Text.lines_eq_append_iff.mpr
      ⟨after, holds.content_eq, holds.ended, ⟨nonempty, holds.single⟩, holds.last, rfl⟩
    exact ⟨earlier, after.lines, split, by rw [holds.number_eq, Nat.add_comm], holds.column_lt,
      holds.offset_eq⟩

/-- An offset behind a text has no line; every other one has exactly the line that holds it. -/
theorem ofOffset_exact (content : Text) (offset : Nat) :
    (ofOffset content offset = none ↔ content.length ≤ offset) ∧
      ∀ line, ofOffset content offset = some line ↔
        ∃ earlier after, line.Holds content offset earlier after :=
  ⟨ofOffset_eq_none_iff, fun _ => ofOffset_eq_some_iff⟩

example : ofOffset "ça\n\nvà".toList 5 = some ⟨3, "và".toList, 1⟩ := by decide

end Line

end PassageMarkup
