import Mathlib.Data.List.Infix
import PassageMarkup.Text.Basic

/-!
# Parts of texts

A part stands in a text at an offset when the text has the part from there on.  Slices, splits and
neighbouring parts all keep to this.
-/

namespace PassageMarkup

namespace Text

/-- A part stands in a text from an offset on. -/
def Stands (source : Text) (start : Nat) (part : Text) : Prop :=
  ∃ before after, source = before ++ part ++ after ∧ before.length = start

theorem stands_self (source : Text) : Stands source 0 source :=
  ⟨[], [], by simp, rfl⟩

theorem stands_append {source left right : Text} {start : Nat} :
    Stands source start (left ++ right) ↔
      Stands source start left ∧ Stands source (start + left.length) right := by
  constructor
  · rintro ⟨before, after, rfl, rfl⟩
    exact ⟨⟨before, right ++ after, by simp, rfl⟩, ⟨before ++ left, after, by simp, by simp⟩⟩
  · rintro ⟨⟨before, after, equal, rfl⟩, ⟨front, rest, equalToo, length⟩⟩
    have aligned : (before ++ left) ++ after = front ++ (right ++ rest) := by
      rw [← equal, equalToo, List.append_assoc]
    have parts := List.append_inj aligned (by simp [length])
    refine ⟨before, rest, ?_, rfl⟩
    rw [equal, parts.2]
    simp

theorem Stands.le_length {source part : Text} {start : Nat} (stands : Stands source start part) :
    start + part.length ≤ source.length := by
  obtain ⟨before, after, rfl, rfl⟩ := stands
  simp

theorem Stands.getElem?_eq {source part : Text} {start : Nat} (stands : Stands source start part)
    {index : Nat} (inside : index < part.length) : source[start + index]? = part[index]? := by
  obtain ⟨before, after, rfl, rfl⟩ := stands
  rw [List.append_assoc, List.getElem?_append_right (Nat.le_add_right _ _),
    Nat.add_sub_cancel_left, List.getElem?_append_left inside]

theorem Stands.eq_slice {source part : Text} {start : Nat} (stands : Stands source start part) :
    part = source.slice ⟨start, start + part.length⟩ := by
  obtain ⟨before, after, rfl, rfl⟩ := stands
  simp [slice, Span.length]

theorem Stands.eq_of_length_eq {source left right : Text} {start : Nat}
    (leftStands : Stands source start left) (rightStands : Stands source start right)
    (length : left.length = right.length) : left = right := by
  rw [leftStands.eq_slice, rightStands.eq_slice, length]

theorem length_slice {text : Text} {span : Span} (bounded : span.stop ≤ text.length) :
    (text.slice span).length = span.stop - span.start := by
  simp only [slice, Span.length, List.length_take, List.length_drop]
  omega

theorem slice_between (before part after : Text) :
    (before ++ part ++ after).slice ⟨before.length, before.length + part.length⟩ = part := by
  simp [slice, Span.length]

theorem exists_stands (start : Nat) (part : Text) : ∃ source, Stands source start part :=
  ⟨List.replicate start ' ' ++ part, List.replicate start ' ', [], by simp, by simp⟩

theorem mem_slice_iff {text : Text} {span : Span} {c : Char} :
    c ∈ text.slice span ↔ ∃ i, span.start ≤ i ∧ i < span.stop ∧ text[i]? = some c := by
  simp only [slice, List.mem_iff_getElem?, List.getElem?_take, List.getElem?_drop, Span.length]
  constructor
  · rintro ⟨i, found⟩
    split at found
    · exact ⟨span.start + i, Nat.le_add_right _ _, by omega, found⟩
    · contradiction
  · rintro ⟨i, first, last, found⟩
    refine ⟨i - span.start, ?_⟩
    rw [if_pos (by omega), Nat.add_sub_cancel' first]
    exact found

theorem mem_of_mem_slice {text : Text} {span : Span} {c : Char} (member : c ∈ text.slice span) :
    c ∈ text :=
  List.mem_of_mem_drop (List.mem_of_mem_take member)

theorem slice_inside {before part after : Text} {span : Span} (bounded : span.stop ≤ part.length) :
    (before ++ part ++ after).slice ⟨before.length + span.start, before.length + span.stop⟩ =
      part.slice span := by
  have length : before.length + span.stop - (before.length + span.start) =
      span.stop - span.start := by omega
  simp only [slice, Span.length, length, List.append_assoc, List.drop_length_add_append]
  by_cases ordered : span.start ≤ part.length
  · rw [List.drop_append_of_le_length ordered, List.take_append_of_le_length]
    rw [List.length_drop]
    omega
  · have nothing : span.stop - span.start = 0 := by omega
    rw [nothing, List.take_zero, List.take_zero]

theorem Stands.slice {source part : Text} {start : Nat} (stands : Stands source start part)
    {span : Span} (bounded : span.start ≤ part.length) :
    Stands source (start + span.start) (part.slice span) := by
  have split : part = part.take span.start ++
      (part.slice span ++ (part.drop span.start).drop span.length) := by
    rw [Text.slice, List.take_append_drop, List.take_append_drop]
  rw [split, stands_append, stands_append] at stands
  have length : (part.take span.start).length = span.start := by
    simp [bounded]
  rw [length] at stands
  exact stands.2.1

theorem splitFirst_eq_some {separator text left right : Text}
    (split : splitFirst separator text = some (left, right)) :
    text = left ++ separator ++ right := by
  induction text generalizing left with
  | nil => simp [splitFirst] at split
  | cons c rest induction =>
      simp only [splitFirst] at split
      cases here : separator.isPrefixOf? (c :: rest) with
      | some after =>
          rw [here] at split
          cases split
          simpa using (List.isPrefixOf?_eq_some_iff_append_eq.mp here).symm
      | none =>
          rw [here] at split
          obtain ⟨sides, later, equal⟩ := Option.map_eq_some_iff.mp split
          cases equal
          rw [induction later]
          simp

theorem splitLast_eq_some {separator text left right : Text}
    (split : splitLast separator text = some (left, right)) :
    text = left ++ separator ++ right := by
  induction text generalizing left right with
  | nil => simp [splitLast] at split
  | cons c rest induction =>
      simp only [splitLast] at split
      cases later : splitLast separator rest with
      | some sides =>
          obtain ⟨others, after⟩ := sides
          rw [later] at split
          cases split
          rw [induction later]
          simp
      | none =>
          rw [later] at split
          obtain ⟨after, here, equal⟩ := Option.map_eq_some_iff.mp split
          cases equal
          simpa using (List.isPrefixOf?_eq_some_iff_append_eq.mp here).symm

theorem splitLast_eq_none_iff {separator text : Text} (nonempty : separator ≠ []) :
    splitLast separator text = none ↔ ¬separator <:+: text := by
  induction text with
  | nil => simp [splitLast, nonempty]
  | cons c rest induction =>
      rw [List.infix_cons_iff, not_or, ← induction, splitLast]
      cases later : splitLast separator rest with
      | some sides => simp
      | none =>
          rw [Option.map_eq_none_iff, Option.eq_none_iff_forall_ne_some]
          simp only [ne_eq, List.isPrefixOf?_eq_some_iff_append_eq, and_true]
          exact not_exists.symm

theorem splitFirst_eq_none_iff {separator text : Text} (nonempty : separator ≠ []) :
    splitFirst separator text = none ↔ ¬separator <:+: text := by
  induction text with
  | nil => simp [splitFirst, nonempty]
  | cons c rest induction =>
      rw [List.infix_cons_iff, not_or, ← induction, splitFirst]
      cases here : separator.isPrefixOf? (c :: rest) with
      | some after =>
          have begins : separator <+: c :: rest :=
            ⟨after, List.isPrefixOf?_eq_some_iff_append_eq.mp here⟩
          simp [begins]
      | none =>
          have elsewhere : ¬separator <+: c :: rest := fun ⟨after, split⟩ => by
            rw [List.isPrefixOf?_eq_some_iff_append_eq.mpr split] at here
            contradiction
          simp [elsewhere]

/-- The last occurrence of a text is the one after whose first character there is no other. -/
theorem splitLast_eq_some_iff {first : Char} {others text left right : Text} :
    splitLast (first :: others) text = some (left, right) ↔
      text = left ++ first :: others ++ right ∧ ¬first :: others <:+: others ++ right := by
  have nonempty : first :: others ≠ [] := List.cons_ne_nil first others
  constructor
  · intro split
    refine ⟨splitLast_eq_some split, ?_⟩
    induction text generalizing left with
    | nil => simp [splitLast] at split
    | cons c rest induction =>
        rw [splitLast] at split
        cases later : splitLast (first :: others) rest with
        | some sides =>
            rw [later] at split
            cases split
            exact induction later
        | none =>
            rw [later] at split
            obtain ⟨after, here, equal⟩ := Option.map_eq_some_iff.mp split
            cases equal
            have text := List.isPrefixOf?_eq_some_iff_append_eq.mp here
            rw [List.cons_append, List.cons.injEq] at text
            rw [text.2]
            exact (splitLast_eq_none_iff nonempty).mp later
  · rintro ⟨rfl, last⟩
    induction left with
    | nil =>
        have here : (first :: others).isPrefixOf? (first :: (others ++ right)) = some right :=
          List.isPrefixOf?_eq_some_iff_append_eq.mpr rfl
        rw [List.nil_append, List.cons_append, splitLast, (splitLast_eq_none_iff nonempty).mpr last,
          here]
        rfl
    | cons c left induction => rw [List.cons_append, List.cons_append, splitLast, induction]

theorem splitFirst_eq_some_iff {others text left right : Text} {last : Char} :
    splitFirst (others ++ [last]) text = some (left, right) ↔
      text = left ++ (others ++ [last]) ++ right ∧ ¬others ++ [last] <:+: left ++ others := by
  have longer : ¬(others ++ [last]).length ≤ others.length := by simp
  constructor
  · intro split
    refine ⟨splitFirst_eq_some split, ?_⟩
    induction text generalizing left with
    | nil => simp [splitFirst] at split
    | cons c rest induction =>
        rw [splitFirst] at split
        cases here : (others ++ [last]).isPrefixOf? (c :: rest) with
        | some after =>
            rw [here] at split
            cases split
            exact fun occurs => longer occurs.length_le
        | none =>
            rw [here] at split
            obtain ⟨sides, later, equal⟩ := Option.map_eq_some_iff.mp split
            cases equal
            rw [List.cons_append, List.infix_cons_iff, not_or]
            refine ⟨fun begins => ?_, induction later⟩
            have whole : c :: (sides.1 ++ others) <+: c :: rest :=
              ⟨last :: sides.2, by rw [splitFirst_eq_some later]; simp⟩
            obtain ⟨after, split⟩ := begins.trans whole
            rw [List.isPrefixOf?_eq_some_iff_append_eq.mpr split] at here
            contradiction
  · rintro ⟨rfl, first⟩
    induction left with
    | nil =>
        have here : (others ++ [last]).isPrefixOf? (others ++ [last] ++ right) = some right :=
          List.isPrefixOf?_eq_some_iff_append_eq.mpr rfl
        obtain ⟨c, rest, split⟩ := List.exists_cons_of_ne_nil
          (List.append_ne_nil_of_left_ne_nil (List.concat_ne_nil last others) right)
        rw [List.nil_append]
        rw [split] at here ⊢
        rw [splitFirst, here]
    | cons c left induction =>
        rw [List.cons_append, List.infix_cons_iff, not_or] at first
        have elsewhere :
            (others ++ [last]).isPrefixOf? (c :: (left ++ (others ++ [last]) ++ right)) = none := by
          rw [Option.eq_none_iff_forall_ne_some]
          intro after here
          have begins : others ++ [last] <+: c :: (left ++ (others ++ [last]) ++ right) :=
            ⟨after, List.isPrefixOf?_eq_some_iff_append_eq.mp here⟩
          have enough : c :: (left ++ others) <+: c :: (left ++ (others ++ [last]) ++ right) :=
            ⟨last :: right, by simp⟩
          exact first.1 (List.prefix_of_prefix_length_le begins enough (by simp))
        rw [List.cons_append, List.cons_append, splitFirst, elsewhere, induction first.2]
        rfl

section Separators

variable {a b : Char} {text left right : Text}

theorem splitLast_pair_eq_some_iff (distinct : a ≠ b) :
    splitLast [a, b] text = some (left, right) ↔
      text = left ++ [a, b] ++ right ∧ ¬[a, b] <:+: right := by
  have apart : [a, b] <:+: [b] ++ right ↔ [a, b] <:+: right := by
    simp [List.infix_cons_iff, distinct]
  rw [splitLast_eq_some_iff, apart]

theorem splitFirst_pair_eq_some_iff (distinct : a ≠ b) :
    splitFirst [a, b] text = some (left, right) ↔
      text = left ++ [a, b] ++ right ∧ ¬[a, b] <:+: left := by
  have apart : [a] ++ [b] <:+: left ++ [a] ↔ [a, b] <:+: left := by
    rw [List.infix_concat_iff, or_iff_right]
    · rfl
    · intro ends
      have last := ends.getLast (by simp)
      simp [distinct.symm] at last
  rw [← apart]
  exact @splitFirst_eq_some_iff [a] text left right b

end Separators

end Text

end PassageMarkup
