import PassageMarkup.Proofs.Text

/-!
# Runs of backticks

A run is as many backticks as stand beside each other, so two runs in one text never overlap.  A
place is clear when it is not in the middle of a run.
-/

namespace PassageMarkup

namespace Text

variable {source part left right : Text} {start place length : Nat}

/-- A whole run of backticks begins at an offset of a text. -/
structure IsRun (text : Text) (length start : Nat) : Prop where
  positive : 0 < length
  inside : ∀ place, start ≤ place → place < start + length → text[place]? = some '\x60'
  before : ∀ place, place + 1 = start → text[place]? ≠ some '\x60'
  after : text[start + length]? ≠ some '\x60'

/-- An offset of a text is not between two backticks. -/
def Clear (text : Text) (place : Nat) : Prop :=
  ∀ before, before + 1 = place → text[before]? = some '\x60' → text[place]? ≠ some '\x60'

theorem clear_zero (text : Text) : text.Clear 0 := by
  intro before next
  omega

theorem clear_of_ne (differs : source[place]? ≠ some '\x60') : source.Clear place :=
  fun _ _ _ => differs

theorem clear_succ_of_ne (differs : source[place]? ≠ some '\x60') : source.Clear (place + 1) := by
  intro before next backtick
  cases Nat.add_right_cancel next
  exact absurd backtick differs

theorem clear_length (text : Text) : text.Clear text.length :=
  clear_of_ne (by simp)

theorem clear_append_of_head? (differs : right.head? ≠ some '\x60') :
    (left ++ right).Clear left.length := by
  apply clear_of_ne
  rw [List.getElem?_append_right (Nat.le_refl _), Nat.sub_self, ← List.head?_eq_getElem?]
  exact differs

theorem clear_append_of_getLast? (differs : left.getLast? ≠ some '\x60') :
    (left ++ right).Clear left.length := by
  intro before next backtick
  rw [List.getElem?_append_left (by omega)] at backtick
  rw [List.getLast?_eq_getElem?, ← next, Nat.add_sub_cancel] at differs
  exact absurd backtick differs

/-- What is clear in a part is clear where the part stands, if the end of the part is. -/
theorem Stands.clear (stands : Stands source start part) (positive : 0 < place)
    (within : place ≤ part.length) (last : source.Clear (start + part.length))
    (clear : part.Clear place) : source.Clear (start + place) := by
  rcases Nat.lt_or_eq_of_le within with inside | rfl
  · intro before next backtick
    have same : before = start + (place - 1) := by omega
    rw [same, stands.getElem?_eq (by omega)] at backtick
    rw [stands.getElem?_eq inside]
    exact clear (place - 1) (by omega) backtick
  · exact last

theorem clear_between {before after : Text} (opens : before.getLast? ≠ some '\x60')
    (closes : after.head? ≠ some '\x60') (within : place ≤ part.length) (clear : part.Clear place) :
    (before ++ part ++ after).Clear (before.length + place) := by
  rcases Nat.eq_zero_or_pos place with rfl | positive
  · rw [List.append_assoc]
    exact clear_append_of_getLast? opens
  · have stands : Stands (before ++ part ++ after) before.length part := ⟨before, after, rfl, rfl⟩
    apply stands.clear positive within _ clear
    rw [← List.length_append]
    exact clear_append_of_head? closes

theorem isRun_of_clear (stands : Stands source start (List.replicate length '\x60'))
    (positive : 0 < length) (first : source.Clear start) (last : source.Clear (start + length)) :
    source.IsRun length start := by
  have inside : ∀ place, start ≤ place → place < start + length →
      source[place]? = some '\x60' := by
    intro place lower upper
    have same : place = start + (place - start) := by omega
    rw [same, stands.getElem?_eq (by simp; omega), List.getElem?_replicate, if_pos (by omega)]
  refine ⟨positive, inside, ?_, ?_⟩
  · intro place next backtick
    exact first place next backtick (inside start (Nat.le_refl _) (by omega))
  · exact last (start + length - 1) (by omega) (inside _ (by omega) (by omega))

namespace IsRun

variable {other next : Nat}

private theorem start_eq (run : source.IsRun length start) (later : source.IsRun other next)
    (lower : start ≤ next) (upper : next < start + length) : next = start := by
  rcases Nat.lt_or_eq_of_le lower with beyond | same
  · exact absurd (run.inside (next - 1) (by omega) (by omega)) (later.before _ (by omega))
  · exact same.symm

private theorem length_le (run : source.IsRun length start) (same : source.IsRun other start) :
    length ≤ other := by
  rw [← Nat.not_lt]
  intro longer
  exact same.after (run.inside _ (Nat.le_add_right _ _) (by omega))

theorem eq_of_mem (run : source.IsRun length start) (later : source.IsRun other next)
    (lower : start ≤ next) (upper : next < start + length) : other = length := by
  cases run.start_eq later lower upper
  exact Nat.le_antisymm (later.length_le run) (run.length_le later)

/-- A run inside a part that neither begins nor ends with a backtick is a run of the text. -/
theorem of_part (stands : Stands source start part) (first : part.head? ≠ some '\x60')
    (last : part.getLast? ≠ some '\x60') (run : part.IsRun length place) :
    source.IsRun length (start + place) ∧ place + length ≤ part.length := by
  have positive := run.positive
  have within : place + length ≤ part.length := by
    have final := run.inside (place + length - 1) (by omega) (by omega)
    have bounded := (List.getElem?_eq_some_iff.mp final).1
    omega
  have notFirst : place ≠ 0 := by
    rintro rfl
    rw [List.head?_eq_getElem?] at first
    exact first (run.inside 0 (Nat.le_refl 0) (by omega))
  have notLast : place + length ≠ part.length := by
    intro same
    rw [List.getLast?_eq_getElem?, ← same] at last
    exact last (run.inside _ (by omega) (by omega))
  refine ⟨⟨positive, ?_, ?_, ?_⟩, within⟩
  · intro index lower upper
    have same : index = start + (index - start) := by omega
    rw [same, stands.getElem?_eq (by omega)]
    exact run.inside _ (by omega) (by omega)
  · intro index next
    have same : index = start + (place - 1) := by omega
    rw [same, stands.getElem?_eq (by omega)]
    exact run.before _ (by omega)
  · rw [Nat.add_assoc, stands.getElem?_eq (by omega)]
    exact run.after

end IsRun

end Text

end PassageMarkup
