import PassageMarkup.Proofs.Scan.Horizon
import PassageMarkup.Scan.Sightings

/-!
# What sightings tell

A closer that was seen at a place occurs there, and one that is gone occurs no more.  Both stay true
while the scan moves on, so a lookup tells whether the closer is ahead, whenever it was last looked
for.
-/

namespace PassageMarkup

namespace Text

variable {needle text : Text} {offset : Nat}

theorem firstOccurrence_eq_none (nonempty : needle ≠ [])
    (none : firstOccurrence needle text = none) : ¬needle <:+: text := by
  induction text with
  | nil => simpa using nonempty
  | cons c rest induction =>
      rw [firstOccurrence] at none
      split at none
      · contradiction
      · rename_i notHere
        rw [List.infix_cons_iff, not_or]
        exact ⟨mt List.isPrefixOf_iff_prefix.mpr notHere, induction (Option.map_eq_none_iff.mp none)⟩

theorem firstOccurrence_eq_some (some : firstOccurrence needle text = some offset) :
    needle <+: text.drop offset := by
  induction text generalizing offset with
  | nil => contradiction
  | cons c rest induction =>
      rw [firstOccurrence] at some
      split at some
      · rename_i here
        cases some
        exact List.isPrefixOf_iff_prefix.mp here
      · obtain ⟨later, found, rfl⟩ := Option.map_eq_some_iff.mp some
        exact induction found

theorem infix_of_prefix_drop {place : Nat} (later : place ≤ offset)
    (occurs : needle <+: text.drop offset) : needle <:+: text.drop place := by
  obtain ⟨gap, rfl⟩ := Nat.exists_eq_add_of_le later
  rw [← List.drop_drop] at occurs
  exact occurs.isInfix.trans (List.drop_suffix gap _).isInfix

end Text

namespace Sightings

variable {text : Text} {place : Nat} {known : Sightings} {closer : Closer}

/-- What can be known of the closers at a place of a text, after any lookups on the way to it. -/
inductive Reached (text : Text) : Nat → Sightings → Prop where
  | start : Reached text 0 .start
  | lookUp {place : Nat} {known : Sightings} (closer : Closer) :
      Reached text place known →
      Reached text place (known.lookUp closer place (text.drop place)).2
  | move {place later : Nat} {known : Sightings} :
      Reached text place known →
      place ≤ later →
      Reached text later known

/-- What is known of a closer at a place of a text is true. -/
def TrueAt (text : Text) (place : Nat) (closer : Closer) : Sighting → Prop
  | .unknown => True
  | .gone => ¬closer.text <:+: text.drop place
  | .seen found => closer.text <+: text.drop found

theorem TrueAt.move {later : Nat} {sighting : Sighting} (truth : TrueAt text place closer sighting)
    (further : place ≤ later) : TrueAt text later closer sighting := by
  cases sighting with
  | unknown => trivial
  | gone =>
      intro occurs
      obtain ⟨gap, rfl⟩ := Nat.exists_eq_add_of_le further
      rw [← List.drop_drop] at occurs
      exact truth (occurs.trans (List.drop_suffix gap _).isInfix)
  | seen found => exact truth

theorem TrueAt.note {sighting : Sighting} (truth : ∀ other, TrueAt text place other (known other))
    (noted : TrueAt text place closer sighting) (other : Closer) :
    TrueAt text place other (known.note closer sighting other) := by
  unfold Sightings.note
  split
  · rename_i same
    rw [same]
    exact noted
  · exact truth other

theorem search_exact (truth : ∀ other, TrueAt text place other (known other)) (closer : Closer) :
    ((known.search closer place (text.drop place)).1 = true ↔
        closer.text <:+: text.drop place) ∧
      ∀ other, TrueAt text place other ((known.search closer place (text.drop place)).2 other) := by
  unfold search
  cases result : Text.firstOccurrence closer.text (text.drop place) with
  | none =>
      have gone := Text.firstOccurrence_eq_none closer.text_ne_nil result
      exact ⟨by simpa using gone, TrueAt.note truth gone⟩
  | some offset =>
      have here := Text.firstOccurrence_eq_some result
      have ahead := here.isInfix.trans (List.drop_suffix offset _).isInfix
      rw [List.drop_drop] at here
      exact ⟨by simpa using ahead, TrueAt.note truth here⟩

theorem lookUp_exact (truth : ∀ other, TrueAt text place other (known other)) (closer : Closer) :
    ((known.lookUp closer place (text.drop place)).1 = true ↔
        closer.text <:+: text.drop place) ∧
      ∀ other, TrueAt text place other ((known.lookUp closer place (text.drop place)).2 other) := by
  have here := truth closer
  unfold lookUp
  split
  · rename_i gone
    rw [gone] at here
    have absent : ¬closer.text <:+: text.drop place := here
    exact ⟨by simpa using absent, truth⟩
  · rename_i found seen
    rw [seen] at here
    split
    · rename_i further
      exact ⟨by simpa using Text.infix_of_prefix_drop further here, truth⟩
    · exact search_exact truth closer
  · exact search_exact truth closer

theorem Reached.trueAt (reached : Reached text place known) (closer : Closer) :
    TrueAt text place closer (known closer) := by
  induction reached generalizing closer with
  | start => trivial
  | lookUp looked _ induction => exact (lookUp_exact induction looked).2 closer
  | move _ further induction => exact (induction closer).move further

/-- Whatever was looked for before and however far the scan has moved since, a lookup tells exactly
whether a closer is ahead. -/
theorem Reached.lookUp_iff (reached : Reached text place known) (closer : Closer) :
    (known.lookUp closer place (text.drop place)).1 = true ↔
      closer.text <:+: text.drop place :=
  (lookUp_exact reached.trueAt closer).1

/-- Past the first of two closers that overlap, the second one is still found, and nothing past
that. -/
example :
    let first := (start.lookUp .linkEnd 0 "a]]]".toList).2
    let second := (first.lookUp .linkEnd 2 "]]".toList).2
    first .linkEnd = .seen 1 ∧ second .linkEnd = .seen 2 ∧
      (second.lookUp .linkEnd 3 "]".toList).1 = false := by
  decide

end Sightings

end PassageMarkup
