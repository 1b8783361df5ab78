import PassageMarkup.Regex.Source

/-!
# Written expressions stay together

A sign of repetition applies to the group right before it.  A complete expression closes all its
groups and classes itself, so a group around it ends where it was written to end, and what comes
next applies to the whole of it.
-/

namespace PassageMarkup

namespace RegexSource

/-- A place in a written expression: inside some number of groups, and perhaps inside a class or
right after a backslash. -/
structure Place where
  groups : Nat
  inClass : Bool
  escaped : Bool

/-- The place after one more character, unless that ends a group that was not begun or begins a
class inside a class. -/
def Place.next (place : Place) (c : Char) : Option Place :=
  if place.escaped then some { place with escaped := false }
  else if c = '\\' then some { place with escaped := true }
  else if place.inClass then
    if c = '[' then none else some { place with inClass := c ≠ ']' }
  else
    match c, place.groups with
    | '(', groups => some { place with groups := groups + 1 }
    | ')', 0 => none
    | ')', groups + 1 => some { place with groups }
    | '[', _ => some { place with inClass := true }
    | _, _ => some place

def Place.walk (place : Place) (text : Text) : Option Place :=
  text.foldlM Place.next place

theorem Place.walk_append (place : Place) (text rest : Text) :
    place.walk (text ++ rest) = (place.walk text).bind fun reached => reached.walk rest :=
  List.foldlM_append

/-- An expression that leads back to its place, inside any number of groups. -/
def Complete (text : Text) : Prop :=
  ∀ groups, Place.walk ⟨groups, false, false⟩ text = some ⟨groups, false, false⟩

/-- The members of a class, with a backslash before each bracket. -/
inductive Listed : Text → Prop where
  | nil : Listed []
  | plain {c : Char} {rest : Text} :
      c ∉ ['\\', '[', ']'] → Listed rest → Listed (c :: rest)
  | escaped {c : Char} {rest : Text} : Listed rest → Listed ('\\' :: c :: rest)

theorem Listed.walk {chars : Text} (listed : Listed chars) (groups : Nat) :
    Place.walk ⟨groups, true, false⟩ chars = some ⟨groups, true, false⟩ := by
  induction listed with
  | nil => rfl
  | @plain c rest plain _ induction =>
      have stays : Place.next ⟨groups, true, false⟩ c = some ⟨groups, true, false⟩ := by
        simp_all [Place.next]
      rw [Place.walk, List.foldlM_cons, stays]
      exact induction
  | escaped _ induction => exact induction

namespace Complete

variable {part inner other rest after chars : Text} {parts : List Text}

theorem nil : Complete [] :=
  fun _ => rfl

theorem plain {c : Char} (plain : c ∉ ['\\', '(', ')', '[']) : Complete [c] := by
  intro groups
  simp only [List.mem_cons, List.not_mem_nil, not_or] at plain
  simp [Place.walk, Place.next, plain]

theorem append (complete : Complete part) (more : Complete rest) : Complete (part ++ rest) := by
  intro groups
  rw [Place.walk_append, complete groups]
  exact more groups

theorem group (inside : Complete inner) : Complete ('(' :: (inner ++ [')'])) := by
  intro groups
  have entered : Place.walk ⟨groups, false, false⟩ ('(' :: (inner ++ [')'])) =
      Place.walk ⟨groups + 1, false, false⟩ (inner ++ [')']) := rfl
  rw [entered, Place.walk_append, inside]
  rfl

theorem intercalate (complete : ∀ part ∈ parts, Complete part) :
    Complete (['|'].intercalate parts) := by
  induction parts with
  | nil => exact nil
  | cons part parts induction =>
      rw [List.forall_mem_cons] at complete
      cases parts with
      | nil => simpa using complete.1
      | cons next parts =>
          rw [List.intercalate_cons_cons]
          exact (complete.1.append (plain (by decide))).append (induction complete.2)

theorem not_append_end (complete : Complete inner) : ¬Complete (inner ++ ')' :: rest) := by
  intro longer
  have walk := longer 0
  rw [Place.walk_append, complete 0] at walk
  contradiction

/-- A group around a complete expression ends in one place. -/
theorem end_unique (complete : Complete inner) (otherComplete : Complete other)
    (same : inner ++ ')' :: rest = other ++ ')' :: after) : inner = other ∧ rest = after := by
  rcases List.append_eq_append_iff.mp same with ⟨between, longer, ends⟩ | ⟨between, longer, ends⟩
  · cases between with
    | nil =>
        rw [List.append_nil] at longer
        exact ⟨longer.symm, List.tail_eq_of_cons_eq ends⟩
    | cons c between =>
        obtain ⟨rfl, _⟩ := List.cons_eq_cons.mp ends
        rw [longer] at otherComplete
        exact absurd otherComplete complete.not_append_end
  · cases between with
    | nil =>
        rw [List.append_nil] at longer
        exact ⟨longer, (List.tail_eq_of_cons_eq ends).symm⟩
    | cons c between =>
        obtain ⟨rfl, _⟩ := List.cons_eq_cons.mp ends
        rw [longer] at complete
        exact absurd complete otherComplete.not_append_end

end Complete

variable {part inner rest after chars : Text} {parts : List Text}

theorem complete_alternatives (complete : ∀ part ∈ parts, Complete part) :
    Complete ("?:".toList ++ ['|'].intercalate parts) :=
  ((Complete.plain (by decide)).append (Complete.plain (by decide))).append (.intercalate complete)

theorem either_complete (complete : ∀ part ∈ parts, Complete part) : Complete (either parts) :=
  (complete_alternatives complete).group

theorem sign_complete (complete : Complete part) :
    Complete (opt part) ∧ Complete (many part) ∧ Complete (many1 part) ∧ Complete (word part) := by
  have group : Complete (either [part]) := either_complete (List.forall_mem_singleton.mpr complete)
  have sign : ∀ sign, Complete sign → Complete (either [part] ++ sign) := fun _ => group.append
  exact ⟨sign _ fun _ => rfl, sign _ fun _ => rfl, sign _ fun _ => rfl, sign _ fun _ => rfl⟩

theorem notChars_complete (listed : Listed chars) : Complete (notChars chars) := by
  intro groups
  have entered : Place.walk ⟨groups, false, false⟩ (notChars chars) =
      Place.walk ⟨groups, true, false⟩ (chars ++ [']']) := rfl
  rw [entered, Place.walk_append, listed.walk]
  rfl

/-- What comes after alternatives applies to all of them: no group that begins with them ends
anywhere else. -/
theorem either_group (complete : ∀ part ∈ parts, Complete part) (inside : Complete inner)
    (group : either parts ++ rest = '(' :: (inner ++ ')' :: after)) :
    inner = "?:".toList ++ ['|'].intercalate parts ∧ after = rest := by
  have same : inner ++ ')' :: after = "?:".toList ++ ['|'].intercalate parts ++ ')' :: rest := by
    simpa [either] using group.symm
  exact inside.end_unique (complete_alternatives complete) same

/-- The sign after a part that may be missing, that is repeated or that ends a word applies to the
whole part. -/
theorem sign_group (complete : Complete part) (inside : Complete inner) :
    (opt part = '(' :: (inner ++ ')' :: after) → inner = "?:".toList ++ part ∧ after = ['?']) ∧
      (many part = '(' :: (inner ++ ')' :: after) → inner = "?:".toList ++ part ∧ after = ['*']) ∧
      (many1 part = '(' :: (inner ++ ')' :: after) → inner = "?:".toList ++ part ∧ after = ['+']) ∧
      (word part = '(' :: (inner ++ ')' :: after) →
        inner = "?:".toList ++ part ∧ after = "\\b".toList) := by
  have single : ∀ only ∈ [part], Complete only := List.forall_mem_singleton.mpr complete
  have alone : ['|'].intercalate [part] = part := by simp
  have sign : ∀ sign, either [part] ++ sign = '(' :: (inner ++ ')' :: after) →
      inner = "?:".toList ++ part ∧ after = sign := by
    intro sign group
    rw [← alone]
    exact either_group single inside group
  exact ⟨sign _, sign _, sign _, sign _⟩

/-- Around a part that ends a group by itself the sign applies to less. -/
example : many "a)(b".toList = '(' :: ("?:a".toList ++ ')' :: "(b)*".toList) := by
  decide

end RegexSource

end PassageMarkup
