import PassageMarkup.Text.LowerCase
import PassageMarkup.Text.Quoted

/-!
# Texts without case

A text loses the case of its ASCII letters when each capital becomes a small letter.  What does not
tell a capital from its small letter says the same of both texts: the lower case of a text, where it
is split at marks, and how it is quoted.
-/

namespace PassageMarkup

variable {α : Type}

def capitals : Text :=
  ['A', 'B', 'C', 'D', 'E', 'F', 'G', 'H', 'I', 'J', 'K', 'L', 'M', 'N', 'O', 'P', 'Q', 'R',
    'S', 'T', 'U', 'V', 'W', 'X', 'Y', 'Z']

/-- Capital letters and their small letters look the same in a view of characters. -/
def IgnoresCase (view : Char → α) : Prop :=
  ∀ c : Char, view c.toLower = view c

theorem toLower_eq_or_mem_capitals (c : Char) : c.toLower = c ∨ c ∈ capitals := by
  by_cases upper : 'A'.val ≤ c.val ∧ c.val ≤ 'Z'.val
  · right
    have listed : ∀ i < 26, Char.ofNat (65 + i) ∈ capitals := by decide
    have lower : 65 ≤ c.toNat := UInt32.le_iff_toNat_le.mp upper.1
    have higher : c.toNat ≤ 90 := UInt32.le_iff_toNat_le.mp upper.2
    have code : Char.ofNat (65 + (c.toNat - 65)) = c := by
      rw [Nat.add_sub_cancel' lower]
      exact Char.ofNat_toNat c
    rw [← code]
    exact listed _ (by omega)
  · exact .inl (dif_neg upper)

/-- Only capital letters need to be looked at. -/
theorem IgnoresCase.of_capitals [DecidableEq α] {view : Char → α}
    (same : (capitals.all fun c => view c.toLower = view c) = true) : IgnoresCase view := by
  intro c
  rcases toLower_eq_or_mem_capitals c with small | capital
  · rw [small]
  · simpa using List.all_eq_true.mp same c capital

theorem toLower_eq_self {view : Char → Bool} {c : Char}
    (small : (capitals.all fun c => !view c) = true) (holds : view c = true) : c.toLower = c := by
  rcases toLower_eq_or_mem_capitals c with same | capital
  · exact same
  · have fails := List.all_eq_true.mp small c capital
    rw [holds] at fails
    exact absurd fails (by decide)

theorem IgnoresCase.comp_toLower {view : Char → α} (ignores : IgnoresCase view) :
    view ∘ Char.toLower = view :=
  funext ignores

theorem toLower_ignoresCase : IgnoresCase Char.toLower :=
  .of_capitals (by decide)

theorem beq_ignoresCase {c : Char} (noLetter : c.isAlpha = false) : IgnoresCase (c == ·) := by
  have letters : (capitals.all fun c => c.toLower.isAlpha && c.isAlpha) = true := by decide
  have differs : ∀ d : Char, d.isAlpha = true → (c == d) = false := by
    intro d letter
    rw [beq_eq_false_iff_ne]
    rintro rfl
    rw [letter] at noLetter
    exact Bool.noConfusion noLetter
  intro d
  rcases toLower_eq_or_mem_capitals d with small | capital
  · rw [small]
  · have both := List.all_eq_true.mp letters d capital
    rw [Bool.and_eq_true] at both
    exact (differs _ both.1).trans (differs _ both.2).symm

namespace Text

/-- A text with small letters of ASCII for capital ones. -/
def uncased (text : Text) : Text :=
  text.map Char.toLower

/-- Tells whether there are no letters of ASCII in a text. -/
def isLetterless (text : Text) : Bool :=
  text.all fun c => !c.isAlpha

variable {text separator : Text}

@[simp] theorem uncased_nil : uncased [] = [] :=
  rfl

@[simp] theorem uncased_cons (c : Char) (rest : Text) :
    uncased (c :: rest) = c.toLower :: uncased rest :=
  rfl

@[simp] theorem length_uncased (text : Text) : (uncased text).length = text.length :=
  List.length_map _

@[simp] theorem isEmpty_uncased (text : Text) : (uncased text).isEmpty = text.isEmpty :=
  List.isEmpty_map

@[simp] theorem uncased_append (left right : Text) :
    uncased (left ++ right) = uncased left ++ uncased right :=
  List.map_append

@[simp] theorem uncased_uncased (text : Text) : uncased (uncased text) = uncased text := by
  rw [uncased, uncased, List.map_map, toLower_ignoresCase.comp_toLower]

theorem uncased_reverse (text : Text) : uncased text.reverse = (uncased text).reverse :=
  List.map_reverse

theorem uncased_take (n : Nat) (text : Text) : uncased (text.take n) = (uncased text).take n :=
  List.map_take

theorem uncased_drop (n : Nat) (text : Text) : uncased (text.drop n) = (uncased text).drop n :=
  List.map_drop

theorem uncased_slice (text : Text) (span : Span) :
    uncased (text.slice span) = (uncased text).slice span := by
  rw [slice, slice, uncased_take, uncased_drop]

theorem uncased_takeWhile {view : Char → Bool} (ignores : IgnoresCase view) (text : Text) :
    uncased (text.takeWhile view) = (uncased text).takeWhile view := by
  rw [uncased, uncased, List.takeWhile_map, ignores.comp_toLower]

theorem uncased_dropWhile {view : Char → Bool} (ignores : IgnoresCase view) (text : Text) :
    uncased (text.dropWhile view) = (uncased text).dropWhile view := by
  rw [uncased, uncased, List.dropWhile_map, ignores.comp_toLower]

theorem uncased_of_all {view : Char → Bool} (small : (capitals.all fun c => !view c) = true)
    (all : ∀ c ∈ text, view c = true) : uncased text = text := by
  have same : ∀ c ∈ text, c.toLower = id c := fun c member => toLower_eq_self small (all c member)
  rw [uncased, List.map_congr_left same, List.map_id]

theorem uncased_eq_self (letterless : text.isLetterless = true) : uncased text = text :=
  uncased_of_all (by decide) (List.all_eq_true.mp letterless)

theorem isLetterless_uncased (text : Text) : (uncased text).isLetterless = text.isLetterless := by
  have letters : IgnoresCase fun c => !c.isAlpha := .of_capitals (by decide)
  rw [isLetterless, uncased, List.all_map, letters.comp_toLower]
  rfl

theorem isPrefixOf?_uncased (letterless : separator.isLetterless = true) (text : Text) :
    separator.isPrefixOf? (uncased text) = (separator.isPrefixOf? text).map uncased := by
  induction separator generalizing text with
  | nil => rfl
  | cons mark others induction =>
      rw [isLetterless, List.all_cons, Bool.and_eq_true, Bool.not_eq_true'] at letterless
      cases text with
      | nil => rfl
      | cons c rest =>
          have unfolded (c : Char) (rest : Text) : (mark :: others).isPrefixOf? (c :: rest) =
              if mark == c then others.isPrefixOf? rest else none :=
            rfl
          have same : (mark == c.toLower) = (mark == c) := beq_ignoresCase letterless.1 c
          rw [uncased_cons, unfolded, unfolded, same]
          split
          · exact induction letterless.2 rest
          · rfl

theorem splitFirst_uncased (letterless : separator.isLetterless = true) (text : Text) :
    splitFirst separator (uncased text) =
      (splitFirst separator text).map (Prod.map uncased uncased) := by
  induction text with
  | nil => rfl
  | cons c rest induction =>
      rw [uncased_cons, splitFirst, splitFirst, ← uncased_cons, isPrefixOf?_uncased letterless,
        induction]
      cases separator.isPrefixOf? (c :: rest) with
      | some after => rfl
      | none => cases splitFirst separator rest <;> rfl

theorem splitLast_uncased (letterless : separator.isLetterless = true) (text : Text) :
    splitLast separator (uncased text) =
      (splitLast separator text).map (Prod.map uncased uncased) := by
  induction text with
  | nil => rfl
  | cons c rest induction =>
      rw [uncased_cons, splitLast, splitLast, ← uncased_cons, isPrefixOf?_uncased letterless,
        induction]
      cases splitLast separator rest with
      | some parts => rfl
      | none => cases separator.isPrefixOf? (c :: rest) <;> rfl

theorem meetsCased_uncased (text : Text) : meetsCased (uncased text) = meetsCased text := by
  have ignorable : IgnoresCase Unicode.isCaseIgnorable := .of_capitals (by decide +kernel)
  have cased : IgnoresCase Unicode.isCased := .of_capitals (by decide +kernel)
  rw [meetsCased, meetsCased, ← uncased_dropWhile ignorable]
  cases text.dropWhile Unicode.isCaseIgnorable with
  | nil => rfl
  | cons c rest => exact cased c

theorem lowerAfter_uncased (before text : Text) :
    lowerAfter (uncased before) (uncased text) = lowerAfter before text := by
  have sigma : IgnoresCase fun c => decide (c = '\u03a3') := .of_capitals (by decide)
  have lower : IgnoresCase Unicode.lower := .of_capitals (by decide +kernel)
  induction text generalizing before with
  | nil => rfl
  | cons c rest induction =>
      have isSigma : c.toLower = '\u03a3' ↔ c = '\u03a3' := by
        simpa using sigma c
      rw [uncased_cons, lowerAfter, lowerAfter, ← uncased_cons, induction, lowerSigma, lowerSigma,
        meetsCased_uncased, meetsCased_uncased, lower c]
      simp only [isSigma]

theorem lowerCase_uncased (text : Text) : lowerCase (uncased text) = lowerCase text :=
  lowerAfter_uncased [] text

theorem uncased_quoted (text : Text) : uncased (quoted (uncased text)) = uncased (quoted text) := by
  have shown : IgnoresCase fun c => uncased (quotedChar c) := .of_capitals (by decide +kernel)
  have content : uncased ((uncased text).flatMap quotedChar) = uncased (text.flatMap quotedChar) := by
    induction text with
    | nil => rfl
    | cons c rest induction =>
        rw [uncased_cons, List.flatMap_cons, List.flatMap_cons, uncased_append, uncased_append,
          induction]
        exact congrArg (· ++ _) (shown c)
  simp only [quoted, uncased_append, uncased_cons, List.cons_append, content]

end Text

end PassageMarkup
