import PassageMarkup.Proofs.Regex.Starts
import PassageMarkup.Proofs.Text.Uncased

/-!
# Case folding and lower case

Expressions compare letters by their simple case folding, and names become lower case.  On words of
letters that fold into ASCII both are the same for every letter but the long s, which folds to `s`
although it is in lower case already.
-/

namespace PassageMarkup

open Regex

/-- Tells whether a character folds to a small letter of ASCII. -/
def foldsToLetter (c : Char) : Bool :=
  (foldCase c).isLower

namespace Text

variable {text : Text}

def folded (text : Text) : Text :=
  text.map foldCase

/-- The letter that folds to `s` but is its own lower case. -/
def longS : Char :=
  '\u017f'

end Text

open Text

theorem exists_small_letter {c : Char} (small : c.isLower = true) :
    ∃ i < 26, c = Char.ofNat (97 + i) := by
  have bounds : 97 ≤ c.val ∧ c.val ≤ 122 := by
    have both : (decide (97 ≤ c.val) && decide (c.val ≤ 122)) = true := small
    simpa using both
  have first : 97 ≤ c.toNat := UInt32.le_iff_toNat_le.mp bounds.1
  have last : c.toNat ≤ 122 := UInt32.le_iff_toNat_le.mp bounds.2
  refine ⟨c.toNat - 97, by omega, ?_⟩
  rw [Nat.add_sub_cancel' first]
  exact (Char.ofNat_toNat c).symm

theorem foldCase_of_isLower {c : Char} (small : c.isLower = true) : foldCase c = c := by
  obtain ⟨i, bounded, code⟩ := exists_small_letter small
  have all : ∀ i < 26, foldCase (Char.ofNat (97 + i)) = Char.ofNat (97 + i) := by decide
  rw [code]
  exact all i bounded

/-- The lower case of a letter is what it folds to, unless it is the long s. -/
theorem lower_of_foldsToLetter {c : Char} (letter : foldsToLetter c = true) :
    Unicode.lower c = [if c = longS then longS else foldCase c] := by
  by_cases long : c = longS
  · rw [if_pos long, long]
    decide +kernel
  · rw [if_neg long]
    by_cases kelvin : c = '\u212a'
    · rw [kelvin]
      decide +kernel
    · have same : foldCase c = c.toLower :=
        (if_neg long).trans (if_neg kelvin)
      rcases toLower_eq_or_mem_capitals c with small | capital
      · rw [foldsToLetter, same, small] at letter
        obtain ⟨i, bounded, code⟩ := exists_small_letter letter
        have all : ∀ i < 26, Unicode.lower (Char.ofNat (97 + i)) = [Char.ofNat (97 + i)] := by
          decide +kernel
        rw [same, small, code]
        exact all i bounded
      · have all : (capitals.all fun c => Unicode.lower c = [c.toLower]) = true := by
          decide +kernel
        rw [same]
        exact of_decide_eq_true (List.all_eq_true.mp all c capital)

namespace Text

variable {text before : Text}

theorem lowerAfter_of_letters (letters : text.all foldsToLetter = true) :
    lowerAfter before text = text.map fun c => if c = longS then longS else foldCase c := by
  induction text generalizing before with
  | nil => rfl
  | cons c rest induction =>
      rw [List.all_cons, Bool.and_eq_true] at letters
      have noSigma : c ≠ '\u03a3' := by
        rintro rfl
        exact absurd letters.1 (by decide)
      rw [lowerAfter, if_neg noSigma, lower_of_foldsToLetter letters.1, induction letters.2]
      rfl

theorem all_foldsToLetter {word : Text} (same : text.folded = word)
    (small : word.all Char.isLower = true) : text.all foldsToLetter = true := by
  subst same
  rw [folded, List.all_map] at small
  exact small

theorem lowerCase_eq_folded (letters : text.all foldsToLetter = true) (short : longS ∉ text) :
    text.lowerCase = text.folded := by
  rw [lowerCase, lowerAfter_of_letters letters]
  apply List.map_congr_left
  intro c member
  exact if_neg (ne_of_mem_of_not_mem member short)

theorem longS_mem_lowerCase (letters : text.all foldsToLetter = true) (long : longS ∈ text) :
    longS ∈ text.lowerCase := by
  rw [lowerCase, lowerAfter_of_letters letters]
  exact List.mem_map.mpr ⟨longS, long, if_pos rfl⟩

/-- The lower case of what folds to letters is a word of small letters exactly when that is what it
folds to and no long s is in it. -/
theorem lowerCase_eq_iff {word : Text} (letters : text.all foldsToLetter = true)
    (small : word.all Char.isLower = true) :
    text.lowerCase = word ↔ text.folded = word ∧ longS ∉ text := by
  constructor
  · rintro rfl
    have short : longS ∉ text := by
      intro long
      have stays := longS_mem_lowerCase letters long
      exact absurd (List.all_eq_true.mp small _ stays) (by decide)
    exact ⟨(lowerCase_eq_folded letters short).symm, short⟩
  · rintro ⟨folds, short⟩
    rw [lowerCase_eq_folded letters short, folds]

theorem folded_lowerCase (letters : text.all foldsToLetter = true) :
    text.lowerCase.folded = text.folded := by
  rw [lowerCase, lowerAfter_of_letters letters, folded, folded, List.map_map]
  apply List.map_congr_left
  intro c member
  rw [Function.comp_apply]
  split
  · rename_i long
    rw [long]
  · exact foldCase_of_isLower (List.all_eq_true.mp letters c member)

theorem folded_of_small (small : text.all Char.isLower = true) : text.folded = text := by
  rw [folded]
  conv_rhs => rw [← List.map_id text]
  apply List.map_congr_left
  intro c member
  exact foldCase_of_isLower (List.all_eq_true.mp small c member)

end Text

namespace Regex

variable {written text : Text}

theorem Denotes.folded_of_literal (denotes : Denotes (Regex.literal written) text) :
    text.folded = written.folded := by
  induction written generalizing text with
  | nil =>
      cases denotes
      rfl
  | cons c rest induction =>
      have here {first : Text} (denotes : Denotes (char c) first) :
          first.folded = [foldCase c] := by
        obtain ⟨d, rfl, same⟩ := denotes.of_set
        simpa [Text.folded] using same
      cases rest with
      | nil => exact here denotes
      | cons next others =>
          cases denotes with
          | seq first second =>
              have folded := induction second
              rw [Text.folded, List.map_append]
              exact congrArg₂ (· ++ ·) (here first) folded

theorem Denotes.of_either {alternatives : List Regex}
    (denotes : Denotes (either alternatives) text) : ∃ r ∈ alternatives, Denotes r text := by
  induction alternatives with
  | nil =>
      obtain ⟨c, _, accepted⟩ := Denotes.of_set denotes
      contradiction
  | cons first others induction =>
      cases others with
      | nil => exact ⟨first, List.mem_singleton_self first, denotes⟩
      | cons next more =>
          cases denotes with
          | altLeft left => exact ⟨first, List.mem_cons_self, left⟩
          | altRight right =>
              obtain ⟨r, member, denotes⟩ := induction right
              exact ⟨r, List.mem_cons_of_mem _ member, denotes⟩

theorem Denotes.of_toBoundary {r : Regex} (denotes : Denotes (toBoundary r) text) :
    Denotes r text := by
  cases denotes with
  | seq first second =>
      cases second
      rw [List.append_nil]
      exact first

theorem Denotes.of_words {words : List String}
    (denotes : Denotes (either (words.map Regex.text)) text) :
    ∃ word ∈ words, text.folded = Text.folded word.toList := by
  obtain ⟨r, member, denotes⟩ := denotes.of_either
  obtain ⟨word, listed, rfl⟩ := List.mem_map.mp member
  exact ⟨word, listed, denotes.folded_of_literal⟩

end Regex

end PassageMarkup
