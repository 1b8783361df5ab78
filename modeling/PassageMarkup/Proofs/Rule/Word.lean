import PassageMarkup.Proofs.Regex.Folding
import PassageMarkup.Proofs.Rule.Lexeme

/-!
# Words of expressions

Names, colours and times are found in any case.  What they carry is found by their lower case, which
is the word that is meant as long as no long s is in it.
-/

namespace PassageMarkup

open Regex

namespace Pattern

variable {remaining : Text} {found : Match}

theorem find?_word {words : List String} (small : words.all (·.toList.all Char.isLower) = true)
    (success : (ofRegex (toBoundary (either (words.map Regex.text)))).find? remaining =
      some found) :
    ∃ word ∈ words, found.text.folded = word.toList ∧ word.toList.all Char.isLower = true := by
  obtain ⟨word, listed, same⟩ := (find?_regex_splitsOff success).2.of_toBoundary.of_words
  have letters := List.all_eq_true.mp small word listed
  exact ⟨word, listed, same.trans (Text.folded_of_small letters), letters⟩

theorem find?_colourName (success : (ofRegex Terminal.colour).find? remaining = some found)
    (noSign : found.text.head? ≠ some '#') :
    ∃ value, Colour.named? found.text.folded = some value ∧
      found.text.folded.all Char.isLower = true := by
  obtain ⟨_, denotes⟩ := find?_regex_splitsOff success
  generalize found.text = text at denotes noSign
  cases denotes with
  | altLeft signed =>
      cases signed with
      | seq sign _ =>
          rw [sign.of_char (by decide)] at noSign
          contradiction
  | altRight named =>
      obtain ⟨word, listed, same⟩ := named.of_toBoundary.of_words
      have table : (Terminal.colourNames.all fun word =>
          word.toList.all Char.isLower && (Colour.named? word.toList).isSome) = true := by decide
      have entry := List.all_eq_true.mp table word listed
      rw [Bool.and_eq_true, Option.isSome_iff_exists] at entry
      rw [same, Text.folded_of_small entry.1]
      exact ⟨entry.2.choose, entry.2.choose_spec, entry.1⟩

end Pattern

namespace Colour

variable {text : Text}

/-- The name of a colour becomes its value, but with a long s in it the name stays a name. -/
theorem resolve_of_named {value : Text} (named : named? text.folded = some value)
    (small : text.folded.all Char.isLower = true) :
    (Text.longS ∉ text → resolve text = value) ∧
      (Text.longS ∈ text → ∀ entry ∈ names, resolve text ≠ entry.2) := by
  have letters := Text.all_foldsToLetter rfl small
  have noSign : ∀ digits, text.lowerCase ≠ '#' :: digits := by
    intro digits sign
    rw [← Text.folded_lowerCase letters, sign] at small
    contradiction
  have resolved : resolve text = (named? text.lowerCase).getD text.lowerCase := by
    rw [resolve]
    split
    · rename_i sign
      exact absurd sign (noSign _)
    · rfl
  rw [resolved]
  constructor
  · intro short
    rw [(Text.lowerCase_eq_iff letters small).mpr ⟨rfl, short⟩, named, Option.getD_some]
  · intro long
    have stays := Text.longS_mem_lowerCase letters long
    have table : (names.all fun entry =>
        decide (Text.longS ∉ entry.1 ∧ Text.longS ∉ entry.2)) = true := by decide
    have without : ∀ entry ∈ names, text.lowerCase ≠ entry.1 ∧ text.lowerCase ≠ entry.2 := by
      intro entry listed
      have none := of_decide_eq_true (List.all_eq_true.mp table entry listed)
      exact ⟨ne_of_mem_of_not_mem' stays none.1, ne_of_mem_of_not_mem' stays none.2⟩
    have missing : named? text.lowerCase = none := by
      rw [named?, List.lookup_eq_none_iff]
      intro entry listed
      exact bne_iff_ne.mpr (without entry listed).1
    rw [missing, Option.getD_none]
    exact fun entry listed => (without entry listed).2

end Colour

namespace Lexeme

variable {remaining : Text} {found : Match}

/-- A time is an amount and a unit.  Seconds are counted in milliseconds, unless their unit is a
long s. -/
theorem cssTime_value (success : (Pattern.ofRegex Terminal.cssTime).find? remaining = some found) :
    ∃ amount unit : Text, found.text = amount ++ unit ∧
      (∀ c ∈ amount, c.isDigit = true ∨ c = '.') ∧
      (unit.folded = ['m', 's'] ∨ unit.folded = ['s']) ∧
      (cssTime found).fields.value = some
        (if unit.folded = ['s'] ∧ Text.longS ∉ unit then
          (Decimal.read amount).toBinary64.times 1000
        else (Decimal.read amount).toBinary64) := by
  obtain ⟨amount, unit, numeral, named, text, first, second⟩ :=
    Pattern.find?_firstSecond success rfl
  have digit : ∀ c : Char, c.isDigit = true → (c.isDigit || c == '.') = true := by
    intro c isDigit
    rw [isDigit, Bool.true_or]
  have point : ∀ c : Char, (foldCase c == foldCase '.') = true →
      (c.isDigit || c == '.') = true := by
    intro c same
    rw [eq_of_foldCase_eq (by decide) (eq_of_beq same)]
    decide
  have chars : ∀ c ∈ amount, (c.isDigit || c == '.') = true :=
    numeral.all_of_over
      ⟨⟨⟨digit, digit⟩, ⟨point, digit, digit⟩, trivial⟩, point, digit, digit⟩
  obtain ⟨word, listed, same⟩ := @Denotes.of_words unit ["ms", "s"] named
  have units : unit.folded = ['m', 's'] ∨ unit.folded = ['s'] := by
    fin_cases listed
    · exact .inl same
    · exact .inr same
  have letters : unit.all foldsToLetter = true := by
    rcases units with milliseconds | seconds
    · exact Text.all_foldsToLetter milliseconds (by decide)
    · exact Text.all_foldsToLetter seconds (by decide)
  have seconds : unit.lowerCase = ['s'] ↔ unit.folded = ['s'] ∧ Text.longS ∉ unit :=
    Text.lowerCase_eq_iff letters (by decide)
  refine ⟨amount, unit, text, by simpa using chars, units, ?_⟩
  simp only [cssTime, withFields, first, second, seconds]

end Lexeme

end PassageMarkup
