import PassageMarkup.Proofs.Rule.Word
import PassageMarkup.Proofs.Scan.Origin

/-!
# Words in a tree

Whatever the case in which they are written, literals and identifiers carry the name that is meant,
colours the value of their name, and times their milliseconds.  The one exception is the long s,
which is found for an `s` but does not become one.
-/

namespace PassageMarkup

open Text

namespace Token

/-- The name of a token is the word of a list that its text spells.  With a long s in the text it is
no word of the list. -/
def NamedFrom (words : List String) (token : Token) : Prop :=
  ∃ name, token.fields.name = some name ∧ ∃ word ∈ words, token.text.folded = word.toList ∧
    (longS ∉ token.text → name = word.toList) ∧
      (longS ∈ token.text → ∀ other ∈ words, name ≠ other.toList)

/-- The colour of a token is the value of the name that its text spells.  With a long s in the text
it is no value of a name. -/
def ColouredByName (token : Token) : Prop :=
  ∃ colour, token.fields.colour = some colour ∧
    ∃ value, Colour.named? token.text.folded = some value ∧
      (longS ∉ token.text → colour = value) ∧
        (longS ∈ token.text → ∀ entry ∈ Colour.names, colour ≠ entry.2)

/-- The value of a token is the amount in its text, a thousand times as much if the unit is seconds
and no long s. -/
def Timed (token : Token) : Prop :=
  ∃ amount unit : Text, token.text = amount ++ unit ∧ (∀ c ∈ amount, c.isDigit = true ∨ c = '.') ∧
    (unit.folded = ['m', 's'] ∨ unit.folded = ['s']) ∧
      token.fields.value = some
        (if unit.folded = ['s'] ∧ longS ∉ unit then (Decimal.read amount).toBinary64.times 1000
        else (Decimal.read amount).toBinary64)

end Token

namespace Rule

variable {mode : Mode} {rule : Rule}

theorem word_cases (member : rule ∈ ofMode mode)
    (isWord : rule.kind ∈ [.cssTime, .colour, .boolean, .datatype, .identifier]) :
    rule ∈ [ofWord .cssTime Terminal.cssTime Lexeme.cssTime,
      ofWord .colour Terminal.colour Lexeme.colour,
      ofWord .boolean Terminal.boolean Lexeme.lowerNamed,
      ofWord .datatype Terminal.datatype Lexeme.lowerNamed,
      ofWord .identifier Terminal.identifier Lexeme.lowerNamed] := by
  cases mode <;> fin_cases member
  all_goals first
    | exact absurd isWord (by decide)
    | simp

variable {words : List String} {remaining : Text} {found : Match} {token : Token}

theorem Finds.namedFrom {kind : Kind} (small : words.all (·.toList.all Char.isLower) = true)
    (finds : (ofWord kind (Regex.toBoundary (Regex.either (words.map Regex.text)))
      Lexeme.lowerNamed).Finds remaining found token) : token.NamedFrom words := by
  obtain ⟨word, listed, folds, letters⟩ := Pattern.find?_word small finds.success
  rw [← finds.text_eq_found rfl] at folds
  have spelled := all_foldsToLetter folds letters
  have name : token.fields.name = some token.text.lowerCase := by
    rw [finds.fields_eq, finds.text_eq_found rfl]
    rfl
  refine ⟨_, name, word, listed, folds, ?_, ?_⟩
  · intro short
    exact (lowerCase_eq_iff spelled letters).mpr ⟨folds, short⟩
  · intro long other member same
    exact ((lowerCase_eq_iff spelled (List.all_eq_true.mp small other member)).mp same).2 long

theorem Finds.colouredByName
    (finds : (ofWord .colour Terminal.colour Lexeme.colour).Finds remaining found token)
    (noSign : token.text.head? ≠ some '#') : token.ColouredByName := by
  have text := finds.text_eq_found rfl
  rw [text] at noSign
  obtain ⟨value, named, small⟩ := Pattern.find?_colourName finds.success noSign
  obtain ⟨short, long⟩ := Colour.resolve_of_named named small
  rw [Token.ColouredByName, finds.fields_eq, text]
  exact ⟨_, rfl, value, named, short, long⟩

theorem Finds.timed
    (finds : (ofWord .cssTime Terminal.cssTime Lexeme.cssTime).Finds remaining found token) :
    token.Timed := by
  obtain ⟨amount, unit, text, chars, units, value⟩ := Lexeme.cssTime_value finds.success
  rw [Token.Timed, finds.fields_eq, finds.text_eq_found rfl]
  exact ⟨amount, unit, text, chars, units, value⟩

end Rule

namespace Lex

/-- Literals, identifiers, named colours and times carry what their text means in any case, unless
it has a long s. -/
theorem words_normal (options : Options) (source : Text) :
    (lex options source).Everywhere fun token =>
      (token.kind = .boolean → token.NamedFrom ["true", "false"]) ∧
      (token.kind = .datatype → token.NamedFrom Terminal.datatypeNames) ∧
      (token.kind = .identifier → token.NamedFrom Terminal.identifierNames) ∧
      (token.kind = .colour → token.text.head? ≠ some '#' → token.ColouredByName) ∧
      (token.kind = .cssTime → token.Timed) := by
  intro token member
  by_cases isWord : token.kind ∈ [.cssTime, .colour, .boolean, .datatype, .identifier]
  · have single : token.kind ≠ .root ∧ token.kind ≠ .text ∧ token.kind.isPair = false := by
      generalize token.kind = kind at isWord
      fin_cases isWord <;> decide
    obtain ⟨reading, _, takes⟩ := exists_takes member single
    obtain ⟨mode, rule, listed, found, finds⟩ := takes.exists_finds
    rw [finds.kind_eq] at isWord ⊢
    have cases := Rule.word_cases listed isWord
    fin_cases cases
    · exact ⟨nofun, nofun, nofun, nofun, fun _ => finds.timed⟩
    · exact ⟨nofun, nofun, nofun, fun _ => finds.colouredByName, nofun⟩
    · exact ⟨fun _ => finds.namedFrom (by decide), nofun, nofun, nofun, nofun⟩
    · exact ⟨nofun, fun _ => finds.namedFrom (by decide), nofun, nofun, nofun⟩
    · exact ⟨nofun, nofun, fun _ => finds.namedFrom (by decide), nofun, nofun⟩
  · simp only [List.mem_cons, not_or] at isWord
    exact ⟨fun same => absurd same isWord.2.2.1, fun same => absurd same isWord.2.2.2.1,
      fun same => absurd same isWord.2.2.2.2.1, fun same => absurd same isWord.2.1,
      fun same => absurd same isWord.1⟩

theorem mixed_case_words_normal :
    ∃ boolean ∈ (lex { mode := .expression } "TRUE 2S".toList).nodes,
      boolean.kind = .boolean ∧ boolean.NamedFrom ["true", "false"] ∧
        boolean.fields.name = some "true".toList ∧
    ∃ time ∈ (lex { mode := .expression } "TRUE 2S".toList).nodes,
      time.kind = .cssTime ∧ time.Timed ∧
        time.fields.value = some ((Decimal.read ['2']).toBinary64.times 1000) := by
  have first : ∃ boolean ∈ (lex { mode := .expression } "TRUE 2S".toList).nodes,
      boolean.kind = .boolean ∧ boolean.fields.name = some "true".toList := by
    decide +kernel
  have second : ∃ time ∈ (lex { mode := .expression } "TRUE 2S".toList).nodes,
      time.kind = .cssTime ∧
        time.fields.value = some ((Decimal.read ['2']).toBinary64.times 1000) := by
    decide +kernel
  obtain ⟨boolean, isNode, isBoolean, name⟩ := first
  obtain ⟨time, isNodeToo, isTime, value⟩ := second
  have normal := words_normal { mode := .expression } "TRUE 2S".toList
  exact ⟨boolean, isNode, isBoolean, (normal boolean isNode).1 isBoolean, name,
    time, isNodeToo, isTime, (normal time isNodeToo).2.2.2.2 isTime, value⟩

/-- A literal with a long s is not given the name that is meant. -/
theorem false_with_long_s_named :
    ¬(lex { mode := .expression } "fal\u017fe".toList).Everywhere fun token =>
      token.kind = .boolean →
        ∃ name, token.fields.name = some name ∧ name ∈ ["true".toList, "false".toList] := by
  intro every
  have found : ∃ token ∈ (lex { mode := .expression } "fal\u017fe".toList).nodes,
      token.kind = .boolean ∧ token.fields.name = some "fal\u017fe".toList := by
    decide +kernel
  obtain ⟨token, member, isBoolean, spelled⟩ := found
  obtain ⟨name, same, listed⟩ := every token member isBoolean
  rw [spelled] at same
  cases same
  exact absurd listed (by decide)

end Lex

end PassageMarkup
