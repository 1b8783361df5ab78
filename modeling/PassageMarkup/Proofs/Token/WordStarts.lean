import PassageMarkup.Rule.Table
import PassageMarkup.Proofs.Text
import PassageMarkup.Proofs.Token.Nodes

/-!
# Words that begin inside words

A place splits a word when there are word characters on both sides of it.  Neighbouring tokens are
guarded when such a place comes before a keyword or a literal only at the end of a number.
-/

namespace PassageMarkup

namespace Text

/-- A place in a text stands between two characters of words. -/
def SplitsWord (source : Text) (place : Nat) : Prop :=
  0 < place ∧ source[place - 1]?.any Unicode.isWord = true ∧
    source[place]?.any Unicode.isWord = true

instance (source : Text) (place : Nat) : Decidable (source.SplitsWord place) :=
  inferInstanceAs (Decidable (_ ∧ _))

variable {source text : Text} {place : Nat} {c : Char}

theorem SplitsWord.isWord_head (splits : source.SplitsWord place) (stands : source.Stands place text)
    (head : text.head? = some c) : Unicode.isWord c = true := by
  obtain ⟨rest, rfl⟩ := List.head?_eq_some_iff.mp head
  have here := stands.getElem?_eq (Nat.zero_lt_succ rest.length)
  have word := splits.2.2
  rw [Nat.add_zero, List.getElem?_cons_zero] at here
  rw [here] at word
  exact word

theorem SplitsWord.isWord_getLast (splits : source.SplitsWord (place + text.length))
    (stands : source.Stands place text) (last : text.getLast? = some c) :
    Unicode.isWord c = true := by
  obtain ⟨others, rfl⟩ := List.getLast?_eq_some_iff.mp last
  have inside : others.length < (others ++ [c]).length := by simp
  have here := stands.getElem?_eq inside
  have word := splits.2.1
  rw [List.getElem?_concat_length] at here
  rw [List.length_append, List.length_singleton, ← Nat.add_assoc, Nat.add_sub_cancel, here] at word
  exact word

end Text

namespace Rule

/-- The kinds of the tokens that the rules for words make. -/
def wordKinds : List Kind :=
  (words ++ keywords).map kind

end Rule

namespace Token

variable {source : Text} {token : Token} {tokens left right : List Token}

/-- A token of a rule for words begins between two characters of words. -/
def CutsWord (source : Text) (token : Token) : Prop :=
  token.kind ∈ Rule.wordKinds ∧ source.SplitsWord token.start

/-- Of neighbouring tokens, each that cuts a word comes right after a number. -/
def Guarded (source : Text) (tokens : List Token) : Prop :=
  ∀ token ∈ tokens, token.CutsWord source →
    ∃ before number after, tokens = before ++ number :: token :: after ∧ number.kind = .number

namespace Guarded

theorem nil : Guarded source [] :=
  nofun

theorem append (guardedLeft : Guarded source left) (guardedRight : Guarded source right) :
    Guarded source (left ++ right) := by
  intro token member cuts
  rcases List.mem_append.mp member with inLeft | inRight
  · obtain ⟨before, number, after, rfl, isNumber⟩ := guardedLeft token inLeft cuts
    exact ⟨before, number, after ++ right, by simp, isNumber⟩
  · obtain ⟨before, number, after, rfl, isNumber⟩ := guardedRight token inRight cuts
    exact ⟨left ++ before, number, after, by simp, isNumber⟩

theorem singleton (whole : ¬token.CutsWord source) : Guarded source [token] := by
  rw [Guarded, List.forall_mem_singleton]
  intro cuts
  contradiction

theorem of_text (isText : token.kind = .text) : Guarded source [token] := by
  apply singleton
  rintro ⟨listed, _⟩
  rw [isText] at listed
  exact absurd listed (by decide)

theorem concat (guarded : Guarded source tokens)
    (added : token.CutsWord source → ∃ number, tokens.getLast? = some number ∧
      number.kind = .number) : Guarded source (tokens ++ [token]) := by
  by_cases cuts : token.CutsWord source
  · obtain ⟨number, last, isNumber⟩ := added cuts
    obtain ⟨before, rfl⟩ := List.getLast?_eq_some_iff.mp last
    intro other member otherCuts
    rcases List.mem_append.mp member with earlier | same
    · obtain ⟨front, first, after, split, isFirst⟩ := guarded other earlier otherCuts
      exact ⟨front, first, after ++ [token], by simp [split], isFirst⟩
    · cases List.mem_singleton.mp same
      exact ⟨before, number, [], by simp, isNumber⟩
  · exact guarded.append (singleton cuts)

theorem not_isPlainText (cuts : token.CutsWord source) : token.isPlainText = false := by
  rw [← Bool.not_eq_true]
  intro plain
  have listed := cuts.1
  rw [(isPlainText_iff.mp plain).1] at listed
  exact absurd listed (by decide)

theorem coalesce (guarded : Guarded source tokens) : Guarded source (Token.coalesce tokens) := by
  intro token member cuts
  have notPlain := not_isPlainText cuts
  obtain ⟨before, number, after, split, isNumber⟩ := guarded token (mem_of_mem_coalesce member notPlain) cuts
  have notText : number.isPlainText = false := by
    rw [isPlainText, isNumber]
    rfl
  refine ⟨Token.coalesce before, number, Token.coalesce after, ?_, isNumber⟩
  rw [split, coalesce_append_cons before _ notText, coalesce_cons_of_not_plain after notPlain]

end Guarded

def GuardsChildren (source : Text) (token : Token) : Prop :=
  Guarded source token.children

theorem everywhere_guardsChildren (childless : token.children = []) :
    token.Everywhere (GuardsChildren source) := by
  refine everywhere_of_children_eq_nil childless ?_
  rw [GuardsChildren, childless]
  exact .nil

end Token

end PassageMarkup
