import PassageMarkup.Proofs.Token.Json

/-!
# Trees of passages from their JSON

The values in a tree are read from numerals and times, and those are finite or positive infinity.
Error tokens say what is wrong with them.  So the JSON of a tree loses nothing of it.
-/

namespace PassageMarkup

namespace Rule

variable {mode : Mode} {rule : Rule}

theorem isWritten_cssTime (found : Match) :
    ∀ value ∈ (Lexeme.cssTime found).fields.value, value.IsWritten := by
  intro value present
  obtain rfl := Option.some.inj present
  split
  · exact (Decimal.isWritten_toBinary64 _).times 1000
  · exact Decimal.isWritten_toBinary64 _

theorem isWritten_number (found : Match) :
    ∀ value ∈ (Lexeme.number found).fields.value, value.IsWritten := by
  intro value present
  obtain rfl := Option.some.inj present
  exact Decimal.isWritten_toBinary64 _

theorem lexeme_value_isWritten (member : rule ∈ ofMode mode) (found : Match) :
    ∀ value ∈ (rule.lexeme found).fields.value, value.IsWritten := by
  have unset {fields : Fields} (none : fields.value = none) :
      ∀ value ∈ fields.value, value.IsWritten := by
    intro value present
    rw [none] at present
    contradiction
  cases mode <;> fin_cases member
  all_goals first
    | exact isWritten_cssTime found
    | exact isWritten_number found
    | exact unset rfl
    | exact unset (congrArg Fields.value (Lexeme.withInner_fields _ _))

end Rule

namespace Scan

open Token

variable {setting : Setting} {state : State} {choice : Choice}

theorem valued_keptInText : KeptInText HasWrittenValue where
  demote := by
    intro token _ value present
    contradiction
  join := fun _ _ _ _ valued _ => valued

theorem Choice.Applies.token_valued (applies : choice.Applies setting state)
    (rules : setting.rules = Rule.ofMode) : (choice.token setting state).HasWrittenValue := by
  obtain ⟨found, _, lexeme⟩ := applies.found
  obtain ⟨inner, children, token⟩ := choice.token_eq setting state
  rw [token, HasWrittenValue, lexeme]
  exact Rule.lexeme_value_isWritten (applies.rule_mem_ofMode rules) found

theorem foldPair_valued {front back : Token} (frontValued : front.HasWrittenValue)
    (backValued : back.HasWrittenValue) (kind : Kind) (children : List Token) :
    (foldPair kind front children back).HasWrittenValue := by
  intro value present
  change (back.fields.value <|> front.fields.value) = some value at present
  cases own : back.fields.value with
  | none =>
      rw [own] at present
      exact frontValued value present
  | some =>
      rw [own] at present
      exact backValued value (own.trans present)

theorem valued_makes (rules : setting.rules = Rule.ofMode)
    (reads : setting.Reads (Everywhere HasWrittenValue)) :
    Makes setting (fun _ => True) (Everywhere HasWrittenValue) := by
  apply Makes.everywhere rules reads Kept.trivially.stepwise valued_keptInText
  · intro start inner _ value present
    contradiction
  · intro state choice applies _
    exact applies.token_valued rules
  · intro state choice pairing _ _ _ front back _
    exact foldPair_valued front back _ _

theorem read_valued (fold : Bool) (place : Text) (room : Nat) (mode : Mode) (beginsLine : Bool)
    (offset : Nat) (text : Text) :
    ∀ token ∈ (read Rule.ofMode fold place room mode beginsLine offset text).tokens,
      token.Everywhere HasWrittenValue := by
  apply read_induction fun _ _ _ outcome =>
    ∀ token ∈ outcome.tokens, token.Everywhere HasWrittenValue
  intro room mode beginsLine offset text reads
  apply (valued_makes rfl reads).scanText
  trivial

end Scan

namespace Lex

open Token

theorem lex_valued (options : Options) (source : Text) :
    (lex options source).Everywhere HasWrittenValue := by
  rw [everywhere_iff]
  constructor
  · intro value present
    contradiction
  · exact Scan.read_valued options.fold options.place _ options.mode true 0 source

/-- Two trees are the same as soon as their compact JSON is. -/
theorem compact_eq_iff (options otherOptions : Options) (source otherSource : Text) :
    (lex options source).toJson.compact = (lex otherOptions otherSource).toJson.compact ↔
      lex options source = lex otherOptions otherSource := by
  constructor
  · intro same
    have values := Json.compact_injective (toJson_isWritten (lex_valued options source))
      (toJson_isWritten (lex_valued otherOptions otherSource)) same
    exact toJson_injective (lex_reported options source) (lex_reported otherOptions otherSource)
      values
  · intro same
    rw [same]

end Lex

end PassageMarkup
