import PassageMarkup.Proofs.Rule.Name
import PassageMarkup.Proofs.Scan.Tokens

/-!
# Trees of passages from their outlines

All names in a tree are names that rules give, also those of pairs, which have them from one of
their delimiters.  So the outline of a passage shows its tree.
-/

namespace PassageMarkup

namespace Scan

open Token

variable {setting : Setting} {state : State} {choice : Choice}

theorem named_keptInText : KeptInText HasSolidName where
  demote := by
    intro token _ name present
    contradiction
  join := fun _ _ _ _ named _ => named

theorem Choice.Applies.token_named (applies : choice.Applies setting state)
    (rules : setting.rules = Rule.ofMode) : (choice.token setting state).HasSolidName := by
  obtain ⟨found, success, lexeme⟩ := applies.found
  obtain ⟨inner, children, token⟩ := choice.token_eq setting state
  rw [token, HasSolidName, lexeme]
  exact Rule.solid_name (applies.rule_mem_ofMode rules) success

theorem foldPair_named {front back : Token} (frontNamed : front.HasSolidName)
    (backNamed : back.HasSolidName) (kind : Kind) (children : List Token) :
    (foldPair kind front children back).HasSolidName := by
  intro name present
  change (back.fields.name <|> front.fields.name) = some name at present
  cases own : back.fields.name with
  | none =>
      rw [own] at present
      exact frontNamed name present
  | some =>
      rw [own] at present
      exact backNamed name (own.trans present)

theorem named_makes (rules : setting.rules = Rule.ofMode)
    (reads : setting.Reads (Everywhere HasSolidName)) :
    Makes setting (fun _ => True) (Everywhere HasSolidName) := by
  apply Makes.everywhere rules reads Kept.trivially.stepwise named_keptInText
  · intro start inner _ name present
    contradiction
  · intro state choice applies _
    exact applies.token_named rules
  · intro state choice pairing _ _ _ front back _
    exact foldPair_named front back _ _

theorem read_named (fold : Bool) (place : Text) (room : Nat) (mode : Mode) (beginsLine : Bool)
    (offset : Nat) (text : Text) :
    ∀ token ∈ (read Rule.ofMode fold place room mode beginsLine offset text).tokens,
      token.Everywhere HasSolidName := by
  apply read_induction fun _ _ _ outcome =>
    ∀ token ∈ outcome.tokens, token.Everywhere HasSolidName
  intro room mode beginsLine offset text reads
  apply (named_makes rfl reads).scanText
  trivial

end Scan

namespace Lex

open Token

theorem lex_named (options : Options) (source : Text) :
    (lex options source).Everywhere HasSolidName := by
  rw [everywhere_iff]
  constructor
  · intro name present
    contradiction
  · exact Scan.read_named options.fold options.place _ options.mode true 0 source

/-- The outline of a tree has a line for each token, each before those of its children.  It begins
after two blanks for each level and has no line break in it.  Trees with the same outline have the
same shape and show the same at each place. -/
theorem outline_unambiguous (options : Options) (source : Text) :
    (∃ visits, (lex options source).InOrder visits ∧
      (lex options source).nodes = visits.map Prod.snd ∧
      (lex options source).outline = visits.flatMap fun visit =>
        List.replicate (2 * visit.1.length) ' ' ++ visit.2.outlineLine ++ ['\n']) ∧
      (∀ token ∈ (lex options source).nodes, '\n' ∉ token.outlineLine ∧
        ∃ first others, token.outlineLine = first :: others ∧ first ≠ ' ') ∧
      ∀ otherOptions otherSource,
        (lex options source).outline = (lex otherOptions otherSource).outline ↔
          (lex options source).ShownAlike (lex otherOptions otherSource) := by
  have named := lex_named options source
  refine ⟨⟨_, visits_inOrder _, (map_snd_visits _).symm, ?_⟩, ?_, ?_⟩
  · have lines : visitLine 0 = fun visit =>
        List.replicate (2 * visit.1.length) ' ' ++ visit.2.outlineLine ++ ['\n'] := by
      funext visit
      rw [visitLine, Nat.zero_add]
    rw [outline, outlineAt_eq_lines, lines]
  · intro token member
    exact ⟨feed_not_mem_outlineLine (named token member), token.exists_cons_outlineLine⟩
  · intro otherOptions otherSource
    exact outline_eq_iff named (lex_named otherOptions otherSource)

end Lex

end PassageMarkup
