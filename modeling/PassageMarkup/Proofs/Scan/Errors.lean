import PassageMarkup.Proofs.Scan.Canonical
import PassageMarkup.Proofs.Scan.HookBacks
import PassageMarkup.Proofs.Scan.Lookup
import PassageMarkup.Proofs.Token.Traversal

/-!
# Errors of a passage

Two rules make error tokens, and each says on its token what is wrong with the text of it.  No other
token says so, whatever it is folded from.  So the errors of a tree are those of its error tokens,
which stand beside each other in the order of the passage.
-/

namespace PassageMarkup

namespace Token

variable {token : Token} {tokens : List Token}

/-- What is wrong with a token, and with which message it says so. -/
structure Faulty (token : Token) (fault : Fault) : Prop where
  cause : fault = .legacyMacroCall token.text ∨ fault = .incorrectOperator token.text
  fault_eq : token.fault = some fault
  message_eq : token.fields.message = some fault.message

/-- Error tokens have no children and say what is wrong with their text.  No other token has a fault
or a message. -/
structure Reported (place : Text) (token : Token) : Prop where
  place_eq : token.place = place
  error : token.kind = .error → token.children = [] ∧ ∃ fault, token.Faulty fault
  other : token.kind ≠ .error → token.fault = none ∧ token.fields.message = none

/-- A diagnostic tells the fault of a token at the place where the token begins. -/
structure Reports (place : Text) (error : Located) (token : Token) : Prop where
  position_eq : error.position = ⟨token.start, place⟩
  fault_eq : token.fault = some error.fault
  message_eq : token.fields.message = some error.fault.message

namespace Reported

variable {place : Text}

theorem of_kind_ne (samePlace : token.place = place) (notError : token.kind ≠ .error)
    (fault : token.fault = none) (message : token.fields.message = none) :
    token.Reported place :=
  ⟨samePlace, fun isError => absurd isError notError, fun _ => ⟨fault, message⟩⟩

theorem demote (reported : token.Reported place) : token.demote.Reported place :=
  .of_kind_ne reported.place_eq (by simp [Token.demote]) rfl rfl

theorem join {next : Token} (plain : token.isPlainText = true) (reported : token.Reported place) :
    Reported place { token with text := token.text ++ next.text, stop := next.stop } := by
  have notError : token.kind ≠ .error := by
    rw [(isPlainText_iff.mp plain).1]
    simp
  obtain ⟨fault, message⟩ := reported.other notError
  exact .of_kind_ne reported.place_eq notError fault message

theorem position_of_located {error : Located} (located : token.located = some error) :
    error.position = ⟨token.start, token.place⟩ := by
  obtain ⟨fault, _, rfl⟩ := Option.map_eq_some_iff.mp located
  rfl

theorem kind_of_located {error : Located} (reported : token.Reported place)
    (located : token.located = some error) : token.kind = .error := by
  by_contra notError
  rw [Token.located, (reported.other notError).1] at located
  contradiction

theorem located_of_kind (reported : token.Reported place) (isError : token.kind = .error) :
    ∃ error, token.located = some error ∧ Reports place error token := by
  obtain ⟨_, fault, faulty⟩ := reported.error isError
  refine ⟨⟨fault, ⟨token.start, token.place⟩⟩, ?_, ?_, faulty.fault_eq, faulty.message_eq⟩
  · rw [Token.located, faulty.fault_eq]
    rfl
  · rw [reported.place_eq]

theorem located_of_kind_ne (reported : token.Reported place) (notError : token.kind ≠ .error) :
    token.located = none := by
  rw [Token.located, (reported.other notError).1]
  rfl

theorem forall₂_errors (reported : ∀ token ∈ tokens, token.Reported place) :
    List.Forall₂ (Reports place) (tokens.filterMap located) (tokens.filter (·.kind == .error)) := by
  induction tokens with
  | nil => exact .nil
  | cons token rest induction =>
      rw [List.forall_mem_cons] at reported
      have others := induction reported.2
      by_cases isError : token.kind = .error
      · obtain ⟨error, located, reports⟩ := reported.1.located_of_kind isError
        rw [List.filterMap_cons_some located, List.filter_cons_of_pos (by simp [isError])]
        exact .cons reports others
      · rw [List.filterMap_cons_none (reported.1.located_of_kind_ne isError),
          List.filter_cons_of_neg (by simp [isError])]
        exact others

end Reported

end Token

namespace Rule

variable {mode : Mode} {rule : Rule}

theorem eq_of_kind_error (member : rule ∈ ofMode mode) (isError : rule.kind = .error) :
    rule = legacyMacro ∨ rule = incorrectOperator := by
  cases mode <;> fin_cases member
  all_goals first
    | exact .inl rfl
    | exact .inr rfl
    | contradiction

theorem lexeme_of_kind_error (member : rule ∈ ofMode mode) (isError : rule.kind = .error)
    (found : Match) :
    ∃ fault, (fault = .legacyMacroCall found.text ∨ fault = .incorrectOperator found.text) ∧
      (rule.lexeme found).length = found.text.length ∧
      (rule.lexeme found).fault = some fault ∧
      (rule.lexeme found).fields.message = some fault.message := by
  rcases eq_of_kind_error member isError with rfl | rfl
  · exact ⟨.legacyMacroCall found.text, .inl rfl, rfl, rfl, rfl⟩
  · exact ⟨.incorrectOperator found.text, .inr rfl, rfl, rfl, rfl⟩

theorem lexeme_of_kind_ne_error (member : rule ∈ ofMode mode) (notError : rule.kind ≠ .error)
    (found : Match) :
    (rule.lexeme found).fault = none ∧ (rule.lexeme found).fields.message = none := by
  cases mode <;> fin_cases member
  all_goals first
    | exact ⟨rfl, rfl⟩
    | exact absurd rfl notError
    | exact ⟨Lexeme.withInner_fault _ _, congrArg Fields.message (Lexeme.withInner_fields _ _)⟩

theorem kind_ne_error (member : rule ∈ ofMode mode)
    (paired : rule.front = true ∨ rule.closes ≠ []) : rule.kind ≠ .error := by
  intro isError
  rcases eq_of_kind_error member isError with rfl | rfl
  · rcases paired with isFront | closes <;> contradiction
  · rcases paired with isFront | closes <;> contradiction

end Rule

namespace Scan

open Token

variable {setting : Setting} {state : State} {choice : Choice} {pairing : Pairing}

theorem reported_keptInText (place : Text) : KeptInText (Reported place) where
  demote := fun _ reported => reported.demote
  join := fun _ _ plain _ reported _ => reported.join plain

theorem Choice.Applies.token_reported (applies : choice.Applies setting state)
    (rules : setting.rules = Rule.ofMode) :
    (choice.token setting state).Reported setting.place := by
  have member := applies.rule_mem_ofMode rules
  obtain ⟨found, success, lexeme⟩ := applies.found
  obtain ⟨inner, children, token⟩ := choice.token_eq setting state
  by_cases isError : choice.rule.kind = .error
  · obtain ⟨fault, cause, length, fault_eq, message⟩ :=
      Rule.lexeme_of_kind_error member isError found
    rw [← lexeme] at length fault_eq message
    have consumed : choice.consumed state = found.text := Choice.consumed_eq success length
    refine ⟨by rw [token]; rfl, fun _ => ⟨?_, fault, ?_, ?_, ?_⟩, fun notError => ?_⟩
    · rcases applies.marks_or rules with ⟨span, marks⟩ | ⟨_, childless⟩
      · have hasInner := marks.hasInner
        rw [isError] at hasInner
        contradiction
      · exact childless
    · rw [choice.token_text, consumed]
      exact cause
    · rw [token]
      exact fault_eq
    · rw [token]
      exact message
    · rw [choice.token_kind] at notError
      exact absurd isError notError
  · obtain ⟨fault, message⟩ := Rule.lexeme_of_kind_ne_error member isError found
    rw [← lexeme] at fault message
    rw [token]
    exact .of_kind_ne rfl isError fault message

theorem Choice.Applies.pair_reported (applies : choice.Applies setting state)
    (rules : setting.rules = Rule.ofMode) (paired : choice.pairing = some pairing)
    (fronted : state.Fronted setting) (front : pairing.frame.front.Reported setting.place)
    (back : (choice.token setting state).Reported setting.place) (children : List Token) :
    (foldPair pairing.kind pairing.frame.front children (choice.token setting state)).Reported
      setting.place := by
  obtain ⟨around, inside, opened⟩ :=
    fronted pairing.frame (by simp [(applies.pairs paired).frames_eq])
  have frontKind : pairing.frame.front.kind ≠ .error := by
    rw [opened.kind_eq]
    exact Rule.kind_ne_error opened.rule_mem (.inl opened.isFront)
  have backKind : (choice.token setting state).kind ≠ .error := by
    rw [choice.token_kind]
    exact Rule.kind_ne_error (applies.rule_mem_ofMode rules) (.inr (applies.closes_ne_nil paired))
  have isPair := applies.pair_isPair rules paired
  obtain ⟨fault, message⟩ := back.other backKind
  apply Reported.of_kind_ne
  · exact back.place_eq
  · intro isError
    rw [foldPair_kind] at isError
    rw [isError] at isPair
    contradiction
  · exact fault
  · simp only [foldPair, Fields.mergeMissing, message, (front.other frontKind).2]
    rfl

theorem reported_makes (rules : setting.rules = Rule.ofMode)
    (reads : setting.Reads (Everywhere (Reported setting.place))) :
    Makes setting (State.Fronted setting) (Everywhere (Reported setting.place)) := by
  apply Makes.everywhere rules reads (fronted_kept rules).stepwise (reported_keptInText _)
  · intro start inner _
    exact .of_kind_ne rfl (by simp [leaf]) rfl rfl
  · intro state choice applies _
    exact applies.token_reported rules
  · intro state choice pairing applies paired fronted front back _
    exact applies.pair_reported rules paired fronted front back _

/-- All tokens of a reading are reported. -/
theorem read_reported (fold : Bool) (place : Text) (room : Nat) (mode : Mode) (beginsLine : Bool)
    (offset : Nat) (text : Text) :
    ∀ token ∈ (read Rule.ofMode fold place room mode beginsLine offset text).tokens,
      token.Everywhere (Reported place) := by
  apply read_induction fun _ _ _ outcome =>
    ∀ token ∈ outcome.tokens, token.Everywhere (Reported place)
  intro room mode beginsLine offset text reads
  apply (reported_makes rfl reads).scanText
  simp [State.Fronted, State.initial]

end Scan

namespace Lex

open Token

theorem lex_reported (options : Options) (source : Text) :
    (lex options source).Everywhere (Reported options.place) := by
  rw [everywhere_iff]
  constructor
  · exact .of_kind_ne rfl (by simp [lex, root, leaf]) rfl rfl
  · exact Scan.read_reported options.fold options.place _ options.mode true 0 source

theorem lex_encloses (options : Options) (source : Text) :
    (lex options source).Encloses source := by
  have laid := Scan.read_laid options.fold options.place (options.maxDepth - 0) options.mode true
    (Text.stands_self source)
  exact ⟨0, _, laid, Nat.le_refl _, Nat.le_of_eq rfl⟩

/-- A token with a fault is not the root, so it is not empty. -/
theorem start_lt_stop_of_located {options : Options} {source : Text} {token : Token}
    {error : Located} (member : token ∈ (lex options source).nodes)
    (located : token.located = some error) : token.start < token.stop := by
  have isError := (lex_reported options source token member).kind_of_located located
  rcases mem_nodes.mp member with rfl | below
  · contradiction
  · exact start_lt_stop_of_below below

/-- Nothing stands below a token with a fault, so the nodes after it begin later. -/
theorem start_lt_of_located (options : Options) (source : Text) :
    (lex options source).nodes.Pairwise fun earlier later =>
      ∀ error, earlier.located = some error → earlier.start < later.start := by
  refine (lex_encloses options source).pairwise_nodes.imp_of_mem ?_
  intro earlier later member _ apart error located
  have reported := lex_reported options source earlier member
  have childless := (reported.error (reported.kind_of_located located)).1
  rcases apart with below | after
  · rw [childless] at below
    contradiction
  · have nonempty := start_lt_stop_of_located member located
    omega

/-- The errors of a passage are those of its error tokens, one for each in the order of the passage:
each tells the fault of its token and where that begins, and its message is the one on the token.
No other token has a fault or a message. -/
theorem errors_reported (options : Options) (source : Text) :
    List.Forall₂ (Reports options.place) (lex options source).errors
        ((lex options source).nodes.filter (·.kind == .error)) ∧
      (lex options source).errors.Pairwise (fun left right =>
        left.position.offset < right.position.offset) ∧
      (∀ error ∈ (lex options source).errors, error.position.offset < source.length) ∧
      (lex options source).Everywhere fun token =>
        token.kind ≠ .error → token.fault = none ∧ token.fields.message = none := by
  have reported := lex_reported options source
  rw [errors_eq]
  refine ⟨Reported.forall₂_errors reported, ?_, ?_, reported.imp fun _ here => here.other⟩
  · rw [List.pairwise_filterMap]
    refine (start_lt_of_located options source).imp ?_
    intro earlier later before error located next nextLocated
    rw [Reported.position_of_located located, Reported.position_of_located nextLocated]
    exact before error located
  · intro error member
    obtain ⟨token, inTree, located⟩ := List.mem_filterMap.mp member
    have nonempty := start_lt_stop_of_located inTree located
    have inside := ((lex_encloses options source).nodes_inside token inTree).2
    have whole : (lex options source).stop = source.length := Nat.zero_add _
    rw [Reported.position_of_located located]
    simp only
    omega

end Lex

end PassageMarkup
