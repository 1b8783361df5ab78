import PassageMarkup.Proofs.Scan.Room
import PassageMarkup.Proofs.Token.Nodes

/-!
# All tokens of a scan

A scan makes tokens out of plain text, out of what its rules take, and out of pairs.  What holds of
all of these, and stays true where texts are joined and fronts are given up, holds of every token
that the scan returns.
-/

namespace PassageMarkup

namespace Rule

variable {mode : Mode} {rule : Rule}

theorem innerMode_eq_prose (member : rule ∈ ofMode mode)
    (hasInner : rule.kind.hasInnerText = true) : rule.innerMode = some .prose := by
  have table : ∀ rule ∈ ofMode mode, rule.kind.hasInnerText = true →
      rule.innerMode = some .prose := by
    cases mode <;> decide
  exact table rule member hasInner

theorem isPair_of_resolves (member : rule ∈ ofMode mode) {front pair : Kind} {aka : Option Kind}
    {arity ownArity : Nat} (resolves : rule.resolves front aka arity ownArity = some pair) :
    pair.isPair = true := by
  have table : ∀ rule ∈ ofMode mode, ∀ closed ∈ rule.closes, closed.2.isPair = true := by
    cases mode <;> decide
  unfold Rule.resolves at resolves
  split at resolves
  · obtain ⟨closed, found, rfl⟩ := Option.map_eq_some_iff.mp resolves
    exact table rule member closed (List.mem_of_find?_eq_some found)
  · contradiction

end Rule

namespace Scan

open Token

variable {setting : Setting} {known : State → Prop} {property : Token → Prop} {state : State}
  {choice : Choice} {pairing : Pairing}

/-- A choice marks a part of what it takes as an inner text, which is read on its own. -/
structure Choice.Marks (setting : Setting) (state : State) (choice : Choice) (span : Span) :
    Prop where
  fold : setting.fold = true
  hasInner : choice.rule.kind.hasInnerText = true
  prose : choice.rule.innerMode = some .prose
  lexeme_inner : choice.lexeme.inner = some span
  positive : 0 < span.start
  nonempty : span.start < span.stop
  bounded : span.stop ≤ (choice.consumed state).length
  inner_eq : (choice.token setting state).inner = (choice.consumed state).slice span
  children_eq : (choice.token setting state).children =
    (readInner setting choice.rule (setting.offset + state.position + span.start)
      ((choice.consumed state).slice span)).tokens

namespace Choice.Marks

variable {span : Span}

theorem stands (marks : choice.Marks setting state span) :
    (choice.token setting state).text.Stands span.start (choice.token setting state).inner := by
  have nonempty := marks.nonempty
  have bounded := marks.bounded
  rw [choice.token_text, marks.inner_eq, ← Nat.zero_add span.start]
  exact (Text.stands_self _).slice (by omega)

theorem inner_ne_nil (marks : choice.Marks setting state span) :
    (choice.consumed state).slice span ≠ [] := by
  have nonempty := marks.nonempty
  have bounded := marks.bounded
  rw [← List.length_pos_iff, Text.length_slice (by omega)]
  omega

end Choice.Marks

theorem Choice.Applies.marks (applies : choice.Applies setting state)
    (rules : setting.rules = Rule.ofMode) (fold : setting.fold = true) {span : Span}
    (marked : choice.lexeme.inner = some span) : choice.Marks setting state span := by
  have member := applies.rule_mem_ofMode rules
  have hasInner : choice.rule.kind.hasInnerText = true := by
    obtain ⟨found, _, lexeme⟩ := applies.found
    rcases Rule.inner_eq_none_or_hasInnerText member with unmarked | hasInner
    · rw [lexeme, unmarked] at marked
      contradiction
    · exact hasInner
  obtain ⟨positive, nonempty, bounded⟩ := applies.inner_bounds rules marked
  rw [← applies.length_consumed] at bounded
  refine ⟨fold, hasInner, Rule.innerMode_eq_prose member hasInner, marked, positive, nonempty,
    bounded, ?_, ?_⟩
  all_goals
    unfold Choice.token makeToken
    simp only [marked, if_pos fold]
    rfl

/-- The token of a rule has an inner text and children only where the rule marks a part. -/
theorem Choice.Applies.marks_or (applies : choice.Applies setting state)
    (rules : setting.rules = Rule.ofMode) :
    (∃ span, choice.Marks setting state span) ∨
      (choice.token setting state).inner = [] ∧ (choice.token setting state).children = [] := by
  cases marked : choice.lexeme.inner with
  | none =>
      right
      unfold Choice.token makeToken
      rw [marked]
      exact ⟨rfl, rfl⟩
  | some span =>
      by_cases fold : setting.fold = true
      · exact .inl ⟨span, applies.marks rules fold marked⟩
      · right
        unfold Choice.token makeToken
        simp only [marked, if_neg fold]
        exact ⟨rfl, rfl⟩

/-- The readings of inner texts give a property to all tokens. -/
def Setting.Reads (property : Token → Prop) (setting : Setting) : Prop :=
  setting.ReadsInto fun _ _ _ outcome => ∀ token ∈ outcome.tokens, property token

theorem Choice.Applies.children_each (applies : choice.Applies setting state)
    (rules : setting.rules = Rule.ofMode) (reads : setting.Reads property)
    (text : ∀ start inner, inner ≠ [] → property (.leaf .text start inner setting.place)) :
    ∀ child ∈ (choice.token setting state).children, property child := by
  rcases applies.marks_or rules with ⟨span, marks⟩ | ⟨_, childless⟩
  · rw [marks.children_eq]
    apply reads.readInner
    rw [List.forall_mem_singleton]
    exact text _ _ marks.inner_ne_nil
  · simp [childless]

theorem Choice.Applies.token_everywhere (applies : choice.Applies setting state)
    (rules : setting.rules = Rule.ofMode) (reads : setting.Reads (Everywhere property))
    (text : ∀ start inner, inner ≠ [] → property (.leaf .text start inner setting.place))
    (here : property (choice.token setting state)) :
    (choice.token setting state).Everywhere property :=
  everywhere_iff.mpr ⟨here, applies.children_each rules reads fun start inner nonempty =>
    everywhere_of_children_eq_nil rfl (text start inner nonempty)⟩

theorem Choice.Applies.closes_ne_nil (applies : choice.Applies setting state)
    (paired : choice.pairing = some pairing) : choice.rule.closes ≠ [] := by
  intro none
  have resolves := (applies.pairs paired).resolves_eq
  rw [Rule.resolves, none] at resolves
  split at resolves <;> contradiction

theorem Choice.Applies.pair_isPair (applies : choice.Applies setting state)
    (rules : setting.rules = Rule.ofMode) (paired : choice.pairing = some pairing) :
    pairing.kind.isPair = true := by
  have member := applies.rule_mem_ofMode rules
  exact Rule.isPair_of_resolves member (applies.pairs paired).resolves_eq

/-- A property holds of all tokens of a state, the fronts among them. -/
def State.Each (property : Token → Prop) (state : State) : Prop :=
  ∀ token ∈ state.tokens, property token

theorem Choice.Applies.front_mem_tokens (applies : choice.Applies setting state)
    (paired : choice.pairing = some pairing) : pairing.frame.front ∈ state.tokens := by
  rw [State.tokens, (applies.pairs paired).frames_eq, Frame.tokens_append, Frame.tokens_cons]
  simp

theorem State.accept_tokens_withEvents (events : List Event) (choice : Choice) :
    (State.accept setting { state with events } choice).tokens =
      (state.accept setting choice).tokens := by
  have token : choice.token setting { state with events } = choice.token setting state := rfl
  rw [State.accept_eq, State.accept_eq, token]
  simp only [State.add, State.close, State.advance, State.tokens, State.flush_siblings_withEvents,
    State.flush_frames]
  split
  · rfl
  · split <;> rfl

/-- A property of tokens stays true where a front is given up and where two texts are joined. -/
structure KeptInText (property : Token → Prop) : Prop where
  demote : ∀ token : Token, property token → property token.demote
  join : ∀ token next : Token, token.isPlainText = true → next.isPlainText = true →
    property token → property next →
      property { token with text := token.text ++ next.text, stop := next.stop }

namespace KeptInText

theorem of_plain
    (plain : ∀ token : Token, token.kind = .text → token.children = [] → property token) :
    KeptInText property := by
  constructor
  · intro token _
    exact plain _ rfl rfl
  · intro token next isPlain _ _ _
    obtain ⟨isText, childless⟩ := isPlainText_iff.mp isPlain
    exact plain _ isText childless

/-- Given-up fronts and joined texts have no children, so a property of single tokens stays true
everywhere in them. -/
theorem everywhere (keeps : KeptInText property) : KeptInText (Everywhere property) := by
  constructor
  · intro token holds
    exact everywhere_of_children_eq_nil rfl (keeps.demote token holds.here)
  · intro token next isPlain nextPlain holds nextHolds
    exact everywhere_of_children_eq_nil (isPlainText_iff.mp isPlain).2
      (keeps.join token next isPlain nextPlain holds.here nextHolds.here)

theorem unwind (keeps : KeptInText property) {siblings : List Token} {frames : List Frame}
    (each : ∀ token ∈ siblings ++ Frame.tokens frames, property token) :
    ∀ token ∈ Frame.unwind siblings frames, property token := by
  intro token member
  rw [Frame.unwind_eq, List.mem_append] at member
  rcases member with sibling | left
  · exact each token (List.mem_append_left _ sibling)
  · obtain ⟨frame, open_, inside⟩ := List.mem_flatMap.mp left
    have known : ∀ token ∈ frame.front :: frame.before, property token := by
      intro token member
      apply each
      apply List.mem_append_right
      exact List.mem_flatMap.mpr ⟨frame, open_, member⟩
    rcases List.mem_cons.mp inside with rfl | before
    · exact keeps.demote _ (known _ List.mem_cons_self)
    · exact known token (List.mem_cons_of_mem _ before)

theorem coalesce_unwind (keeps : KeptInText property) {siblings : List Token}
    {frames : List Frame} (each : ∀ token ∈ siblings ++ Frame.tokens frames, property token) :
    ∀ token ∈ Token.coalesce (Frame.unwind siblings frames).reverse, property token := by
  apply forall_mem_coalesce keeps.join
  intro token member
  exact keeps.unwind each token (List.mem_reverse.mp member)

end KeptInText

/-- A scan makes all its tokens with a property: the texts, the tokens of rules and the pairs, and
what becomes of them.  What is known of its states may be used for the tokens of rules and of
pairs, and so may the property of the tokens that are there already. -/
structure Makes (setting : Setting) (known : State → Prop) (property : Token → Prop) : Prop where
  stepwise : Stepwise setting known
  keptInText : KeptInText property
  text : ∀ start inner, inner ≠ [] → property (.leaf .text start inner setting.place)
  token : ∀ (state : State) (choice : Choice), state.choice? setting = some choice →
    known state → state.Each property → property (choice.token setting state)
  pair : ∀ (state : State) (choice : Choice) (pairing : Pairing), setting.fold = true →
    choice.Applies setting state → choice.pairing = some pairing → known state →
    property pairing.frame.front → property (choice.token setting state) →
    (∀ child ∈ pairing.children (state.flush setting).siblings, property child) →
    property (foldPair pairing.kind pairing.frame.front
      (pairing.children (state.flush setting).siblings) (choice.token setting state))

namespace Makes

theorem everywhere (rules : setting.rules = Rule.ofMode)
    (reads : setting.Reads (Everywhere property)) (stepwise : Stepwise setting known)
    (keptInText : KeptInText property)
    (text : ∀ start inner, inner ≠ [] → property (.leaf .text start inner setting.place))
    (token : ∀ (state : State) (choice : Choice), choice.Applies setting state → known state →
      property (choice.token setting state))
    (pair : ∀ (state : State) (choice : Choice) (pairing : Pairing),
      choice.Applies setting state → choice.pairing = some pairing → known state →
      property pairing.frame.front → property (choice.token setting state) →
      (∀ child ∈ pairing.children (state.flush setting).siblings, property child) →
      property (foldPair pairing.kind pairing.frame.front
        (pairing.children (state.flush setting).siblings) (choice.token setting state))) :
    Makes setting known (Everywhere property) where
  stepwise := stepwise
  keptInText := keptInText.everywhere
  text := fun start inner notEmpty => everywhere_of_children_eq_nil rfl (text start inner notEmpty)
  token := fun state choice chosen holds _ =>
    have applies := State.choice?_applies chosen
    applies.token_everywhere rules reads text (token state choice applies holds)
  pair := fun state choice pairing _ applies paired holds front back children =>
    everywhere_iff.mpr
      ⟨pair state choice pairing applies paired holds front.here back.here
        fun child member => (children child member).here, children⟩

theorem flush_each (makes : Makes setting known property) (each : state.Each property) :
    (state.flush setting).Each property := by
  unfold State.flush
  split
  · exact each
  · rename_i pending
    intro token member
    rcases List.mem_cons.mp member with rfl | before
    · exact makes.text _ _ (by simpa using pending)
    · exact each token before

theorem close_each (makes : Makes setting known property) (applies : choice.Applies setting state)
    (paired : choice.pairing = some pairing) (holds : known state) (each : state.Each property)
    (added : property (choice.token setting state)) :
    ((state.advance setting choice).close setting (choice.token setting state) pairing).Each
      property := by
  have flushed : ∀ token ∈ (state.flush setting).siblings ++ Frame.tokens state.frames,
      property token := by
    have each := makes.flush_each each
    rw [State.Each, State.tokens, State.flush_frames] at each
    exact each
  rw [(applies.pairs paired).frames_eq, Frame.tokens_append, Frame.tokens_cons] at flushed
  have inside : ∀ token ∈ (state.flush setting).siblings ++ Frame.tokens pairing.abandoned,
      property token := by
    intro token member
    apply flushed
    rw [← List.append_assoc]
    exact List.mem_append_left _ member
  have outside : ∀ token ∈ pairing.frame.front :: pairing.frame.before ++
      Frame.tokens pairing.outer, property token := by
    intro token member
    exact flushed token (List.mem_append_right _ (List.mem_append_right _ member))
  intro token member
  have siblings : (state.advance setting choice).siblings = (state.flush setting).siblings := rfl
  simp only [State.close, State.tokens, siblings] at member
  split at member
  · rename_i fold
    rcases List.mem_cons.mp member with rfl | before
    · exact makes.pair state choice pairing fold applies paired holds
        (each _ (applies.front_mem_tokens paired)) added
        (makes.keptInText.coalesce_unwind inside)
    · exact outside token (List.mem_cons_of_mem _ before)
  · rw [List.append_assoc] at member
    rcases List.mem_append.mp member with between | before
    · rcases List.mem_cons.mp between with rfl | between
      · exact added
      · exact makes.keptInText.unwind inside token between
    · exact outside token before

theorem accept_each (makes : Makes setting known property)
    (chosen : state.choice? setting = some choice) (holds : known state)
    (each : state.Each property) : (state.accept setting choice).Each property := by
  have applies := State.choice?_applies chosen
  have added := makes.token state choice chosen holds each
  have advanced : (state.advance setting choice).Each property := makes.flush_each each
  rw [State.accept_eq, State.add]
  split
  · rename_i pairing paired
    exact makes.close_each applies paired holds each added
  · split
    · intro token member
      rcases List.mem_cons.mp member with rfl | before
      · exact added
      · exact advanced token before
    · intro token member
      rcases List.mem_cons.mp member with rfl | before
      · exact added
      · exact advanced token before

theorem skipChar_each (each : state.Each property) : state.skipChar.Each property := by
  unfold State.skipChar
  split <;> exact each

theorem stepwise_each (makes : Makes setting known property) :
    Stepwise setting fun state => known state ∧ state.Each property := by
  rintro state ⟨holds, each⟩ ahead
  refine ⟨makes.stepwise state holds ahead, ?_⟩
  obtain ⟨events, step⟩ := State.step_eq setting state
  cases chosen : state.choice? setting with
  | none =>
      rw [chosen] at step
      rw [step]
      exact skipChar_each each
  | some choice =>
      rw [chosen] at step
      rw [step, State.Each, State.accept_tokens_withEvents]
      exact makes.accept_each chosen holds each

theorem finish (makes : Makes setting known property) (each : state.Each property) :
    ∀ token ∈ (state.finish setting).tokens, property token :=
  makes.keptInText.coalesce_unwind (makes.flush_each each)

/-- The property holds of all tokens that the scan returns. -/
theorem scanText (makes : Makes setting known property) {text : Text}
    (initial : known (.initial text)) :
    ∀ token ∈ (Scan.scanText setting text).tokens, property token := by
  have none : (State.initial text).Each property := by
    intro token member
    contradiction
  obtain ⟨final, ⟨_, each⟩, _, equal⟩ := makes.stepwise_each.scanText ⟨initial, none⟩
  rw [equal]
  exact makes.finish each

end Makes

/-- A scan gives a property to all its tokens when all plain texts have it, and the tokens of rules
and the pairs get it. -/
structure Gives (setting : Setting) (known : State → Prop) (property : Token → Prop) : Prop where
  kept : Kept setting known
  plain : ∀ token : Token, token.kind = .text → token.children = [] → property token
  token : ∀ (state : State) (choice : Choice), choice.Applies setting state → known state →
    state.Each property → property (choice.token setting state)
  pair : ∀ (state : State) (choice : Choice) (pairing : Pairing), setting.fold = true →
    choice.Applies setting state → choice.pairing = some pairing → known state →
    (∀ child ∈ pairing.children (state.flush setting).siblings, property child) →
    property (foldPair pairing.kind pairing.frame.front
      (pairing.children (state.flush setting).siblings) (choice.token setting state))

namespace Gives

theorem everywhere (rules : setting.rules = Rule.ofMode)
    (reads : setting.Reads (Everywhere property)) (kept : Kept setting known)
    (plain : ∀ token : Token, token.kind = .text → property token)
    (token : ∀ (state : State) (choice : Choice), choice.Applies setting state → known state →
      property (choice.token setting state))
    (pair : ∀ (state : State) (choice : Choice) (pairing : Pairing),
      choice.Applies setting state → choice.pairing = some pairing → known state →
      property (foldPair pairing.kind pairing.frame.front
        (pairing.children (state.flush setting).siblings) (choice.token setting state))) :
    Gives setting known (Everywhere property) where
  kept := kept
  plain := fun text isText childless => everywhere_of_children_eq_nil childless (plain text isText)
  token := fun state choice applies holds _ =>
    applies.token_everywhere rules reads (fun _ _ _ => plain _ rfl)
      (token state choice applies holds)
  pair := fun state choice pairing _ applies paired holds children =>
    everywhere_iff.mpr ⟨pair state choice pairing applies paired holds, children⟩

theorem makes (gives : Gives setting known property) : Makes setting known property where
  stepwise := gives.kept.stepwise
  keptInText := .of_plain gives.plain
  text := fun _ _ _ => gives.plain _ rfl rfl
  token := fun state choice chosen => gives.token state choice (State.choice?_applies chosen)
  pair := fun state choice pairing fold applies paired holds _ _ children =>
    gives.pair state choice pairing fold applies paired holds children

theorem scanText (gives : Gives setting known property) {text : Text}
    (initial : known (.initial text)) :
    ∀ token ∈ (Scan.scanText setting text).tokens, property token :=
  gives.makes.scanText initial

end Gives

end Scan

end PassageMarkup
