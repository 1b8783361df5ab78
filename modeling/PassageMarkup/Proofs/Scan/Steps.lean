import PassageMarkup.Lex
import PassageMarkup.Proofs.Pattern

/-!
# What a step of a scan can do

A step either goes past one character or takes a rule that applies.  `Choice.Applies` collects all
that is known of such a rule, and `Kept.scanText` and `read_induction` carry a property through a
whole scan and through the inner texts.
-/

namespace PassageMarkup

namespace Scan

/-- What holds of a rule that is taken at the place of a state. -/
structure Choice.Applies (setting : Setting) (state : State) (choice : Choice) : Prop where
  rule_mem : choice.rule ∈ setting.rules (state.mode setting)
  admitted : state.admits setting choice.rule = true
  found : ∃ found, choice.rule.pattern.find? state.rest = some found ∧
    choice.lexeme = choice.rule.lexeme found
  length_pos : 0 < choice.lexeme.length
  length_le : choice.lexeme.length ≤ state.rest.length
  pairing_eq : choice.pairing = Frame.pairing? choice.rule choice.lexeme.arity state.frames
  unpaired : choice.pairing = none →
    choice.rule.front = true ∧ state.frames.length < setting.room ∨
      choice.rule.front = false ∧ choice.rule.closes = []

theorem Choice.Applies.rule_mem_ofMode {setting : Setting} {state : State} {choice : Choice}
    (applies : choice.Applies setting state) (rules : setting.rules = Rule.ofMode) :
    choice.rule ∈ Rule.ofMode (state.mode setting) := by
  have member := applies.rule_mem
  rw [rules] at member
  exact member

theorem Choice.Applies.rest_ne_nil {setting : Setting} {state : State} {choice : Choice}
    (applies : choice.Applies setting state) : state.rest ≠ [] :=
  List.length_pos_iff.mp (Nat.lt_of_lt_of_le applies.length_pos applies.length_le)

theorem Choice.Applies.withEvents {setting : Setting} {state : State} {choice : Choice}
    (applies : choice.Applies setting state) (events : List Event) :
    choice.Applies setting { state with events } :=
  ⟨applies.rule_mem, applies.admitted, applies.found, applies.length_pos, applies.length_le,
    applies.pairing_eq, applies.unpaired⟩

/-- The token of the rule that is taken at the place of a state. -/
def Choice.token (setting : Setting) (state : State) (choice : Choice) : Token :=
  (makeToken setting choice.rule choice.lexeme (setting.offset + state.position)
    (state.rest.take choice.lexeme.length)).1

/-- What is read inside the token of a rule changes nothing else of the token. -/
theorem Choice.token_eq (setting : Setting) (state : State) (choice : Choice) :
    ∃ inner children, choice.token setting state =
      { Token.leaf choice.rule.kind (setting.offset + state.position)
          (state.rest.take choice.lexeme.length) setting.place with
        inner, children, fields := choice.lexeme.fields, fault := choice.lexeme.fault } := by
  unfold Choice.token makeToken
  split
  · exact ⟨_, _, rfl⟩
  · simp only
    split <;> exact ⟨_, _, rfl⟩

theorem Choice.token_kind (setting : Setting) (state : State) (choice : Choice) :
    (choice.token setting state).kind = choice.rule.kind := by
  obtain ⟨inner, children, token⟩ := choice.token_eq setting state
  rw [token]
  rfl

theorem Choice.token_start (setting : Setting) (state : State) (choice : Choice) :
    (choice.token setting state).start = setting.offset + state.position := by
  obtain ⟨inner, children, token⟩ := choice.token_eq setting state
  rw [token]
  rfl

namespace State

variable {setting : Setting} {state : State}

@[simp] theorem flush_pending : (state.flush setting).pending = [] := by
  unfold flush
  split
  · rename_i empty
    exact List.isEmpty_iff.mp empty
  · rfl

@[simp] theorem flush_frames : (state.flush setting).frames = state.frames := by
  unfold flush
  split <;> rfl

@[simp] theorem flush_events : (state.flush setting).events = state.events := by
  unfold flush
  split <;> rfl

theorem flush_siblings_withEvents (events : List Event) :
    ({ state with events }.flush setting).siblings = (state.flush setting).siblings := by
  unfold flush
  simp only
  split <;> rfl

/-- A state past the text of the rule that is taken, but without the rule's token. -/
def advance (setting : Setting) (state : State) (choice : Choice) : State :=
  { state.flush setting with
    rest := state.rest.drop choice.lexeme.length
    position := state.position + choice.lexeme.length
    events :=
      (makeToken setting choice.rule choice.lexeme (setting.offset + state.position)
        (state.rest.take choice.lexeme.length)).2 ++ (state.flush setting).events }

theorem accept_eq (choice : Choice) :
    state.accept setting choice =
      (state.advance setting choice).add setting choice (choice.token setting state) :=
  rfl

@[simp] theorem advance_frames (choice : Choice) :
    (state.advance setting choice).frames = state.frames :=
  flush_frames

theorem advance_events (choice : Choice) :
    (state.advance setting choice).events =
      (makeToken setting choice.rule choice.lexeme (setting.offset + state.position)
        (state.rest.take choice.lexeme.length)).2 ++ state.events := by
  rw [advance, flush_events]

@[simp] theorem add_rest (choice : Choice) (token : Token) :
    (state.add setting choice token).rest = state.rest := by
  unfold add
  split
  · rfl
  · split <;> rfl

@[simp] theorem add_position (choice : Choice) (token : Token) :
    (state.add setting choice token).position = state.position := by
  unfold add
  split
  · rfl
  · split <;> rfl

@[simp] theorem add_pending (choice : Choice) (token : Token) :
    (state.add setting choice token).pending = state.pending := by
  unfold add
  split
  · rfl
  · split <;> rfl

theorem judgeLexeme_accept {rule : Rule} {lexeme taken : Lexeme} {pairing : Option Pairing}
    (accepted : state.judgeLexeme setting rule lexeme = .accept taken pairing) :
    taken = lexeme ∧ pairing = Frame.pairing? rule lexeme.arity state.frames ∧
      (pairing = none →
        rule.front = true ∧ state.frames.length < setting.room ∨
          rule.front = false ∧ rule.closes = []) := by
  unfold judgeLexeme at accepted
  split at accepted
  · rename_i found paired
    cases accepted
    exact ⟨rfl, paired.symm, by simp⟩
  · rename_i unpaired
    split at accepted
    · rename_i front
      split at accepted
      · contradiction
      · rename_i room
        cases accepted
        exact ⟨rfl, unpaired.symm, fun _ => .inl ⟨front, Nat.lt_of_not_ge room⟩⟩
    · rename_i notFront
      split at accepted
      · rename_i closesNothing
        cases accepted
        refine ⟨rfl, unpaired.symm, fun _ => .inr ⟨by simpa using notFront, ?_⟩⟩
        exact List.isEmpty_iff.mp closesNothing
      · contradiction

theorem judge_accept {rule : Rule} {lexeme : Lexeme} {pairing : Option Pairing}
    (member : rule ∈ setting.rules (state.mode setting))
    (accepted : state.judge setting rule = .accept lexeme pairing) :
    Choice.Applies setting state ⟨rule, lexeme, pairing⟩ := by
  unfold judge at accepted
  split at accepted
  · rename_i admitted
    split at accepted
    · contradiction
    · rename_i found success
      simp only at accepted
      split at accepted
      · contradiction
      · rename_i fits
        obtain ⟨rfl, pairingEq, unpaired⟩ := judgeLexeme_accept accepted
        simp only [Bool.or_eq_true, decide_eq_true_eq, not_or] at fits
        exact ⟨member, admitted, ⟨found, success, rfl⟩, Nat.pos_of_ne_zero fits.1,
          Nat.le_of_not_gt fits.2, pairingEq, unpaired⟩
  · contradiction

theorem choose_applies {rules : List Rule} {choice : Choice}
    (known : ∀ rule ∈ rules, rule ∈ setting.rules (state.mode setting))
    (chosen : (state.choose setting rules).2 = some choice) : choice.Applies setting state := by
  induction rules with
  | nil => simp [choose] at chosen
  | cons rule rules induction =>
      have later : ∀ other ∈ rules, other ∈ setting.rules (state.mode setting) :=
        fun other member => known other (by simp [member])
      unfold choose at chosen
      split at chosen
      · exact induction later chosen
      · exact induction later chosen
      · rename_i lexeme pairing accepted
        cases chosen
        exact judge_accept (known rule (by simp)) accepted

/-- The rule that a step takes, if any. -/
def choice? (setting : Setting) (state : State) : Option Choice :=
  (state.choose setting (setting.rules (state.mode setting))).2

theorem choice?_applies {choice : Choice} (chosen : state.choice? setting = some choice) :
    choice.Applies setting state :=
  choose_applies (fun _ member => member) chosen

/-- The state at which a step takes its rule: the events of refused rules are noted. -/
def noted (setting : Setting) (state : State) : State :=
  let refused := (state.choose setting (setting.rules (state.mode setting))).1
  let refusals := refused.map fun kind => Event.refused kind (setting.offset + state.position)
  { state with events := refusals.reverse ++ state.events }

theorem mem_noted_events_iff {event : Event} :
    event ∈ (state.noted setting).events ↔
      event ∈ state.events ∨
        ∃ kind ∈ (state.choose setting (setting.rules (state.mode setting))).1,
          event = .refused kind (setting.offset + state.position) := by
  simp only [noted, List.mem_append, List.mem_reverse, List.mem_map, or_comm, eq_comm]

theorem step_eq_noted (setting : Setting) (state : State) :
    state.step setting =
      match state.choice? setting with
      | none => (state.noted setting).skipChar
      | some choice => (state.noted setting).accept setting choice := by
  unfold step noted choice?
  rcases state.choose setting (setting.rules (state.mode setting)) with ⟨refused, choice⟩
  cases choice <;> rfl

theorem step_eq (setting : Setting) (state : State) :
    ∃ events,
      state.step setting =
        match state.choice? setting with
        | none => skipChar { state with events }
        | some choice => accept setting { state with events } choice :=
  ⟨_, step_eq_noted setting state⟩

theorem step_cases (setting : Setting) (state : State) :
    ∃ events,
      state.step setting = skipChar { state with events } ∨
        ∃ choice, choice.Applies setting state ∧
          state.step setting = accept setting { state with events } choice := by
  obtain ⟨events, equal⟩ := step_eq setting state
  refine ⟨events, ?_⟩
  cases chosen : state.choice? setting with
  | none =>
      rw [chosen] at equal
      exact .inl equal
  | some choice =>
      rw [chosen] at equal
      exact .inr ⟨choice, choice?_applies chosen, equal⟩

theorem accept_rest (choice : Choice) :
    (state.accept setting choice).rest = state.rest.drop choice.lexeme.length := by
  rw [accept_eq, add_rest]
  rfl

theorem step_rest_lt (ahead : state.rest ≠ []) :
    (state.step setting).rest.length < state.rest.length := by
  obtain ⟨events, skipped | ⟨choice, applies, accepted⟩⟩ := step_cases setting state
  · rw [skipped, skipChar]
    cases rest : state.rest with
    | nil => contradiction
    | cons c others => simp
  · rw [accepted, accept_rest]
    have positive := applies.length_pos
    have inside := applies.length_le
    simp only [List.length_drop]
    omega

theorem run_rest {bound : Nat} (enough : state.rest.length ≤ bound) :
    (state.run setting bound).rest = [] := by
  induction bound generalizing state with
  | zero => exact List.length_eq_zero_iff.mp (Nat.le_zero.mp enough)
  | succ bound induction =>
      unfold run
      split
      · rename_i finished
        exact List.isEmpty_iff.mp finished
      · rename_i ahead
        have shorter : (state.step setting).rest.length < state.rest.length :=
          step_rest_lt (mt List.isEmpty_iff.mpr ahead)
        exact induction (by omega)

end State

/-- Every step of a scan that has not come to its end keeps a property of states. -/
def Stepwise (setting : Setting) (property : State → Prop) : Prop :=
  ∀ state, property state → state.rest ≠ [] → property (state.step setting)

namespace Stepwise

variable {setting : Setting} {property : State → Prop} {state : State}

theorem run (stepwise : Stepwise setting property) {bound : Nat} (holds : property state) :
    property (state.run setting bound) := by
  induction bound generalizing state with
  | zero => exact holds
  | succ bound induction =>
      unfold State.run
      split
      · exact holds
      · rename_i ahead
        exact induction (stepwise state holds (mt List.isEmpty_iff.mpr ahead))

theorem scanText (stepwise : Stepwise setting property) {text : Text}
    (initial : property (.initial text)) :
    ∃ final : State, property final ∧ final.rest = [] ∧
      Scan.scanText setting text = final.finish setting :=
  ⟨_, stepwise.run initial, State.run_rest (Nat.le_refl _), rfl⟩

end Stepwise

/-- Two scans that go on together: a step of both keeps what relates their states, and they come to
their ends together. -/
structure Lockstep (setting other : Setting) (related : State → State → Prop) : Prop where
  ended : ∀ left right, related left right → left.rest.isEmpty = right.rest.isEmpty
  step : ∀ left right, related left right → left.rest ≠ [] →
    related (left.step setting) (right.step other)

theorem Lockstep.run {setting other : Setting} {related : State → State → Prop}
    (lockstep : Lockstep setting other related) {left right : State}
    (relates : related left right) (bound : Nat) :
    related (left.run setting bound) (right.run other bound) := by
  induction bound generalizing left right with
  | zero => exact relates
  | succ bound induction =>
      unfold State.run
      rw [← lockstep.ended left right relates]
      split
      · exact relates
      · rename_i ahead
        exact induction (lockstep.step left right relates (mt List.isEmpty_iff.mpr ahead))

/-- A scan with the steps of another at all states that the other can come to goes through the same
states. -/
theorem Stepwise.run_eq {setting other : Setting} {property : State → Prop} {state : State}
    (stepwise : Stepwise setting property)
    (same : ∀ state, property state → state.rest ≠ [] → state.step other = state.step setting)
    (holds : property state) (bound : Nat) : state.run other bound = state.run setting bound := by
  have lockstep : Lockstep other setting fun left right => left = right ∧ property left := by
    constructor
    · rintro left _ ⟨rfl, _⟩
      rfl
    · rintro left _ ⟨rfl, holds⟩ ahead
      have equal := same left holds ahead
      refine ⟨equal, ?_⟩
      rw [equal]
      exact stepwise left holds ahead
  exact (lockstep.run ⟨rfl, holds⟩ bound).1

/-- A property of states that a scan keeps: events do not matter to it, and both going past a
character and taking a rule keep it. -/
structure Kept (setting : Setting) (property : State → Prop) : Prop where
  withEvents : ∀ state events, property state → property { state with events }
  skipChar : ∀ state, property state → property state.skipChar
  accept : ∀ state choice, choice.Applies setting state → property state →
    property (state.accept setting choice)

namespace Kept

variable {setting : Setting} {property : State → Prop} {state : State}

theorem trivially : Kept setting fun _ => True :=
  ⟨fun _ _ _ => trivial, fun _ _ => trivial, fun _ _ _ _ => trivial⟩

theorem step (kept : Kept setting property) (holds : property state) :
    property (state.step setting) := by
  obtain ⟨events, skipped | ⟨choice, applies, accepted⟩⟩ := State.step_cases setting state
  · rw [skipped]
    exact kept.skipChar _ (kept.withEvents state events holds)
  · rw [accepted]
    exact kept.accept _ choice (applies.withEvents events) (kept.withEvents state events holds)

theorem stepwise (kept : Kept setting property) : Stepwise setting property :=
  fun _ holds _ => kept.step holds

theorem run (kept : Kept setting property) {bound : Nat} (holds : property state) :
    property (state.run setting bound) :=
  kept.stepwise.run holds

theorem scanText (kept : Kept setting property) {text : Text} (initial : property (.initial text)) :
    ∃ final : State, property final ∧ final.rest = [] ∧
      Scan.scanText setting text = final.finish setting :=
  kept.stepwise.scanText initial

end Kept

/-- Inner texts are read into outcomes that have a property, whatever the mode and the place. -/
def Setting.ReadsInto (property : Mode → Nat → Text → Outcome → Prop) (setting : Setting) : Prop :=
  ∀ read, setting.readInner = some read →
    ∀ mode offset inner, property mode offset inner (read mode offset inner)

theorem Setting.ReadsInto.readInner {setting : Setting}
    {property : Mode → Nat → Text → Outcome → Prop} (reads : setting.ReadsInto property)
    (rule : Rule) {start : Nat} {inner : Text}
    (unread : property (rule.innerMode.getD .prose) start inner
      ⟨[.leaf .text start inner setting.place], [.unread start]⟩) :
    property (rule.innerMode.getD .prose) start inner
      (Scan.readInner setting rule start inner) := by
  unfold Scan.readInner
  split
  · rename_i read present
    exact reads read present _ start inner
  · exact unread

/-- The setting in which a table reads a text with room for a number of open fronts. -/
def readSetting (rules : Mode → List Rule) (fold : Bool) (place : Text) (room : Nat) (mode : Mode)
    (beginsLine : Bool) (offset : Nat) (text : Text) : Setting where
  rules := rules
  fold := fold
  place := place
  room := room
  mode := mode
  beginsLine := beginsLine
  offset := offset
  horizon := .ofText text
  readInner :=
    if room ≤ 1 then none
    else some fun innerMode => read rules fold place (room - 1) innerMode false

theorem read_eq (rules : Mode → List Rule) (fold : Bool) (place : Text) (room : Nat) (mode : Mode)
    (beginsLine : Bool) (offset : Nat) (text : Text) :
    read rules fold place room mode beginsLine offset text =
      scanText (readSetting rules fold place room mode beginsLine offset text) text := by
  match room with
  | 0 => rfl
  | 1 => rfl
  | _ + 2 => rfl

/-- Inner texts are read with room for one front less, and only if that leaves any room. -/
theorem readSetting_readInner {rules : Mode → List Rule} {fold : Bool} {place : Text} {room : Nat}
    {mode : Mode} {beginsLine : Bool} {offset : Nat} {text : Text}
    {inner : Mode → Nat → Text → Outcome}
    (present : (readSetting rules fold place room mode beginsLine offset text).readInner =
      some inner) :
    1 < room ∧ inner = fun innerMode => read rules fold place (room - 1) innerMode false := by
  simp only [readSetting] at present
  split at present
  · contradiction
  · rename_i more
    exact ⟨Nat.lt_of_not_ge more, (Option.some.inj present).symm⟩

/-- What every reading with room for one front less has, the readings of inner texts have. -/
theorem readSetting_readsInto {rules : Mode → List Rule} {fold : Bool} {place : Text} {room : Nat}
    {mode : Mode} {beginsLine : Bool} {offset : Nat} {text : Text}
    {property : Mode → Nat → Text → Outcome → Prop}
    (reads : 1 < room → ∀ innerMode start inner, property innerMode start inner
      (read rules fold place (room - 1) innerMode false start inner)) :
    (readSetting rules fold place room mode beginsLine offset text).ReadsInto property := by
  intro inner present innerMode innerOffset innerText
  obtain ⟨more, rfl⟩ := readSetting_readInner present
  exact reads more innerMode innerOffset innerText

/-- What a scan returns has a property when the scan gives it to what it returns as soon as the
readings of inner texts have it.  Inner texts do not begin lines. -/
theorem read_recursion {rules : Mode → List Rule} {fold : Bool} {place : Text}
    (property : Mode → Bool → Nat → Text → Outcome → Prop)
    (scan : ∀ room mode beginsLine offset text,
      (readSetting rules fold place room mode beginsLine offset text).ReadsInto
          (fun mode => property mode false) →
        property mode beginsLine offset text
          (scanText (readSetting rules fold place room mode beginsLine offset text) text))
    (room : Nat) (mode : Mode) (beginsLine : Bool) (offset : Nat) (text : Text) :
    property mode beginsLine offset text
      (read rules fold place room mode beginsLine offset text) := by
  induction room generalizing mode beginsLine offset text with
  | zero =>
      rw [read_eq]
      apply scan
      exact readSetting_readsInto fun more => by contradiction
  | succ room induction =>
      rw [read_eq]
      apply scan
      exact readSetting_readsInto fun _ innerMode => induction innerMode false

theorem read_induction {rules : Mode → List Rule} {fold : Bool} {place : Text}
    (property : Mode → Nat → Text → Outcome → Prop)
    (scan : ∀ room mode beginsLine offset text,
      (readSetting rules fold place room mode beginsLine offset text).ReadsInto property →
        property mode offset text
          (scanText (readSetting rules fold place room mode beginsLine offset text) text))
    (room : Nat) (mode : Mode) (beginsLine : Bool) (offset : Nat) (text : Text) :
    property mode offset text (read rules fold place room mode beginsLine offset text) :=
  read_recursion (fun mode _ offset text outcome => property mode offset text outcome) scan room
    mode beginsLine offset text

end Scan

end PassageMarkup
