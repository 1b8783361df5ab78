import PassageMarkup.Proofs.Scan.Free
import PassageMarkup.Proofs.Scan.Texts
import PassageMarkup.Proofs.Scan.Tokens

/-!
# Refused fronts stay text

Where the limit on nesting keeps a front from opening, the rules after its rule are still tried, and
all rules are tried at the characters that follow.  For most fronts none of them can take anything,
so the whole front becomes text.  Out of a mark of strong emphasis a mark of emphasis can be taken,
and of a run of backticks, a call or a named hook only the first character is sure to stay text.
-/

namespace PassageMarkup

/-- The number of characters at the start of a refused front that no rule can take. -/
def Kind.inertLength : Kind → Nat
  | .emphasis .strong => 0
  | .emphasis .em => 1
  | .emphasis _ => 2
  | _ => 1

theorem Kind.inertLength_le (kind : Kind) : kind.inertLength ≤ 2 := by
  unfold inertLength
  split <;> decide

namespace Rule

variable {mode : Mode} {rule : Rule} {c : Char}

def fronts : Mode → List Rule
  | .prose =>
    [verbatimOpener, hookPrependedFront, hookFront, collapsedFront] ++
      Emphasis.all.map ofEmphasis ++ [macroFront]
  | .expression => [hookFront, macroFront, groupingFront] ++ Quote.all.map stringOpener
  | .string => []
  | .verbatim => [verbatimOpener]

theorem mem_fronts (member : rule ∈ ofMode mode) (isFront : rule.front = true) :
    rule ∈ fronts mode := by
  have filtered : (ofMode mode).filter (·.front) = fronts mode := by
    cases mode <;> rfl
  rw [← filtered]
  exact List.mem_filter.mpr ⟨member, isFront⟩

def frontHeads : List Char :=
  ['\x60', '|', '[', '\x7b', '\'', '/', '*', '~', '^', '_', '(', '"']

theorem mem_frontHeads (member : rule ∈ ofMode mode) (isFront : rule.front = true)
    (starts : rule.pattern.toRegex.starts c = true) : c ∈ frontHeads := by
  have head : ∃ d ∈ frontHeads, Regex.isCaseless d = true ∧
      rule.pattern.toRegex.heads = [Regex.sameAs d] := by
    have listed := mem_fronts member isFront
    cases mode <;> fin_cases listed <;> exact ⟨_, by decide, by decide, rfl⟩
  obtain ⟨d, inHeads, caseless, heads⟩ := head
  rw [Regex.starts, heads] at starts
  have same : Regex.sameAs d c = true := by simpa using starts
  rw [Regex.eq_of_sameAs caseless same]
  exact inHeads

/-- The rules after a front that begin with the same character only open other fronts. -/
theorem live_after_front (mode : Mode) (head : c ∈ frontHeads) :
    (live mode c).Pairwise fun earlier later =>
      earlier.front = true → earlier.kind.inertLength ≠ 0 →
        later.front = true ∧ later.closes = [] := by
  fin_cases head <;> cases mode <;> decide

theorem live_double (member : rule ∈ ofMode mode) (isFront : rule.front = true)
    (double : rule.kind.inertLength = 2) :
    ∃ d, rule.pattern = .plain [d, d] ∧ rule.lexeme = Lexeme.whole ∧ live mode d = [rule] := by
  have listed := mem_fronts member isFront
  cases mode <;> fin_cases listed <;> first | contradiction | exact ⟨_, rfl, rfl, rfl⟩

end Rule

namespace Scan

open Token

variable {source : Text} {setting : Setting} {state : State} {kind : Kind} {rule : Rule}
  {choice : Choice} {offset : Nat}

namespace State

/-- A refused kind is that of a rule after which the choice went on. -/
theorem exists_of_refused {rules : List Rule} (refused : kind ∈ (state.choose setting rules).1) :
    ∃ earlier rule later, rules = earlier ++ rule :: later ∧ rule.kind = kind ∧
      state.judge setting rule = .refuse ∧
      (state.choose setting rules).2 = (state.choose setting later).2 := by
  induction rules with
  | nil => contradiction
  | cons first rest induction =>
      rw [choose] at refused ⊢
      cases judged : state.judge setting first with
      | skip =>
          rw [judged] at refused
          obtain ⟨earlier, rule, later, split, found⟩ := induction refused
          exact ⟨first :: earlier, rule, later, by rw [split]; rfl, found⟩
      | refuse =>
          rw [judged] at refused
          rcases List.mem_cons.mp refused with rfl | later
          · exact ⟨[], first, rest, rfl, rfl, judged, rfl⟩
          · obtain ⟨earlier, rule, later, split, found⟩ := induction later
            exact ⟨first :: earlier, rule, later, by rw [split]; rfl, found⟩
      | accept lexeme pairing =>
          rw [judged] at refused
          contradiction

theorem mem_of_choose {rules : List Rule} (chosen : (state.choose setting rules).2 = some choice) :
    choice.rule ∈ rules := by
  induction rules with
  | nil => contradiction
  | cons first rest induction =>
      rw [choose] at chosen
      cases judged : state.judge setting first with
      | skip =>
          rw [judged] at chosen
          exact List.mem_cons_of_mem first (induction chosen)
      | refuse =>
          rw [judged] at chosen
          exact List.mem_cons_of_mem first (induction chosen)
      | accept lexeme pairing =>
          rw [judged] at chosen
          cases chosen
          exact List.mem_cons_self

theorem choose_eq_none {rules : List Rule} (full : setting.room ≤ state.frames.length)
    (known : ∀ rule ∈ rules, rule ∈ setting.rules (state.mode setting))
    (fronts : ∀ rule ∈ rules, rule.front = true ∧
      ∀ found, Frame.pairing? rule (rule.lexeme found).arity state.frames = none) :
    (state.choose setting rules).2 = none := by
  rw [Option.eq_none_iff_forall_ne_some]
  intro choice chosen
  have applies := choose_applies known chosen
  obtain ⟨isFront, unpaired⟩ := fronts choice.rule (mem_of_choose chosen)
  obtain ⟨found, _, lexeme⟩ := applies.found
  have alone : choice.pairing = none := by
    rw [applies.pairing_eq, lexeme, unpaired]
  rcases applies.unpaired alone with ⟨_, room⟩ | ⟨notFront, _⟩
  · omega
  · rw [isFront] at notFront
    contradiction

/-- No rule takes the character at which a front is refused. -/
theorem choice?_eq_none_of_refused {c : Char} {rest : Text} (rules : setting.rules = Rule.ofMode)
    (ahead : state.rest = c :: rest)
    (refused : kind ∈ (state.choose setting (setting.rules (state.mode setting))).1)
    (inert : kind.inertLength ≠ 0) : state.choice? setting = none := by
  rw [rules, ← choose_live ahead] at refused
  obtain ⟨earlier, rule, later, split, rfl, judged, after⟩ := exists_of_refused refused
  obtain ⟨isFront, full, _⟩ := judge_refuse judged
  have live : ∀ other ∈ rule :: later,
      other ∈ Rule.ofMode (state.mode setting) ∧ other.pattern.toRegex.starts c = true := by
    intro other member
    apply List.mem_filter.mp
    rw [← Rule.live, split]
    exact List.mem_append_right earlier member
  obtain ⟨member, starts⟩ := live rule List.mem_cons_self
  have table := Rule.live_after_front (state.mode setting)
    (Rule.mem_frontHeads member isFront starts)
  rw [split, List.pairwise_append, List.pairwise_cons] at table
  rw [choice?_live rules ahead, after]
  apply choose_eq_none full
  · intro other inside
    rw [rules]
    exact (live other (List.mem_cons_of_mem rule inside)).1
  · intro other inside
    obtain ⟨otherFront, closesNothing⟩ := table.2.1.1 other inside isFront inert
    exact ⟨otherFront, fun found => Frame.pairing?_of_closes_eq_nil closesNothing _ _⟩

/-- No rule takes the second character of a mark that is refused, once the first was gone past. -/
theorem choice?_eq_none_after_refused {c : Char} {rest : Text} {later : State}
    (rules : setting.rules = Rule.ofMode) (ahead : state.rest = c :: rest)
    (refused : kind ∈ (state.choose setting (setting.rules (state.mode setting))).1)
    (double : kind.inertLength = 2) (laterAhead : later.rest = rest)
    (frames : later.frames = state.frames) :
    later.rest ≠ [] ∧ later.choice? setting = none := by
  have mode : later.mode setting = state.mode setting := by
    rw [State.mode, State.mode, frames]
  rw [rules] at refused
  obtain ⟨earlier, rule, others, split, rfl, judged, _⟩ := exists_of_refused refused
  obtain ⟨isFront, full, found, success, unpaired⟩ := judge_refuse judged
  have member : rule ∈ Rule.ofMode (state.mode setting) := by
    rw [split]
    simp
  obtain ⟨d, pattern, lexeme, live⟩ := Rule.live_double member isFront double
  rw [pattern, ahead] at success
  obtain ⟨splits, text⟩ := Pattern.find?_plain success
  have whole := splits.remaining_eq
  rw [text] at whole
  obtain ⟨_, rfl⟩ := List.cons_eq_cons.mp whole
  refine ⟨by simp [laterAhead], ?_⟩
  rw [choice?_live rules laterAhead, mode, live]
  apply choose_eq_none (by rw [frames]; exact full)
  · rw [List.forall_mem_singleton, rules, mode]
    exact member
  · rw [List.forall_mem_singleton, frames, lexeme]
    rw [lexeme] at unpaired
    exact ⟨isFront, fun _ => unpaired⟩

theorem mem_add_events_iff {token : Token} {event : Event} (limit : event.isLimit = true) :
    event ∈ (state.add setting choice token).events ↔ event ∈ state.events := by
  have notClosed : ∀ front frontStart back backStart pair,
      event ≠ .closed front frontStart back backStart pair := by
    rintro _ _ _ _ _ rfl
    contradiction
  have notDemoted : ∀ frame : Frame, frame.demotion ≠ event := by
    rintro _ rfl
    contradiction
  have notOpened : ∀ kind start, event ≠ .opened kind start := by
    rintro _ _ rfl
    contradiction
  unfold add
  split
  · simp [close, notClosed, notDemoted]
  · split
    · simp [notOpened]
    · rfl

theorem mem_makeToken_events_iff {lexeme : Lexeme} {start : Nat} {text : Text} {event : Event} :
    event ∈ (makeToken setting rule lexeme start text).2 ↔
      ∃ span, lexeme.inner = some span ∧ setting.fold = true ∧
        event ∈ (readInner setting rule (start + span.start) (text.slice span)).events := by
  unfold makeToken
  cases lexeme.inner with
  | none => simp
  | some span => by_cases fold : setting.fold = true <;> simp [fold]

/-- An event of the nesting limit is known after a step if it was known before, or comes from the
place of the step or from the inner text of the token that was taken. -/
theorem mem_step_events_iff {event : Event} (limit : event.isLimit = true) :
    event ∈ (state.step setting).events ↔
      event ∈ state.events ∨
        (∃ kind ∈ (state.choose setting (setting.rules (state.mode setting))).1,
          event = .refused kind (setting.offset + state.position)) ∨
        ∃ choice, state.choice? setting = some choice ∧
          ∃ span, choice.lexeme.inner = some span ∧ setting.fold = true ∧
            event ∈ (Scan.readInner setting choice.rule
              (setting.offset + state.position + span.start)
              ((choice.consumed state).slice span)).events := by
  rw [step_eq_noted, ← or_assoc, ← mem_noted_events_iff]
  cases chosen : state.choice? setting with
  | none =>
      have skipped : (state.noted setting).skipChar.events = (state.noted setting).events := by
        unfold skipChar
        split <;> rfl
      simp [skipped]
  | some choice =>
      simp only [accept_eq, Option.some.injEq, exists_eq_left']
      rw [mem_add_events_iff limit, advance_events, List.mem_append,
        mem_makeToken_events_iff, or_comm]
      rfl

end State

/-- The inert characters of all refused fronts lie in texts of what was read. -/
def Outcome.HoldsRefusals (outcome : Outcome) : Prop :=
  ∀ kind offset, .refused kind offset ∈ outcome.events → ∀ i < kind.inertLength,
    InText outcome.tokens (offset + i)

/-- The inert characters of all refused fronts are text at a state, or stand where no rule takes
anything. -/
def State.HoldsRefusals (setting : Setting) (state : State) : Prop :=
  ∀ kind offset, .refused kind offset ∈ state.events → ∀ i < kind.inertLength,
    state.HoldsText setting (offset + i) ∨
      offset + i = setting.offset + state.position ∧ state.rest ≠ [] ∧
        state.choice? setting = none

def Setting.ReadsRefusals (setting : Setting) : Prop :=
  setting.ReadsInto fun _ _ _ outcome => outcome.HoldsRefusals

theorem readInner_holdsRefusals (reads : setting.ReadsRefusals) (rule : Rule) (start : Nat)
    (inner : Text) : (readInner setting rule start inner).HoldsRefusals := by
  apply reads.readInner rule
  intro kind offset noted
  simp at noted

/-- A token with an inner text opens no front and closes none. -/
theorem Choice.Applies.alone_of_marked (applies : choice.Applies setting state)
    (rules : setting.rules = Rule.ofMode) {span : Span} (marked : choice.lexeme.inner = some span) :
    choice.rule.front = false ∧ choice.pairing = none := by
  have member := applies.rule_mem_ofMode rules
  obtain ⟨found, _, lexeme⟩ := applies.found
  have alone : choice.rule.front = false ∧ choice.rule.closes = [] := by
    rcases Rule.inner_eq_none_or member with unmarked | special
    · rw [lexeme, unmarked] at marked
      contradiction
    · generalize choice.rule = rule at special
      fin_cases special <;> exact ⟨rfl, rfl⟩
  refine ⟨alone.1, ?_⟩
  rw [applies.pairing_eq]
  exact Frame.pairing?_of_closes_eq_nil alone.2 _ _

theorem Choice.Applies.holdsRefusals (applies : choice.Applies setting state)
    (rules : setting.rules = Rule.ofMode) (reads : setting.ReadsRefusals) {span : Span}
    (marked : choice.lexeme.inner = some span) (fold : setting.fold = true)
    (noted : .refused kind offset ∈ (readInner setting choice.rule
      (setting.offset + state.position + span.start) ((choice.consumed state).slice span)).events)
    {i : Nat} (inert : i < kind.inertLength) :
    InText (choice.token setting state).children (offset + i) := by
  have marks := applies.marks rules fold marked
  rw [marks.children_eq]
  exact readInner_holdsRefusals reads _ _ _ kind offset noted i inert

namespace State

variable {length : Nat}

theorem HoldsRefusals.step (rules : setting.rules = Rule.ofMode)
    (readsInner : setting.ReadsInner source) (reads : setting.ReadsRefusals)
    (covers : ∃ covered, state.Covers source setting length covered) (ahead : state.rest ≠ [])
    (holds : state.HoldsRefusals setting) : (state.step setting).HoldsRefusals setting := by
  intro kind offset noted i inert
  rcases (mem_step_events_iff rfl).mp noted with
    before | ⟨_, refused, same⟩ | ⟨choice, chosen, span, marked, fold, inner⟩
  · left
    rcases holds kind offset before i inert with text | ⟨here, _, nothing⟩
    · exact ((holdsText_kept rules readsInner).step ⟨covers, text⟩).2
    · rw [here]
      exact holdsText_of_passed ahead nothing
  · obtain ⟨rfl, rfl⟩ := Event.refused.inj same
    obtain ⟨c, rest, next⟩ := List.exists_cons_of_ne_nil ahead
    have nothing := choice?_eq_none_of_refused rules next refused (by omega)
    match i with
    | 0 => exact .inl (holdsText_of_passed ahead nothing)
    | i + 1 =>
        right
        have bounded := kind.inertLength_le
        obtain ⟨events, step⟩ := step_skips next nothing
        rw [step]
        refine ⟨?_, choice?_eq_none_after_refused rules next refused (by omega) rfl rfl⟩
        simp only
        omega
  · left
    left
    have applies := choice?_applies chosen
    have inside := applies.holdsRefusals rules reads marked fold inner inert
    obtain ⟨notFront, alone⟩ := applies.alone_of_marked rules marked
    rw [closedTokens, (step_stands chosen alone notFront).1, List.cons_append, inText_cons]
    exact .inl inside.ofChildren

theorem HoldsRefusals.finish {covered : Nat} (covers : state.Covers source setting length covered)
    (ended : state.rest = []) (holds : state.HoldsRefusals setting) :
    (state.finish setting).HoldsRefusals := by
  intro kind offset noted i inert
  have before : .refused kind offset ∈ state.events := by
    simpa [State.finish, Frame.demotion] using noted
  rcases holds kind offset before i inert with text | ⟨_, ahead, _⟩
  · exact text.finish covers
  · contradiction

end State

/-- A reading holds what was refused in it and in its inner texts. -/
theorem read_holdsRefusals (fold : Bool) (place : Text) (room : Nat) (mode : Mode)
    (beginsLine : Bool) (offset : Nat) (text : Text) :
    (read Rule.ofMode fold place room mode beginsLine offset text).HoldsRefusals := by
  refine read_induction (fun _ _ _ outcome => outcome.HoldsRefusals) ?_ room mode beginsLine offset
    text
  intro room mode beginsLine offset text reads
  obtain ⟨source, stands⟩ := Text.exists_stands offset text
  let setting := readSetting Rule.ofMode fold place room mode beginsLine offset text
  have readsInner : setting.ReadsInner source :=
    readSetting_readsInner source fold place room mode beginsLine offset text
  have stepwise : Stepwise setting fun state =>
      (∃ covered, state.Covers source setting text.length covered) ∧
        state.HoldsRefusals setting := by
    rintro state ⟨covers, holds⟩ ahead
    exact ⟨(covers_kept rfl readsInner).step covers, holds.step rfl readsInner reads covers ahead⟩
  have initial : ∃ covered, (State.initial text).Covers source setting text.length covered :=
    ⟨setting.offset, .initial stands⟩
  have none : (State.initial text).HoldsRefusals setting := by
    intro kind offset noted
    contradiction
  obtain ⟨final, ⟨⟨covered, covers⟩, holds⟩, ended, scanned⟩ := stepwise.scanText ⟨initial, none⟩
  rw [scanned]
  exact holds.finish covers ended

end Scan

namespace Lex

open Token

/-- The inert characters of every front that the limit on nesting refuses lie in texts of the
tree. -/
theorem refused_in_text (options : Options) (source : Text) {kind : Kind} {offset : Nat}
    (refused : .refused kind offset ∈ events options source) {i : Nat}
    (inert : i < kind.inertLength) :
    ∃ token ∈ (lex options source).nodes, token.kind = .text ∧ token.start ≤ offset + i ∧
      offset + i < token.stop := by
  have noted : .refused kind offset ∈ (readAt options 0 0 true source).events :=
    List.mem_reverse.mp refused
  have inText : InText (tokenize options 0 0 true source) (offset + i) :=
    Scan.read_holdsRefusals options.fold options.place _ options.mode true 0 source kind offset
      noted i inert
  obtain ⟨token, below, range⟩ := inText
  refine ⟨token, ?_, range⟩
  rw [nodes_eq]
  exact List.mem_cons_of_mem _ below

theorem refused_underline_in_text :
    .refused (.emphasis .underline) 2 ∈ events { maxDepth := 1 } "*a__b".toList ∧
      1 < Kind.inertLength (.emphasis .underline) ∧
      ∃ token ∈ (lex { maxDepth := 1 } "*a__b".toList).nodes,
        token.kind = .text ∧ token.start ≤ 2 + 1 ∧ 2 + 1 < token.stop := by
  have refused : .refused (.emphasis .underline) 2 ∈ events { maxDepth := 1 } "*a__b".toList := by
    decide
  have inert : 1 < Kind.inertLength (.emphasis .underline) := by decide
  exact ⟨refused, inert, refused_in_text { maxDepth := 1 } "*a__b".toList refused inert⟩

/-- A mark of strong emphasis is split where it is refused: its first half closes an emphasis. -/
theorem refused_strong_closes_emphasis :
    .refused (.emphasis .strong) 2 ∈ events { maxDepth := 1 } "*a**b".toList ∧
      ¬∃ token ∈ (lex { maxDepth := 1 } "*a**b".toList).nodes,
        token.kind = .text ∧ token.start ≤ 2 ∧ 2 < token.stop := by
  decide +kernel

end Lex

end PassageMarkup
