import PassageMarkup.Proofs.Scan.FrontStack
import PassageMarkup.Proofs.Scan.Lasting
import PassageMarkup.Proofs.Token.Literal

/-!
# String literals

Inside a string a scan goes past its content character by character and escape pair by escape pair,
until it comes to the quote or to the end of the text.  So every string in a tree stands around a
content with its escape pairs, and every quote that opens a string is closed by the next quote that
is not part of an escape pair, or becomes text when there is none.
-/

namespace PassageMarkup

open Scan Token

theorem Rule.eq_stringOpener {mode : Mode} {rule : Rule} {quote : Quote}
    (member : rule ∈ ofMode mode) (opener : rule.kind = .stringOpener quote) :
    rule = stringOpener quote := by
  cases mode <;> fin_cases member
  all_goals first
    | contradiction
    | (cases opener; rfl)

theorem Rule.kind_ne_string {mode : Mode} {rule : Rule} (member : rule ∈ ofMode mode) :
    rule.kind ≠ .string := by
  have table : ∀ rule ∈ ofMode mode, rule.kind ≠ .string := by
    cases mode <;> decide
  exact table rule member

theorem Opens.of_stringOpener {quote : Quote} {arity : Nat} {name : Option Text} {text : Text}
    (opens : Opens (.stringOpener quote) arity name text) :
    arity = 0 ∧ name = none ∧ text = [quote.mark] := by
  cases opens
  exact ⟨rfl, rfl, Rule.quoteText_eq quote⟩

theorem Closes.of_string {back front : Kind} {arity : Nat} {name : Option Text} {text : Text}
    (closes : Closes back front .string arity name text) :
    ∃ quote, back = .stringCloser quote ∧ front = .stringOpener quote ∧ text = [quote.mark] := by
  cases closes
  exact ⟨_, rfl, rfl, Rule.quoteText_eq _⟩

namespace Scan

variable {setting : Setting} {state : State} {quote : Quote} {frame : Frame} {outer : List Frame}
  {place : Text} {outside : Mode} {tail : Text} {c : Char}

theorem Frame.Stacked.opensString (stacked : Frame.Stacked place outside (frame :: outer))
    (opener : frame.front.kind = .stringOpener quote) :
    frame.OpensString quote ∧ frame.arity = 0 ∧
      ∃ start, frame.front = .delimiter (.stringOpener quote) start [quote.mark] place none := by
  cases stacked with
  | cons _ opened _ =>
      have kind := opened.kind_eq.symm.trans opener
      obtain ⟨name, text, start, front, opens⟩ := opened.front_eq
      rw [kind] at front opens
      obtain ⟨arity, rfl, rfl⟩ := opens.of_stringOpener
      exact ⟨⟨Rule.eq_stringOpener opened.rule_mem kind, opener⟩, arity, start, front⟩

namespace State

theorem step_plain (rules : setting.rules = Rule.ofMode) (frames : state.frames = frame :: outer)
    (opens : frame.OpensString quote) (ordinary : quote.isSpecial c = false)
    (ahead : state.rest = c :: tail) :
    ∃ events, state.step setting =
      ⟨tail, state.position + 1, c :: state.pending, state.siblings, state.frames, events⟩ :=
  step_skips ahead (choice?_eq_none_in_string rules ahead ordinary frames opens)

theorem step_escape (rules : setting.rules = Rule.ofMode) (frames : state.frames = frame :: outer)
    (opens : frame.OpensString quote) (ahead : state.rest = '\\' :: c :: tail) :
    ∃ events, state.step setting =
      ⟨tail, state.position + 2, [],
        .leaf .escapedStringChar (setting.offset + state.position) ['\\', c] setting.place ::
          (state.flush setting).siblings, state.frames, events⟩ :=
  step_adds rules (mode_in_string frames opens) ahead (reads_escapedStringChar c) rfl rfl

theorem step_quote (rules : setting.rules = Rule.ofMode) (fold : setting.fold = true)
    (frames : state.frames = frame :: outer) (opens : frame.OpensString quote)
    (arity : frame.arity = 0) (ahead : state.rest = quote.mark :: tail) :
    ∃ events, state.step setting =
      ⟨tail, state.position + 1, [],
        foldPair .string frame.front (Token.coalesce (state.flush setting).siblings.reverse)
          (.delimiter (.stringCloser quote) (setting.offset + state.position) [quote.mark]
            setting.place none) ::
          frame.before, outer, events⟩ := by
  have resolves : (Rule.stringCloser quote).resolves frame.front.kind frame.rule.aka frame.arity 0 =
      some .string := by
    rw [opens.kind_eq, arity]
    cases quote <;> rfl
  exact step_closes rules fold (mode_in_string frames opens) ahead (reads_closingQuote quote) frames
    resolves

/-- A backslash at the end of the text protects nothing and is left to be text. -/
theorem step_lastBackslash (rules : setting.rules = Rule.ofMode)
    (frames : state.frames = frame :: outer) (opens : frame.OpensString quote)
    (ahead : state.rest = ['\\']) :
    ∃ events, state.step setting =
      ⟨[], state.position + 1, '\\' :: state.pending, state.siblings, state.frames, events⟩ := by
  apply step_skips ahead
  apply choice?_eq_none rules
  rw [mode_in_string frames opens]
  intro rule member
  apply judge_eq_skip
  rw [ahead]
  fin_cases member <;> rfl

end State

/-- A state inside a string: the tokens after the front and the pending text stand for its content
so far. -/
structure State.InLiteral (setting : Setting) (quote : Quote) (frame : Frame) (state : State) :
    Prop where
  spelled : Spelled quote setting.place frame.front.stop state.siblings.reverse
  ordinary : ∀ c ∈ state.pending, quote.isSpecial c = false
  offset_le : setting.offset ≤ frame.front.stop
  position_eq : setting.offset + state.position =
    frame.front.stop + (textOf state.siblings.reverse).length + state.pending.length

/-- Inside a string the tokens after its front stand for its content, up to the end of the text. -/
def State.ReadsLiterals (setting : Setting) (state : State) : Prop :=
  ∀ frame outer quote, state.frames = frame :: outer → frame.front.kind = .stringOpener quote →
    state.rest = [] ∨ state.InLiteral setting quote frame

namespace State

theorem InLiteral.flush (inside : state.InLiteral setting quote frame) :
    Spelled quote setting.place frame.front.stop (state.flush setting).siblings.reverse ∧
      setting.offset + state.position =
        frame.front.stop + (textOf (state.flush setting).siblings.reverse).length := by
  have spelled := inside.spelled
  have offset := inside.offset_le
  have position := inside.position_eq
  unfold State.flush
  split
  · rename_i empty
    rw [List.isEmpty_iff.mp empty] at position
    exact ⟨spelled, position⟩
  · have start : setting.offset + (state.position - state.pending.length) =
        frame.front.stop + (textOf state.siblings.reverse).length := by omega
    simp only [List.reverse_cons, start]
    constructor
    · exact spelled.append (.text (by simpa using inside.ordinary) .nil)
    · rw [textOf, List.flatMap_append, List.length_append, ← textOf]
      simpa [leaf, Nat.add_assoc] using position

theorem InLiteral.plain {events : List Event} (inside : state.InLiteral setting quote frame)
    (ordinary : quote.isSpecial c = false) :
    State.InLiteral setting quote frame
      ⟨tail, state.position + 1, c :: state.pending, state.siblings, state.frames, events⟩ := by
  have position := inside.position_eq
  refine ⟨inside.spelled, List.forall_mem_cons.mpr ⟨ordinary, inside.ordinary⟩,
    inside.offset_le, ?_⟩
  simp only [List.length_cons]
  omega

theorem InLiteral.escape {events : List Event} (inside : state.InLiteral setting quote frame)
    (c : Char) :
    State.InLiteral setting quote frame
      ⟨tail, state.position + 2, [],
        .leaf .escapedStringChar (setting.offset + state.position) ['\\', c] setting.place ::
          (state.flush setting).siblings, state.frames, events⟩ := by
  obtain ⟨spelled, reached⟩ := inside.flush
  refine ⟨?_, by simp, inside.offset_le, ?_⟩
  · simp only [List.reverse_cons, reached]
    exact spelled.append (.escape c .nil)
  · simp only [List.reverse_cons, textOf, List.flatMap_append, List.length_append]
    rw [← Nat.add_assoc, reached]
    simp [textOf, leaf]
    omega

/-- A step inside a string goes on in it, closes it, or comes to the end of the text. -/
theorem InLiteral.step (rules : setting.rules = Rule.ofMode) (fold : setting.fold = true)
    (frames : state.frames = frame :: outer) (opens : frame.OpensString quote)
    (arity : frame.arity = 0) (ahead : state.rest ≠ [])
    (inside : state.InLiteral setting quote frame) :
    (state.step setting).rest = [] ∨ (state.step setting).frames = outer ∨
      (state.step setting).InLiteral setting quote frame := by
  obtain ⟨c, tail, next⟩ := List.exists_cons_of_ne_nil ahead
  cases special : quote.isSpecial c with
  | false =>
      obtain ⟨events, step⟩ := step_plain rules frames opens special next
      rw [step]
      exact .inr (.inr (inside.plain special))
  | true =>
      rcases Quote.isSpecial_iff.mp special with rfl | rfl
      · cases tail with
        | nil =>
            obtain ⟨events, step⟩ := step_lastBackslash rules frames opens next
            rw [step]
            exact .inl rfl
        | cons d tail =>
            obtain ⟨events, step⟩ := step_escape rules frames opens next
            rw [step]
            exact .inr (.inr (inside.escape d))
      · obtain ⟨events, step⟩ := step_quote rules fold frames opens arity next
        rw [step]
        exact .inr (.inl rfl)

theorem inLiteral_of_opened {choice : Choice} (chosen : state.choice? setting = some choice)
    (unpaired : choice.pairing = none) (isFront : choice.rule.front = true) :
    (state.step setting).InLiteral setting quote (choice.frame setting state) := by
  have length := (choice?_applies chosen).length_consumed
  have stop : (choice.frame setting state).front.stop =
      setting.offset + state.position + choice.lexeme.length := by
    rw [Choice.frame, choice.token_stop, length]
  obtain ⟨events, step⟩ := step_of_some chosen
  rw [step, add, unpaired]
  simp only [isFront, if_true, advance]
  refine ⟨.nil, by simp, by omega, ?_⟩
  simp only [stop, flush_pending, List.reverse_nil, List.length_nil, textOf, List.flatMap_nil]
  omega

theorem readsLiterals_stepwise (rules : setting.rules = Rule.ofMode) (fold : setting.fold = true) :
    Stepwise setting fun state => state.Stacked setting ∧ state.ReadsLiterals setting := by
  rintro state ⟨stacked, reads⟩ ahead
  have stackedAfter := (stacked_kept rules).step stacked
  refine ⟨stackedAfter, ?_⟩
  intro frame outer quote frames opener
  have stays (same : (state.step setting).frames = state.frames) :
      (state.step setting).rest = [] ∨ (state.step setting).InLiteral setting quote frame := by
    rw [frames] at same
    unfold State.Stacked at stacked
    rw [← same] at stacked
    obtain ⟨opens, arity, _⟩ := stacked.opensString opener
    rcases reads frame outer quote same.symm opener with ended | inside
    · contradiction
    · rcases inside.step rules fold same.symm opens arity ahead with ended | closed | inside
      · exact .inl ended
      · rw [closed] at frames
        exact absurd frames List.ne_cons_self
      · exact .inr inside
  cases chosen : state.choice? setting with
  | none => exact stays (step_passes chosen).2
  | some choice =>
      cases paired : choice.pairing with
      | some pairing =>
          -- a string is the innermost front, so closing a pair leaves none open
          have outside := (step_folds fold chosen paired).2
          have pairs := ((choice?_applies chosen).pairs paired).frames_eq
          rw [← outside, frames, List.append_cons] at pairs
          unfold State.Stacked at stacked
          rw [pairs] at stacked
          exact absurd (stacked.inner_eq_nil opener) (by simp)
      | none =>
          by_cases isFront : choice.rule.front = true
          · have opened := (step_opens_front chosen paired isFront).2
            rw [frames] at opened
            obtain ⟨rfl, _⟩ := List.cons_eq_cons.mp opened
            exact .inr (inLiteral_of_opened chosen paired isFront)
          · exact stays (step_stands chosen paired (by simpa using isFront)).2

end State

namespace Choice.Applies

variable {choice : Choice} {pairing : Pairing}

theorem closes_string (applies : choice.Applies setting state)
    (rules : setting.rules = Rule.ofMode) (paired : choice.pairing = some pairing)
    (stacked : state.Stacked setting) (isString : pairing.kind = .string) :
    ∃ quote start, state.frames = pairing.frame :: pairing.outer ∧ pairing.abandoned = [] ∧
      pairing.frame.front =
        .delimiter (.stringOpener quote) start [quote.mark] setting.place none ∧
      (choice.token setting state).text = [quote.mark] := by
  have pairs := applies.pairs paired
  have whole := stacked
  unfold State.Stacked at whole
  rw [pairs.frames_eq] at whole
  obtain ⟨quote, back, front, text⟩ : ∃ quote, choice.rule.kind = .stringCloser quote ∧
      pairing.frame.front.kind = .stringOpener quote ∧
        (choice.token setting state).text = [quote.mark] := by
    cases whole.of_append with
    | cons _ opened _ =>
        obtain ⟨name, closesBack⟩ :=
          applies.closes_text rules paired opened.rule_mem opened.kind_eq
        rw [isString] at closesBack
        exact closesBack.of_string
  have top := applies.closes_top rules stacked paired (by rw [back]; rfl)
  have frames := pairs.frames_eq
  rw [top, List.nil_append] at frames whole
  obtain ⟨_, _, start, opener⟩ := whole.opensString front
  exact ⟨quote, start, frames, top, opener, text⟩

/-- A pair that becomes a string is a literal. -/
theorem pair_literal (applies : choice.Applies setting state) (rules : setting.rules = Rule.ofMode)
    (paired : choice.pairing = some pairing) (stacked : state.Stacked setting)
    (reads : state.ReadsLiterals setting) (isString : pairing.kind = .string) :
    ∃ quote, Literal quote (foldPair pairing.kind pairing.frame.front
      (pairing.children (state.flush setting).siblings) (choice.token setting state)) := by
  obtain ⟨quote, start, frames, top, front, text⟩ :=
    applies.closes_string rules paired stacked isString
  have opener : pairing.frame.front.kind = .stringOpener quote := by
    rw [front]
    rfl
  have inside : state.InLiteral setting quote pairing.frame :=
    (reads _ _ quote frames opener).resolve_left applies.rest_ne_nil
  have children : pairing.children (state.flush setting).siblings =
      Token.coalesce (state.flush setting).siblings.reverse := by
    rw [Pairing.children, top]
    rfl
  rw [children]
  exact ⟨quote, inside.flush.1.coalesce.literal front text⟩

end Choice.Applies

theorem literal_makes (rules : setting.rules = Rule.ofMode) (fold : setting.fold = true)
    (reads : setting.Reads
      (Everywhere fun token => token.kind = .string → ∃ quote, token.Literal quote)) :
    Makes setting (fun state => state.Stacked setting ∧ state.ReadsLiterals setting)
      (Everywhere fun token => token.kind = .string → ∃ quote, token.Literal quote) := by
  have notText : ∀ token : Token, token.kind = .text → token.children = [] →
      token.kind = .string → ∃ quote, token.Literal quote := by
    intro token isText _ isString
    rw [isText] at isString
    contradiction
  apply Makes.everywhere rules reads (State.readsLiterals_stepwise rules fold) (.of_plain notText)
  · exact fun _ _ _ => notText _ rfl rfl
  · intro state choice applies _ isString
    rw [choice.token_kind] at isString
    exact absurd isString (Rule.kind_ne_string (applies.rule_mem_ofMode rules))
  · exact fun _ _ _ applies paired known _ _ _ isString =>
      applies.pair_literal rules paired known.1 known.2 isString

theorem read_literal (place : Text) (room : Nat) (mode : Mode) (beginsLine : Bool) (offset : Nat)
    (text : Text) :
    ∀ token ∈ (read Rule.ofMode true place room mode beginsLine offset text).tokens,
      token.Everywhere fun token => token.kind = .string → ∃ quote, token.Literal quote := by
  apply read_induction (fun _ _ _ outcome => ∀ token ∈ outcome.tokens,
    token.Everywhere fun token => token.kind = .string → ∃ quote, token.Literal quote)
  intro room mode beginsLine offset text reads
  apply (literal_makes rfl rfl reads).scanText
  exact ⟨.nil, fun _ _ _ frames => by contradiction⟩

theorem Choice.Applies.opens_string {choice : Choice} (applies : choice.Applies setting state)
    (rules : setting.rules = Rule.ofMode) (opener : choice.rule.kind = .stringOpener quote) :
    choice.rule = Rule.stringOpener quote ∧ choice.pairing = none ∧
      state.frames.length < setting.room := by
  have rule := Rule.eq_stringOpener (applies.rule_mem_ofMode rules) opener
  have unpaired : choice.pairing = none := by
    rw [applies.pairing_eq, rule]
    exact Frame.pairing?_of_closes_eq_nil rfl _ _
  refine ⟨rule, unpaired, ?_⟩
  rcases applies.unpaired unpaired with ⟨_, bounded⟩ | ⟨notFront, _⟩
  · exact bounded
  · rw [rule] at notFront
    contradiction

end Scan

namespace Reading

variable {options : Options} {reading : Reading} {state : State} {choice : Choice} {quote : Quote}
  {frame : Frame} {outer : List Frame} {content tail : Text}

/-- A reading goes through the content of a string. -/
theorem Passes.exists_through (passes : reading.Passes options state)
    (frames : state.frames = frame :: outer) (opens : frame.OpensString quote)
    (fits : quote.Content content) (ahead : state.rest = content ++ tail) :
    ∃ later, reading.Passes options later ∧ later.rest = tail ∧
      later.position = state.position + content.length ∧ later.frames = state.frames := by
  have rules : (reading.setting options).rules = Rule.ofMode := rfl
  induction fits generalizing state with
  | nil => exact ⟨state, passes, ahead, rfl, rfl⟩
  | @plain c rest ordinary _ induction =>
      obtain ⟨events, step⟩ := State.step_plain rules frames opens ordinary ahead
      have next := passes.step (by simp [ahead])
      rw [step] at next
      obtain ⟨later, passesLater, rest, position, same⟩ := induction next frames rfl
      refine ⟨later, passesLater, rest, ?_, same⟩
      rw [position, List.length_cons, Nat.add_assoc, Nat.add_comm 1]
  | @escape rest c _ induction =>
      obtain ⟨events, step⟩ := State.step_escape rules frames opens ahead
      have next := passes.step (by simp [ahead])
      rw [step] at next
      obtain ⟨later, passesLater, rest, position, same⟩ := induction next frames rfl
      refine ⟨later, passesLater, rest, ?_, same⟩
      rw [position, List.length_cons, List.length_cons, Nat.add_assoc, Nat.add_comm 2]

/-- A state right after a quote opened a string. -/
structure Unclosed (options : Options) (reading : Reading) (quote : Quote) (state : State)
    (start : Nat) (frame : Frame) (outer : List Frame) : Prop where
  passes : reading.Passes options state
  frames_eq : state.frames = frame :: outer
  opens : frame.OpensString quote
  arity_eq : frame.arity = 0
  front_eq : frame.front = .delimiter (.stringOpener quote) start [quote.mark] options.place none
  position_eq : reading.offset + state.position = start + 1

theorem Passes.exists_unclosed (passes : reading.Passes options state)
    (chosen : state.choice? (reading.setting options) = some choice)
    (opener : choice.rule.kind = .stringOpener quote) :
    ∃ after frame outer, state.rest = quote.mark :: after ∧
      (state.step (reading.setting options)).rest = after ∧
        reading.Unclosed options quote (state.step (reading.setting options))
          (reading.offset + state.position) frame outer := by
  have applies := State.choice?_applies chosen
  obtain ⟨rule, unpaired, _⟩ := applies.opens_string rfl opener
  obtain ⟨found, success, lexeme⟩ := applies.found
  rw [rule] at success lexeme
  obtain ⟨splits, text⟩ := Pattern.find?_plain success
  rw [Rule.quoteText_eq] at text
  have ahead := splits.remaining_eq
  rw [text] at ahead
  have length : choice.lexeme.length = 1 := by
    rw [lexeme]
    exact congrArg List.length text
  have isFront : choice.rule.front = true := by
    rw [rule]
    rfl
  obtain ⟨name, written, front, opens⟩ := applies.token_front rfl isFront
  rw [opener] at front opens
  obtain ⟨arity, rfl, rfl⟩ := opens.of_stringOpener
  refine ⟨found.following, choice.frame (reading.setting options) state, state.frames, ahead, ?_,
    passes.step (by simp [ahead]), (State.step_opens_front chosen unpaired isFront).2,
    ⟨rule, (choice.token_kind _ _).trans opener⟩, arity, front, ?_⟩
  · rw [State.step_rest_of_some chosen, length, ahead]
    rfl
  · rw [State.step_position_of_some chosen, length, Nat.add_assoc]

/-- A string whose content is followed by its quote becomes a token of the reading. -/
theorem Unclosed.exists_string {start : Nat}
    (unclosed : reading.Unclosed options quote state start frame outer)
    (fold : options.fold = true) (fits : quote.Content content)
    (ahead : state.rest = content ++ quote.mark :: tail) :
    ∃ token ∈ nodesList (reading.outcome options).tokens, token.kind = .string ∧
      token.text.head? = some quote.mark ∧ token.start = start ∧
        token.stop = start + content.length + 2 := by
  obtain ⟨later, passes, next, position, frames⟩ :=
    unclosed.passes.exists_through unclosed.frames_eq unclosed.opens fits ahead
  rw [unclosed.frames_eq] at frames
  have folds : (reading.setting options).fold = true := fold
  obtain ⟨events, step⟩ :=
    State.step_quote rfl folds frames unclosed.opens unclosed.arity_eq next
  have closed := passes.step (by simp [next])
  rw [step] at closed
  refine ⟨_, closed.mem_outcome (mem_nodesList_of_mem (.head _)) (by simp), rfl, ?_, ?_, ?_⟩
  · simp only [foldPair, unclosed.front_eq]
    rfl
  · simp only [foldPair, unclosed.front_eq]
    rfl
  · have offset : (reading.setting options).offset = reading.offset := rfl
    have reached := unclosed.position_eq
    simp only [foldPair, Token.delimiter, leaf, offset, List.length_singleton, position]
    omega

theorem Unclosed.exists_ended {start : Nat}
    (unclosed : reading.Unclosed options quote state start frame outer)
    (noEnd : ∀ content tail, quote.Content content → state.rest ≠ content ++ quote.mark :: tail) :
    ∃ final, reading.Passes options final ∧ final.rest = [] ∧ final.frames = frame :: outer := by
  obtain ⟨content, fits, ends⟩ := quote.exists_content state.rest
  rcases ends with ahead | ahead | ⟨tail, ahead⟩
  · obtain ⟨later, passes, next, _, frames⟩ := unclosed.passes.exists_through
      unclosed.frames_eq unclosed.opens fits (ahead.trans (List.append_nil content).symm)
    exact ⟨later, passes, next, frames.trans unclosed.frames_eq⟩
  · obtain ⟨later, passes, next, _, frames⟩ :=
      unclosed.passes.exists_through unclosed.frames_eq unclosed.opens fits ahead
    rw [unclosed.frames_eq] at frames
    have rules : (reading.setting options).rules = Rule.ofMode := rfl
    obtain ⟨events, step⟩ := State.step_lastBackslash rules frames unclosed.opens next
    have last := passes.step (by simp [next])
    rw [step] at last
    exact ⟨_, last, rfl, frames⟩
  · exact absurd ahead (noEnd content tail fits)

/-- A quote with no other one to close its string is text. -/
theorem Unclosed.inText {start : Nat}
    (unclosed : reading.Unclosed options quote state start frame outer)
    (noEnd : ∀ content tail, quote.Content content → state.rest ≠ content ++ quote.mark :: tail) :
    InText (reading.outcome options).tokens start := by
  obtain ⟨final, passes, ended, frames⟩ := unclosed.exists_ended noEnd
  have stop : frame.front.stop = frame.front.start + 1 := by
    rw [unclosed.front_eq]
    rfl
  have begins : frame.front.start = start := by
    rw [unclosed.front_eq]
    rfl
  apply passes.somewhere_ended (fun source => inText_lasting source start) ended
  refine ⟨frame.front.demote, mem_nodesList_of_mem ?_, rfl, ?_, ?_⟩
  · rw [State.flush_frames, frames, List.mem_append, Frame.mem_demotedTokens_cons]
    exact .inr (.inl rfl)
  · exact Nat.le_of_eq begins
  · change start < frame.front.stop
    omega

end Reading

namespace Lex

variable {options : Options} {source : Text} {reading : Reading} {state : State} {choice : Choice}
  {quote : Quote}

theorem everywhere_literal (fold : options.fold = true) :
    (lex options source).Everywhere fun token =>
      token.kind = .string → ∃ quote, token.Literal quote := by
  obtain ⟨place, mode, folds, maxDepth⟩ := options
  obtain rfl : folds = true := fold
  rw [Token.everywhere_iff]
  exact ⟨fun isString => by contradiction, read_literal place maxDepth mode true 0 source⟩

theorem nodesList_subset_of_opener (fold : options.fold = true)
    (reached : Relation.ReflTransGen (Reading.Meets options) (.ofPassage options source) reading)
    (chosen : state.choice? (reading.setting options) = some choice)
    (opener : choice.rule.kind = .stringOpener quote) :
    nodesList (reading.outcome options).tokens ⊆ (lex options source).nodes := by
  obtain ⟨_, _, room⟩ := (State.choice?_applies chosen).opens_string rfl opener
  have within : reading.depth < options.maxDepth := by
    have limit : (reading.setting options).room = options.maxDepth - reading.depth := rfl
    omega
  rw [Token.nodes_eq]
  exact List.subset_cons_of_subset _
    (Reading.nodesList_subset_of_reached reached fold within)

/-- Every string stands around a content that has its escape pairs for children.  A quote that opens
a string anywhere in a passage is closed by the first quote after it that is not part of an escape
pair, and is text when there is none. -/
theorem strings_exact (options : Options) (source : Text) :
    ((lex { options with fold := true } source).Everywhere fun token =>
      token.kind = .string → ∃ quote, token.Literal quote) ∧
    ∀ reading : Reading,
      Relation.ReflTransGen (Reading.Meets { options with fold := true })
        (.ofPassage { options with fold := true } source) reading →
      ∀ (state : State) (choice : Choice) (quote : Quote),
        reading.Passes { options with fold := true } state →
        state.choice? (reading.setting { options with fold := true }) = some choice →
        choice.rule.kind = .stringOpener quote →
        ∃ after : Text, state.rest = quote.mark :: after ∧
          (∀ content tail : Text, quote.Content content → after = content ++ quote.mark :: tail →
            ∃ token ∈ (lex { options with fold := true } source).nodes,
              token.kind = .string ∧ token.Literal quote ∧
                token.start = reading.offset + state.position ∧
                token.stop = reading.offset + state.position + content.length + 2) ∧
          ((∀ content tail : Text, quote.Content content →
              after ≠ content ++ quote.mark :: tail) →
            ∃ token ∈ (lex { options with fold := true } source).nodes,
              token.kind = .text ∧ token.start ≤ reading.offset + state.position ∧
                reading.offset + state.position < token.stop) := by
  refine ⟨everywhere_literal rfl, ?_⟩
  intro reading reached state choice quote passes chosen opener
  have stands := nodesList_subset_of_opener rfl reached chosen opener
  obtain ⟨after, frame, outer, ahead, next, unclosed⟩ := passes.exists_unclosed chosen opener
  refine ⟨after, ahead, ?_, ?_⟩
  · intro content tail fits ends
    obtain ⟨token, member, isString, begins, start, stop⟩ :=
      unclosed.exists_string rfl fits (next.trans ends)
    obtain ⟨other, literal⟩ := everywhere_literal rfl token (stands member) isString
    obtain rfl := literal.quote_eq begins
    exact ⟨token, stands member, isString, literal, start, stop⟩
  · intro noEnd
    rw [← next] at noEnd
    obtain ⟨token, member, isText, covers⟩ := unclosed.inText noEnd
    exact ⟨token, stands member, isText, covers⟩

theorem strings_with_escaped_quotes_exact :
    (∃ token ∈ (lex { mode := .expression } "'a\\'b'".toList).nodes,
      token.kind = .string ∧ token.Literal .single ∧ token.start = 0 ∧ token.stop = 6) ∧
    ∃ token ∈ (lex { mode := .expression } "\"it's\\\"".toList).nodes,
      token.kind = .text ∧ token.start ≤ 0 ∧ 0 < token.stop := by
  constructor
  · obtain ⟨choice, chosen, opener⟩ : ∃ choice,
        (State.initial "'a\\'b'".toList).choice? ((Reading.ofPassage { mode := .expression }
          "'a\\'b'".toList).setting { mode := .expression }) = some choice ∧
        choice.rule.kind = .stringOpener .single :=
      ⟨⟨Rule.stringOpener .single, _, none⟩, rfl, rfl⟩
    obtain ⟨_, ahead, closed, _⟩ := (strings_exact { mode := .expression } _).2 _ .refl _ choice
      .single .initial chosen opener
    obtain ⟨token, member, isString, literal, start, stop⟩ := closed ['a', '\\', '\'', 'b'] []
      (.plain rfl (.escape '\'' (.plain rfl .nil))) (List.cons.inj ahead).2.symm
    exact ⟨token, member, isString, literal, start, stop⟩
  · obtain ⟨choice, chosen, opener⟩ : ∃ choice,
        (State.initial "\"it's\\\"".toList).choice? ((Reading.ofPassage { mode := .expression }
          "\"it's\\\"".toList).setting { mode := .expression }) = some choice ∧
        choice.rule.kind = .stringOpener .double :=
      ⟨⟨Rule.stringOpener .double, _, none⟩, rfl, rfl⟩
    obtain ⟨after, ahead, _, unclosed⟩ := (strings_exact { mode := .expression } _).2 _ .refl _
      choice .double .initial chosen opener
    have content : Quote.double.Content after := by
      rw [← (List.cons.inj ahead).2]
      exact .plain rfl (.plain rfl (.plain rfl (.plain rfl (.escape '"' .nil))))
    refine unclosed fun first tail fits ends => fits.not_append_mark tail ?_
    rw [← ends]
    exact content

end Lex

end PassageMarkup
